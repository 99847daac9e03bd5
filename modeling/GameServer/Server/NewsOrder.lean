import GameServer.Game.Combat
import GameServer.Game.UniqueWinner
import GameServer.Server.News

/-!
# The order of the news

What the clients are told about one battle comes in order, whatever the threads of the server do
meanwhile: frames do not go back, nobody comes to life or gains points, the result comes last, and
it is the same for everybody (`news_in_order`).
-/

namespace Game

open Infra Relation

variable {ι F : Type}

/-! ## A battle later on -/

/-- Every player is in one piece. -/
def GameState.Sound [Axis F] (st : GameState F) : Prop :=
  ∀ p e, st.players.get p = some e → e.Sound p

/-- The same battle, later on. -/
structure GameState.Since [Axis F] (st st' : GameState F) : Prop where
  frameId : st.frameId ≤ st'.frameId
  keys : st'.players.keys = st.players.keys
  changes : st.Changes st'

section

variable [Axis F] {st st' st'' : GameState F}

namespace GameState

theorem Since.refl (st : GameState F) : st.Since st :=
  ⟨Int.le_refl _, rfl, .refl st⟩

theorem Since.trans (h : st.Since st') (h' : st'.Since st'') : st.Since st'' :=
  ⟨Int.le_trans h.frameId h'.frameId, h'.keys.trans h.keys, h.changes.trans h'.changes⟩

theorem Sound.since (hs : st.Sound) (h : st.Since st') : st'.Sound := by
  intro p e' he'
  have hp := h.changes p
  rw [he'] at hp
  cases he : st.players.get p with
  | none => rw [he] at hp; cases hp
  | some e =>
    rw [he] at hp
    cases hp with
    | some hee => exact (EntityState.sound_changes (hs p e he) hee).1

end GameState

theorem frameId_applyInput (s : GameState F) (input : InputCommand F) :
    (GameRoom.applyInput s input).frameId = s.frameId := by
  unfold GameRoom.applyInput
  split
  · rfl
  · dsimp only
    split <;> rfl

theorem frameId_applyInputs : ∀ (inputs : List (InputCommand F)) (s : GameState F),
    (inputs.foldl GameRoom.applyInput s).frameId = s.frameId
  | [], _ => rfl
  | input :: inputs, s => (frameId_applyInputs inputs _).trans (frameId_applyInput s input)

/-- A section of the battle. -/
theorem GameRoom.since_exec (g : GameRoom F) (sec : GameRoom.Section F) :
    g.state.Since (g.exec sec).state := by
  refine ⟨?_, keys_exec g sec, changes_exec g sec⟩
  cases sec with
  | handleInput input => exact Int.le_refl _
  | popAll => exact Int.le_refl _
  | advance inputs =>
    show g.state.frameId ≤ (g.advance inputs).state.frameId
    unfold advance
    split
    · exact Int.le_refl _
    · rw [checkGameOver_state, frameId_applyInputs]
      exact Int.le_add_one (Int.le_refl _)
  | eliminatePlayer p =>
    show g.state.frameId ≤ (g.eliminatePlayer p).state.frameId
    unfold eliminatePlayer
    split
    · exact Int.le_refl _
    · split
      · exact Int.le_refl _
      · dsimp only
        rw [checkGameOver_state]

theorem GameRoom.sound_start (g : GameRoom F) (ids : List PlayerId) : (g.start ids).state.Sound :=
  sound_spawn ids Axis.zero fun _ _ h => by cases h

end

/-! ## Messages -/

/-- A player in two frames: nobody gains points, and who has none left stays where they are. -/
structure ShownBefore (x x' : PlayerId × F × F × Int) : Prop where
  playerId : x'.1 = x.1
  hp : x'.2.2.2 ≤ x.2.2.2
  dead : x.2.2.2 = 0 → x' = x

/-- The order of two messages about the same battle. -/
def Message.Before : Message F → Message F → Prop
  | .gameStateNotify r frameId players, .gameStateNotify r' frameId' players' =>
    r = r' → frameId ≤ frameId' ∧ List.Forall₂ ShownBefore players players'
  | .gameOverNotify r _ _, .gameStateNotify r' _ _ => r ≠ r'
  | .gameOverNotify r winnerId losers, .gameOverNotify r' winnerId' losers' =>
    r = r' → winnerId' = winnerId ∧ losers' = losers
  | _, _ => True

/-- The battle that the message is about. -/
def Message.battle : Message F → Option RoomId
  | .gameStateNotify r _ _ => some r
  | .gameOverNotify r _ _ => some r
  | _ => none

theorem forall₂_filterMap {α β : Type} {R : β → β → Prop} {f g : α → Option β} :
    ∀ {xs : List α}, (∀ x ∈ xs, Option.Rel R (f x) (g x)) →
      List.Forall₂ R (xs.filterMap f) (xs.filterMap g)
  | [], _ => .nil
  | x :: xs, h => by
    have hrest := forall₂_filterMap fun y hy => h y (List.mem_cons_of_mem x hy)
    have hx := h x List.mem_cons_self
    rw [List.filterMap_cons, List.filterMap_cons]
    generalize f x = a at hx
    generalize g x = b at hx
    cases hx with
    | none => exact hrest
    | some hab => exact .cons hab hrest

section

variable [Axis F] {st st' : GameState F}

theorem shownBefore {p : PlayerId} {e e' : EntityState F} (he : e.Sound p)
    (h : ReflTransGen Change e e') :
    ShownBefore (e.playerId, e.x, e.y, e.hp) (e'.playerId, e'.x, e'.y, e'.hp) := by
  obtain ⟨he', hearlier⟩ := EntityState.sound_changes he h
  refine ⟨he'.playerId.trans he.playerId.symm, hearlier.hp, fun hp => ?_⟩
  have hdead : e.alive = false := by
    rw [← Bool.not_eq_true, he.alive]
    exact fun hpos => absurd hp (ne_of_gt hpos)
  rw [hearlier.dead hdead]

/-- **A later state is reported after an earlier one.** -/
theorem before_buildNotify (r : RoomId) (hs : st.Sound) (h : st.Since st') :
    (Server.buildNotify r st).Before (Server.buildNotify r st') := by
  refine fun _ => ⟨h.frameId, ?_⟩
  rw [h.keys]
  refine forall₂_filterMap fun p _ => ?_
  have hp := h.changes p
  have hsound := hs p
  generalize st.players.get p = x at hp hsound
  generalize st'.players.get p = x' at hp
  cases hp with
  | none => exact .none
  | some hee => exact .some (shownBefore (hsound _ rfl) hee)

end

/-! ## What is on the way -/

/-- The battle that the loop has read for the callback of a room. -/
def LoopPc.captured : LoopPc F → Option (RoomId × GameState F)
  | .arguments r state _ _ _ => state.map (r, ·)
  | .callback r state _ _ _ => some (r, state)
  | .stateNotify r state _ _ _ => some (r, state)
  | _ => none

/-- The rooms of this round whose result has not been announced. -/
def LoopPc.unsettled : LoopPc F → List RoomId
  | .tail _ rooms => rooms
  | pc => pc.rooms

/-- The room whose result has been announced, or is about to be. -/
def LoopPc.closing : LoopPc F → Option RoomId
  | .tail pc _ => some pc.roomId
  | _ => none

namespace Scene

/-- The messages that have been sent, without their receivers. -/
def messages (v : Scene F) : List (Message F) :=
  v.news.map (·.2)

/-- Everything that has been said about the battle of the room was so before `st`. -/
def Told [Axis F] (v : Scene F) (r : RoomId) (st : GameState F) : Prop :=
  ∀ frameId players, .gameStateNotify r frameId players ∈ v.messages →
    ∃ st', st'.Sound ∧ st'.Since st ∧ Server.buildNotify r st' = .gameStateNotify r frameId players

/-- The news are in order, and will be. A battle that has not been registered is unheard of. -/
structure InOrder [Axis F] (v : Scene F) (starts : ι → Option RoomId) (pc : LoopPc F) : Prop where
  order : v.messages.Pairwise Message.Before
  fresh : ∀ r, v.nextRoomId ≤ r → v.state r = .waiting ∧ v.members r = []
  started : ∀ i r, starts i = some r → v.state r ≠ .waiting
  unique : ∀ i j r, starts i = some r → starts j = some r → i = j
  unheard : ∀ r, v.state r = .waiting ∨ (∃ i, starts i = some r) →
    r ∉ v.games ∧ r ∉ pc.rooms ∧ ∀ msg ∈ v.messages, msg.battle ≠ some r
  nodup : pc.rooms.Nodup
  sound : ∀ r, (v.gameHeap r).state.Sound
  told : ∀ r, v.Told r (v.gameHeap r).state
  captured : ∀ r st, pc.captured = some (r, st) →
    v.Told r st ∧ st.Sound ∧ st.Since (v.gameHeap r).state
  ended : ∀ r w losers, .gameOverNotify r w losers ∈ v.messages →
    r ∉ pc.unsettled ∧ (r ∈ v.games → pc.closing = some r)
  announced : ∀ x, pc.announces = some x → ∀ w losers,
    .gameOverNotify x.1 w losers ∈ v.messages → w = x.2.1 ∧ losers = x.2.2

section

variable [Axis F] {v v' : Scene F} {starts : ι → Option RoomId} {pc pc' : LoopPc F} {r : RoomId}
  {st st' : GameState F} {surrenders : RoomId → PlayerId → Prop}

theorem Told.since (h : v.Told r st) (hsince : st.Since st') : v.Told r st' := by
  intro frameId players hmsg
  obtain ⟨st₀, hsound, hst, heq⟩ := h frameId players hmsg
  exact ⟨st₀, hsound, hst.trans hsince, heq⟩

namespace InOrder

/-! ## Other tasks -/

theorem openRoom (h : v.InOrder starts pc) (players : List PlayerId) :
    InOrder { v with
      nextRoomId := v.nextRoomId + 1
      state := Function.update v.state v.nextRoomId .waiting
      members := Function.update v.members v.nextRoomId players
      rooms := insert v.nextRoomId v.rooms } starts pc :=
  have hwait : v.state v.nextRoomId = .waiting := (h.fresh _ (Int.le_refl _)).1
  have hsame : Function.update v.state v.nextRoomId .waiting = v.state := by
    rw [← hwait, Function.update_eq_self]
  { h with
    fresh := fun r hr => by
      have hlt : v.nextRoomId < r := Int.lt_of_add_one_le hr
      dsimp only
      rw [Function.update_of_ne hlt.ne', Function.update_of_ne hlt.ne']
      exact h.fresh r hlt.le
    started := fun i r hi => by
      dsimp only
      rw [hsame]
      exact h.started i r hi
    unheard := fun r => by
      dsimp only
      rw [hsame]
      exact h.unheard r }

/-- Another critical section of a battle. -/
theorem exec (h : v.InOrder starts pc) (r : RoomId) (sec : GameRoom.Section F) :
    InOrder { v with gameHeap := Function.update v.gameHeap r ((v.gameHeap r).exec sec) }
      starts pc :=
  have hsince : ∀ r', (v.gameHeap r').state.Since
      (Function.update v.gameHeap r ((v.gameHeap r).exec sec) r').state := fun r' => by
    by_cases hr : r' = r
    · rw [hr, Function.update_self]
      exact GameRoom.since_exec _ sec
    · rw [Function.update_of_ne hr]
      exact .refl _
  { h with
    sound := fun r' => (h.sound r').since (hsince r')
    told := fun r' => (h.told r').since (hsince r')
    captured := fun r' st hst => by
      obtain ⟨htold, hsound, hst⟩ := h.captured r' st hst
      exact ⟨htold, hsound, hst.trans (hsince r')⟩ }

theorem unregister (h : v.InOrder starts pc) (r : RoomId) :
    InOrder { v with games := v.games.erase r } starts pc :=
  { h with
    unheard := fun r' hr' => by
      obtain ⟨hgames, hrest⟩ := h.unheard r' hr'
      exact ⟨fun hmem => hgames (Finset.mem_of_mem_erase hmem), hrest⟩
    ended := fun r' w losers hmsg => by
      obtain ⟨hunsettled, hclosing⟩ := h.ended r' w losers hmsg
      exact ⟨hunsettled, fun hmem => hclosing (Finset.mem_of_mem_erase hmem)⟩ }

/-- A step of a task that is not about to register a battle. -/
theorem idle (h : v.InOrder starts pc) (hch : v.Change surrenders none v' none) :
    v'.InOrder starts pc := by
  cases hch with
  | stay => exact h
  | openRoom players => exact h.openRoom players
  | eraseRoom r => exact { h with }
  | unregister r => exact h.unregister r
  | exec r sec => exact h.exec r sec

variable [DecidableEq ι] {i : ι}

/-- The players of a room are ready. -/
theorem start (h : v.InOrder starts pc) (hwait : v.state r = .waiting) (hmembers : v.members r ≠ [])
    (hi : starts i = none) :
    InOrder { v with state := Function.update v.state r .playing }
      (Function.update starts i (some r)) pc := by
  have hr : r < v.nextRoomId := not_le.mp fun hle => hmembers (h.fresh r hle).2
  -- Nobody else is about to register this battle.
  have hnobody : ∀ j, starts j ≠ some r := fun j hj => h.started j r hj hwait
  have hother : ∀ j r', Function.update starts i (some r) j = some r' →
      (j = i ∧ r' = r) ∨ (j ≠ i ∧ starts j = some r' ∧ r' ≠ r) := by
    intro j r' hj
    by_cases hji : j = i
    · subst hji
      rw [Function.update_self] at hj
      exact Or.inl ⟨rfl, (Option.some.inj hj).symm⟩
    · rw [Function.update_of_ne hji] at hj
      exact Or.inr ⟨hji, hj, fun heq => hnobody j (heq ▸ hj)⟩
  refine { h with
    fresh := fun r' hr' => ?_
    started := fun j r' hj => ?_
    unique := fun j k r' hj hk => ?_
    unheard := fun r' hr' => ?_ }
  · have hne : r' ≠ r := fun heq => absurd hr (not_lt.mpr (heq ▸ hr'))
    dsimp only
    rw [Function.update_of_ne hne]
    exact h.fresh r' hr'
  · dsimp only
    rcases hother j r' hj with ⟨-, rfl⟩ | ⟨-, hj, hne⟩
    · rw [Function.update_self]
      decide
    · rw [Function.update_of_ne hne]
      exact h.started j r' hj
  · rcases hother j r' hj with ⟨rfl, rfl⟩ | ⟨-, hj, hne⟩
    · rcases hother k r' hk with ⟨rfl, -⟩ | ⟨-, -, hne⟩
      · rfl
      · exact absurd rfl hne
    · rcases hother k r' hk with ⟨-, rfl⟩ | ⟨-, hk, -⟩
      · exact absurd rfl hne
      · exact h.unique j k r' hj hk
  · by_cases hne : r' = r
    · exact hne ▸ h.unheard r (Or.inl hwait)
    · refine h.unheard r' (hr'.imp (fun hw => ?_) fun ⟨j, hj⟩ => ?_)
      · dsimp only at hw
        rwa [Function.update_of_ne hne] at hw
      · rcases hother j r' hj with ⟨-, rfl⟩ | ⟨-, hj, -⟩
        · exact absurd rfl hne
        · exact ⟨j, hj⟩

/-- The battle of a room begins. -/
theorem register (h : v.InOrder starts pc) (hi : starts i = some r) (players : List PlayerId) :
    InOrder { v with
      games := insert r v.games
      gameHeap := Function.update v.gameHeap r (GameRoom.start { roomId := r } players) }
      (Function.update starts i none) pc := by
  obtain ⟨-, hrooms, hmessages⟩ := h.unheard r (Or.inr ⟨i, hi⟩)
  have hothers : ∀ j r', Function.update starts i none j = some r' → starts j = some r' ∧ r' ≠ r := by
    intro j r' hj
    by_cases hji : j = i
    · rw [hji, Function.update_self] at hj
      cases hj
    · rw [Function.update_of_ne hji] at hj
      exact ⟨hj, fun heq => hji (h.unique j i r (heq ▸ hj) hi)⟩
  have hne : ∀ r', v.state r' = .waiting ∨ (∃ j, Function.update starts i none j = some r') →
      r' ≠ r := by
    rintro r' (hw | ⟨j, hj⟩)
    · exact fun heq => h.started i r hi (heq ▸ hw)
    · exact (hothers j r' hj).2
  have hgame : ∀ r', r' ≠ r → Function.update v.gameHeap r
      (GameRoom.start { roomId := r } players) r' = v.gameHeap r' :=
    fun r' hr' => Function.update_of_ne hr' ..
  have hcaptured : ∀ r' st, pc.captured = some (r', st) → r' ≠ r := by
    rintro r' st hst rfl
    refine hrooms ?_
    cases pc with
    | arguments r state gameOver winnerId rooms =>
      cases state <;> cases hst
      exact List.mem_cons_self
    | callback r state gameOver winnerId rooms => cases hst; exact List.mem_cons_self
    | stateNotify r state gameOver winnerId rooms => cases hst; exact List.mem_cons_self
    | _ => cases hst
  refine { h with
    started := fun j r' hj => h.started j r' (hothers j r' hj).1
    unique := fun j k r' hj hk => h.unique j k r' (hothers j r' hj).1 (hothers k r' hk).1
    unheard := fun r' hr' => ?_
    sound := fun r' => ?_
    told := fun r' => ?_
    captured := fun r' st hst => ?_
    ended := fun r' w losers hmsg => ?_ }
  · obtain ⟨hgames, hrest⟩ := h.unheard r' (hr'.imp_right fun ⟨j, hj⟩ => ⟨j, (hothers j r' hj).1⟩)
    refine ⟨fun hmem => ?_, hrest⟩
    rcases Finset.mem_insert.mp hmem with heq | hmem
    · exact hne r' hr' heq
    · exact hgames hmem
  · dsimp only
    by_cases hr' : r' = r
    · rw [hr', Function.update_self]
      exact GameRoom.sound_start _ players
    · rw [hgame r' hr']
      exact h.sound r'
  · by_cases hr' : r' = r
    · exact fun frameId players hmsg => absurd (hr' ▸ rfl) (hmessages _ hmsg)
    · dsimp only
      rw [hgame r' hr']
      exact h.told r'
  · dsimp only
    rw [hgame r' (hcaptured r' st hst)]
    exact h.captured r' st hst
  · obtain ⟨hunsettled, hclosing⟩ := h.ended r' w losers hmsg
    refine ⟨hunsettled, fun hmem => ?_⟩
    rcases Finset.mem_insert.mp hmem with heq | hmem
    · exact absurd (heq ▸ rfl) (hmessages _ hmsg)
    · exact hclosing hmem

/-- **What other tasks do keeps the news in order.** -/
theorem change (h : v.InOrder starts pc) {a : Option RoomId}
    (hch : v.Change surrenders (starts i) v' a) : v'.InOrder (Function.update starts i a) pc := by
  generalize hi : starts i = b at hch
  have hsame : Function.update starts i b = starts := by rw [← hi, Function.update_eq_self]
  cases hch with
  | start r hwait hmembers => exact h.start hwait hmembers hi
  | register r players => exact h.register hi players
  | stay => exact hsame.symm ▸ h
  | openRoom players => exact hsame.symm ▸ h.openRoom players
  | eraseRoom r => exact hsame.symm ▸ { h with }
  | unregister r => exact hsame.symm ▸ h.unregister r
  | exec r sec => exact hsame.symm ▸ h.exec r sec

/-! ## The game loop -/

omit [DecidableEq ι]

/-- The loop goes on, with nothing new in its hands. -/
theorem goto (h : v.InOrder starts pc) (hrooms : pc'.rooms.Sublist pc.rooms)
    (hunsettled : pc'.unsettled ⊆ pc.unsettled)
    (hclosing : ∀ r ∈ v.games, pc.closing = some r → pc'.closing = some r)
    (hcaptured : pc'.captured = none ∨ pc'.captured = pc.captured)
    (hannounces : pc'.announces = none ∨ pc'.announces = pc.announces) :
    v.InOrder starts pc' where
  order := h.order
  fresh := h.fresh
  started := h.started
  unique := h.unique
  unheard r hr := by
    obtain ⟨hgames, hnot, hmessages⟩ := h.unheard r hr
    exact ⟨hgames, fun hmem => hnot (hrooms.subset hmem), hmessages⟩
  nodup := h.nodup.sublist hrooms
  sound := h.sound
  told := h.told
  captured r st hst := by
    rcases hcaptured with hc | hc
    · rw [hc] at hst
      cases hst
    · exact h.captured r st (hc ▸ hst)
  ended r w losers hmsg := by
    obtain ⟨hnot, hc⟩ := h.ended r w losers hmsg
    exact ⟨fun hmem => hnot (hunsettled hmem), fun hmem => hclosing r hmem (hc hmem)⟩
  announced x hx := by
    rcases hannounces with ha | ha
    · rw [ha] at hx
      cases hx
    · exact h.announced x (ha ▸ hx)

/-- Outside the end of the callback, nothing has been announced of a room that is unsettled or
registered. -/
theorem not_announced (h : v.InOrder starts pc) (hclosing : pc.closing = none)
    (hr : r ∈ pc.unsettled ∨ r ∈ v.games) (w : PlayerId) (losers : List PlayerId) :
    .gameOverNotify r w losers ∉ v.messages := by
  intro hmsg
  obtain ⟨hnot, hc⟩ := h.ended r w losers hmsg
  rcases hr with hr | hr
  · exact hnot hr
  · have hc := hc hr
    rw [hclosing] at hc
    cases hc

/-- A round begins. -/
theorem copyRooms (h : v.InOrder starts .copyRooms) {order : List RoomId} (hnodup : order.Nodup)
    (horder : order.toFinset = v.games) : v.InOrder starts (.tick order) := by
  have hmem : ∀ r, r ∈ order ↔ r ∈ v.games := fun r => by rw [← horder, List.mem_toFinset]
  refine { h with
    unheard := fun r hr => ?_
    nodup := hnodup
    captured := nofun
    ended := fun r w losers hmsg => ?_
    announced := nofun }
  · obtain ⟨hgames, -, hmessages⟩ := h.unheard r hr
    exact ⟨hgames, fun hr => hgames ((hmem r).mp hr), hmessages⟩
  · have hnot : r ∉ v.games := fun hr => h.not_announced rfl (Or.inr hr) w losers hmsg
    exact ⟨fun hr => hnot ((hmem r).mp hr), fun hr => absurd hr hnot⟩

/-- An argument of the callback is read. -/
theorem arguments {state state' : Option (GameState F)} {gameOver gameOver' : Option Bool}
    {winnerId winnerId' : Option PlayerId} {rooms : List RoomId}
    (h : v.InOrder starts (.arguments r state gameOver winnerId rooms))
    (hstate : ∀ st ∈ state', st ∈ state ∨ st = (v.gameHeap r).state) :
    v.InOrder starts (.arguments r state' gameOver' winnerId' rooms) := by
  refine { h with captured := fun r' st hst => ?_, announced := nofun }
  obtain ⟨st', hst', heq⟩ := Option.map_eq_some_iff.mp hst
  cases heq
  rcases hstate st hst' with hold | rfl
  · exact h.captured r st (Option.map_eq_some_iff.mpr ⟨st, hold, rfl⟩)
  · exact ⟨h.told r, h.sound r, .refl _⟩

/-- The room of the callback changes its state. -/
theorem setState (h : v.InOrder starts pc) (hr : r ∈ pc.rooms) {state : RoomState}
    (hstate : v.state r ≠ .waiting → state ≠ .waiting) :
    InOrder { v with state := Function.update v.state r state } starts pc := by
  have hstarted : v.state r ≠ .waiting := fun hw => (h.unheard r (Or.inl hw)).2.1 hr
  have hwait : ∀ r', Function.update v.state r state r' = .waiting ↔ v.state r' = .waiting := by
    intro r'
    by_cases hr' : r' = r
    · rw [hr', Function.update_self]
      exact iff_of_false (hstate hstarted) hstarted
    · rw [Function.update_of_ne hr']
  exact { h with
    fresh := fun r' hr' => ⟨(hwait r').mpr (h.fresh r' hr').1, (h.fresh r' hr').2⟩
    started := fun i r' hi => (hwait r').not.mpr (h.started i r' hi)
    unheard := fun r' hr' => h.unheard r' (hr'.imp_left (hwait r').mp) }

/-- The tick callback makes a call for the settlement. -/
theorem call (h : v.InOrder starts pc) (pending : RoomId → Option PendingSettlement)
    (log : List BattleEvent) : InOrder { v with pending := pending, log := log } starts pc :=
  { h with }

/-- The state that the loop has read is sent to the players. -/
theorem stateNotify {gameOver : Bool} {winnerId : PlayerId} {rooms : List RoomId}
    (h : v.InOrder starts (.stateNotify r st gameOver winnerId rooms))
    {sent : List (SessionId × Message F)}
    (hsent : ∀ x ∈ sent, x.2 = Server.buildNotify r st) :
    InOrder { v with news := v.news ++ sent } starts
      (.stateNotify r st gameOver winnerId rooms) := by
  obtain ⟨htold, hsound, hsince⟩ := h.captured r st rfl
  have hmem : ∀ msg, msg ∈ messages { v with news := v.news ++ sent } →
      msg ∈ v.messages ∨ msg = Server.buildNotify r st := by
    intro msg hmsg
    unfold messages at hmsg
    rw [List.map_append] at hmsg
    rcases List.mem_append.mp hmsg with hmsg | hmsg
    · exact Or.inl hmsg
    · obtain ⟨x, hx, rfl⟩ := List.mem_map.mp hmsg
      exact Or.inr (hsent x hx)
  have htold' : ∀ r' st', v.Told r' st' → (r' = r → st.Since st') →
      Told { v with news := v.news ++ sent } r' st' := by
    intro r' st' htold hst frameId players hmsg
    rcases hmem _ hmsg with hmsg | hmsg
    · exact htold frameId players hmsg
    · have hr : r' = r := Option.some.inj (congrArg Message.battle hmsg)
      subst hr
      exact ⟨st, hsound, hst rfl, hmsg.symm⟩
  refine { h with
    order := ?_
    unheard := fun r' hr' => ?_
    told := fun r' => htold' r' _ (h.told r') fun heq => heq ▸ hsince
    captured := fun r' st' hst' => ?_
    ended := fun r' w losers hmsg => ?_
    announced := nofun }
  · unfold messages
    rw [List.map_append, List.pairwise_append]
    refine ⟨h.order, ?_, fun msg hmsg msg' hmsg' => ?_⟩
    · refine List.pairwise_of_forall_mem_list fun msg hmsg msg' hmsg' => ?_
      obtain ⟨x, hx, rfl⟩ := List.mem_map.mp hmsg
      obtain ⟨x', hx', rfl⟩ := List.mem_map.mp hmsg'
      rw [hsent x hx, hsent x' hx']
      exact before_buildNotify r hsound (.refl st)
    · obtain ⟨x, hx, rfl⟩ := List.mem_map.mp hmsg'
      rw [hsent x hx]
      cases msg with
      | gameStateNotify r' frameId players =>
        intro heq
        subst heq
        obtain ⟨st₀, hsound₀, hst₀, heq⟩ := htold frameId players hmsg
        have hbefore := before_buildNotify r' hsound₀ hst₀
        rw [heq] at hbefore
        exact hbefore rfl
      | gameOverNotify r' w losers =>
        rintro rfl
        exact h.not_announced rfl (Or.inl List.mem_cons_self) w losers hmsg
      | _ => trivial
  · obtain ⟨hgames, hrooms, hmessages⟩ := h.unheard r' hr'
    refine ⟨hgames, hrooms, fun msg hmsg heq => ?_⟩
    rcases hmem msg hmsg with hmsg | rfl
    · exact hmessages msg hmsg heq
    · cases heq
      exact hrooms List.mem_cons_self
  · cases hst'
    exact ⟨htold' r st htold fun _ => .refl st, hsound, hsince⟩
  · rcases hmem _ hmsg with hmsg | hmsg
    · exact h.ended r' w losers hmsg
    · cases hmsg

/-- The battle is settled. -/
theorem settled {w : PlayerId} {losers : List PlayerId} {rooms : List RoomId}
    (h : v.InOrder starts (.settleBattle r w losers rooms)) :
    v.InOrder starts (.tail (.announce r w losers) rooms) :=
  { h with
    captured := nofun
    ended := fun r' w' losers' hmsg => by
      obtain ⟨hnot, hc⟩ := h.ended r' w' losers' hmsg
      exact ⟨fun hmem => hnot (List.mem_cons_of_mem _ hmem), fun hmem => absurd (hc hmem) nofun⟩
    announced := fun x hx w' losers' hmsg => by
      cases hx
      exact absurd hmsg (h.not_announced rfl (Or.inl List.mem_cons_self) w' losers') }

/-- The result is told to one player. -/
theorem announce {pc : TailPc} {rooms : List RoomId} {w : PlayerId} {losers : List PlayerId}
    (h : v.InOrder starts (.tail pc rooms))
    (hpc : LoopPc.announces (F := F) (.tail pc rooms) = some (pc.roomId, w, losers))
    (session : SessionId) :
    InOrder { v with news := v.news ++ [(session, .gameOverNotify pc.roomId w losers)] } starts
      (.tail pc rooms) := by
  have hmem : ∀ msg, msg ∈ messages { v with
      news := v.news ++ [(session, .gameOverNotify pc.roomId w losers)] } →
      msg ∈ v.messages ∨ msg = .gameOverNotify pc.roomId w losers := by
    intro msg hmsg
    unfold messages at hmsg
    rw [List.map_append] at hmsg
    exact (List.mem_append.mp hmsg).imp_right List.mem_singleton.mp
  refine { h with
    order := ?_
    unheard := fun r' hr' => ?_
    told := fun r' frameId players hmsg => ?_
    captured := nofun
    ended := fun r' w' losers' hmsg => ?_
    announced := fun x hx w' losers' hmsg => ?_ }
  · unfold messages
    rw [List.map_append, List.pairwise_append]
    refine ⟨h.order, List.pairwise_singleton .., fun msg hmsg msg' hmsg' => ?_⟩
    obtain rfl := List.mem_singleton.mp hmsg'
    cases msg with
    | gameOverNotify r' w' losers' =>
      rintro rfl
      obtain ⟨rfl, rfl⟩ := h.announced _ hpc w' losers' hmsg
      exact ⟨rfl, rfl⟩
    | _ => trivial
  · obtain ⟨hgames, hrooms, hmessages⟩ := h.unheard r' hr'
    refine ⟨hgames, hrooms, fun msg hmsg heq => ?_⟩
    rcases hmem msg hmsg with hmsg | rfl
    · exact hmessages msg hmsg heq
    · cases heq
      exact hrooms List.mem_cons_self
  · rcases hmem _ hmsg with hmsg | hmsg
    · exact h.told r' frameId players hmsg
    · cases hmsg
  · rcases hmem _ hmsg with hmsg | hmsg
    · exact h.ended r' w' losers' hmsg
    · cases hmsg
      exact ⟨(List.nodup_cons.mp h.nodup).1, fun _ => rfl⟩
  · rcases hmem _ hmsg with hmsg | hmsg
    · exact h.announced x hx w' losers' hmsg
    · rw [hpc] at hx
      cases hx
      cases hmsg
      exact ⟨rfl, rfl⟩

end InOrder

end

end Scene

/-! ## Every step of the loop -/

section

variable [Axis F] {s : Server F} {starts : ι → Option RoomId}

open Scene (InOrder)

omit [Axis F] in
theorem Server.scene_gameOverNotify (s : Server F) (session : SessionId) (r : RoomId)
    (w : PlayerId) (losers : List PlayerId) :
    (s.send session (.gameOverNotify r w losers)).scene =
      { s.scene with news := s.scene.news ++ [(session, .gameOverNotify r w losers)] } :=
  congrArg (fun news => { s.scene with news := news }) (List.filter_append ..)

omit [Axis F] in
theorem Server.scene_broadcast_news (s : Server F) (r : RoomId) (msg : Message F) :
    ∃ sent : List (SessionId × Message F), (∀ x ∈ sent, x.2 = msg) ∧
      (s.broadcast r msg).scene = { s.scene with news := s.scene.news ++ sent } := by
  refine ⟨_, fun x hx => ?_, congrArg (fun news => { s.scene with news := news })
    (List.filter_append ..)⟩
  obtain ⟨session, -, rfl⟩ := List.mem_map.mp (List.mem_of_mem_filter hx)
  rfl

omit [Axis F] in
/-- `RemoveRoom` ends with `RemoveGame`. -/
theorem RemovePc.unregistered {pc : RemovePc} (hpc : (pc.next s).2 = none) :
    pc.roomId ∉ (pc.next s).1.gameLoop := by
  cases pc with
  | removeGame r => exact Finset.notMem_erase r s.gameLoop
  | resetSession r todo =>
    cases todo with
    | nil => cases hpc
    | cons p todo =>
      rw [next] at hpc
      split at hpc <;> cases hpc
  | _ => cases hpc

/-- The end of the tick callback. -/
theorem TailPc.inOrder {pc : TailPc} {rooms : List RoomId}
    (h : s.scene.InOrder starts (.tail pc rooms)) :
    (pc.next s).1.scene.InOrder starts
      (((pc.next s).2.map (LoopPc.tail · rooms)).getD (.tick rooms)) := by
  cases pc with
  | announce r w losers =>
    exact (h.call _ _).goto (.refl _) (fun _ => id) (fun _ _ => id) (Or.inl rfl) (Or.inr rfl)
  | notify r w losers todo =>
    cases todo with
    | nil => exact h.goto (.refl _) (fun _ => id) (fun _ _ => id) (Or.inl rfl) (Or.inl rfl)
    | cons p todo =>
      rw [next]
      dsimp only
      split
      · next session _ =>
        rw [Server.scene_gameOverNotify]
        exact (h.announce rfl session).goto (.refl _) (fun _ => id) (fun _ _ => id) (Or.inl rfl)
          (Or.inr rfl)
      · exact h.goto (.refl _) (fun _ => id) (fun _ _ => id) (Or.inl rfl) (Or.inr rfl)
  | close r =>
    rw [next]
    dsimp only
    rw [Server.scene_updateRoom s r (f := Room.close) rfl]
    have hclosed : RoomState.closed ≠ .waiting := by decide
    exact (h.setState List.mem_cons_self fun _ => hclosed).goto (.refl _) (fun _ => id)
      (fun _ _ => id) (Or.inl rfl) (Or.inl rfl)
  | removing pc =>
    have hlog : (s.logRemoval pc).scene.InOrder starts (.tail (.removing pc) rooms) := by
      cases pc with
      | erase r => exact h.call _ _
      | _ => exact h
    have hchange : (s.logRemoval pc).scene.Change (fun _ _ => True) _ _ _ := pc.scene
    have hidle := hlog.idle hchange
    rw [next]
    dsimp only
    cases hpc : (pc.next (s.logRemoval pc)).2 with
    | some pc' =>
      have hroom := RemovePc.roomId_next hpc
      refine hidle.goto ?_ (fun _ => id) (fun r _ hr => ?_) (Or.inl rfl) (Or.inl rfl)
      · show (pc'.roomId :: rooms).Sublist (pc.roomId :: rooms)
        rw [hroom]
      · show some pc'.roomId = some r
        rw [hroom]
        exact hr
    | none =>
      refine hidle.goto (List.sublist_cons_self ..) (fun _ => id) (fun r hmem hr => ?_)
        (Or.inl rfl) (Or.inl rfl)
      obtain rfl : pc.roomId = r := Option.some.inj hr
      exact absurd hmem (RemovePc.unregistered hpc)

omit [Axis F] in
/-- The loop is not about to remove a room. -/
theorem LoopPc.not_closing {pc pc' : LoopPc F} {games : Finset RoomId} (h : pc.closing = none) :
    ∀ r ∈ games, pc.closing = some r → pc'.closing = some r := by
  intro r _ hr
  rw [h] at hr
  cases hr

/-- **What the loop does keeps the news in order.** -/
theorem LoopPc.inOrder {pc : LoopPc F} (h : s.scene.InOrder starts pc)
    (ch : LoopChoice) : (pc.next ch s).1.scene.InOrder starts (pc.next ch s).2 := by
  cases pc with
  | copyRooms =>
    rw [next]
    split
    · next horder => exact h.copyRooms horder.1 horder.2
    · exact h
  | tick rooms =>
    cases rooms with
    | nil =>
      exact h.goto (List.nil_sublist _) (List.nil_subset _) (not_closing rfl) (Or.inl rfl)
        (Or.inl rfl)
    | cons r rooms =>
      exact (h.exec r .popAll).goto (.refl _) (fun _ => id) (not_closing rfl) (Or.inl rfl)
        (Or.inl rfl)
  | advance r inputs rooms =>
    exact (h.exec r (.advance inputs)).goto (.refl _) (fun _ => id) (not_closing rfl)
      (Or.inl rfl) (Or.inl rfl)
  | arguments r state gameOver winnerId rooms =>
    rcases LoopPc.next_arguments ch s r state gameOver winnerId rooms with
      ⟨st, go, w, -, rfl, -, hnext⟩ | ⟨state', gameOver', winnerId', hnext, hstate, -⟩
    · rw [hnext]
      exact h.goto (.refl _) (fun _ => id) (not_closing rfl) (Or.inr rfl) (Or.inl rfl)
    · rw [hnext]
      exact h.arguments hstate
  | callback r state gameOver winnerId rooms =>
    rw [next]
    split
    · next r' hr =>
      obtain rfl := (Server.getRoom_eq_some hr).1
      exact h.goto (.refl _) (fun _ => id) (not_closing rfl) (Or.inr rfl) (Or.inl rfl)
    · exact h.goto (List.sublist_cons_self ..) (List.subset_cons_self ..) (not_closing rfl)
        (Or.inl rfl) (Or.inl rfl)
  | stateNotify r state gameOver winnerId rooms =>
    obtain ⟨sent, hsent, hscene⟩ := s.scene_broadcast_news r (Server.buildNotify r state)
    have hnotify := h.stateNotify hsent
    rw [← hscene] at hnotify
    rw [next]
    cases gameOver with
    | false =>
      exact hnotify.goto (List.sublist_cons_self ..) (List.subset_cons_self ..) (not_closing rfl)
        (Or.inl rfl) (Or.inl rfl)
    | true => exact hnotify.goto (.refl _) (fun _ => id) (not_closing rfl) (Or.inl rfl) (Or.inl rfl)
  | setSettlement r winnerId losers rooms =>
    rw [next]
    dsimp only
    rw [Server.scene_updateRoom s r (f := Room.setSettlement) (Room.playerIds_setSettlement _)]
    exact (h.setState List.mem_cons_self Room.started_setSettlement).goto (.refl _) (fun _ => id)
      (not_closing rfl) (Or.inl rfl) (Or.inl rfl)
  | attempt r winnerId losers rooms =>
    simp only [next]
    split
    · exact (h.call _ _).goto (List.sublist_cons_self ..) (List.subset_cons_self ..)
        (not_closing rfl) (Or.inl rfl) (Or.inl rfl)
    · exact (h.call _ _).goto (.refl _) (fun _ => id) (not_closing rfl) (Or.inl rfl)
        (Or.inl rfl)
  | createBattle r winnerId losers rooms =>
    simp only [next]
    split
    · exact (h.call _ _).goto (.refl _) (fun _ => id) (not_closing rfl) (Or.inl rfl)
        (Or.inl rfl)
    · exact h.goto (.refl _) (fun _ => id) (not_closing rfl) (Or.inl rfl) (Or.inl rfl)
  | settleBattle r winnerId losers rooms =>
    simp only [next]
    split
    · exact h.goto (List.sublist_cons_self ..) (List.subset_cons_self ..) (not_closing rfl)
        (Or.inl rfl) (Or.inl rfl)
    · split
      · exact (h.call _ _).settled
      · exact (h.call _ _).goto (List.sublist_cons_self ..) (List.subset_cons_self ..) (not_closing rfl)
          (Or.inl rfl) (Or.inl rfl)
  | tail pc rooms =>
    have hnext := TailPc.inOrder h
    rw [next]
    split <;> (next heq => rw [heq] at hnext; exact hnext)

end

/-! ## Runs -/

/-- The news are in order, and only the game loop sends any. -/
structure Tasks.InOrder [Axis F] (c : Tasks ι F) : Prop where
  others : ∀ i, (c.threads (some i)).isLoop = false
  news : ∃ pc, c.threads none = .loop pc ∧
    c.shared.scene.InOrder (fun i => (c.threads i).starts) pc

section

variable [Axis F] {c : Tasks ι F}

omit [Axis F] in
/-- A task is seen to start what it starts. -/
theorem Tasks.starts_update [DecidableEq ι] (threads : Option ι → Task F) (i : Option ι)
    (t : Task F) : (fun j => (Function.update threads i t j).starts) =
      Function.update (fun j => (threads j).starts) i t.starts := by
  funext j
  by_cases h : j = i
  · rw [h, Function.update_self, Function.update_self]
  · rw [Function.update_of_ne h, Function.update_of_ne h]

theorem Tasks.InOrder.step [DecidableEq ι] (h : c.InOrder) (e : Option ι × TaskChoice) :
    (c.step e).InOrder := by
  obtain ⟨i, ch⟩ := e
  obtain ⟨pc, hpc, hnews⟩ := h.news
  have hstarts : (fun j => ((c.step (i, ch)).threads j).starts) =
      Function.update (fun j => (c.threads j).starts) i
        (Task.next ch c.shared (c.threads i)).2.starts :=
    Tasks.starts_update c.threads i _
  cases i with
  | none =>
    obtain ⟨hshared, hself, hothers⟩ := Tasks.step_loop hpc ch
    refine ⟨fun i => ?_, _, hself, ?_⟩
    · rw [hothers]
      exact h.others i
    · -- The loop itself starts no battle.
      have hsame : Function.update (fun j => (c.threads j).starts) none
          (Task.next ch c.shared (c.threads none)).2.starts = fun j => (c.threads j).starts := by
        refine Function.update_eq_self_iff.mpr ?_
        rw [hpc]
        rfl
      rw [hstarts, hsame, hshared]
      exact LoopPc.inOrder hnews ch.loop
  | some i =>
    obtain ⟨hchange, hnotLoop⟩ : c.shared.scene.Change (fun _ _ => True) _ _ _ ∧ _ :=
      Task.scene (h.others i) (fun _ _ _ => trivial) ch
    have hloop : (c.step (some i, ch)).threads none = c.threads none :=
      Sys.step_threads_of_ne (Option.some_ne_none i).symm
    refine ⟨fun j => ?_, pc, hloop.trans hpc, ?_⟩
    · rw [Sys.step_threads]
      split
      · exact hnotLoop
      · exact h.others j
    · rw [hstarts]
      exact hnews.change hchange

theorem Tasks.inOrder_init (roomPlayerCount : Int) {tasks : ι → Task F}
    (htasks : ∀ i, (tasks i).Starts) : (init roomPlayerCount tasks).InOrder where
  others i := Task.isLoop_of_starts (htasks i)
  news := by
    have hstarts : ∀ i r, ((init roomPlayerCount tasks).threads i).starts ≠ some r := by
      rintro (_ | i) r h
      · cases h
      · rw [init, Task.starts_of_starts (htasks i)] at h
        cases h
    exact ⟨.copyRooms, rfl, {
      order := List.Pairwise.nil
      fresh := fun _ _ => ⟨rfl, rfl⟩
      started := fun i r h => absurd h (hstarts i r)
      unique := fun i _ r h => absurd h (hstarts i r)
      unheard := fun r _ => ⟨Finset.notMem_empty r, List.not_mem_nil, nofun⟩
      nodup := List.nodup_nil
      sound := nofun
      told := nofun
      captured := nofun
      ended := nofun
      announced := nofun }⟩

omit [Axis F] in
/-- The order of the news is that of all messages. -/
theorem Message.before_of_not_isNews {msg msg' : Message F}
    (h : msg.isNews = false ∨ msg'.isNews = false) : msg.Before msg' := by
  cases msg <;> cases msg' <;> first | trivial | (rcases h with h | h <;> cases h)

/--
**The news of a battle come in order.**

All tasks of the server in any interleaving. Of two messages about the same battle, the later one
has no smaller frame and shows the same players, none of them with more points, and those without
points where they were. After a result there are no frames, and no other result.
-/
theorem news_in_order [DecidableEq ι] (roomPlayerCount : Int) {tasks : ι → Task F}
    (htasks : ∀ i, (tasks i).Starts) (events : List (Option ι × TaskChoice)) :
    AllStates Tasks.step (fun c => (c.shared.out.map (·.2)).Pairwise Message.Before)
      (Tasks.init roomPlayerCount tasks) events := by
  refine AllStates.imp (fun c h => ?_) events
    (AllStates.of_step (fun _ e h => h.step e) events (Tasks.inOrder_init roomPlayerCount htasks))
  obtain ⟨pc, -, hnews⟩ := h.news
  have horder := List.pairwise_map.mp hnews.order
  refine List.pairwise_map.mpr ((List.pairwise_filter.mp horder).imp fun {x x'} hbefore => ?_)
  by_cases hx : x.2.isNews = true
  · by_cases hx' : x'.2.isNews = true
    · exact hbefore hx hx'
    · exact Message.before_of_not_isNews (Or.inr (Bool.not_eq_true _ ▸ hx'))
  · exact Message.before_of_not_isNews (Or.inl (Bool.not_eq_true _ ▸ hx))

end

theorem news_in_order_onePlayer :
    AllStates Tasks.step (fun c => (c.shared.out.map (·.2)).Pairwise Message.Before)
      (Tasks.init 1 onePlayer) tickFirst :=
  news_in_order 1 onePlayer_starts tickFirst

end Game
