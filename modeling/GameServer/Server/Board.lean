import GameServer.Game.Winnable
import GameServer.Server.Threads

/-!
# What a settlement is made of

A view of the server with everything that decides which arguments `SettleBattle` gets: where player
ids come from, who is ready in which room, the battles, and the calls made so far. Every step of
every task but the game loop is one of eight changes of the view (`Change`).

`Fair` is the invariant: only players with positive ids get ready, so only they are in a battle,
each room starts one battle, and the game loop has read results that can be settled.
-/

namespace Game

open Infra

variable {ι F : Type}

/-! ## The view -/

/-- Where player ids come from. -/
structure Ids where
  nextPlayerId : PlayerId
  accounts : String → Option PlayerId
  tokens : PlayerId → Option String
  session : SessionId → PlayerId

/-- Every id that has been given out is positive; a session without a player has 0. -/
structure Ids.Positive (ids : Ids) : Prop where
  next : 0 < ids.nextPlayerId
  account : ∀ account p, ids.accounts account = some p → 0 < p
  token : ∀ p token, ids.tokens p = some token → 0 < p
  session : ∀ session, 0 ≤ ids.session session

/-- The view. -/
structure Board (F : Type) where
  ids : Ids
  nextRoomId : RoomId
  /-- The ready flag of each player of a room. -/
  ready : RoomId → PlayerId → Option Bool
  state : RoomId → RoomState
  games : Finset RoomId
  gameHeap : RoomId → GameRoom F
  log : List BattleEvent

/-- The rooms that the game loop may still tick in this round. -/
def LoopPc.rooms : LoopPc F → List RoomId
  | .copyRooms => []
  | .tick rooms => rooms
  | .advance roomId _ rooms => roomId :: rooms
  | .arguments roomId _ _ _ rooms => roomId :: rooms
  | .callback roomId _ _ _ rooms => roomId :: rooms
  | .stateNotify roomId _ _ _ rooms => roomId :: rooms
  | .setSettlement roomId _ _ rooms => roomId :: rooms
  | .attempt roomId _ _ rooms => roomId :: rooms
  | .createBattle roomId _ _ rooms => roomId :: rooms
  | .settleBattle roomId _ _ rooms => roomId :: rooms
  | .tail pc rooms => pc.roomId :: rooms

/-- The game loop has read `WinnerId` of the room for its callback, and not yet `IsGameOver`. -/
def LoopPc.reading (r : RoomId) : LoopPc F → Bool
  | .arguments roomId _ none (some _) _ => roomId = r
  | _ => false

/-- A call of `SettleBattle` that passes its checks, if it has a battle id. -/
def BattleEvent.Accepted : BattleEvent → Prop
  | .settleBattle roomId battleId winnerId losers _ =>
    0 < battleId → settleBattleAccepts battleId roomId winnerId losers = true
  | _ => True

/-! ## Changes -/

variable [Axis F]

/-- What one step of a task can do to the view. The options are the room whose battle the task is
about to register, before and after the step; `safe` is known of the surrenders. -/
inductive Board.Change (safe : RoomId → PlayerId → Prop) (v : Board F) :
    Option RoomId → Board F → Option RoomId → Prop where
  | stay (a : Option RoomId) : Change safe v a v a
  | bind (ids : Ids) (hids : v.ids.Positive → ids.Positive) :
      Change safe v none { v with ids := ids } none
  | openRoom (players : List PlayerId) (h0 : 0 ∉ players) :
      Change safe v none
        { v with
          nextRoomId := v.nextRoomId + 1
          ready := Function.update v.ready v.nextRoomId
            fun p => if p ∈ players then some false else none
          state := Function.update v.state v.nextRoomId .waiting } none
  | setReady (r : RoomId) (flags : PlayerId → Option Bool)
      (hflags : ∀ p, (flags p).isSome ↔ (v.ready r p).isSome)
      (hnew : ∀ p, flags p = some true → v.ready r p = some true ∨ 0 ≤ p) :
      Change safe v none { v with ready := Function.update v.ready r flags } none
  | start (r : RoomId) (flags : PlayerId → Option Bool)
      (hflags : ∀ p, (flags p).isSome ↔ (v.ready r p).isSome)
      (hnew : ∀ p, flags p = some true → v.ready r p = some true ∨ 0 ≤ p)
      (hwait : v.state r = .waiting) (hsome : ∃ p, (v.ready r p).isSome)
      (hall : ∀ p, (flags p).isSome → flags p = some true) :
      Change safe v none
        { v with
          ready := Function.update v.ready r flags
          state := Function.update v.state r .playing } (some r)
  | register (r : RoomId) (players : List PlayerId) (hne : players ≠ []) (hpos : ∀ p ∈ players, 0 < p) :
      Change safe v (some r)
        { v with
          games := insert r v.games
          gameHeap := Function.update v.gameHeap r (GameRoom.start { roomId := r } players) } none
  | unregister (r : RoomId) : Change safe v none { v with games := v.games.erase r } none
  | exec (r : RoomId) (sec : GameRoom.Section F) (hsec : ∀ inputs, sec ≠ .advance inputs)
      (hsafe : ∀ p, sec = .eliminatePlayer p → safe r p) :
      Change safe v none
        { v with gameHeap := Function.update v.gameHeap r ((v.gameHeap r).exec sec) } none

/-! ## The invariant -/

omit [Axis F] in
/-- Everybody in the room has got ready and has a positive id. -/
structure Board.Started (v : Board F) (r : RoomId) : Prop where
  room : 0 < r
  state : v.state r ≠ .waiting
  somebody : ∃ p, (v.ready r p).isSome
  positive : ∀ p, (v.ready r p).isSome → 0 < p

/-- What the game loop has read. -/
def LoopPc.Holds (v : Board F) : LoopPc F → Prop
  | .arguments roomId state gameOver winnerId _ =>
    (∀ st ∈ state, ∀ p ∈ st.players.keys, 0 < p) ∧
    (gameOver = some true → (v.gameHeap roomId).gameOver = true) ∧
    (∀ w ∈ winnerId, (v.gameHeap roomId).gameOver = true → gameOver ≠ some false → 0 < w)
  | .callback _ state gameOver winnerId _ =>
    (∀ p ∈ state.players.keys, 0 < p) ∧ (gameOver = true → 0 < winnerId)
  | .stateNotify _ state gameOver winnerId _ =>
    (∀ p ∈ state.players.keys, 0 < p) ∧ (gameOver = true → 0 < winnerId)
  | .setSettlement _ winnerId losers _ => 0 < winnerId ∧ ∀ p ∈ losers, 0 < p ∧ p ≠ winnerId
  | .attempt _ winnerId losers _ => 0 < winnerId ∧ ∀ p ∈ losers, 0 < p ∧ p ≠ winnerId
  | .createBattle _ winnerId losers _ => 0 < winnerId ∧ ∀ p ∈ losers, 0 < p ∧ p ≠ winnerId
  | .settleBattle _ winnerId losers _ => 0 < winnerId ∧ ∀ p ∈ losers, 0 < p ∧ p ≠ winnerId
  | _ => True

/-- The invariant, for tasks that are about to register the battles of the rooms `starts`. -/
structure Board.Fair (v : Board F) (starts : ι → Option RoomId) (pc : LoopPc F) : Prop where
  ids : v.ids.Positive
  next : 0 < v.nextRoomId
  fresh : ∀ r, v.nextRoomId ≤ r → v.state r = .waiting ∧ ∀ p, v.ready r p = none
  room : ∀ r p, (v.ready r p).isSome → 0 < r
  zero : ∀ r, v.ready r 0 = none
  ready : ∀ r p, v.ready r p = some true → 0 < p
  winnable : ∀ r, (v.gameHeap r).Winnable
  started : ∀ i r, starts i = some r → v.Started r
  unique : ∀ i j r, starts i = some r → starts j = some r → i = j
  apart : ∀ i r, starts i = some r → r ∉ v.games ∧ r ∉ pc.rooms
  known : ∀ r, r ∈ v.games ∨ r ∈ pc.rooms → v.Started r
  holds : pc.Holds v
  log : ∀ e ∈ v.log, e.Accepted

variable {v v' : Board F} {starts starts' : ι → Option RoomId} {pc : LoopPc F}

omit [Axis F] in
/-- A started room is an old one. -/
theorem Board.Started.lt {r : RoomId} (h : v.Started r)
    (hfresh : ∀ r, v.nextRoomId ≤ r → v.state r = .waiting ∧ ∀ p, v.ready r p = none) :
    r < v.nextRoomId := by
  by_contra hlt
  exact h.state (hfresh r (Int.not_lt.mp hlt)).1

omit [Axis F] in
theorem Board.Started.congr {r : RoomId} (h : v.Started r) (hstate : v'.state r ≠ .waiting)
    (hready : ∀ p, (v'.ready r p).isSome ↔ (v.ready r p).isSome) : v'.Started r where
  room := h.room
  state := hstate
  somebody := by
    obtain ⟨p, hp⟩ := h.somebody
    exact ⟨p, (hready p).mpr hp⟩
  positive p hp := h.positive p ((hready p).mp hp)

omit [Axis F] in
/-- What the loop has read stays true when over battles stay over and the battle of the loop does
not end while its result is read. -/
theorem LoopPc.Holds.congr (h : pc.Holds v)
    (hkeep : ∀ r ∈ pc.rooms, (v.gameHeap r).gameOver = true → (v'.gameHeap r).gameOver = true)
    (hread : ∀ r ∈ pc.rooms, pc.reading r = true → (v.gameHeap r).gameOver = false →
      (v'.gameHeap r).gameOver = false) : pc.Holds v' := by
  cases pc with
  | arguments r state gameOver winnerId rooms =>
    obtain ⟨hstate, hover, hwinner⟩ := h
    have hk := hkeep r List.mem_cons_self
    have hr := hread r List.mem_cons_self
    refine ⟨hstate, fun hg => hk (hover hg), fun w hw hg hne => ?_⟩
    cases hv : (v.gameHeap r).gameOver with
    | true => exact hwinner w hw hv hne
    | false =>
      have hnone : gameOver = none := by
        cases gameOver with
        | none => rfl
        | some go =>
          cases go with
          | false => exact absurd rfl hne
          | true =>
            rw [hover rfl] at hv
            cases hv
      have hnot := hr (by subst hnone; cases hw; simp [reading]) hv
      rw [hnot] at hg
      cases hg
  | _ => exact h

omit [Axis F] in
/-- New flags for the players of a room. -/
theorem isSome_flags {r : RoomId} {flags : PlayerId → Option Bool}
    (hflags : ∀ p, (flags p).isSome ↔ (v.ready r p).isSome) (r' : RoomId) (p : PlayerId) :
    (Function.update v.ready r flags r' p).isSome ↔ (v.ready r' p).isSome := by
  by_cases hr : r' = r
  · rw [hr, Function.update_self]
    exact hflags p
  · rw [Function.update_of_ne hr]

omit [Axis F] in
/-- Only a player with a positive id is ready after it. -/
theorem positive_flags {r : RoomId} {flags : PlayerId → Option Bool}
    (hzero : ∀ r, v.ready r 0 = none) (hready : ∀ r p, v.ready r p = some true → 0 < p)
    (hflags : ∀ p, (flags p).isSome ↔ (v.ready r p).isSome)
    (hnew : ∀ p, flags p = some true → v.ready r p = some true ∨ 0 ≤ p) {r' : RoomId} {p : PlayerId}
    (hp : Function.update v.ready r flags r' p = some true) : 0 < p := by
  by_cases hr : r' = r
  · rw [hr, Function.update_self] at hp
    rcases hnew p hp with hold | hpos
    · exact hready r p hold
    · refine lt_of_le_of_ne hpos ?_
      rintro rfl
      have hmem := (hflags 0).mp (hp ▸ rfl)
      rw [hzero] at hmem
      cases hmem
  · rw [Function.update_of_ne hr] at hp
    exact hready r' p hp

/-! Each change keeps the invariant. -/

section

variable (h : v.Fair starts pc)
include h

omit [Axis F] in
theorem Board.Fair.bind {ids : Ids} (hids : v.ids.Positive → ids.Positive) :
    Board.Fair { v with ids := ids } starts pc := by
  have hkeep : ∀ r, v.Started r → Board.Started { v with ids := ids } r :=
    fun r hr => ⟨hr.room, hr.state, hr.somebody, hr.positive⟩
  exact { h with
    ids := hids h.ids
    started := fun j r hj => hkeep r (h.started j r hj)
    known := fun r hr => hkeep r (h.known r hr)
    holds := h.holds.congr (fun _ _ => id) fun _ _ _ => id }

omit [Axis F] in
theorem Board.Fair.openRoom {players : List PlayerId} (h0 : 0 ∉ players) :
    Board.Fair
      { v with
        nextRoomId := v.nextRoomId + 1
        ready := Function.update v.ready v.nextRoomId
          fun p => if p ∈ players then some false else none
        state := Function.update v.state v.nextRoomId .waiting } starts pc := by
  have hkeep : ∀ r, v.Started r → Board.Started
      { v with
        nextRoomId := v.nextRoomId + 1
        ready := Function.update v.ready v.nextRoomId
          fun p => if p ∈ players then some false else none
        state := Function.update v.state v.nextRoomId .waiting } r := by
    intro r hr
    have hne : r ≠ v.nextRoomId := (hr.lt h.fresh).ne
    refine hr.congr ?_ fun p => ?_
    · dsimp only
      rw [Function.update_of_ne hne]
      exact hr.state
    · dsimp only
      rw [Function.update_of_ne hne]
  refine { h with
    next := Int.lt_add_one_of_le h.next.le
    fresh := fun r hr => ?_
    room := fun r p hp => ?_
    zero := fun r => ?_
    ready := fun r p hp => ?_
    started := fun j r hj => hkeep r (h.started j r hj)
    known := fun r hr => hkeep r (h.known r hr)
    holds := h.holds.congr (fun _ _ => id) fun _ _ _ => id }
  · have hr' : v.nextRoomId < r := Int.lt_of_add_one_le hr
    dsimp only
    rw [Function.update_of_ne hr'.ne', Function.update_of_ne hr'.ne']
    exact h.fresh r hr'.le
  · dsimp only at hp
    by_cases hr : r = v.nextRoomId
    · exact hr ▸ h.next
    · rw [Function.update_of_ne hr] at hp
      exact h.room r p hp
  · dsimp only
    by_cases hr : r = v.nextRoomId
    · rw [hr, Function.update_self, if_neg h0]
    · rw [Function.update_of_ne hr]
      exact h.zero r
  · -- Nobody is ready in the new room.
    dsimp only at hp
    by_cases hr : r = v.nextRoomId
    · rw [hr, Function.update_self] at hp
      split at hp <;> cases hp
    · rw [Function.update_of_ne hr] at hp
      exact h.ready r p hp

omit [Axis F] in
theorem Board.Fair.setReady {r : RoomId} {flags : PlayerId → Option Bool}
    (hflags : ∀ p, (flags p).isSome ↔ (v.ready r p).isSome)
    (hnew : ∀ p, flags p = some true → v.ready r p = some true ∨ 0 ≤ p) :
    Board.Fair { v with ready := Function.update v.ready r flags } starts pc := by
  have hsome := isSome_flags hflags
  have hkeep : ∀ r', v.Started r' →
      Board.Started { v with ready := Function.update v.ready r flags } r' :=
    fun r' hr' => hr'.congr hr'.state (hsome r')
  refine { h with
    fresh := fun r' hr' => ⟨(h.fresh r' hr').1, fun p => ?_⟩
    room := fun r' p hp => h.room r' p ((hsome r' p).mp hp)
    zero := fun r' => ?_
    ready := fun _ _ => positive_flags h.zero h.ready hflags hnew
    started := fun j r' hj => hkeep r' (h.started j r' hj)
    known := fun r' hr' => hkeep r' (h.known r' hr')
    holds := h.holds.congr (fun _ _ => id) fun _ _ _ => id }
  · rw [← Option.not_isSome_iff_eq_none, hsome, (h.fresh r' hr').2]
    simp
  · rw [← Option.not_isSome_iff_eq_none, hsome, h.zero]
    simp

omit [Axis F] in
/-- The battle of the room is about to be registered by the task `i`. -/
theorem Board.Fair.start [DecidableEq ι] {i : ι} {r : RoomId} {flags : PlayerId → Option Bool}
    (hflags : ∀ p, (flags p).isSome ↔ (v.ready r p).isSome)
    (hnew : ∀ p, flags p = some true → v.ready r p = some true ∨ 0 ≤ p)
    (hwait : v.state r = .waiting) (hany : ∃ p, (v.ready r p).isSome)
    (hall : ∀ p, (flags p).isSome → flags p = some true)
    (hstarts : ∀ j, starts' j = if j = i then some r else starts j) :
    Board.Fair
      { v with
        ready := Function.update v.ready r flags
        state := Function.update v.state r .playing } starts' pc := by
  have hready := h.setReady hflags hnew
  have hsome := isSome_flags hflags
  -- A room that has been started is not waiting, so it is another one.
  have hne : ∀ r', v.Started r' → r' ≠ r := by
    rintro r' hr' rfl
    exact hr'.state hwait
  have hkeep : ∀ r', v.Started r' → Board.Started
      { v with
        ready := Function.update v.ready r flags
        state := Function.update v.state r .playing } r' := by
    intro r' hr'
    refine hr'.congr ?_ (hsome r')
    dsimp only
    rw [Function.update_of_ne (hne r' hr')]
    exact hr'.state
  have hnewroom : Board.Started
      { v with
        ready := Function.update v.ready r flags
        state := Function.update v.state r .playing } r := by
    obtain ⟨p, hp⟩ := hany
    refine ⟨h.room r p hp, ?_, ⟨p, (hsome r p).mpr hp⟩, fun q hq => hready.ready r q ?_⟩
    · dsimp only
      rw [Function.update_self]
      exact nofun
    · dsimp only
      rw [Function.update_self]
      exact hall q ((hflags q).mpr ((hsome r q).mp hq))
  have hlt : r < v.nextRoomId := by
    by_contra hlt
    obtain ⟨p, hp⟩ := hany
    rw [(h.fresh r (Int.not_lt.mp hlt)).2 p] at hp
    cases hp
  have hold : ∀ j, j ≠ i → ∀ r', starts' j = some r' → starts j = some r' := by
    intro j hj r' hr'
    rwa [hstarts, if_neg hj] at hr'
  have hself : starts' i = some r := by rw [hstarts, if_pos rfl]
  refine { hready with
    fresh := fun r' hr' => ⟨?_, (hready.fresh r' hr').2⟩
    started := fun j r' hj => ?_
    unique := fun j k r' hj hk => ?_
    apart := fun j r' hj => ?_
    known := fun r' hr' => hkeep r' (h.known r' hr')
    holds := h.holds.congr (fun _ _ => id) fun _ _ _ => id }
  · dsimp only
    rw [Function.update_of_ne (hlt.trans_le hr').ne']
    exact (h.fresh r' hr').1
  · by_cases hji : j = i
    · rw [hji, hself] at hj
      cases hj
      exact hnewroom
    · exact hkeep r' (h.started j r' (hold j hji r' hj))
  · -- No other task has started the room: it was waiting.
    by_cases hji : j = i <;> by_cases hki : k = i
    · rw [hji, hki]
    · rw [hji, hself] at hj
      cases hj
      exact absurd rfl (hne r (h.started k r (hold k hki r hk)))
    · rw [hki, hself] at hk
      cases hk
      exact absurd rfl (hne r (h.started j r (hold j hji r hj)))
    · exact h.unique j k r' (hold j hji r' hj) (hold k hki r' hk)
  · by_cases hji : j = i
    · rw [hji, hself] at hj
      cases hj
      exact ⟨fun hg => hne r (h.known r (Or.inl hg)) rfl,
        fun hg => hne r (h.known r (Or.inr hg)) rfl⟩
    · exact h.apart j r' (hold j hji r' hj)

/-- The task `i` registers the battle that it has started. -/
theorem Board.Fair.register [DecidableEq ι] {i : ι} {r : RoomId} {players : List PlayerId}
    (hpos : ∀ p ∈ players, 0 < p) (hi : starts i = some r)
    (hstarts : ∀ j, starts' j = if j = i then none else starts j) :
    Board.Fair
      { v with
        games := insert r v.games
        gameHeap := Function.update v.gameHeap r (GameRoom.start { roomId := r } players) }
      starts' pc := by
  have hold : ∀ j r', starts' j = some r' → starts j = some r' ∧ r' ≠ r := by
    intro j r' hj
    rw [hstarts] at hj
    split at hj
    · cases hj
    · next hji =>
      refine ⟨hj, ?_⟩
      rintro rfl
      exact hji (h.unique j i r' hj hi)
  -- The game loop does not know the room yet.
  have hgame : ∀ r' ∈ pc.rooms, Function.update v.gameHeap r
      (GameRoom.start { roomId := r } players) r' = v.gameHeap r' := by
    intro r' hr'
    refine Function.update_of_ne ?_ ..
    rintro rfl
    exact (h.apart i r' hi).2 hr'
  have hkeep : ∀ r', v.Started r' → Board.Started
      { v with
        games := insert r v.games
        gameHeap := Function.update v.gameHeap r (GameRoom.start { roomId := r } players) } r' :=
    fun r' hr' => ⟨hr'.room, hr'.state, hr'.somebody, hr'.positive⟩
  refine { h with
    winnable := fun r' => ?_
    started := fun j r' hj => hkeep r' (h.started j r' (hold j r' hj).1)
    unique := fun j k r' hj hk => h.unique j k r' (hold j r' hj).1 (hold k r' hk).1
    apart := fun j r' hj => ?_
    known := fun r' hr' => ?_
    holds := h.holds.congr (fun r' hr' hover => ?_) fun r' hr' _ hover => ?_ }
  · dsimp only
    by_cases hr' : r' = r
    · rw [hr', Function.update_self]
      exact GameRoom.winnable_start _ hpos
    · rw [Function.update_of_ne hr']
      exact h.winnable r'
  · obtain ⟨hj, hne'⟩ := hold j r' hj
    obtain ⟨hg, hl⟩ := h.apart j r' hj
    exact ⟨fun hmem => (Finset.mem_insert.mp hmem).elim hne' hg, hl⟩
  · rcases hr' with hr' | hr'
    · rcases Finset.mem_insert.mp hr' with rfl | hr'
      · exact hkeep _ (h.started i _ hi)
      · exact hkeep r' (h.known r' (Or.inl hr'))
    · exact hkeep r' (h.known r' (Or.inr hr'))
  · dsimp only
    rwa [hgame r' hr']
  · dsimp only
    rwa [hgame r' hr']

omit [Axis F] in
/-- A battle is taken off `GameLoop`. -/
theorem Board.Fair.unregister (r : RoomId) :
    Board.Fair { v with games := v.games.erase r } starts pc := by
  have hkeep : ∀ r', v.Started r' → Board.Started { v with games := v.games.erase r } r' :=
    fun r' hr' => ⟨hr'.room, hr'.state, hr'.somebody, hr'.positive⟩
  exact { h with
    started := fun j r' hj => hkeep r' (h.started j r' hj)
    apart := fun j r' hj => (h.apart j r' hj).imp_left fun hno hg =>
      hno (Finset.mem_of_mem_erase hg)
    known := fun r' hr' => hkeep r' (h.known r' (hr'.imp_left Finset.mem_of_mem_erase))
    holds := h.holds.congr (fun _ _ => id) fun _ _ _ => id }

/-- A section of a battle other than a tick; a surrender has to be safe. -/
theorem Board.Fair.exec {r : RoomId} {sec : GameRoom.Section F}
    (hsec : ∀ inputs, sec ≠ .advance inputs)
    (hsafe : ∀ p, sec = .eliminatePlayer p → (v.gameHeap r).SafeSurrender p (pc.reading r)) :
    Board.Fair { v with gameHeap := Function.update v.gameHeap r ((v.gameHeap r).exec sec) }
      starts pc := by
  have hkeep : ∀ r', v.Started r' → Board.Started
      { v with gameHeap := Function.update v.gameHeap r ((v.gameHeap r).exec sec) } r' :=
    fun r' hr' => ⟨hr'.room, hr'.state, hr'.somebody, hr'.positive⟩
  refine { h with
    winnable := fun r' => ?_
    started := fun j r' hj => hkeep r' (h.started j r' hj)
    known := fun r' hr' => hkeep r' (h.known r' hr')
    holds := h.holds.congr (fun r' _ hover => ?_) fun r' _ hreading hover => ?_ }
  · dsimp only
    by_cases hr : r' = r
    · rw [hr, Function.update_self]
      refine (h.winnable r).exec sec fun p hp => ?_
      exact fun hg ha => ⟨(hsafe p hp hg ha).1, False.elim⟩
    · rw [Function.update_of_ne hr]
      exact h.winnable r'
  · -- A battle that is over stays over.
    dsimp only
    by_cases hr : r' = r
    · rw [hr] at hover ⊢
      rw [Function.update_self]
      exact (GameRoom.exec_over hover sec).2.1
    · rwa [Function.update_of_ne hr]
  · -- Only a surrender could end it while the loop reads the result.
    dsimp only
    by_cases hr : r' = r
    · rw [hr] at hover hreading ⊢
      rw [Function.update_self]
      cases sec with
      | handleInput input => exact hover
      | popAll => exact hover
      | advance inputs => exact absurd rfl (hsec inputs)
      | eliminatePlayer p => exact GameRoom.gameOver_surrender (hsafe p rfl) hreading hover
    · rwa [Function.update_of_ne hr]

end

/-- **One change keeps the view fair**, if a surrender is safe. -/
theorem Board.Fair.change [DecidableEq ι] {safe : RoomId → PlayerId → Prop} {i : ι}
    {a : Option RoomId} (h : v.Fair starts pc) (hch : v.Change safe (starts i) v' a)
    (hth : ∀ j, starts' j = if j = i then a else starts j)
    (hsafe : ∀ r p, safe r p → (v.gameHeap r).SafeSurrender p (pc.reading r)) :
    v'.Fair starts' pc := by
  have hsame : starts i = a → starts' = starts := by
    intro hi
    funext j
    rw [hth]
    split
    · next hj => rw [hj, hi]
    · rfl
  generalize hi : starts i = b at hch hsame
  cases hch with
  | stay a => exact hsame rfl ▸ h
  | bind ids hids => exact hsame rfl ▸ h.bind hids
  | openRoom players h0 => exact hsame rfl ▸ h.openRoom h0
  | setReady r flags hflags hnew => exact hsame rfl ▸ h.setReady hflags hnew
  | start r flags hflags hnew hwait hany hall => exact h.start hflags hnew hwait hany hall hth
  | register r players hne hpos => exact h.register hpos hi hth
  | unregister r => exact hsame rfl ▸ h.unregister r
  | exec r sec hsec hsec' =>
    exact hsame rfl ▸ h.exec hsec fun p hp => hsafe r p (hsec' p hp)

/-! ## The game loop -/

namespace LoopPc.Holds

variable {r : RoomId} {state : Option (GameState F)} {gameOver : Option Bool}
  {winnerId : Option PlayerId} {rooms : List RoomId}

omit [Axis F] in
/-- `State` is evaluated. -/
theorem readState (h : (arguments r state gameOver winnerId rooms).Holds v)
    (hwin : (v.gameHeap r).Winnable) :
    (arguments r (state.getD (v.gameHeap r).state) gameOver winnerId rooms).Holds v := by
  refine ⟨fun st hst => ?_, h.2⟩
  cases state with
  | none =>
    cases hst
    exact hwin.positive
  | some st' => exact h.1 st hst

omit [Axis F] in
/-- `IsGameOver` is evaluated. -/
theorem readGameOver (h : (arguments r state gameOver winnerId rooms).Holds v) :
    (arguments r state (gameOver.getD (v.gameHeap r).gameOver) winnerId rooms).Holds v := by
  obtain ⟨hstate, hover, hwinner⟩ := h
  cases gameOver with
  | none => exact ⟨hstate, Option.some.inj, fun w hw hg _ => hwinner w hw hg nofun⟩
  | some go => exact ⟨hstate, hover, hwinner⟩

omit [Axis F] in
/-- `WinnerId` is evaluated. -/
theorem readWinner (h : (arguments r state gameOver winnerId rooms).Holds v)
    (hwin : (v.gameHeap r).Winnable) :
    (arguments r state gameOver (winnerId.getD (v.gameHeap r).winnerId) rooms).Holds v := by
  refine ⟨h.1, h.2.1, fun w hw hg hne => ?_⟩
  cases winnerId with
  | none =>
    cases hw
    exact hwin.winner_pos hg
  | some w' => exact h.2.2 w hw hg hne

omit [Axis F] in
/-- The callback is called. -/
theorem call {st : GameState F} {go : Bool} {w : PlayerId}
    (h : (arguments r (some st) (some go) (some w) rooms).Holds v) :
    (callback r st go w rooms).Holds v := by
  refine ⟨h.1 st rfl, ?_⟩
  rintro rfl
  exact h.2.2 w rfl (h.2.1 rfl) nofun

end LoopPc.Holds

section

variable {pc' : LoopPc F}

omit [Axis F] in
/-- The loop goes on with rooms that it has, or that are registered. -/
theorem Board.Fair.goto (h : v.Fair starts pc)
    (hrooms : ∀ r ∈ pc'.rooms, r ∈ pc.rooms ∨ r ∈ v.games) (hholds : pc'.Holds v) :
    v.Fair starts pc' :=
  { h with
    apart := fun i r hi => by
      obtain ⟨hg, hl⟩ := h.apart i r hi
      exact ⟨hg, fun hr => (hrooms r hr).elim hl hg⟩
    known := fun r hr => h.known r (hr.elim Or.inl fun hr => (hrooms r hr).symm)
    holds := hholds }

omit [Axis F] in
/-- A call that goes into the history. -/
theorem Board.Fair.logged (h : v.Fair starts pc) {e : BattleEvent} (he : e.Accepted) :
    Board.Fair { v with log := v.log ++ [e] } starts pc :=
  { h with
    started := fun i r hi => (h.started i r hi).congr (h.started i r hi).state fun _ => Iff.rfl
    known := fun r hr => (h.known r hr).congr (h.known r hr).state fun _ => Iff.rfl
    holds := h.holds.congr (fun _ _ => id) fun _ _ _ => id
    log := fun e' he' => (List.mem_append.mp he').elim (h.log e') fun he' =>
      List.mem_singleton.mp he' ▸ he }

omit [Axis F] in
/-- A room of the loop goes on to another state. -/
theorem Board.Fair.setState (h : v.Fair starts pc) {r : RoomId} (hr : r ∈ pc.rooms)
    {state : RoomState} (hstate : state ≠ .waiting) :
    Board.Fair { v with state := Function.update v.state r state } starts pc := by
  have hlt : r < v.nextRoomId := (h.known r (Or.inr hr)).lt h.fresh
  have hkeep : ∀ r', v.Started r' →
      Board.Started { v with state := Function.update v.state r state } r' := by
    intro r' hr'
    refine hr'.congr ?_ fun _ => Iff.rfl
    by_cases hrr : r' = r
    · rw [hrr]
      dsimp only
      rwa [Function.update_self]
    · dsimp only
      rw [Function.update_of_ne hrr]
      exact hr'.state
  refine { h with
    fresh := fun r' hr' => ⟨?_, (h.fresh r' hr').2⟩
    started := fun i r' hi => hkeep r' (h.started i r' hi)
    known := fun r' hr' => hkeep r' (h.known r' hr')
    holds := h.holds.congr (fun _ _ => id) fun _ _ _ => id }
  dsimp only
  rw [Function.update_of_ne (hlt.trans_le hr').ne']
  exact (h.fresh r' hr').1

/-- The two critical sections of `Tick`, while the loop has read nothing. -/
theorem Board.Fair.tick (h : v.Fair starts pc) (r : RoomId) (sec : GameRoom.Section F)
    (hsec : ∀ p, sec ≠ .eliminatePlayer p) (hreading : ∀ v' : Board F, pc.Holds v') :
    Board.Fair { v with gameHeap := Function.update v.gameHeap r ((v.gameHeap r).exec sec) }
      starts pc := by
  refine { h with
    winnable := fun r' => ?_
    started := fun i r hi => (h.started i r hi).congr (h.started i r hi).state fun _ => Iff.rfl
    known := fun r hr => (h.known r hr).congr (h.known r hr).state fun _ => Iff.rfl
    holds := hreading _ }
  dsimp only
  by_cases hr : r' = r
  · rw [hr, Function.update_self]
    exact (h.winnable r).exec sec fun p hp => absurd hp (hsec p)
  · rw [Function.update_of_ne hr]
    exact h.winnable r'

end

end Game
