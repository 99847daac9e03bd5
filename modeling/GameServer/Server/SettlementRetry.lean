import GameServer.Server.NewsOrder
import GameServer.Server.Retry

/-!
# The settlement of a room

The game loop and all other tasks of the server. The calls that the tick callback makes for a room
are those of one `Retry` machine: once the battle is over, no request changes its outcome, nor
what the callback keeps about it.

## A torn result

`WinnerId` and `IsGameOver` lock the room one after the other. A surrender that decides the battle
between the two gives the callback `game_over` with the winner 0, and the next callback gets the
real winner (`settles_once_counterexample`). In every run without such a surrender the room is
settled with one winner (`settles_once`).
-/

namespace Game

open Infra

variable {ι F : Type}

/-! ## What belongs to one room -/

/-- What the tick callback of a room reads and writes. -/
structure Site (F : Type) where
  nextRoomId : RoomId
  state : RoomState
  game : GameRoom F
  /-- The room is in `rooms_`. -/
  live : Prop
  pending : Option PendingSettlement
  calls : List BattleEvent

/-- The site of the room `r`. -/
def Scene.site (v : Scene F) (r : RoomId) : Site F where
  nextRoomId := v.nextRoomId
  state := v.state r
  game := v.gameHeap r
  live := r ∈ v.rooms
  pending := v.pending r
  calls := v.log.filter (·.roomId = r)

namespace Server

/-- The calls of the tick callback for the room `r`. -/
def calls (s : Server F) (r : RoomId) : List BattleEvent :=
  s.battleLog.filter (·.roomId = r)

/-- The site of the room `r`. -/
def site (s : Server F) (r : RoomId) : Site F :=
  s.scene.site r

variable {r r' : RoomId} {s : Server F}

/-- A section of another room. -/
theorem site_updateRoom (h : r' ≠ r) (f : Room → Room) : (s.updateRoom r' f).site r = s.site r := by
  have hroom : Function.update s.roomHeap r' (f (s.roomHeap r')) r = s.roomHeap r :=
    Function.update_of_ne h.symm ..
  exact congrArg (fun room : Room => { s.site r with state := room.state }) hroom

/-- A section of another battle. -/
theorem site_updateGame (h : r' ≠ r) (f : GameRoom F → GameRoom F) :
    (s.updateGame r' f).site r = s.site r := by
  have hgame : Function.update s.gameHeap r' (f (s.gameHeap r')) r = s.gameHeap r :=
    Function.update_of_ne h.symm ..
  exact congrArg (fun game => { s.site r with game := game }) hgame

theorem site_setPending (s : Server F) (r : RoomId) (pending : Option PendingSettlement) :
    (s.setPending r pending).site r = { s.site r with pending := pending } := by
  have hentry : Function.update s.pendingSettlements r pending r = pending :=
    Function.update_self ..
  exact congrArg (fun entry => { s.site r with pending := entry }) hentry

theorem site_setPending_of_ne (h : r' ≠ r) (pending : Option PendingSettlement) :
    (s.setPending r' pending).site r = s.site r := by
  have hentry : Function.update s.pendingSettlements r' pending r = s.pendingSettlements r :=
    Function.update_of_ne h.symm ..
  exact congrArg (fun entry => { s.site r with pending := entry }) hentry

theorem site_logBattle {e : BattleEvent} (h : e.roomId = r) :
    (s.logBattle e).site r = { s.site r with calls := s.calls r ++ [e] } := by
  have hcalls : (s.logBattle e).calls r = s.calls r ++ [e] := by
    unfold calls logBattle
    simp [h]
  exact congrArg (fun calls => { s.site r with calls := calls }) hcalls

theorem site_logBattle_of_ne {e : BattleEvent} (h : e.roomId ≠ r) :
    (s.logBattle e).site r = s.site r := by
  have hcalls : (s.logBattle e).calls r = s.calls r := by
    unfold calls logBattle
    simp [h]
  exact congrArg (fun calls => { s.site r with calls := calls }) hcalls

/-- An entry of `pending_settlements_` and a call that goes with it. -/
theorem site_call (s : Server F) (pending : Option PendingSettlement) {e : BattleEvent}
    (h : e.roomId = r) : ((s.setPending r pending).logBattle e).site r =
      { s.site r with pending := pending, calls := s.calls r ++ [e] } := by
  rw [site_logBattle h, site_setPending]
  rfl

/-- The same for another room. -/
theorem site_call_of_ne {e : BattleEvent} (h : e.roomId ≠ r) (pending : Option PendingSettlement) :
    ((s.setPending e.roomId pending).logBattle e).site r = s.site r := by
  rw [site_logBattle_of_ne h, site_setPending_of_ne h]

/-- Another room is taken off `rooms_`. -/
theorem site_eraseRoom (h : r' ≠ r) : (s.eraseRoom r').2.site r = s.site r := by
  have hlive : (r ∈ s.roomManager.rooms.erase r') = (r ∈ s.roomManager.rooms) :=
    propext (Finset.mem_erase.trans (and_iff_right h.symm))
  exact congrArg (fun live => { s.site r with live := live }) hlive

end Server

namespace Site

/-- The players of the battle but the winner. -/
def losers (v : Site F) : List PlayerId :=
  v.game.state.players.keys.filter (· ≠ v.game.winnerId)

/-- The battle is over with this winner and these losers. -/
structure Result (v : Site F) (winnerId : PlayerId) (losers : List PlayerId) : Prop where
  ended : v.game.gameOver = true
  winner : winnerId = v.game.winnerId
  losers : losers = v.losers

variable [Axis F]

/-- What no step undoes. -/
structure Kept (v v' : Site F) : Prop where
  nextRoomId : v.nextRoomId ≤ v'.nextRoomId
  started : v.state ≠ .waiting → v'.state ≠ .waiting
  game : ∃ sections, v'.game = v.game.run sections
  removed : ¬ v.live → ¬ v'.live

/-- What a step does that makes no call for the room. -/
structure Untouched (v v' : Site F) : Prop extends Kept v v' where
  pending : v'.pending = v.pending
  calls : v'.calls = v.calls

variable {v v' : Site F}

theorem Untouched.refl (v : Site F) : v.Untouched v where
  nextRoomId := Int.le_refl _
  started := id
  game := ⟨[], rfl⟩
  removed := id
  pending := rfl
  calls := rfl

namespace Kept

theorem keys (h : v.Kept v') : v'.game.state.players.keys = v.game.state.players.keys := by
  obtain ⟨sections, hgame⟩ := h.game
  rw [hgame, GameRoom.keys_run]

/-- A battle that is over does not change. -/
theorem ended (h : v.Kept v') (hover : v.game.gameOver = true) :
    v'.game.gameOver = true ∧ v'.game.winnerId = v.game.winnerId := by
  obtain ⟨sections, hgame⟩ := h.game
  rw [hgame]
  exact (GameRoom.run_over sections hover).2

theorem losers (h : v.Kept v') (hover : v.game.gameOver = true) : v'.losers = v.losers := by
  unfold Site.losers
  rw [h.keys, (h.ended hover).2]

theorem result (h : v.Kept v') {w : PlayerId} {ls : List PlayerId} (hr : v.Result w ls) :
    v'.Result w ls where
  ended := (h.ended hr.ended).1
  winner := hr.winner.trans (h.ended hr.ended).2.symm
  losers := hr.losers.trans (h.losers hr.ended).symm

end Kept
end Site

/-! ## Other tasks -/

section

variable [Axis F] {surrenders : RoomId → PlayerId → Prop} {v v' : Scene F} {a a' : Option RoomId}
  {r : RoomId}

/-- A section of a battle. -/
theorem Scene.untouched_exec (v : Scene F) (r r' : RoomId) (sec : GameRoom.Section F) :
    (v.site r).Untouched (Scene.site
      { v with gameHeap := Function.update v.gameHeap r' ((v.gameHeap r').exec sec) } r) :=
  { Site.Untouched.refl (v.site r) with
    game := by
      by_cases hr : r = r'
      · subst hr
        exact ⟨[sec], Function.update_self ..⟩
      · exact ⟨[], Function.update_of_ne hr ..⟩ }

/-- **A task that is not about to register the battle leaves it to the loop**, and does not start
it again. -/
theorem Scene.Change.untouched (h : v.Change surrenders a v' a') (hold : r < v.nextRoomId)
    (hstarted : v.state r ≠ .waiting) (ha : a ≠ some r) :
    (v.site r).Untouched (v'.site r) ∧ a' ≠ some r := by
  have hsame := Site.Untouched.refl (v.site r)
  cases h with
  | stay => exact ⟨hsame, ha⟩
  | openRoom players =>
    -- a new room is another room
    have hne : r ≠ v.nextRoomId := Int.ne_of_lt hold
    refine ⟨{ hsame with
      nextRoomId := Int.le_of_lt (Int.lt_succ _)
      started := fun hs => ?_
      removed := fun hr hmem => (Finset.mem_insert.mp hmem).elim hne hr }, nofun⟩
    change Function.update v.state v.nextRoomId .waiting r ≠ .waiting
    rwa [Function.update_of_ne hne]
  | eraseRoom r' =>
    exact ⟨{ hsame with removed := fun hr hmem => hr (Finset.mem_of_mem_erase hmem) }, nofun⟩
  | start r' hwait hmembers =>
    -- the room that starts is Waiting
    have hne : r ≠ r' := fun he => hstarted (he ▸ hwait)
    refine ⟨{ hsame with started := fun hs => ?_ }, fun he => hne (Option.some.inj he).symm⟩
    change Function.update v.state r' .playing r ≠ .waiting
    rwa [Function.update_of_ne hne]
  | register r' players =>
    have hne : r ≠ r' := fun he => ha (congrArg some he.symm)
    exact ⟨{ hsame with game := ⟨[], Function.update_of_ne hne ..⟩ }, nofun⟩
  | unregister r' => exact ⟨{ hsame with }, nofun⟩
  | exec r' sec => exact ⟨v.untouched_exec r r' sec, nofun⟩

/-- A task changes the winner only by a surrender that decides the battle. -/
theorem Scene.Change.winnerId (h : v.Change surrenders a v' a') (ha : a ≠ some r)
    (hzero : (v.gameHeap r).gameOver = false → (v.gameHeap r).winnerId = 0)
    (hsafe : ∀ p, surrenders r p → ¬ (v.gameHeap r).Decides p) :
    (v'.gameHeap r).winnerId = (v.gameHeap r).winnerId := by
  cases h with
  | register r' players =>
    have hne : r ≠ r' := fun he => ha (congrArg some he.symm)
    exact congrArg GameRoom.winnerId (Function.update_of_ne hne ..)
  | exec r' sec hsec hsurrender =>
    dsimp only
    by_cases hr : r = r'
    · subst hr
      rw [Function.update_self]
      cases sec with
      | handleInput input => rfl
      | popAll => rfl
      | advance inputs => exact absurd rfl (hsec inputs)
      | eliminatePlayer p => exact GameRoom.winnerId_surrender hzero (hsafe p (hsurrender p rfl))
    · rw [Function.update_of_ne hr]
  | _ => rfl

/-- A room that is Waiting goes on to wait, or its battle is about to be registered. -/
theorem Scene.Change.waits (h : v.Change surrenders a v' a') (hwait : v.state r = .waiting) :
    v'.state r = .waiting ∨ a' = some r := by
  cases h with
  | openRoom players =>
    refine Or.inl ?_
    dsimp only
    rw [Function.update_apply, hwait, ite_self]
  | start r' hwait' hmembers =>
    by_cases hr : r = r'
    · exact Or.inr (congrArg some hr.symm)
    · exact Or.inl ((Function.update_of_ne hr ..).trans hwait)
  | _ => exact Or.inl hwait

/-- A task that is about to register the battle waits, or registers it. -/
theorem Scene.Change.registers (h : v.Change surrenders (some r) v' a') :
    (v' = v ∧ a' = some r) ∨ (a' = none ∧ ∃ players, v' = { v with
      games := insert r v.games
      gameHeap := Function.update v.gameHeap r (GameRoom.start { roomId := r } players) }) := by
  cases h with
  | stay => exact Or.inl ⟨rfl, rfl⟩
  | register r players => exact Or.inr ⟨rfl, players, rfl⟩

end

/-! ## The loop and the machine -/

namespace Retry

/-- The machine agrees with the entry of `pending_settlements_`. -/
def Fits (q : Retry) (v : Site F) : Prop :=
  q.battleId = (v.pending.getD {}).battleId ∧
    ∀ steadyMs ∈ q.last, (v.pending.getD {}).nextAttempt = steadyMs + 1000

/-- No call for the room is in progress. -/
def Resting (q : Retry) (v : Site F) : Prop :=
  (q.stage = .idle ∧ q.Fits v) ∨ (q.stage = .removed ∧ ¬ v.live)

/-- A step with at most one call, which the machine allows; it takes the end of the battle. -/
structure Advances [Axis F] (r : RoomId) (q : Retry) (v : Site F) (q' : Retry) (v' : Site F) :
    Prop where
  kept : v.Kept v'
  calls : (v'.calls = v.calls ∧ q' = q) ∨ (v.game.gameOver = true ∧
    ∃ e, v'.calls = v.calls ++ [e] ∧ q.step r v.game.winnerId v.losers e = some q')

variable {q : Retry} {v v' : Site F}

theorem Fits.congr (h : q.Fits v) (hv : v'.pending = v.pending) : q.Fits v' := by
  unfold Fits
  rw [hv]
  exact h

theorem Resting.mono [Axis F] (h : q.Resting v) (hv : v.Untouched v') : q.Resting v' :=
  h.imp (fun hidle => ⟨hidle.1, hidle.2.congr hv.pending⟩) fun hgone =>
    ⟨hgone.1, hv.removed hgone.2⟩

/-- The machine at the start. -/
theorem resting_start (h : v.pending = none) : Resting {} v := by
  refine Or.inl ⟨rfl, ?_, nofun⟩
  rw [h]
  rfl

theorem Resting.idle (h : q.Resting v) (hr : v.live) : q.stage = .idle :=
  h.elim And.left fun hgone => absurd hr hgone.2

theorem Resting.fits (h : q.Resting v) (hidle : q.stage = .idle) : q.Fits v := by
  rcases h with h | h
  · exact h.2
  · rw [hidle] at h
    cases h.1

end Retry

/-- The end of the tick callback of the room with the machine in step. -/
def TailPc.Follows (q : Retry) (v : Site F) : TailPc → Prop
  | .announce _ _ _ => q.stage = .settled
  | .notify _ _ _ _ => q.stage = .announced
  | .close _ => q.stage = .announced
  | .removing (.erase _) => q.stage = .announced
  | .removing _ => q.stage = .removed ∧ ¬ v.live

/-- The loop with the machine of the room `r` in step. What the loop has read of the battle is the
result, unless it has read that the battle goes on. -/
def LoopPc.Follows (r : RoomId) (q : Retry) (v : Site F) : LoopPc F → Prop
  | .copyRooms => q.Resting v
  | .tick _ => q.Resting v
  | .advance _ _ _ => q.Resting v
  | .arguments r' state gameOver winner _ =>
    q.Resting v ∧ (r' = r →
      (∀ st ∈ state, st.players.keys = v.game.state.players.keys) ∧
      (gameOver = some true → v.game.gameOver = true) ∧
      (gameOver ≠ some false → ∀ w ∈ winner, w = v.game.winnerId))
  | .callback r' state gameOver w _ =>
    q.Resting v ∧ (r' = r → gameOver = true → v.Result w (state.players.keys.filter (· ≠ w)))
  | .stateNotify r' state gameOver w _ =>
    q.Resting v ∧ (r' = r → q.stage = .idle ∧
      (gameOver = true → v.Result w (state.players.keys.filter (· ≠ w))))
  | .setSettlement r' w ls _ => q.Resting v ∧ (r' = r → q.stage = .idle ∧ v.Result w ls)
  | .attempt r' w ls _ => q.Resting v ∧ (r' = r → q.stage = .idle ∧ v.Result w ls)
  | .createBattle r' w ls _ =>
    if r' = r then q.Fits v ∧ q.stage = .attempting ∧ v.Result w ls else q.Resting v
  | .settleBattle r' w ls _ =>
    if r' = r then
      q.Fits v ∧ (if q.battleId = 0 then q.stage = .idle
        else q.stage = .attempting ∨ q.stage = .created) ∧ v.Result w ls
    else q.Resting v
  | .tail pc _ =>
    if pc.roomId = r then v.game.gameOver = true ∧ pc.Follows q v else q.Resting v

section

variable {r : RoomId} {q : Retry} {s : Server F}

/-! ## RemoveRoom -/

/-- `RemoveRoom` after its locked part. -/
theorem RemovePc.site_next (pc : RemovePc) (hpc : ∀ r', pc ≠ .erase r') :
    (pc.next s).1.site r = s.site r := by
  cases pc with
  | erase r' => exact absurd rfl (hpc r')
  | resetSession r' todo =>
    cases todo with
    | nil => rfl
    | cons p todo =>
      rw [next]
      split <;> rfl
  | _ => rfl

/-- `RemoveRoom` does not go back to its locked part. -/
theorem RemovePc.not_erase {pc pc' : RemovePc} (hpc : (pc.next s).2 = some pc') (r' : RoomId) :
    pc' ≠ .erase r' := by
  rintro rfl
  cases pc with
  | resetSession r'' todo =>
    cases todo with
    | nil => cases hpc
    | cons p todo =>
      rw [next] at hpc
      split at hpc <;> cases hpc
  | _ => cases hpc

theorem TailPc.follows_removing {pc : RemovePc} (hpc : ∀ r', pc ≠ .erase r') {v : Site F} :
    (removing pc).Follows q v ↔ q.stage = .removed ∧ ¬ v.live := by
  cases pc with
  | erase r' => exact absurd rfl (hpc r')
  | _ => exact Iff.rfl

/-! ## The loop in another room -/

/-- The end of the tick callback of another room. -/
theorem TailPc.site_next {pc : TailPc} (hpc : pc.roomId ≠ r) :
    (pc.next s).1.site r = s.site r := by
  cases pc with
  | announce r' w ls => exact Server.site_logBattle_of_ne hpc
  | notify r' w ls todo =>
    cases todo with
    | nil => rfl
    | cons p todo =>
      rw [next]
      dsimp only
      split <;> rfl
  | close r' => exact Server.site_updateRoom hpc _
  | removing pc =>
    cases pc with
    | erase r' =>
      have hlog : (s.logBattle (.removeRoom r')).site r = s.site r :=
        Server.site_logBattle_of_ne hpc
      exact (Server.site_eraseRoom hpc).trans hlog
    | resetSession r' todo => exact RemovePc.site_next (.resetSession r' todo) (fun _ h => by cases h)
    | _ => rfl

variable [Axis F]

/-- **A step in another room** touches nothing of the room `r`. -/
theorem LoopPc.elsewhere {pc : LoopPc F} (h : pc.rooms.head? ≠ some r) (ch : LoopChoice) :
    (pc.next ch s).1.site r = s.site r ∧
      ∀ v : Site F, pc.Follows r q v → (pc.next ch s).2.Follows r q v := by
  have hne : ∀ r' rooms, pc.rooms = r' :: rooms → r' ≠ r := by
    rintro r' rooms hpc rfl
    rw [hpc] at h
    exact h rfl
  cases pc with
  | copyRooms =>
    rw [next]
    split <;> exact ⟨rfl, fun _ => id⟩
  | tick rooms =>
    cases rooms with
    | nil => exact ⟨rfl, fun _ => id⟩
    | cons r' rooms => exact ⟨Server.site_updateGame (hne r' rooms rfl) _, fun _ => id⟩
  | advance r' inputs rooms =>
    have hr := hne r' rooms rfl
    exact ⟨Server.site_updateGame hr _, fun _ hrest => ⟨hrest, fun he => absurd he hr⟩⟩
  | arguments r' state gameOver winner rooms =>
    have hr := hne r' rooms rfl
    rcases next_arguments ch s r' state gameOver winner rooms with
      ⟨st, go, w, -, rfl, rfl, hnext⟩ | ⟨state', gameOver', winner', hnext, -⟩ <;>
      (rw [hnext]; exact ⟨rfl, fun _ hpc => ⟨hpc.1, fun he => absurd he hr⟩⟩)
  | callback r' state gameOver w rooms =>
    have hr := hne r' rooms rfl
    rw [next]
    split
    · next r'' hroom =>
      obtain ⟨rfl, -⟩ := Server.getRoom_eq_some hroom
      exact ⟨rfl, fun _ hpc => ⟨hpc.1, fun he => absurd he hr⟩⟩
    · exact ⟨rfl, fun _ hpc => hpc.1⟩
  | stateNotify r' state gameOver w rooms =>
    have hr := hne r' rooms rfl
    rw [next]
    cases gameOver with
    | true => exact ⟨rfl, fun _ hpc => ⟨hpc.1, fun he => absurd he hr⟩⟩
    | false => exact ⟨rfl, fun _ hpc => hpc.1⟩
  | setSettlement r' w ls rooms =>
    have hr := hne r' rooms rfl
    exact ⟨Server.site_updateRoom hr _, fun _ hpc => ⟨hpc.1, fun he => absurd he hr⟩⟩
  | attempt r' w ls rooms =>
    have hr := hne r' rooms rfl
    rw [next]
    split
    · exact ⟨Server.site_setPending_of_ne hr _, fun _ hpc => hpc.1⟩
    · exact ⟨Server.site_call_of_ne (e := .attempt r' ch.steadyMs) hr _,
        fun _ hpc => (if_neg hr).mpr hpc.1⟩
  | createBattle r' w ls rooms =>
    have hr := hne r' rooms rfl
    rw [next]
    split
    · exact ⟨Server.site_call_of_ne (e := .createBattle r' ch.battleId) hr _,
        fun _ hpc => (if_neg hr).mpr ((if_neg hr).mp hpc)⟩
    · exact ⟨rfl, fun _ hpc => (if_neg hr).mpr ((if_neg hr).mp hpc)⟩
  | settleBattle r' w ls rooms =>
    have hr := hne r' rooms rfl
    have hlog := Server.site_logBattle_of_ne (s := s)
      (e := .settleBattle r' (s.pending r').battleId w ls ch.settled) hr
    rw [next]
    split
    · exact ⟨rfl, fun _ hpc => (if_neg hr).mp hpc⟩
    · dsimp only
      split
      -- A settled battle erases the entry of its own room.
      · exact ⟨(Server.site_setPending_of_ne hr none).trans hlog,
          fun _ hpc => (if_neg hr).mpr ((if_neg hr).mp hpc)⟩
      · exact ⟨hlog, fun _ hpc => (if_neg hr).mp hpc⟩
  | tail pc rooms =>
    have hr := hne pc.roomId rooms rfl
    rw [next_tail]
    refine ⟨TailPc.site_next hr, fun _ hpc => ?_⟩
    have hrest := (if_neg hr).mp hpc
    cases hpc' : (pc.next s).2 with
    | none => exact hrest
    | some pc' => exact (if_neg ((TailPc.roomId_next hpc').symm ▸ hr)).mpr hrest

end

/-! ## The loop in the room -/

section

variable [Axis F] {r : RoomId} {q : Retry} {s : Server F}

theorem Site.Untouched.advances {v v' : Site F} (h : v.Untouched v') : q.Advances r v q v' :=
  ⟨h.toKept, Or.inl ⟨h.calls, rfl⟩⟩

/-- A new entry of `pending_settlements_` and more calls. -/
theorem Site.kept_call (v : Site F) (pending : Option PendingSettlement)
    (calls : List BattleEvent) : v.Kept { v with pending := pending, calls := calls } :=
  { (Site.Untouched.refl v).toKept with }

/-- A step that makes a call for the room. -/
theorem Site.advances_call {v : Site F} (hover : v.game.gameOver = true) {e : BattleEvent}
    (he : e.roomId = r) {q' : Retry} (hq : q.next v.game.winnerId v.losers e = some q')
    (pending : Option PendingSettlement) :
    q.Advances r v q' { v with pending := pending, calls := v.calls ++ [e] } where
  kept := v.kept_call _ _
  calls := Or.inr ⟨hover, e, rfl, (if_pos he).trans hq⟩

namespace Server

theorem untouched_exec (s : Server F) (r r' : RoomId) (sec : GameRoom.Section F) :
    (s.site r).Untouched ((s.updateGame r' (·.exec sec)).site r) :=
  s.scene.untouched_exec r r' sec

/-- A section of the room that does not put it back to Waiting. -/
theorem untouched_updateRoom (s : Server F) (r : RoomId) {f : Room → Room}
    (hf : ∀ room, room.state ≠ .waiting → (f room).state ≠ .waiting) :
    (s.site r).Untouched ((s.updateRoom r f).site r) :=
  have hstate : ((s.updateRoom r f).site r).state = (f (s.roomHeap r)).state :=
    congrArg Room.state (Function.update_self ..)
  { Site.Untouched.refl (s.site r) with started := fun hs => hstate ▸ hf _ hs }

end Server

/-- The end of the tick callback of the room. -/
theorem TailPc.follows_next {pc : TailPc} (hr : pc.roomId = r)
    (hover : (s.site r).game.gameOver = true) (hpc : pc.Follows q (s.site r)) (rooms : List RoomId) :
    ∃ q', q.Advances r (s.site r) q' ((pc.next s).1.site r) ∧
      (LoopPc.tailed rooms (pc.next s).2).Follows r q' ((pc.next s).1.site r) := by
  have hsame := (Site.Untouched.refl (s.site r)).advances (q := q) (r := r)
  cases pc with
  | announce r' w ls =>
    obtain rfl : r' = r := hr
    have hsite : ((announce r' w ls).next s).1.site r' = _ := Server.site_logBattle rfl
    have hnext : q.next (s.site r').game.winnerId (s.site r').losers (.gameOver r') =
        some { q with stage := .announced } := if_pos hpc
    rw [hsite]
    exact ⟨_, Site.advances_call hover rfl hnext _, (if_pos rfl).mpr ⟨hover, rfl⟩⟩
  | notify r' w ls todo =>
    cases todo with
    | nil => exact ⟨q, hsame, (if_pos hr).mpr ⟨hover, hpc⟩⟩
    | cons p todo =>
      have hsite : ((notify r' w ls (p :: todo)).next s).1.site r = s.site r := by
        rw [next]
        dsimp only
        split <;> rfl
      rw [hsite]
      exact ⟨q, hsame, (if_pos hr).mpr ⟨hover, hpc⟩⟩
  | close r' =>
    obtain rfl : r' = r := hr
    have hclose := s.untouched_updateRoom r' (f := Room.close) fun _ _ h => by cases h
    exact ⟨q, hclose.advances, (if_pos rfl).mpr ⟨hover, hpc⟩⟩
  | removing pc =>
    by_cases herase : pc = .erase r
    · -- the room is gone, and no call is left
      subst herase
      have hsite : ((removing (.erase r)).next s).1.site r = _ :=
        congrArg (fun v : Site F => { v with live := r ∈ s.roomManager.rooms.erase r })
          (Server.site_logBattle (s := s) (e := .removeRoom r) rfl)
      have hnext : q.next (s.site r).game.winnerId (s.site r).losers (.removeRoom r) =
          some { q with stage := .removed } := if_pos hpc
      have hcall := Site.advances_call hover (e := .removeRoom r) rfl hnext (s.site r).pending
      have hgone : r ∉ s.roomManager.rooms.erase r := Finset.notMem_erase _ _
      rw [hsite]
      exact ⟨_, ⟨{ hcall.kept with removed := fun _ => hgone }, hcall.calls⟩,
        (if_pos rfl).mpr ⟨hover, rfl, hgone⟩⟩
    · have hafter : ∀ r', pc ≠ .erase r' := by
        rintro r' rfl
        exact herase (congrArg RemovePc.erase hr)
      have hlog : s.logRemoval pc = s := by
        cases pc with
        | erase r' => exact absurd rfl (hafter r')
        | _ => rfl
      have hsite : ((removing pc).next s).1.site r = s.site r := by
        rw [next, hlog]
        exact pc.site_next hafter
      have hgone := (follows_removing hafter).mp hpc
      rw [hsite]
      refine ⟨q, hsame, ?_⟩
      cases hnext : ((removing pc).next s).2 with
      | none => exact Or.inr hgone
      | some pc' =>
        have hroom := (TailPc.roomId_next hnext).trans hr
        obtain ⟨pc'', hpc'', rfl⟩ := Option.map_eq_some_iff.mp hnext
        refine (if_pos hroom).mpr ⟨hover, ?_⟩
        exact (follows_removing (RemovePc.not_erase hpc'')).mpr hgone

/-- Past `next_attempt` or not. -/
theorem LoopPc.follows_attempt (hfits : q.Fits (s.site r)) (hidle : q.stage = .idle)
    {w : PlayerId} {ls : List PlayerId} (hresult : (s.site r).Result w ls) (ch : LoopChoice)
    (rooms : List RoomId) : ∃ q', q.Advances r (s.site r) q'
        (((attempt r w ls rooms).next ch s).1.site r) ∧
      ((attempt r w ls rooms).next ch s).2.Follows r q'
        (((attempt r w ls rooms).next ch s).1.site r) := by
  rw [next]
  split
  · -- the entry exists from now on
    dsimp only
    rw [Server.site_setPending]
    exact ⟨q, ⟨(s.site r).kept_call _ _, Or.inl ⟨rfl, rfl⟩⟩, Or.inl ⟨hidle, hfits⟩⟩
  · next hlt =>
    have hnext : q.next (s.site r).game.winnerId (s.site r).losers (.attempt r ch.steadyMs) =
        some { q with stage := .attempting, last := some ch.steadyMs } := by
      refine if_pos ⟨hidle, fun earlier hmem => ?_⟩
      rw [← hfits.2 earlier hmem]
      exact Int.not_lt.mp hlt
    dsimp only
    rw [s.site_call (r := r) _ rfl]
    have hkept := (s.site r).kept_call
    refine ⟨_, Site.advances_call hresult.ended rfl hnext _, (if_pos rfl).mpr
      ⟨⟨hfits.1, ?_⟩, rfl, (hkept _ _).result hresult⟩⟩
    rintro _ ⟨⟩
    rfl

/-- `CreateBattle`, unless there is a battle id already. -/
theorem LoopPc.follows_createBattle (hfits : q.Fits (s.site r)) (hstage : q.stage = .attempting)
    {w : PlayerId} {ls : List PlayerId} (hresult : (s.site r).Result w ls) (ch : LoopChoice)
    (rooms : List RoomId) : ∃ q', q.Advances r (s.site r) q'
        (((createBattle r w ls rooms).next ch s).1.site r) ∧
      ((createBattle r w ls rooms).next ch s).2.Follows r q'
        (((createBattle r w ls rooms).next ch s).1.site r) := by
  have hid : q.battleId = (s.pending r).battleId := hfits.1
  rw [next]
  split
  · next hzero =>
    have hnext : q.next (s.site r).game.winnerId (s.site r).losers
        (.createBattle r ch.battleId) = some { q with
          stage := if ch.battleId = 0 then .idle else .created
          battleId := ch.battleId } :=
      if_pos ⟨hstage, hid.trans hzero⟩
    dsimp only
    rw [s.site_call (r := r) _ rfl]
    have hkept := (s.site r).kept_call
    refine ⟨_, Site.advances_call hresult.ended rfl hnext _, (if_pos rfl).mpr
      ⟨⟨rfl, hfits.2⟩, ?_, (hkept _ _).result hresult⟩⟩
    dsimp only
    split
    · rfl
    · exact Or.inr rfl
  · next hne =>
    have hne' : q.battleId ≠ 0 := fun he => hne (hid.symm.trans he)
    refine ⟨q, (Site.Untouched.refl _).advances, (if_pos rfl).mpr ⟨hfits, ?_, hresult⟩⟩
    rw [if_neg hne']
    exact Or.inl hstage

/-- `SettleBattle`, if there is a battle id. -/
theorem LoopPc.follows_settleBattle (hfits : q.Fits (s.site r))
    (hstage : if q.battleId = 0 then q.stage = .idle
      else q.stage = .attempting ∨ q.stage = .created)
    {w : PlayerId} {ls : List PlayerId} (hresult : (s.site r).Result w ls) (ch : LoopChoice)
    (rooms : List RoomId) : ∃ q', q.Advances r (s.site r) q'
        (((settleBattle r w ls rooms).next ch s).1.site r) ∧
      ((settleBattle r w ls rooms).next ch s).2.Follows r q'
        (((settleBattle r w ls rooms).next ch s).1.site r) := by
  have hid : q.battleId = (s.pending r).battleId := hfits.1
  rw [next]
  split
  · next hzero =>
    rw [if_pos (hid.trans hzero)] at hstage
    exact ⟨q, (Site.Untouched.refl _).advances, Or.inl ⟨hstage, hfits⟩⟩
  · next hne =>
    have hne' : q.battleId ≠ 0 := fun he => hne (hid.symm.trans he)
    rw [if_neg hne'] at hstage
    have hnext : q.next (s.site r).game.winnerId (s.site r).losers
        (.settleBattle r (s.pending r).battleId w ls ch.settled) =
        some { q with stage := if ch.settled then .settled else .idle } :=
      if_pos ⟨hstage, hne', hid.symm, hresult.winner, hresult.losers⟩
    dsimp only
    split
    · next hsettled =>
      rw [if_pos hsettled] at hnext
      rw [Server.site_setPending, Server.site_logBattle (r := r) rfl]
      exact ⟨_, Site.advances_call hresult.ended rfl hnext _, (if_pos rfl).mpr ⟨hresult.ended, rfl⟩⟩
    · next hsettled =>
      rw [if_neg hsettled] at hnext
      rw [Server.site_logBattle (r := r) rfl]
      exact ⟨_, Site.advances_call hresult.ended rfl hnext _, Or.inl ⟨rfl, hfits⟩⟩

/-- **Every step of the loop is one that the machine allows.** -/
theorem LoopPc.follows_next {pc : LoopPc F} (hpc : pc.Follows r q (s.site r)) (ch : LoopChoice) :
    ∃ q', q.Advances r (s.site r) q' ((pc.next ch s).1.site r) ∧
      (pc.next ch s).2.Follows r q' ((pc.next ch s).1.site r) := by
  have hsame := (Site.Untouched.refl (s.site r)).advances (q := q) (r := r)
  by_cases hhere : pc.rooms.head? = some r
  swap
  · obtain ⟨hsite, hfollows⟩ := elsewhere (s := s) (q := q) hhere ch
    rw [hsite]
    exact ⟨q, hsame, hfollows _ hpc⟩
  cases pc with
  | copyRooms => cases hhere
  | tick rooms =>
    cases rooms with
    | nil => cases hhere
    | cons r' rooms =>
      have hpop := s.untouched_exec r r' .popAll
      exact ⟨q, hpop.advances, hpc.mono hpop⟩
  | advance r' inputs rooms =>
    -- The loop forgets what it knows of the battle, which may end here.
    have hadv := s.untouched_exec r r' (.advance inputs)
    exact ⟨q, hadv.advances, hpc.mono hadv, fun _ => ⟨nofun, nofun, nofun⟩⟩
  | arguments r' state gameOver winner rooms =>
    obtain rfl : r' = r := Option.some.inj hhere
    obtain ⟨hrest, hargs⟩ := hpc
    obtain ⟨hkeys, hover, hwinner⟩ := hargs rfl
    rcases next_arguments ch s r' state gameOver winner rooms with
      ⟨st, go, w, hw, rfl, rfl, hnext⟩ | ⟨state', gameOver', winner', hnext, hstate, hw, hgo⟩
    · rw [hnext]
      refine ⟨q, hsame, hrest, fun _ => ?_⟩
      rintro rfl
      have hwin := hwinner nofun w hw
      refine ⟨hover rfl, hwin, ?_⟩
      rw [hkeys st rfl, hwin]
      rfl
    · rw [hnext]
      refine ⟨q, hsame, hrest, fun _ => ⟨fun st hst => ?_, fun hg => ?_, fun hg w hmem => ?_⟩⟩
      · rcases hstate st hst with hst | rfl
        · exact hkeys st hst
        · rfl
      · rcases hgo with rfl | ⟨-, rfl⟩
        · exact hover hg
        · exact Option.some.inj hg
      · rcases hw w hmem with hmem | rfl
        · rcases hgo with rfl | ⟨rfl, -⟩
          · exact hwinner hg w hmem
          · exact hwinner nofun w hmem
        · rfl
  | callback r' state gameOver w rooms =>
    obtain ⟨hrest, hargs⟩ := hpc
    rw [next]
    split
    · next r'' hroom =>
      obtain ⟨rfl, hmem⟩ := Server.getRoom_eq_some hroom
      refine ⟨q, hsame, hrest, ?_⟩
      rintro rfl
      exact ⟨hrest.idle hmem, hargs rfl⟩
    · exact ⟨q, hsame, hrest⟩
  | stateNotify r' state gameOver w rooms =>
    obtain ⟨hrest, hargs⟩ := hpc
    rw [next]
    cases gameOver with
    | false => exact ⟨q, hsame, hrest⟩
    | true => exact ⟨q, hsame, hrest, fun hr => ⟨(hargs hr).1, (hargs hr).2 rfl⟩⟩
  | setSettlement r' w ls rooms =>
    obtain rfl : r' = r := Option.some.inj hhere
    have hset := s.untouched_updateRoom r' fun _ => Room.started_setSettlement
    obtain ⟨hidle, hresult⟩ := hpc.2 rfl
    exact ⟨q, hset.advances, hpc.1.mono hset, fun _ => ⟨hidle, hset.result hresult⟩⟩
  | attempt r' w ls rooms =>
    obtain rfl : r' = r := Option.some.inj hhere
    obtain ⟨hidle, hresult⟩ := hpc.2 rfl
    exact follows_attempt (hpc.1.fits hidle) hidle hresult ch rooms
  | createBattle r' w ls rooms =>
    obtain rfl : r' = r := Option.some.inj hhere
    obtain ⟨hfits, hstage, hresult⟩ := (if_pos rfl).mp hpc
    exact follows_createBattle hfits hstage hresult ch rooms
  | settleBattle r' w ls rooms =>
    obtain rfl : r' = r := Option.some.inj hhere
    obtain ⟨hfits, hstage, hresult⟩ := (if_pos rfl).mp hpc
    exact follows_settleBattle hfits hstage hresult ch rooms
  | tail pc rooms =>
    have hr : pc.roomId = r := Option.some.inj hhere
    obtain ⟨hover, hfollows⟩ := (if_pos hr).mp hpc
    rw [next_tail]
    exact TailPc.follows_next hr hover hfollows rooms

end

/-! ## All tasks -/

section

variable [Axis F] {r : RoomId} {v v' : Site F} {pc pc' : LoopPc F}

theorem TailPc.Follows.mono {q : Retry} {pc : TailPc} (h : pc.Follows q v)
    (hv : v.Untouched v') : pc.Follows q v' := by
  cases pc with
  | removing pc =>
    cases pc with
    | erase r' => exact h
    | _ => exact ⟨h.1, hv.removed h.2⟩
  | _ => exact h

/-- The steps of the others do not disturb the loop, unless they change the winner between
`WinnerId` and `IsGameOver`. -/
theorem LoopPc.Follows.mono {q : Retry} (h : pc.Follows r q v) (hv : v.Untouched v')
    (hwinner : pc.reading r = true → v'.game.winnerId = v.game.winnerId) : pc.Follows r q v' := by
  cases pc with
  | copyRooms => exact Retry.Resting.mono h hv
  | tick rooms => exact Retry.Resting.mono h hv
  | advance r' inputs rooms => exact Retry.Resting.mono h hv
  | arguments r' state gameOver winner rooms =>
    refine ⟨h.1.mono hv, fun hr => ?_⟩
    obtain ⟨hkeys, hover, hw⟩ := h.2 hr
    refine ⟨fun st hst => (hkeys st hst).trans hv.keys.symm, fun hg => (hv.ended (hover hg)).1,
      fun hg w hmem => (hw hg w hmem).trans ?_⟩
    cases gameOver with
    | none => exact (hwinner (by cases hmem; simpa [reading] using hr)).symm
    | some go =>
      cases go with
      | true => exact (hv.ended (hover rfl)).2.symm
      | false => exact absurd rfl hg
  | callback r' state gameOver w rooms =>
    exact ⟨h.1.mono hv, fun hr hg => hv.result (h.2 hr hg)⟩
  | stateNotify r' state gameOver w rooms =>
    exact ⟨h.1.mono hv, fun hr => ⟨(h.2 hr).1, fun hg => hv.result ((h.2 hr).2 hg)⟩⟩
  | setSettlement r' w ls rooms =>
    exact ⟨h.1.mono hv, fun hr => ⟨(h.2 hr).1, hv.result (h.2 hr).2⟩⟩
  | attempt r' w ls rooms =>
    exact ⟨h.1.mono hv, fun hr => ⟨(h.2 hr).1, hv.result (h.2 hr).2⟩⟩
  | createBattle r' w ls rooms =>
    by_cases hr : r' = r
    · obtain ⟨hfits, hstage, hresult⟩ := (if_pos hr).mp h
      exact (if_pos hr).mpr ⟨hfits.congr hv.pending, hstage, hv.result hresult⟩
    · exact (if_neg hr).mpr (Retry.Resting.mono ((if_neg hr).mp h) hv)
  | settleBattle r' w ls rooms =>
    by_cases hr : r' = r
    · obtain ⟨hfits, hstage, hresult⟩ := (if_pos hr).mp h
      exact (if_pos hr).mpr ⟨hfits.congr hv.pending, hstage, hv.result hresult⟩
    · exact (if_neg hr).mpr (Retry.Resting.mono ((if_neg hr).mp h) hv)
  | tail pc rooms =>
    by_cases hr : pc.roomId = r
    · obtain ⟨hover, htail⟩ := (if_pos hr).mp h
      exact (if_pos hr).mpr ⟨(hv.ended hover).1, htail.mono hv⟩
    · exact (if_neg hr).mpr (Retry.Resting.mono ((if_neg hr).mp h) hv)

omit [Axis F] in
/-- A loop that does not know the room is in step with a machine at rest. -/
theorem LoopPc.follows_of_notMem {q : Retry} (hrest : q.Resting v) (hr : r ∉ pc.rooms) :
    pc.Follows r q v := by
  have hne : ∀ r' rooms, pc.rooms = r' :: rooms → r' ≠ r := by
    rintro r' rooms hpc rfl
    exact hr (hpc ▸ List.mem_cons_self)
  cases pc with
  | copyRooms => exact hrest
  | tick rooms => exact hrest
  | advance r' inputs rooms => exact hrest
  | createBattle r' w ls rooms => exact (if_neg (hne r' rooms rfl)).mpr hrest
  | settleBattle r' w ls rooms => exact (if_neg (hne r' rooms rfl)).mpr hrest
  | tail pc rooms => exact (if_neg (hne pc.roomId rooms rfl)).mpr hrest
  | _ => exact ⟨hrest, fun he => absurd he (hne _ _ rfl)⟩

/-- The battle of the room has been registered, and its settlement is one of the machine's. -/
structure Site.Settling (r : RoomId) (pc : LoopPc F) (v : Site F) : Prop where
  old : r < v.nextRoomId
  started : v.state ≠ .waiting
  battle : ∃ players sections, v.game = (GameRoom.start { roomId := r } players).run sections
  quiet : v.game.gameOver = false → v.calls = []
  machine : ∃ q : Retry, pc.Follows r q v ∧
    v.calls.foldlM (Retry.step r v.game.winnerId v.losers) {} = some q

/-- **A step that the machine allows.** -/
theorem Site.Settling.step (h : v.Settling r pc)
    (hstep : ∀ q : Retry, pc.Follows r q v → ∃ q', q.Advances r v q' v' ∧ pc'.Follows r q' v') :
    v'.Settling r pc' := by
  obtain ⟨q, hfollows, hcalls⟩ := h.machine
  obtain ⟨q', ⟨hkept, hadv⟩, hfollows'⟩ := hstep q hfollows
  obtain ⟨players, sections, hbattle⟩ := h.battle
  obtain ⟨later, hgame⟩ := hkept.game
  refine ⟨Int.lt_of_lt_of_le h.old hkept.nextRoomId, hkept.started h.started,
    ⟨players, sections ++ later, ?_⟩, fun hover => ?_, q', hfollows', ?_⟩
  · rw [hgame, hbattle]
    exact (List.foldl_append ..).symm
  · -- a battle that goes on has gone on before
    have hbefore : v.game.gameOver = false := by
      cases hg : v.game.gameOver with
      | false => rfl
      | true => exact (hkept.ended hg).1.symm.trans hover
    rcases hadv with ⟨hsame, -⟩ | ⟨hover', -⟩
    · exact hsame.trans (h.quiet hbefore)
    · rw [hbefore] at hover'
      cases hover'
  · cases hover : v.game.gameOver with
    | true =>
      rw [(hkept.ended hover).2, hkept.losers hover]
      rcases hadv with ⟨hsame, rfl⟩ | ⟨-, e, hcall, hq⟩
      · rw [hsame]
        exact hcalls
      · rw [hcall, List.foldlM_append, hcalls]
        simpa using hq
    | false =>
      rcases hadv with ⟨hsame, rfl⟩ | ⟨hover', -⟩
      · -- no call yet, so the winner does not matter
        rw [h.quiet hover] at hcalls
        rw [hsame, h.quiet hover]
        exact hcalls
      · rw [hover] at hover'
        cases hover'

/-- Nobody has won a battle that goes on. -/
theorem Site.Settling.winnerId (h : v.Settling r pc) (hover : v.game.gameOver = false) :
    v.game.winnerId = 0 := by
  obtain ⟨players, sections, hbattle⟩ := h.battle
  rw [hbattle] at hover ⊢
  exact GameRoom.winnerId_run sections (fun _ => rfl) hover

end

/-! ## Runs -/

/-- The battle of the room has not been registered yet. -/
def Tasks.Before (r : RoomId) (c : Tasks ι F) : Prop :=
  (c.shared.site r).state = .waiting ∨ ∃ i, (c.threads i).starts = some r

/-- `EliminatePlayer` does not decide the battle of the room `r` while the game loop has evaluated
`WinnerId` for its callback, and not yet `IsGameOver`. -/
def Tasks.SurrendersUnread (r : RoomId) (c : Tasks ι F) (e : Option ι × TaskChoice) : Prop :=
  ∀ x ∈ (c.threads e.1).surrender, x.2 = r → (c.threads none).reading r = true →
    ¬ (c.shared.gameHeap r).Decides x.1

instance (r : RoomId) (c : Tasks ι F) (e : Option ι × TaskChoice) :
    Decidable (c.SurrendersUnread r e) :=
  inferInstanceAs (Decidable (∀ x ∈ (c.threads e.1).surrender, _))

section

variable [Axis F]

/-- The calls for the room are those of one settlement, with the winner of its battle and the other
players it was started with as losers. -/
def Server.SettlesOnce (s : Server F) (r : RoomId) : Prop :=
  s.calls r = [] ∨ ∃ players sections losers,
    s.gameHeap r = (GameRoom.start { roomId := r } players).run sections ∧
    (s.gameHeap r).gameOver = true ∧
    (∀ p, p ∈ losers ↔ p ∈ players ∧ p ≠ (s.gameHeap r).winnerId) ∧
    Justified (fun past e => e.Allowed r (s.gameHeap r).winnerId losers past) (s.calls r)

/-- The invariant of a run: no call before the battle is registered, and those of the machine
after that. -/
structure Tasks.Retries (r : RoomId) (c : Tasks ι F) : Prop where
  order : c.InOrder
  before : c.Before r → (c.shared.site r).calls = [] ∧ (c.shared.site r).pending = none
  after : ¬ c.Before r → ∃ pc, c.threads none = .loop pc ∧ (c.shared.site r).Settling r pc

variable {r : RoomId} {c : Tasks ι F}

theorem Site.Settling.settlesOnce {s : Server F} {pc : LoopPc F}
    (h : (s.site r).Settling r pc) : s.SettlesOnce r := by
  obtain ⟨players, sections, hbattle⟩ := h.battle
  obtain ⟨q, -, hcalls⟩ := h.machine
  change s.gameHeap r = _ at hbattle
  cases hover : (s.gameHeap r).gameOver with
  | false => exact Or.inl (h.quiet hover)
  | true =>
    refine Or.inr ⟨players, sections, (s.site r).losers, hbattle, hover, fun p => ?_,
      Retry.justified hcalls⟩
    have hkeys : p ∈ (s.gameHeap r).state.players.keys ↔ p ∈ players := by
      rw [hbattle, GameRoom.keys_run]
      refine (GameRoom.mem_keys_spawn players _ _).trans ?_
      simp
    exact List.mem_filter.trans (and_congr hkeys (decide_eq_true_iff ..))

theorem Tasks.Retries.settlesOnce (h : c.Retries r) : c.shared.SettlesOnce r := by
  by_cases hbefore : c.Before r
  · exact Or.inl (h.before hbefore).1
  · obtain ⟨pc, -, hsettling⟩ := h.after hbefore
    exact hsettling.settlesOnce

/-- A step of the game loop. -/
theorem Tasks.Retries.loop [DecidableEq ι] (h : c.Retries r) (ch : TaskChoice) :
    Tasks.Retries r (c.step (none, ch)) := by
  obtain ⟨pc, hpc, hnews⟩ := h.order.news
  obtain ⟨hshared, hself, hothers⟩ := Tasks.step_loop hpc ch
  have hstarts : ∀ i, ((c.step (none, ch)).threads i).starts = (c.threads i).starts := by
    rintro (_ | i)
    · rw [hself, hpc]
      rfl
    · rw [hothers]
  by_cases hbefore : c.Before r
  · -- the loop does not know the room
    obtain ⟨-, hrooms, -⟩ := hnews.unheard r hbefore
    have hhere : pc.rooms.head? ≠ some r := fun he => hrooms (List.mem_of_head? he)
    have hsite : (c.step (none, ch)).shared.site r = c.shared.site r := by
      rw [hshared]
      exact (LoopPc.elsewhere (q := {}) hhere ch.loop).1
    have hsame : Tasks.Before r (c.step (none, ch)) := by
      unfold Before at hbefore ⊢
      rw [hsite]
      simpa only [hstarts] using hbefore
    refine ⟨h.order.step _, fun _ => ?_, fun hafter => absurd hsame hafter⟩
    rw [hsite]
    exact h.before hbefore
  · obtain ⟨pc', hpc', hsettling⟩ := h.after hbefore
    obtain rfl : pc' = pc := Task.loop.inj (hpc'.symm.trans hpc)
    have hnew := hsettling.step fun q hq => LoopPc.follows_next hq ch.loop
    have hnever : ¬ Tasks.Before r (c.step (none, ch)) := by
      unfold Before
      rw [hshared]
      simp only [hstarts]
      exact fun hb => hb.elim hnew.started fun hi => hbefore (Or.inr hi)
    refine ⟨h.order.step _, fun hb => absurd hb hnever, fun _ => ⟨_, hself, ?_⟩⟩
    rw [hshared]
    exact hnew

/-- A step of another task. -/
theorem Tasks.Retries.task [DecidableEq ι] (h : c.Retries r) (i : ι) (ch : TaskChoice)
    (hsafe : c.SurrendersUnread r (some i, ch)) : Tasks.Retries r (c.step (some i, ch)) := by
  obtain ⟨pc, hpc, hnews⟩ := h.order.news
  let surrenders : RoomId → PlayerId → Prop := fun r p =>
    (c.threads (some i)).surrender = some (p, r)
  obtain ⟨hchange, -⟩ : c.shared.scene.Change surrenders _ _ _ ∧ _ :=
    Task.scene (h.order.others i) (fun _ _ => id) ch
  have hself : (c.step (some i, ch)).threads (some i) =
      (Task.next ch c.shared (c.threads (some i))).2 := Sys.step_threads_self
  have hother : ∀ j, j ≠ some i → (c.step (some i, ch)).threads j = c.threads j :=
    fun j hj => Sys.step_threads_of_ne hj
  have hpc' : (c.step (some i, ch)).threads none = .loop pc := (hother none nofun).trans hpc
  -- Another task keeps what the callback has done.
  have hcalls : (c.step (some i, ch)).shared.calls r = c.shared.calls r :=
    congrArg (List.filter fun e : BattleEvent => e.roomId = r) hchange.quiet.2.2
  have hpending : (c.step (some i, ch)).shared.pendingSettlements = c.shared.pendingSettlements :=
    hchange.quiet.2.1
  have hquiet : c.Before r → ((c.step (some i, ch)).shared.site r).calls = [] ∧
      ((c.step (some i, ch)).shared.site r).pending = none := fun hb =>
    ⟨hcalls.trans (h.before hb).1, (congrFun hpending r).trans (h.before hb).2⟩
  by_cases hi : (c.threads (some i)).starts = some r
  · have hbefore : c.Before r := Or.inr ⟨some i, hi⟩
    refine ⟨h.order.step _, fun _ => hquiet hbefore, fun hafter => ⟨pc, hpc', ?_⟩⟩
    rw [hi] at hchange
    rcases hchange.registers with ⟨-, hwaits⟩ | ⟨-, players, hscene⟩
    · exact absurd (Or.inr ⟨some i, hself ▸ hwaits⟩) hafter
    · -- The battle is registered: the loop does not know it yet, and the callback has done nothing.
      obtain ⟨-, hrooms, -⟩ := hnews.unheard r hbefore
      have hstarted := hnews.started (some i) r hi
      have hold : r < c.shared.nextRoomId :=
        not_le.mp fun hle => hstarted (hnews.fresh r hle).1
      obtain ⟨hnone, hentry⟩ := hquiet hbefore
      have hsite : (c.step (some i, ch)).shared.site r =
          { c.shared.site r with game := GameRoom.start { roomId := r } players } := by
        have hgame : Function.update c.shared.gameHeap r (GameRoom.start { roomId := r } players) r =
            GameRoom.start { roomId := r } players := Function.update_self ..
        rw [Server.site, Sys.step_shared, hscene]
        exact congrArg (fun game => { c.shared.site r with game := game }) hgame
      rw [hsite] at hnone hentry ⊢
      exact {
        old := hold
        started := hstarted
        battle := ⟨players, [], rfl⟩
        quiet := fun _ => hnone
        machine := ⟨{}, LoopPc.follows_of_notMem (Retry.resting_start hentry) hrooms, by
          rw [hnone]
          rfl⟩ }
  · by_cases hbefore : c.Before r
    · have hsame : Tasks.Before r (c.step (some i, ch)) := by
        rcases hbefore with hwait | ⟨j, hj⟩
        · exact (hchange.waits hwait).imp_right fun hw => ⟨some i, hself ▸ hw⟩
        · exact Or.inr ⟨j, (hother j (by rintro rfl; exact hi hj)).symm ▸ hj⟩
      exact ⟨h.order.step _, fun _ => hquiet hbefore, fun hafter => absurd hsame hafter⟩
    · obtain ⟨pc', hpc'', hsettling⟩ := h.after hbefore
      obtain rfl : pc' = pc := Task.loop.inj (hpc''.symm.trans hpc)
      obtain ⟨huntouched, hnever⟩ := hchange.untouched hsettling.old hsettling.started hi
      -- Only a surrender that decides the battle changes the winner.
      have hwinner : pc'.reading r = true →
          ((c.step (some i, ch)).shared.gameHeap r).winnerId = (c.shared.gameHeap r).winnerId := by
        intro hreading
        refine hchange.winnerId hi hsettling.winnerId fun p hp => ?_
        exact hsafe (p, r) hp rfl (by rw [hpc]; exact hreading)
      have hnew : ((c.step (some i, ch)).shared.site r).Settling r pc' :=
        hsettling.step fun q hq => ⟨q, huntouched.advances, hq.mono huntouched hwinner⟩
      have hafter : ¬ Tasks.Before r (c.step (some i, ch)) := by
        rintro (hwait | ⟨j, hj⟩)
        · exact hnew.started hwait
        · by_cases hji : j = some i
          · exact hnever (hself ▸ hji ▸ hj)
          · exact hbefore (Or.inr ⟨j, hother j hji ▸ hj⟩)
      exact ⟨h.order.step _, fun hb => absurd hb hafter, fun _ => ⟨pc', hpc', hnew⟩⟩

theorem Tasks.Retries.step [DecidableEq ι] (h : c.Retries r) (e : Option ι × TaskChoice)
    (hsafe : c.SurrendersUnread r e) : (c.step e).Retries r := by
  obtain ⟨_ | i, ch⟩ := e
  · exact h.loop ch
  · exact h.task i ch hsafe

theorem Tasks.retries_init (roomPlayerCount : Int) {tasks : ι → Task F}
    (htasks : ∀ i, (tasks i).Starts) (r : RoomId) : (init roomPlayerCount tasks).Retries r where
  order := inOrder_init roomPlayerCount htasks
  before _ := ⟨rfl, rfl⟩
  after h := absurd (Or.inl rfl) h

/--
**The settlement of a room.**

All tasks of the server in any interleaving, whatever the storage answers and whatever the clock
says, as long as no surrender decides the battle of the room while the game loop is between
`WinnerId` and `IsGameOver`. Every call that the tick callback makes for the room is allowed after
the calls it has made before, with the winner of the battle and the other players it was started
with as losers.
-/
theorem Tasks.settles_once [DecidableEq ι] (roomPlayerCount : Int) {tasks : ι → Task F}
    (htasks : ∀ i, (tasks i).Starts) (r : RoomId) (events : List (Option ι × TaskChoice))
    (hsafe : AllSteps step (SurrendersUnread r) (init roomPlayerCount tasks) events) :
    AllStates step (fun c => c.shared.SettlesOnce r) (init roomPlayerCount tasks) events :=
  AllStates.imp (fun _ h => h.settlesOnce) events
    (AllStates.of_allSteps (fun _ e h => h.step e) events
      (retries_init roomPlayerCount htasks r) hsafe)

end

/-! ## Two players -/

/-- Two players log in, ask for a match and get ready; the first of them surrenders. -/
def twoPlayers : Fin 9 → Task Coord
  | 0 => .accept 0
  | 1 => .accept 0
  | 2 => .login (.account 1 (.start "a"))
  | 3 => .login (.account 2 (.start "b"))
  | 4 => .worker (.handleMatch 1 0)
  | 5 => .worker (.handleMatch 2 0)
  | 6 => .worker (.handleReady 1 true)
  | 7 => .worker (.handleReady 2 true)
  | 8 => .worker (.handleLeave 1 0)

theorem twoPlayers_starts : ∀ i, (twoPlayers i).Starts
  | 0 => .accept 0
  | 1 => .accept 0
  | 2 => .login 1 "a"
  | 3 => .login 2 "b"
  | 4 => .match 1 0
  | 5 => .match 2 0
  | 6 => .ready 1 true
  | 7 => .ready 2 true
  | 8 => .leave 1 0

/-- `n` steps of one request. -/
def requestTurns (i : Fin 9) (n : Nat) : List (Option (Fin 9) × TaskChoice) :=
  List.replicate n (some i, {})

/-- Steps of the loop, with these getters and these answers of the clock and the storage. -/
def loopTurns (steadyMs battleId : Int) (settled : Bool) (getters : List Getter) :
    List (Option (Fin 9) × TaskChoice) :=
  getters.map fun getter => (none, { loop := ⟨[1000], getter, steadyMs, battleId, settled⟩ })

/-- One request after the other until the battle is registered. -/
def battleOfTwo : List (Option (Fin 9) × TaskChoice) :=
  requestTurns 0 1 ++ requestTurns 1 1 ++ requestTurns 2 15 ++ requestTurns 3 15 ++
    requestTurns 4 8 ++ requestTurns 5 17 ++ requestTurns 6 3 ++ requestTurns 7 11

/-- The loop until the end of the tick callback. -/
def round (steadyMs battleId : Int) (settled : Bool) : List (Option (Fin 9) × TaskChoice) :=
  loopTurns steadyMs battleId settled [.state, .state, .state, .state, .isGameOver, .winnerId,
    .state, .state, .state, .state, .state, .state, .state, .state]

/-- The surrender comes when `State` has been evaluated. `CreateBattle` fails first, then
`SettleBattle`, then both have succeeded. -/
def thirdAttempt : List (Option (Fin 9) × TaskChoice) :=
  battleOfTwo ++ loopTurns 0 0 false [.state, .state, .state, .state] ++ requestTurns 8 6 ++
    loopTurns 0 0 false [.isGameOver, .winnerId, .state, .state, .state, .state, .state, .state,
      .state, .state] ++
    round 1000 7 false ++ round 2000 8 true ++ round 2001 8 true

theorem settles_once_thirdAttempt :
    (thirdAttempt.foldl Tasks.step (Tasks.init 2 twoPlayers)).shared.calls 1000 =
      [.attempt 1000 0, .createBattle 1000 0, .attempt 1000 1000, .createBattle 1000 7,
        .settleBattle 1000 7 100001 [100000] false, .attempt 1000 2000,
        .settleBattle 1000 7 100001 [100000] true, .gameOver 1000, .removeRoom 1000] ∧
    AllStates Tasks.step (fun c => c.shared.SettlesOnce 1000) (Tasks.init 2 twoPlayers)
      thirdAttempt :=
  ⟨by decide +kernel,
    Tasks.settles_once 2 twoPlayers_starts 1000 thirdAttempt (by decide +kernel)⟩

/-- The surrender comes when `WinnerId` has been evaluated, and `IsGameOver` has not. -/
def tornResult : List (Option (Fin 9) × TaskChoice) :=
  battleOfTwo ++ loopTurns 0 7 false [.state, .state, .state, .winnerId] ++ requestTurns 8 6 ++
    loopTurns 0 7 false [.isGameOver, .state, .state, .state, .state, .state, .state, .state,
      .state, .state] ++
    round 1000 8 true

theorem settles_once_counterexample :
    (tornResult.foldl Tasks.step (Tasks.init 2 twoPlayers)).shared.calls 1000 =
      [.attempt 1000 0, .createBattle 1000 7,
        .settleBattle 1000 7 0 [100000, 100001] false, .attempt 1000 1000,
        .settleBattle 1000 7 100001 [100000] true, .gameOver 1000] ∧
    ¬ ∀ (roomPlayerCount : Int) (tasks : Fin 9 → Task Coord) (r : RoomId)
      (events : List (Option (Fin 9) × TaskChoice)), (∀ i, (tasks i).Starts) →
      AllStates Tasks.step (fun c => c.shared.SettlesOnce r) (Tasks.init roomPlayerCount tasks)
        events := by
  have hcalls : (tornResult.foldl Tasks.step (Tasks.init 2 twoPlayers)).shared.calls 1000 =
      [.attempt 1000 0, .createBattle 1000 7,
        .settleBattle 1000 7 0 [100000, 100001] false, .attempt 1000 1000,
        .settleBattle 1000 7 100001 [100000] true, .gameOver 1000] := by decide +kernel
  refine ⟨hcalls, fun h => ?_⟩
  have hlast := (h 2 twoPlayers 1000 tornResult twoPlayers_starts).last
  rcases hlast with hnone | ⟨players, sections, losers, -, -, -, hjust⟩
  · rw [hcalls] at hnone
    cases hnone
  · rw [hcalls] at hjust
    -- two calls with two winners
    obtain ⟨-, -, -, -, -, hfirst, -⟩ := hjust [.attempt 1000 0, .createBattle 1000 7]
      (.settleBattle 1000 7 0 [100000, 100001] false) _ rfl
    obtain ⟨-, -, -, -, -, hsecond, -⟩ := hjust [.attempt 1000 0, .createBattle 1000 7,
      .settleBattle 1000 7 0 [100000, 100001] false, .attempt 1000 1000]
      (.settleBattle 1000 7 100001 [100000] true) _ rfl
    exact absurd (hfirst.trans hsecond.symm) (by decide)

end Game
