import GameServer.Room.Lifecycle

/-!
# Starting a room under one lock

`SetReadyAndTryStart` does under one lock what `SetReady`, `CanStart` and `StartGame` do under one
each. On an arbitrary room the two ways are not the same: `SetReadyAndTryStart` ignores a player who
is not in the room, while `CanStart` and `StartGame` do not look at the player at all.

## What makes them the same

The server never leaves a room Waiting once everybody in it is ready (`Pending`). Every call of the
server keeps this, since the only one that can make the last player ready is the one that starts the
room.
-/

namespace Game

open Infra

/-- The calls that the server makes on a room. The tests alone use the others. -/
def RoomCall.ofServer : RoomCall → Bool
  | .addPlayer _ | .setReadyAndTryStart _ _ | .onPlayerDisconnect _ | .onPlayerReconnect _
  | .setSettlement | .close => true
  | .removePlayer _ | .setReady _ _ | .startGame => false

namespace Room

/-- `SetReady`, `CanStart`, and `StartGame` if the room can start, with nothing in between. -/
def setReadyThenStart (room : Room) (playerId : PlayerId) (ready : Bool) : Bool × Room :=
  let room := room.setReady playerId ready
  let canStart := room.canStart
  (canStart, if canStart then room.startGame else room)

/-- A room that is Waiting waits for somebody, unless it is empty. -/
def Pending (room : Room) : Prop :=
  room.state = .waiting → room.allReady = false

/-! ## Every call of the server keeps it -/

theorem Pending.of_state {room : Room} (h : room.state ≠ .waiting) : room.Pending := by
  intro hwait
  exact absurd hwait h

/-- The same players with the same flags. -/
theorem allReady_of_frozen {room room' : Room} (h : room.Frozen room')
    (hids : room'.playerIds = room.playerIds) : room'.allReady = room.allReady := by
  rw [Bool.eq_iff_iff, allReady_iff, allReady_iff, hids]
  refine and_congr_right fun _ => forall₂_congr fun p hp => ?_
  rw [(h p (hids ▸ hp)).2]

theorem pending_addPlayer {room : Room} (h : room.Pending) (p : PlayerId) :
    (room.addPlayer p).Pending := by
  unfold addPlayer
  split
  · exact h
  · intro _
    -- The new player is not ready.
    rw [Bool.eq_false_iff]
    intro hall
    have hready := ready_of_allReady hall (UMap.get_insert_self room.players p {})
    simp at hready

theorem pending_setReadyAndTryStart {room : Room} (h : room.Pending) (p : PlayerId) (ready : Bool) :
    (room.apply (.setReadyAndTryStart p ready)).Pending := by
  cases hcall : room.setReadyAndTryStart p ready with
  | none =>
    rw [apply, hcall]
    exact h
  | some result =>
    obtain ⟨started, room'⟩ := result
    rw [apply, hcall]
    unfold setReadyAndTryStart at hcall
    split at hcall
    · simp at hcall
    · dsimp only at hcall
      split at hcall
      · cases hcall
        exact Pending.of_state (by simp)
      · next hnot =>
        cases hcall
        intro _
        exact Bool.eq_false_iff.mpr hnot

theorem pending_setSettlement {room : Room} (h : room.Pending) : room.setSettlement.Pending := by
  unfold setSettlement
  split
  · exact Pending.of_state (by simp)
  · exact h

/-- A call that only says who is connected. -/
theorem pending_modify {room : Room} (h : room.Pending) (p : PlayerId)
    {f : RoomPlayer → RoomPlayer} (hf : ∀ player, (f player).ready = player.ready) :
    { room with players := room.players.modify p f }.Pending := by
  intro hwait
  have hsame := allReady_of_frozen (frozen_modify room p hf) rfl
  exact hsame.trans (h hwait)

/-- **One call.** -/
theorem Pending.apply {room : Room} (h : room.Pending) {call : RoomCall}
    (hcall : call.ofServer = true) : (room.apply call).Pending := by
  cases call with
  | addPlayer p => exact pending_addPlayer h p
  | setReadyAndTryStart p ready => exact pending_setReadyAndTryStart h p ready
  | onPlayerDisconnect p => exact pending_modify h p fun _ => rfl
  | onPlayerReconnect p => exact pending_modify h p fun _ => rfl
  | setSettlement => exact pending_setSettlement h
  | close => exact Pending.of_state (by simp [Room.apply, close])
  | removePlayer | setReady | startGame => simp [RoomCall.ofServer] at hcall

theorem pending_run {calls : List RoomCall} (hcalls : ∀ call ∈ calls, call.ofServer = true) :
    (calls.foldl apply ({} : Room)).Pending := by
  have hrun : ∀ room : Room, room.Pending → (calls.foldl apply room).Pending := by
    induction calls with
    | nil =>
      intro room h
      exact h
    | cons call calls ih =>
      intro room h
      rw [List.forall_mem_cons] at hcalls
      exact ih hcalls.2 _ (h.apply hcalls.1)
  refine hrun {} ?_
  -- A new room is empty.
  intro _
  simp [allReady, playerIds]

/-! ## The two ways to start -/

theorem canStart_eq (room : Room) : room.canStart = (room.allReady && room.state = .waiting) := by
  rw [Bool.eq_iff_iff, canStart]
  split
  · next h =>
    rcases h with hids | hwait
    · simp [allReady, hids]
    · simp [hwait]
  · next h =>
    rw [not_or, not_not] at h
    simp [allReady, h.1, h.2]

theorem startGame_of_canStart {room : Room} (h : room.canStart = true) :
    room.startGame = { room with state := .playing } := by
  rw [canStart_eq] at h
  exact if_pos (by simpa using h)

/-- Somebody who is in a room that is Waiting. -/
theorem setReadyThenStart_of_mem {room : Room} {p : PlayerId} (hmem : (room.players.get p).isSome)
    (hwait : room.state = .waiting) (ready : Bool) :
    room.setReadyAndTryStart p ready = some (room.setReadyThenStart p ready) := by
  have hfound : ¬ ((room.players.get p).isNone ∨ room.state ≠ .waiting) := by
    simp [hwait, Option.isSome_iff_ne_none.mp hmem]
  have hset : room.setReady p ready =
      { room with players := room.players.modify p ({ · with ready := ready }) } := by
    rw [setReady, if_neg hfound, hwait]
  unfold setReadyAndTryStart setReadyThenStart
  rw [if_neg hfound, hset]
  dsimp only
  rw [canStart_eq, hwait]
  split
  · next hall =>
    have hstart : canStart
        { state := .waiting, players := room.players.modify p ({ · with ready := ready }) } =
          true := by
      rw [canStart_eq]
      simpa using hall
    simp [hall, startGame_of_canStart hstart]
  · next hall => simp [hall]

/-- A request that is ignored leaves nothing to start. -/
theorem setReadyThenStart_of_ignored {room : Room} (h : room.Pending) {p : PlayerId}
    (hignored : (room.players.get p).isNone ∨ room.state ≠ .waiting) (ready : Bool) :
    room.setReadyThenStart p ready = (false, room) := by
  have hcannot : room.canStart = false := by
    rw [canStart_eq]
    by_cases hwait : room.state = .waiting
    · simp [h hwait]
    · simp [hwait]
  unfold setReadyThenStart
  rw [setReady, if_pos hignored]
  simp [hcannot]

/--
**The one-lock start is the three-step start.**

Any calls of the server on a new room, then a request of anybody, in the room or not.
`SetReadyAndTryStart` leaves the same room as the three steps, and it returns what `CanStart` has
returned.
-/
theorem oneLock_eq_threeSteps (calls : List RoomCall)
    (hcalls : ∀ call ∈ calls, call.ofServer = true) (p : PlayerId) (ready : Bool) :
    let room := calls.foldl apply ({} : Room)
    (room.starts (.setReadyAndTryStart p ready), room.apply (.setReadyAndTryStart p ready)) =
      room.setReadyThenStart p ready := by
  intro room
  have hpending : room.Pending := pending_run hcalls
  by_cases hignored : (room.players.get p).isNone ∨ room.state ≠ .waiting
  · have hcall : room.setReadyAndTryStart p ready = none := if_pos hignored
    rw [starts, apply, hcall, setReadyThenStart_of_ignored hpending hignored]
  · rw [not_or, not_not, Bool.not_eq_true, Option.isNone_eq_false_iff] at hignored
    rw [starts, apply, setReadyThenStart_of_mem hignored.1 hignored.2]

/-- The last of two players becomes ready. -/
theorem oneLock_eq_threeSteps_last :
    let room := [.addPlayer 11, .addPlayer 12, .setReadyAndTryStart 11 true].foldl apply ({} : Room)
    (room.starts (.setReadyAndTryStart 12 true), room.apply (.setReadyAndTryStart 12 true)) =
      room.setReadyThenStart 12 true :=
  oneLock_eq_threeSteps [.addPlayer 11, .addPlayer 12, .setReadyAndTryStart 11 true]
    (by decide) 12 true

end Room
end Game
