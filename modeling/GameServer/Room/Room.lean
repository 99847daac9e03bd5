import GameServer.Game.GameState

/-!
# Room

`src/room/room.cpp`: the players of a room, their ready flags and the state of the room. Each
function here is one section under `mutex_`; the broadcasts that follow some of them belong to
the callers.
-/

namespace Game

open Infra

inductive RoomState where
  | waiting
  | playing
  | settlement
  | closed
  deriving DecidableEq

/-- `static_cast<int32_t>` of a state. -/
def RoomState.toInt32 : RoomState → Int
  | .waiting => 0
  | .playing => 2
  | .settlement => 3
  | .closed => 4

/-- A player in a room, under its id. -/
structure RoomPlayer where
  ready : Bool := false
  connected : Bool := true

/-- A room, under its id. -/
structure Room where
  state : RoomState := .waiting
  players : UMap PlayerId RoomPlayer := UMap.empty

namespace Room

/-- `PlayerIds`, in the order of `players`, which stands for the one of the hash table. -/
def playerIds (room : Room) : List PlayerId :=
  room.players.keys

/-- `AddPlayer`. -/
def addPlayer (room : Room) (playerId : PlayerId) : Room :=
  if room.state ≠ .waiting then room
  else { room with players := room.players.insert playerId {} }

/-- `RemovePlayer`. -/
def removePlayer (room : Room) (playerId : PlayerId) : Room :=
  { room with players := room.players.erase playerId }

/-- The section of `SetReady`; a request that is ignored leaves the room alone. -/
def setReady (room : Room) (playerId : PlayerId) (ready : Bool) : Room :=
  if (room.players.get playerId).isNone ∨ room.state ≠ .waiting then room
  else
    { state := .waiting
      players := room.players.modify playerId ({ · with ready := ready }) }

/-- Whether every player is ready. -/
def allReady (room : Room) : Bool :=
  room.playerIds ≠ [] ∧
    room.playerIds.all fun p => (room.players.get p).any RoomPlayer.ready

/-- `SetReadyAndTryStart`: whether the room started, or `none` when the request is ignored. -/
def setReadyAndTryStart (room : Room) (playerId : PlayerId) (ready : Bool) :
    Option (Bool × Room) :=
  if (room.players.get playerId).isNone ∨ room.state ≠ .waiting then none
  else
    let room := { room with players := room.players.modify playerId ({ · with ready := ready }) }
    if room.allReady then some (true, { room with state := .playing })
    else some (false, { room with state := .waiting })

/-- `CanStart`. -/
def canStart (room : Room) : Bool :=
  if room.playerIds = [] ∨ room.state ≠ .waiting then false
  else room.playerIds.all fun p => (room.players.get p).any RoomPlayer.ready

/-- `StartGame`. -/
def startGame (room : Room) : Room :=
  if room.allReady ∧ room.state = .waiting then { room with state := .playing } else room

/-- `SetSettlement`. -/
def setSettlement (room : Room) : Room :=
  if room.state = .playing then { room with state := .settlement } else room

/-- `Close`. -/
def close (room : Room) : Room :=
  { room with state := .closed }

/-- `OnPlayerDisconnect`. -/
def onPlayerDisconnect (room : Room) (playerId : PlayerId) : Room :=
  { room with players := room.players.modify playerId ({ · with connected := false }) }

/-- The section of `OnPlayerReconnect`. -/
def onPlayerReconnect (room : Room) (playerId : PlayerId) : Room :=
  { room with players := room.players.modify playerId ({ · with connected := true }) }

/-! ## Who is in the room -/

@[simp] theorem playerIds_setSettlement (room : Room) :
    room.setSettlement.playerIds = room.playerIds := by
  unfold setSettlement
  split <;> rfl

/-- A room that has started does not go back to Waiting. -/
theorem started_setSettlement {room : Room} (h : room.state ≠ .waiting) :
    room.setSettlement.state ≠ .waiting := by
  unfold setSettlement
  split
  · simp
  · exact h

@[simp] theorem playerIds_close (room : Room) : room.close.playerIds = room.playerIds := rfl

@[simp] theorem playerIds_onPlayerDisconnect (room : Room) (p : PlayerId) :
    (room.onPlayerDisconnect p).playerIds = room.playerIds := rfl

@[simp] theorem playerIds_onPlayerReconnect (room : Room) (p : PlayerId) :
    (room.onPlayerReconnect p).playerIds = room.playerIds := rfl

theorem playerIds_setReadyAndTryStart {room room' : Room} {p : PlayerId} {ready started : Bool}
    (h : room.setReadyAndTryStart p ready = some (started, room')) :
    room'.playerIds = room.playerIds := by
  unfold setReadyAndTryStart at h
  split at h
  · simp at h
  · dsimp only at h
    split at h <;> · cases h; rfl

/-- What `SetReadyAndTryStart` does to the state when it does anything. -/
theorem state_setReadyAndTryStart {room room' : Room} {p : PlayerId} {ready started : Bool}
    (h : room.setReadyAndTryStart p ready = some (started, room')) :
    room.state = .waiting ∧ room'.state = if started then .playing else .waiting := by
  unfold setReadyAndTryStart at h
  split at h
  · simp at h
  · next hn =>
    have hw : room.state = .waiting := by
      by_contra hw
      exact hn (Or.inr hw)
    dsimp only at h
    split at h <;> · cases h; exact ⟨hw, rfl⟩

/-- What `SetReadyAndTryStart` does to the players, and when the room starts. -/
theorem players_setReadyAndTryStart {room room' : Room} {p : PlayerId} {ready started : Bool}
    (h : room.setReadyAndTryStart p ready = some (started, room')) :
    (room.players.get p).isSome ∧
      room'.players = room.players.modify p ({ · with ready := ready }) ∧
      (started = true → room'.allReady = true) := by
  unfold setReadyAndTryStart at h
  split at h
  · simp at h
  · next hn =>
    have hmem : (room.players.get p).isSome := by
      by_contra hnone
      exact hn (Or.inl (by simpa using hnone))
    dsimp only at h
    split at h
    · next hall => cases h; exact ⟨hmem, rfl, fun _ => hall⟩
    · cases h; exact ⟨hmem, rfl, nofun⟩

theorem ready_of_allReady {room : Room} (h : room.allReady = true) {p : PlayerId} {x : RoomPlayer}
    (hp : room.players.get p = some x) : x.ready = true := by
  unfold allReady at h
  rw [decide_eq_true_iff, List.all_eq_true] at h
  have hready := h.2 p (UMap.mem_keys_of_get hp)
  rwa [hp] at hready

end Room
end Game
