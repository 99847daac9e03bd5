import GameServer.Server.Updates

/-!
# Induction over the handlers

Of the updates that a handler is put together from, a few matter to the rooms and the players: a room
is created, the map entries of a room are erased, a player in memory is changed. What these keep, and
what does not depend on the rest of the server, every event keeps (`StepsKeep.handle`).
-/

namespace Game

namespace Server

variable {F : Type}

/-- The same rooms, map entries and players in memory. -/
structure SameRooms (s s' : Server F) : Prop where
  manager : s'.roomManager = s.roomManager
  members : ∀ r, (s'.roomHeap r).playerIds = (s.roomHeap r).playerIds
  nextRoomId : s'.nextRoomId = s.nextRoomId
  players : s'.playerManager = s.playerManager

/-- The steps that matter keep `P`. -/
structure StepsKeep (P : Server F → Prop) : Prop where
  same : ∀ {s s'}, P s → s.SameRooms s' → P s'
  update : ∀ {s} p f name, P s → P (s.updatePlayers (·.update p f name))
  online : ∀ {s} p session, P s → P (s.updatePlayers (·.setOnline p session))
  offline : ∀ {s} p, P s → P (s.updatePlayers (·.setOffline p))
  create : ∀ {s} players, players.Nodup → P s → P (s.createRoom players).2
  erase : ∀ {s} r, P s → P (s.eraseRoom r).2

namespace StepsKeep

variable {P : Server F → Prop} {s s' : Server F}

/-- What no step keeps from being the same. -/
theorem rest (hP : StepsKeep P) {s' : Server F} (h : P s) (hmanager : s'.roomManager = s.roomManager)
    (hheap : s'.roomHeap = s.roomHeap) (hnext : s'.nextRoomId = s.nextRoomId)
    (hplayers : s'.playerManager = s.playerManager) : P s' :=
  hP.same h ⟨hmanager, fun r => by rw [hheap], hnext, hplayers⟩

/-- A section of a room that neither adds nor removes players. -/
theorem updateRoom (hP : StepsKeep P) (h : P s) (roomId : RoomId) {f : Room → Room}
    (hf : (f (s.roomHeap roomId)).playerIds = (s.roomHeap roomId).playerIds) :
    P (s.updateRoom roomId f) := by
  refine hP.same h ⟨rfl, fun r => ?_, rfl, rfl⟩
  unfold Server.updateRoom
  dsimp only
  rw [Function.update_apply]
  split
  · next hr => rw [hr, hf]
  · rfl

/-- One update. -/
theorem step (hP : StepsKeep P) (h : P s) {matter : Matter} (hupdate : Update matter s s') :
    P s' := by
  cases hupdate with
  | updatePlayer _ p f name => exact hP.update p f name h
  | updateRoom _ roomId f hf => exact hP.updateRoom h roomId hf
  | createRoom _ hnd => exact hP.create _ hnd h
  | eraseRoom _ roomId => exact hP.erase roomId h
  | setOnline _ p session => exact hP.online p session h
  | setOffline _ p => exact hP.offline p h
  | send | broadcast | setSessionRoomId | setPending | updateGame | addGame | removeGame | withQueue
  | answer | record | accounts | bindSession | closeSession | updateConnections
  | updateHeartbeatTime => exact hP.rest h rfl rfl rfl rfl

/-- **What the steps that matter keep, every handler keeps.** -/
theorem via (hP : StepsKeep P) {about : List Matter} (h : P s) (hvia : Via about s s') : P s' := by
  induction hvia with
  | refl => exact h
  | tail _ hstep ih =>
    obtain ⟨matter, -, hupdate⟩ := hstep
    exact hP.step ih hupdate

variable [Axis F]

/-- The same for every event. -/
theorem handle (hP : StepsKeep P) (h : P s) (e : Event F) : P (s.handle e) := by
  cases e with
  | accept nowMs => exact hP.rest h rfl rfl rfl rfl
  | heartbeatScan nowMs => exact hP.rest h rfl rfl rfl rfl
  | tick roomId env => exact hP.via h (via_tick s roomId env)
  | close session =>
    rw [Server.handle]
    split
    · exact hP.via h (via_close s session)
    · exact h
  | packet session nowMs request =>
    rw [Server.handle]
    split
    · exact hP.via h (via_dispatch s session nowMs request)
    · exact h

theorem run (hP : StepsKeep P) : ∀ (events : List (Event F)) {s : Server F}, P s → P (s.run events)
  | [], _, h => h
  | e :: events, _, h => run hP events (hP.handle h e)

end StepsKeep
end Server
end Game
