import GameServer.Game.GameRoom
import GameServer.Match.MatchQueue
import GameServer.Player.PlayerManager
import GameServer.Room.Room

/-!
# State of the server

Everything that the services reach through `ServiceContext`, as one record.

Sessions, rooms and battles are shared objects: a handler may hold a pointer to one after the
manager has dropped it. They live in heaps (`sessionHeap`, `roomHeap`, `gameHeap`) addressed by
their ids, and the managers only say which of them are registered.
-/

namespace Game

open Infra

/-- The messages that the server sends, as in the `.proto` files. -/
inductive Message (F : Type) where
  | loginResponse (code : Int) (playerId : PlayerId) (name sessionToken : String)
  | heartbeatResponse (serverTimeMs : Int)
  | reconnectResponse (code : Int) (roomId : RoomId)
  | matchResponse (code : Int) (message : String)
  | matchSuccessNotify (roomId : RoomId) (playerIds : List PlayerId)
  | matchCancelResponse (code : Int) (message : String)
  | readyNotify (playerId : PlayerId) (ready : Bool)
  | roomStateNotify (roomId : RoomId) (state : Int) (playerIds : List PlayerId)
  | leaveRoomResponse (code : Int) (message : String)
  | playerLeaveRoomNotify (roomId : RoomId) (playerId : PlayerId) (reason : Int)
  | gameStateNotify (roomId : RoomId) (frameId : Int) (players : List (PlayerId × F × F × Int))
  | gameOverNotify (roomId : RoomId) (winnerId : PlayerId) (loserIds : List PlayerId)

/-- `rooms_` and `player_room_map_`. -/
structure RoomManager where
  rooms : Finset RoomId := ∅
  playerRoomMap : PlayerId → Option RoomId := fun _ => none

/-- `account_players_` and `session_tokens_`. -/
structure LoginService where
  accountPlayers : String → Option PlayerId := fun _ => none
  sessionTokens : PlayerId → Option String := fun _ => none

/-- An entry of `pending_settlements_`; `nextAttempt` is in milliseconds of the steady clock. -/
structure PendingSettlement where
  battleId : Int := 0
  nextAttempt : Int := 0

/-- What a request did in the name of a player. -/
inductive Deed where
  | enqueue
  | cancel
  | input
  deriving DecidableEq

/-- A deed with the session whose packet caused it and the player of that session. -/
structure Act where
  session : SessionId
  sessionPlayer : PlayerId
  deed : Deed
  playerId : PlayerId
  deriving DecidableEq

/-- A call of the tick callback that matters for a settlement. -/
inductive BattleEvent where
  /-- The callback gets past `next_attempt`; the time is that of the steady clock. -/
  | attempt (roomId : RoomId) (steadyMs : Int)
  /-- `CreateBattle` with its result. -/
  | createBattle (roomId : RoomId) (battleId : Int)
  /-- `SettleBattle` with its arguments and its result. -/
  | settleBattle (roomId : RoomId) (battleId : Int) (winnerId : PlayerId)
      (losers : List PlayerId) (settled : Bool)
  /-- The broadcast of `GameOverNotify`. -/
  | gameOver (roomId : RoomId)
  /-- The locked part of `RemoveRoom`. -/
  | removeRoom (roomId : RoomId)
  deriving DecidableEq

/-- The room that a call is about. -/
def BattleEvent.roomId : BattleEvent → RoomId
  | .attempt roomId _ => roomId
  | .createBattle roomId _ => roomId
  | .settleBattle roomId _ _ _ _ => roomId
  | .gameOver roomId => roomId
  | .removeRoom roomId => roomId

/-- The server. -/
structure Server (F : Type) where
  /-- `ConfigManager::RoomPlayerCount`, an `int` -/
  roomPlayerCount : Int := 2
  sessionHeap : SessionId → Session := fun _ => {}
  connectionManager : ConnectionManager := {}
  playerManager : PlayerManager := {}
  matchQueue : MatchQueue := MatchQueue.empty
  roomHeap : RoomId → Room := fun _ => {}
  roomManager : RoomManager := {}
  gameHeap : RoomId → GameRoom F := fun roomId => { roomId := roomId }
  /-- `GameLoop::rooms_` -/
  gameLoop : Finset RoomId := ∅
  loginService : LoginService := {}
  pendingSettlements : RoomId → Option PendingSettlement := fun _ => none
  nextPlayerId : PlayerId := 100000
  nextRoomId : RoomId := 1000
  nextSessionId : SessionId := 1
  /-- The messages handed to `Session::Send`, oldest first. -/
  out : List (SessionId × Message F) := []
  /-- A history variable that no handler reads. -/
  acts : List Act := []
  /-- The calls of the tick callback, oldest first: a history variable as well. -/
  battleLog : List BattleEvent := []

namespace Server

variable {F : Type}

/-! ## Single steps on shared objects -/

/-- `Session::Send`. -/
def send (s : Server F) (session : SessionId) (msg : Message F) : Server F :=
  { s with out := s.out ++ [(session, msg)] }

/-- A setter of `Session`. -/
def updateSession (s : Server F) (session : SessionId) (f : Session → Session) : Server F :=
  { s with sessionHeap := Function.update s.sessionHeap session (f (s.sessionHeap session)) }

/-- `Session::SetRoomId`. -/
def setSessionRoomId (s : Server F) (session : SessionId) (roomId : RoomId) : Server F :=
  s.updateSession session ({ · with roomId := roomId })

/-- A section of `PlayerManager`. -/
def updatePlayers (s : Server F) (f : PlayerManager → PlayerManager) : Server F :=
  { s with playerManager := f s.playerManager }

/-- `PlayerManager::GetOrCreatePlayer` and `Player::SetStatus`. -/
def setPlayerStatus (s : Server F) (playerId : PlayerId) (status : PlayerStatus) : Server F :=
  s.updatePlayers (·.update playerId ({ · with status := status }))

/-- `Player::SetRoomId`. -/
def setPlayerRoomId (s : Server F) (playerId : PlayerId) (roomId : RoomId) : Server F :=
  s.updatePlayers (·.update playerId ({ · with roomId := roomId }))

/-- A section of `ConnectionManager`. -/
def updateConnections (s : Server F) (f : ConnectionManager → ConnectionManager) : Server F :=
  { s with connectionManager := f s.connectionManager }

/-- The queue after a section of `MatchQueue`. -/
def withQueue (s : Server F) (queue : MatchQueue) : Server F :=
  { s with matchQueue := queue }

/-- Writes or erases an entry of `pending_settlements_`. -/
def setPending (s : Server F) (roomId : RoomId) (pending : Option PendingSettlement) : Server F :=
  { s with pendingSettlements := Function.update s.pendingSettlements roomId pending }

/-- A section of a `Room`. -/
def updateRoom (s : Server F) (roomId : RoomId) (f : Room → Room) : Server F :=
  { s with roomHeap := Function.update s.roomHeap roomId (f (s.roomHeap roomId)) }

/-- A section of a `GameRoom`. -/
def updateGame (s : Server F) (roomId : RoomId) (f : GameRoom F → GameRoom F) : Server F :=
  { s with gameHeap := Function.update s.gameHeap roomId (f (s.gameHeap roomId)) }

/-- `Room::Broadcast`: to every player of the room who has a session. -/
def broadcast (s : Server F) (roomId : RoomId) (msg : Message F) : Server F :=
  { s with
    out := s.out ++
      ((s.roomHeap roomId).playerIds.filterMap s.connectionManager.getByPlayerId).map (·, msg) }

/-- Extends the history of the tick callback. -/
def logBattle (s : Server F) (event : BattleEvent) : Server F :=
  { s with battleLog := s.battleLog ++ [event] }

/-! ## RoomManager and GameLoop -/

/-- `RoomManager::GetRoom`. -/
def getRoom (s : Server F) (roomId : RoomId) : Option RoomId :=
  if roomId ∈ s.roomManager.rooms then some roomId else none

theorem getRoom_eq_some {s : Server F} {r r' : RoomId} (h : s.getRoom r = some r') :
    r' = r ∧ r ∈ s.roomManager.rooms := by
  unfold getRoom at h
  split at h
  · next hr =>
    cases h
    exact ⟨rfl, hr⟩
  · cases h

/-- `RoomManager::GetPlayerRoom`. -/
def getPlayerRoom (s : Server F) (playerId : PlayerId) : Option RoomId :=
  (s.roomManager.playerRoomMap playerId).bind s.getRoom

/-- `GameLoop::GetRoom`. -/
def getGame (s : Server F) (roomId : RoomId) : Option RoomId :=
  if roomId ∈ s.gameLoop then some roomId else none

/-- `player_room_map_[player_id] = room_id`. -/
def mapPlayer (s : Server F) (playerId : PlayerId) (roomId : RoomId) : Server F :=
  { s with
    roomManager := { s.roomManager with
      playerRoomMap := Function.update s.roomManager.playerRoomMap playerId (some roomId) } }

/-- A new room with its players, registered in `rooms_`. -/
def openRoom (s : Server F) (playerIds : List PlayerId) : Server F :=
  { s with
    nextRoomId := s.nextRoomId + 1
    roomHeap := Function.update s.roomHeap s.nextRoomId (playerIds.foldl Room.addPlayer {})
    roomManager := { s.roomManager with rooms := insert s.nextRoomId s.roomManager.rooms } }

/-- One round of the locked loop of `CreateRoom`. -/
def enterRoom (roomId : RoomId) (s : Server F) (playerId : PlayerId) : Server F :=
  let s := s.mapPlayer playerId roomId
  match s.connectionManager.getByPlayerId playerId with
  | some session => s.setSessionRoomId session roomId
  | none => s

/-- `RoomManager::CreateRoom`. The id is taken before the lock; it is nobody else's. -/
def createRoom (s : Server F) (playerIds : List PlayerId) : RoomId × Server F :=
  (s.nextRoomId, playerIds.foldl (enterRoom s.nextRoomId) (s.openRoom playerIds))

/-- The locked part of `RoomManager::RemoveRoom`: the players whose entries were erased. -/
def eraseRoom (s : Server F) (roomId : RoomId) : List PlayerId × Server F :=
  let playerIds := if roomId ∈ s.roomManager.rooms then (s.roomHeap roomId).playerIds else []
  (playerIds,
    { s with
      roomManager :=
        { rooms := s.roomManager.rooms.erase roomId
          playerRoomMap := fun p =>
            if p ∈ playerIds then none else s.roomManager.playerRoomMap p } })

/-- One round of the loop of `RemoveRoom` after the locked part. -/
def resetMember (s : Server F) (playerId : PlayerId) : Server F :=
  match s.connectionManager.getByPlayerId playerId with
  | some session =>
    ((s.setSessionRoomId session 0).setPlayerRoomId playerId 0).setPlayerStatus playerId .online
  | none => (s.setPlayerRoomId playerId 0).setPlayerStatus playerId .offline

/-- `GameLoop::RemoveRoom`. -/
def removeGame (s : Server F) (roomId : RoomId) : Server F :=
  { s with gameLoop := s.gameLoop.erase roomId }

/-- `RoomManager::RemoveRoom`. -/
def removeRoom (s : Server F) (roomId : RoomId) : Server F :=
  let (playerIds, s) := s.eraseRoom roomId
  (playerIds.foldl resetMember s).removeGame roomId

/-- `GameLoop::AddRoom` of a battle that `StartGameRoom` has just started with `playerIds`. -/
def addGame [Axis F] (s : Server F) (roomId : RoomId) (playerIds : List PlayerId) : Server F :=
  { s with
    gameHeap := Function.update s.gameHeap roomId (GameRoom.start { roomId := roomId } playerIds)
    gameLoop := insert roomId s.gameLoop }

end Server
end Game
