import GameServer.Match.MatchService

/-!
# Requests to a room

The handlers of `src/room/room_manager.cpp`.
-/

namespace Game

/-- The body of an `InputRequest`, with the time at which it is handled. -/
structure PlayerInput (F : Type) where
  playerId : PlayerId := 0
  inputSeq : Int := 0
  moveX : F
  moveY : F
  fire : Bool := false

namespace Server

variable {F : Type}

/-- One round of the loop of `StartGameRoom`. -/
def startPlaying (roomId : RoomId) (s : Server F) (playerId : PlayerId) : Server F :=
  (s.setPlayerStatus playerId .playing).setPlayerRoomId playerId roomId

/-- `RoomManager::StartGameRoom`. -/
def startGameRoom [Axis F] (s : Server F) (roomId : RoomId) : Server F :=
  let playerIds := (s.roomHeap roomId).playerIds
  let s := playerIds.foldl (startPlaying roomId) (s.addGame roomId playerIds)
  s.broadcast roomId (.roomStateNotify roomId RoomState.playing.toInt32 playerIds)

/-- `RoomManager::HandleReady`. -/
def handleReady [Axis F] (s : Server F) (session : SessionId) : Option Bool → Server F
  | none => s
  | some ready =>
    let playerId := (s.sessionHeap session).playerId
    match s.getPlayerRoom playerId with
    | none => s
    | some roomId =>
      match (s.roomHeap roomId).setReadyAndTryStart playerId ready with
      | none => s
      | some (started, room) =>
        let s := (s.updateRoom roomId fun _ => room).broadcast roomId (.readyNotify playerId ready)
        if started then s.startGameRoom roomId else s

/-- `RoomManager::HandleInput`. -/
def handleInput (s : Server F) (session : SessionId) (nowMs : Int) :
    Option (PlayerInput F) → Server F
  | none => s
  | some request =>
    match s.getGame (s.sessionHeap session).roomId with
    | none => s
    | some roomId =>
      let playerId := s.actingPlayer session request.playerId
      let act : Act := ⟨session, (s.sessionHeap session).playerId, .input, playerId⟩
      let input : InputCommand F :=
        { playerId := playerId
          inputSeq := request.inputSeq
          moveX := request.moveX
          moveY := request.moveY
          fire := request.fire
          timestampMs := nowMs }
      (s.updateGame roomId (·.handleInput input)).record act

/-- `RoomManager::HandleLeaveWaiting`. -/
def handleLeaveWaiting (s : Server F) (session : SessionId) (roomId : RoomId) : Server F :=
  let leaverId := (s.sessionHeap session).playerId
  let requeuePlayers := (s.roomHeap roomId).playerIds.filter (· ≠ leaverId)
  let s := s.broadcast roomId (.playerLeaveRoomNotify roomId leaverId 1)
  let s := s.send session (.leaveRoomResponse 0 "left room")
  requeuePlayers.foldl requeuePlayer (s.removeRoom roomId)

/-- `RoomManager::HandleLeavePlaying`. -/
def handleLeavePlaying (s : Server F) (session : SessionId) (roomId : RoomId) : Server F :=
  match s.getGame roomId with
  | none => s.send session (.leaveRoomResponse 4 "game not running")
  | some roomId =>
    let playerId := (s.sessionHeap session).playerId
    let s := s.updateGame roomId (·.eliminatePlayer playerId)
    let s := s.broadcast roomId (.playerLeaveRoomNotify roomId playerId 2)
    s.send session (.leaveRoomResponse 0 "surrendered")

/-- `RoomManager::HandleLeaveRoom`. -/
def handleLeaveRoom (s : Server F) (session : SessionId) : Option RoomId → Server F
  | none => s.send session (.leaveRoomResponse 1 "bad request")
  | some requested =>
    match s.getPlayerRoom (s.sessionHeap session).playerId with
    | none => s.send session (.leaveRoomResponse 2 "not in room")
    | some roomId =>
      if requested ≠ 0 ∧ requested ≠ roomId then
        s.send session (.leaveRoomResponse 2 "not in room")
      else
        match (s.roomHeap roomId).state with
        | .waiting => s.handleLeaveWaiting session roomId
        | .playing => s.handleLeavePlaying session roomId
        | _ => s.send session (.leaveRoomResponse 3 "room closing")

end Server
end Game
