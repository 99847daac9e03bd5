import GameServer.Server.Server

/-!
# LoginService

`src/login/login_service.cpp`, each handler run from beginning to end without interference. The
row that `PlayerRepository::LoadPlayer` returns is an argument.
-/

namespace Game

/-- The part of `PlayerData` that a login uses. -/
structure LoadedPlayer where
  name : String
  score : Int

namespace Server

variable {F : Type}

/-- `LoginService::GetOrCreatePlayerId`. -/
def getOrCreatePlayerId (s : Server F) (account : String) : PlayerId × Server F :=
  let (key, s) :=
    if account = "" then
      ("guest_" ++ toString s.nextPlayerId, { s with nextPlayerId := s.nextPlayerId + 1 })
    else (account, s)
  match s.loginService.accountPlayers key with
  | some playerId => (playerId, s)
  | none =>
    let playerId := s.nextPlayerId
    (playerId,
      { s with
        nextPlayerId := playerId + 1
        loginService := { s.loginService with
          accountPlayers := Function.update s.loginService.accountPlayers key (some playerId) } })

/-- `LoginService::GenerateSessionToken`. -/
def generateSessionToken (playerId : PlayerId) (nowMs : Int) : String :=
  toString playerId ++ "_" ++ toString nowMs

/-- The token of a login, under the lock of the service. -/
def storeToken (s : Server F) (playerId : PlayerId) (token : String) : Server F :=
  { s with
    loginService := { s.loginService with
      sessionTokens := Function.update s.loginService.sessionTokens playerId (some token) } }

/-- A login closes the session that the player had before. -/
def closeOther (s : Server F) (playerId : PlayerId) (session : SessionId) : Server F :=
  match s.connectionManager.getByPlayerId playerId with
  | some oldSession =>
    if oldSession ≠ session then s.updateSession oldSession ({ · with closing := true }) else s
  | none => s

/-- The end of `HandleLogin` and `HandleReconnect`: back into the room of the player, if any. -/
def rejoinRoom (s : Server F) (session : SessionId) (playerId : PlayerId) :
    Option RoomId × Server F :=
  match s.getPlayerRoom playerId with
  | some roomId =>
    let s := s.updateRoom roomId (·.onPlayerReconnect playerId)
    let s := s.setSessionRoomId session roomId
    let s := s.setPlayerRoomId playerId roomId
    let status := if (s.roomHeap roomId).state = .playing then .playing else .inRoom
    (some roomId, s.setPlayerStatus playerId status)
  | none => (none, s.setPlayerRoomId playerId 0)

/-- `LoginService::HandleLogin`. -/
def handleLogin (s : Server F) (session : SessionId) (nowMs : Int) (data : LoadedPlayer) :
    Option String → Server F
  | none => s.send session (.loginResponse 1 0 "" "")
  | some account =>
    let (playerId, s) := s.getOrCreatePlayerId account
    let token := generateSessionToken playerId nowMs
    let s := (s.storeToken playerId token).closeOther playerId session
    let s := s.updateSession session ({ · with playerId := playerId, lastHeartbeatMs := nowMs })
    let s := s.updateConnections (·.bindPlayer playerId session)
    let s := s.updatePlayers (·.update playerId ({ · with score := data.score }) data.name)
    let s := s.updatePlayers (·.setOnline playerId session)
    let (_, s) := s.rejoinRoom session playerId
    s.send session (.loginResponse 0 playerId data.name token)

/-- `LoginService::HandleHeartbeat`. -/
def handleHeartbeat (s : Server F) (session : SessionId) (nowMs : Int) : Server F :=
  (s.updateSession session ({ · with lastHeartbeatMs := nowMs })).send session
    (.heartbeatResponse nowMs)

/-- `LoginService::HandleReconnect`, for the player and the token of the request. -/
def handleReconnect (s : Server F) (session : SessionId) : Option (PlayerId × String) → Server F
  | none => s.send session (.reconnectResponse 1 0)
  | some (playerId, sessionToken) =>
    if s.loginService.sessionTokens playerId ≠ some sessionToken then
      s.send session (.reconnectResponse 2 0)
    else
      let s := s.updateSession session ({ · with playerId := playerId })
      let s := s.updateConnections (·.bindPlayer playerId session)
      let s := s.updatePlayers fun pm => (pm.setOnline playerId session).update playerId id
      let (roomId, s) := s.rejoinRoom session playerId
      s.send session (.reconnectResponse 0 (roomId.getD 0))

end Server
end Game
