import GameServer.Login.LoginService
import GameServer.Room.RoomHandlers

/-!
# GameServer

`src/server/game_server.cpp` and the accept and close callbacks of `src/net/tcp_server.cpp`: what
can happen to the server, one event at a time.

Results that come from outside (the clocks, the rows of the database, the outcome of a settlement)
are part of the event.
-/

namespace Game

/-- The answers of the storage and of the clock to one tick of a room. -/
structure TickEnv where
  /-- `steady_clock::now()` in milliseconds -/
  steadyMs : Int
  /-- `CreateBattle`, 0 when it fails -/
  battleId : Int
  /-- `SettleBattle` -/
  settled : Bool

/-- Asks for a battle id unless there is one already; `created` is what `CreateBattle` returns. -/
def PendingSettlement.withBattle (pending : PendingSettlement) (created : Int) :
    PendingSettlement :=
  if pending.battleId = 0 then { pending with battleId := created } else pending

namespace Server

variable {F : Type}

/-! ## Tick callback -/

/-- `StateSync::BuildNotify`. -/
def buildNotify (roomId : RoomId) (state : GameState F) : Message F :=
  .gameStateNotify roomId state.frameId (state.players.keys.filterMap fun p =>
    (state.players.get p).map fun e => (e.playerId, e.x, e.y, e.hp))

/-- The end of the tick callback, after a settlement. -/
def finishBattle (s : Server F) (roomId : RoomId) (winnerId : PlayerId) (losers : List PlayerId) :
    Server F :=
  let s := (s.setPending roomId none).broadcast roomId (.gameOverNotify roomId winnerId losers)
  (s.updateRoom roomId Room.close).removeRoom roomId

/-- The tick callback for a room that is over. -/
def settle (s : Server F) (roomId : RoomId) (state : GameState F) (winnerId : PlayerId)
    (env : TickEnv) : Server F :=
  let losers := state.players.keys.filter (· ≠ winnerId)
  let s := s.updateRoom roomId Room.setSettlement
  let pending := (s.pendingSettlements roomId).getD {}
  if env.steadyMs < pending.nextAttempt then s.setPending roomId (some pending)
  else
    let pending := { pending with nextAttempt := env.steadyMs + 1000 }.withBattle env.battleId
    let s := s.setPending roomId (some pending)
    if pending.battleId = 0 ∨ env.settled = false then s
    else s.finishBattle roomId winnerId losers

/-- The tick callback of `GameServer::Init`. -/
def tickCallback (s : Server F) (roomId : RoomId) (state : GameState F) (gameOver : Bool)
    (winnerId : PlayerId) (env : TickEnv) : Server F :=
  match s.getRoom roomId with
  | none => s
  | some roomId =>
    let s := s.broadcast roomId (buildNotify roomId state)
    if gameOver = false then s else s.settle roomId state winnerId env

/-- `GameLoop::Loop` for one registered battle. -/
def tick [Axis F] (s : Server F) (roomId : RoomId) (env : TickEnv) : Server F :=
  match s.getGame roomId with
  | none => s
  | some roomId =>
    let s := s.updateGame roomId GameRoom.tick
    let game := s.gameHeap roomId
    s.tickCallback roomId game.state game.gameOver game.winnerId env

/-! ## Connections -/

/-- `TcpServer::DoAccept`. -/
def accept (s : Server F) (nowMs : Int) : Server F :=
  let session := s.nextSessionId
  let state : Session := { lastHeartbeatMs := nowMs }
  let s := { s with nextSessionId := session + 1 }
  (s.updateSession session fun _ => state).updateConnections (·.add session state.playerId)

/-- The end of the session close callback, when no other session has taken over. -/
def dropPlayer (s : Server F) (session : SessionId) (playerId : PlayerId) : Server F :=
  let s := s.updatePlayers (·.setOffline playerId)
  let roomId := (s.sessionHeap session).roomId
  if roomId ≠ 0 then
    match s.getRoom roomId with
    | some roomId => s.updateRoom roomId (·.onPlayerDisconnect playerId)
    | none => s
  else s

/-- The session close callback of `GameServer::Init`. -/
def sessionClosed (s : Server F) (session : SessionId) : Server F :=
  let playerId := (s.sessionHeap session).playerId
  if playerId = 0 then s
  else
    match s.connectionManager.getByPlayerId playerId with
    | some current => if current ≠ session then s else s.dropPlayer session playerId
    | none => s.dropPlayer session playerId

/-- The close callback of a connection. -/
def close (s : Server F) (session : SessionId) : Server F :=
  let playerId := (s.sessionHeap session).playerId
  (s.updateConnections (·.remove session playerId)).sessionClosed session

/-- The heartbeat timer. -/
def heartbeatScan (s : Server F) (nowMs : Int) : Server F :=
  { s with
    sessionHeap := fun session =>
      let state := s.sessionHeap session
      if session ∈ s.connectionManager.sessions ∧ nowMs - state.lastHeartbeatMs > 30000 then
        { state with closing := true }
      else state }

end Server

/-! ## Events and runs -/

/-- A request as the dispatcher sees it; `none` is a body that does not parse. -/
inductive Request (F : Type) where
  | login (data : LoadedPlayer) (account : Option String)
  | heartbeat
  | reconnect (request : Option (PlayerId × String))
  | match (playerId : Option PlayerId)
  | cancelMatch (playerId : Option PlayerId)
  | ready (ready : Option Bool)
  | input (input : Option (PlayerInput F))
  | leaveRoom (roomId : Option RoomId)

/-- What can happen to the server. -/
inductive Event (F : Type) where
  | accept (nowMs : Int)
  | packet (session : SessionId) (nowMs : Int) (request : Request F)
  | close (session : SessionId)
  | heartbeatScan (nowMs : Int)
  | tick (roomId : RoomId) (env : TickEnv)

namespace Server

variable {F : Type} [Axis F]

/-- `MessageDispatcher::Dispatch`. -/
def dispatch (s : Server F) (session : SessionId) (nowMs : Int) : Request F → Server F
  | .login data account => s.handleLogin session nowMs data account
  | .heartbeat => s.handleHeartbeat session nowMs
  | .reconnect request => s.handleReconnect session request
  | .match playerId => s.handleMatch session playerId
  | .cancelMatch playerId => s.handleCancelMatch session playerId
  | .ready ready => s.handleReady session ready
  | .input input => s.handleInput session nowMs input
  | .leaveRoom roomId => s.handleLeaveRoom session roomId

/-- The effect of one event. Packets and closes concern sessions that have been accepted. -/
def handle (s : Server F) : Event F → Server F
  | .accept nowMs => s.accept nowMs
  | .packet session nowMs request =>
    if session < s.nextSessionId then s.dispatch session nowMs request else s
  | .close session => if session < s.nextSessionId then s.close session else s
  | .heartbeatScan nowMs => s.heartbeatScan nowMs
  | .tick roomId env => s.tick roomId env

/-- The server after `GameServer::Init`. -/
def init (roomPlayerCount : Int) : Server F :=
  { roomPlayerCount := roomPlayerCount }

/-- A run of the server. -/
def run (s : Server F) (events : List (Event F)) : Server F :=
  events.foldl handle s

end Server
end Game
