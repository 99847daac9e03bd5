import GameServer.Protocol.Dispatch

/-!
# BotClient

`src/bot/bot_client.cpp`: the client that plays against the server, many at a time.

The handlers of a bot run on one thread, in the order in which they have become ready. How long a
timer takes is left out, so a pending one fires at any moment. So are the bytes: a packet is on the
wire from the moment at which its `async_write` begins, and a read brings any number of messages.
Nobody stops a bot.
-/

namespace Game

/-- What decides about the behaviour, apart from delays. -/
structure BotOptions where
  cancelMatchPercent : Int := 10
  queueDisconnectPercent : Int := 5
  roomDisconnectPercent : Int := 5
  playingDisconnectPercent : Int := 5
  readyTogglePercent : Int := 10
  maxReconnects : Int := 2
  heartbeatIntervalMs : Int := 5000

/-- What one bot adds to the common counters. -/
structure BotStats where
  connectOk : Nat := 0
  connectFailed : Nat := 0
  disconnects : Nat := 0
  loginOk : Nat := 0
  loginFailed : Nat := 0
  reconnectOk : Nat := 0
  reconnectFailed : Nat := 0
  matchOk : Nat := 0
  matchFailed : Nat := 0
  matchCancel : Nat := 0
  matchSuccess : Nat := 0
  ready : Nat := 0
  unready : Nat := 0
  roomPlaying : Nat := 0
  inputSent : Nat := 0
  gameState : Nat := 0
  gameOver : Nat := 0

/-- Where the bot believes itself to be. -/
inductive FlowState where
  | disconnected
  | connecting
  | loggedIn
  | matching
  | inRoom
  | playing
  deriving DecidableEq

/-- Where `MaybeScheduleDisconnect` is called. -/
inductive DisconnectPoint where
  | queue
  | room
  | playing
  deriving DecidableEq

/-- The callbacks of `ScheduleTimer`. -/
inductive BotTimer where
  | connect (reconnect : Bool)
  | heartbeat
  | match
  /-- After a cancellation. -/
  | rematch
  | cancelMatch
  | simulateDisconnect (point : DisconnectPoint)
  /-- After a match has been found. -/
  | readyFlow
  /-- In the middle of toggling. -/
  | unready
  | ready
  | sendInput
  deriving DecidableEq

/-- How a read ends. -/
inductive ReadResult where
  | messages
  | failed
  /-- `Decode` throws. -/
  | malformed
  deriving DecidableEq

/-- A request with its sequence number. -/
abbrev BotPacket (F : Type) := UInt32 × Call F

/-- A handler that is ready to run. -/
inductive BotHandler (F : Type) where
  | timer (timer : BotTimer)
  /-- Posted by `SendPacket`. -/
  | send (packet : BotPacket F)
  | connected (socket : Nat) (reconnect failed : Bool)
  | read (socket : Nat) (result : ReadResult)
  | written (socket : Nat) (failed : Bool)

/-- The fields of the class, and the part of the environment that belongs to this bot alone. -/
structure BotClient (F : Type) where
  index : Nat
  options : BotOptions := {}
  /-- What `RandomUtil` is going to return. -/
  dice : Nat → Int
  axes : Nat → F
  drawn : Nat := 0
  stats : BotStats := {}
  /-- The sockets are numbered. -/
  socket : Option Nat := none
  sockets : Nat := 0
  /-- What has been written to each of them. -/
  wire : Nat → List (BotPacket F) := fun _ => []
  writeQueue : List (BotPacket F) := []
  state : FlowState := .disconnected
  connected : Bool := false
  heartbeatStarted : Bool := false
  inputLoopActive : Bool := false
  cancelledThisRound : Bool := false
  queueDisconnectThisRound : Bool := false
  roomDisconnectThisRound : Bool := false
  playingDisconnectThisRound : Bool := false
  reconnectCount : Int := 0
  seq : UInt32 := 0
  playerId : PlayerId := 0
  roomId : RoomId := 0
  inputSeq : Int := 0
  sessionToken : String := ""
  /-- The operation that `async_connect` has begun on the socket. -/
  connecting : Option Bool := none
  /-- The same for `async_read_some` and `async_write`. -/
  reading : Bool := false
  writing : Bool := false
  timers : List BotTimer := []
  handlers : List (BotHandler F) := []

namespace BotClient

variable {F : Type}

/-! ## Timers, dice and packets -/

/-- A timer is never cancelled. -/
def scheduleTimer (timer : BotTimer) (b : BotClient F) : BotClient F :=
  { b with timers := b.timers ++ [timer] }

/-- No dice are thrown when the answer is certain. -/
def percentHit (percent : Int) (b : BotClient F) : Bool × BotClient F :=
  if percent ≤ 0 then (false, b)
  else if 100 ≤ percent then (true, b)
  else (b.dice b.drawn ≤ percent, { b with drawn := b.drawn + 1 })

/-- `SendPacket`, with the sequence number that `ProtoHelper::Build` is given. -/
def sendPacket (call : Call F) (b : BotClient F) : BotClient F :=
  { b with
    seq := b.seq + 1
    handlers := b.handlers ++ [.send (b.seq + 1, call)] }

/-! ## Connecting -/

/-- `Connect`; `resolved` says whether the host can be resolved. -/
def connect (reconnect resolved : Bool) (b : BotClient F) : BotClient F :=
  let b := { b with
    state := .connecting
    connected := false
    writeQueue := []
    socket := some b.sockets
    sockets := b.sockets + 1
    connecting := none
    reading := false
    writing := false }
  if resolved then { b with connecting := some reconnect }
  else
    { b with stats := { b.stats with connectFailed := b.stats.connectFailed + 1 } }.scheduleTimer
      (.connect reconnect)

/-- `token` is left out: the server does not read it. -/
def login (b : BotClient F) : BotClient F :=
  b.sendPacket (.login (some ("bot_" ++ toString b.index)))

/-- With the token of the last login. -/
def reconnect (b : BotClient F) : BotClient F :=
  b.sendPacket (.request (.reconnect (some (b.playerId, b.sessionToken))))

/-- The handler of `async_connect`. -/
def onConnected (socket : Nat) (reconnect failed : Bool) (b : BotClient F) : BotClient F :=
  if b.socket ≠ some socket then b
  else if failed then
    { b with stats := { b.stats with connectFailed := b.stats.connectFailed + 1 } }.scheduleTimer
      (.connect reconnect)
  else
    let b := { b with
      connected := true
      stats := { b.stats with connectOk := b.stats.connectOk + 1 } }
    let b := if reconnect ∧ b.playerId ≠ 0 ∧ b.sessionToken ≠ "" then b.reconnect else b.login
    { b with reading := true }

/-- A bot that has never logged in stays away. -/
def scheduleReconnect (b : BotClient F) : BotClient F :=
  if b.playerId = 0 ∨ b.sessionToken = "" then b else b.scheduleTimer (.connect true)

/-- Operations on the old socket may still have handlers to run. -/
def closeSocket (b : BotClient F) : BotClient F :=
  { b with
    connected := false
    inputLoopActive := false
    writeQueue := []
    socket := none
    connecting := none
    reading := false
    writing := false }

/-! ## Writing -/

/-- `DoWrite` on the socket, which is the present one. -/
def doWrite (b : BotClient F) : BotClient F :=
  match b.socket, b.writeQueue with
  | some socket, packet :: _ =>
    { b with
      wire := Function.update b.wire socket (b.wire socket ++ [packet])
      writing := true }
  | _, _ => b

/-- The handler that `SendPacket` has posted. -/
def onSend (packet : BotPacket F) (b : BotClient F) : BotClient F :=
  if b.connected = false ∨ b.socket = none then b
  else
    let writing := b.writeQueue ≠ []
    let b := { b with writeQueue := b.writeQueue ++ [packet] }
    if writing then b else b.doWrite

/-- The handler of `async_write`. -/
def onWritten (socket : Nat) (failed : Bool) (b : BotClient F) : BotClient F :=
  if b.socket ≠ some socket then b
  else if failed then b.closeSocket
  else
    let b := { b with writeQueue := b.writeQueue.tail }
    if b.writeQueue ≠ [] then b.doWrite else b

/-! ## Playing -/

/-- The timer is set again without a connection too. -/
def heartbeat (b : BotClient F) : BotClient F :=
  (if b.connected then b.sendPacket (.request .heartbeat) else b).scheduleTimer .heartbeat

/-- At the first login only. -/
def scheduleHeartbeat (b : BotClient F) : BotClient F :=
  if b.heartbeatStarted ∨ b.options.heartbeatIntervalMs ≤ 0 then b
  else { b with heartbeatStarted := true }.scheduleTimer .heartbeat

/-- The request bears the player of the bot. -/
def «match» (b : BotClient F) : BotClient F :=
  if b.connected = false ∨ b.playerId = 0 ∨ b.roomId ≠ 0 then b
  else { b with state := .matching }.sendPacket (.request (.match (some b.playerId)))

/-- The bot does not wait for the answer. -/
def cancelMatch (b : BotClient F) : BotClient F :=
  if b.connected = false ∨ b.state ≠ .matching ∨ b.roomId ≠ 0 then b
  else
    let b := b.sendPacket (.request (.cancelMatch (some b.playerId)))
    { b with
      cancelledThisRound := true
      state := .loggedIn
      stats := { b.stats with matchCancel := b.stats.matchCancel + 1 } }.scheduleTimer .rematch

/-- The flag of this round. -/
def disconnectThisRound (b : BotClient F) : DisconnectPoint → Bool
  | .queue => b.queueDisconnectThisRound
  | .room => b.roomDisconnectThisRound
  | .playing => b.playingDisconnectThisRound

/-- The option for this point. -/
def disconnectPercent (options : BotOptions) : DisconnectPoint → Int
  | .queue => options.queueDisconnectPercent
  | .room => options.roomDisconnectPercent
  | .playing => options.playingDisconnectPercent

/-- The next `handleGameOver` clears the flags. -/
def setDisconnectThisRound (point : DisconnectPoint) (b : BotClient F) : BotClient F :=
  match point with
  | .queue => { b with queueDisconnectThisRound := true }
  | .room => { b with roomDisconnectThisRound := true }
  | .playing => { b with playingDisconnectThisRound := true }

/-- Whether it is going to disconnect, and the bot. -/
def maybeScheduleDisconnect (point : DisconnectPoint) (b : BotClient F) : Bool × BotClient F :=
  if b.options.maxReconnects ≤ b.reconnectCount ∨ b.disconnectThisRound point then (false, b)
  else
    match b.percentHit (disconnectPercent b.options point) with
    | (false, b) => (false, b)
    | (true, b) =>
      (true, (b.setDisconnectThisRound point).scheduleTimer (.simulateDisconnect point))

/-- At most `maxReconnects` times before the next `handleGameOver`. -/
def simulateDisconnect (b : BotClient F) : BotClient F :=
  if b.connected = false ∨ b.options.maxReconnects ≤ b.reconnectCount then b
  else
    let b := { b with
      reconnectCount := b.reconnectCount + 1
      stats := { b.stats with disconnects := b.stats.disconnects + 1 } }
    b.closeSocket.scheduleReconnect

/-- The server looks the room up itself, so the request has no `roomId`. -/
def ready (b : BotClient F) : BotClient F :=
  if b.connected = false ∨ b.roomId = 0 then b
  else
    let b := b.sendPacket (.request (.ready (some true)))
    { b with stats := { b.stats with ready := b.stats.ready + 1 } }

/-- Takes `ready` back. -/
def unready (b : BotClient F) : BotClient F :=
  if b.connected = false ∨ b.roomId = 0 then b
  else
    let b := b.sendPacket (.request (.ready (some false)))
    { b with stats := { b.stats with unready := b.stats.unready + 1 } }

/-- Some bots take it back once, and are ready again a little later. -/
def scheduleReadyFlow (b : BotClient F) : BotClient F :=
  if b.roomId = 0 then b
  else
    let (toggles, b) := b.percentHit b.options.readyTogglePercent
    if toggles then b.ready.scheduleTimer .unready else b.ready

/-- The input of one frame, and the timer for the next. -/
def sendInput (b : BotClient F) : BotClient F :=
  if b.connected = false ∨ b.roomId = 0 ∨ b.inputLoopActive = false then b
  else
    let input : PlayerInput F :=
      { playerId := b.playerId
        inputSeq := b.inputSeq + 1
        moveX := b.axes b.drawn
        moveY := b.axes (b.drawn + 1)
        fire := b.dice (b.drawn + 2) % 4 = 0 }
    let b := { b with inputSeq := b.inputSeq + 1, drawn := b.drawn + 3 }
    let b := b.sendPacket (.request (.input (some input)))
    { b with stats := { b.stats with inputSent := b.stats.inputSent + 1 } }.scheduleTimer .sendInput

/-- One loop at a time. -/
def startInputLoop (b : BotClient F) : BotClient F :=
  if b.roomId = 0 ∨ b.inputLoopActive then b
  else { b with inputLoopActive := true }.sendInput

/-! ## Messages -/

/-- 2 is the answer to a bot that is in the queue already. -/
def handleMatchResponse (code : Int) (b : BotClient F) : BotClient F :=
  if code = 0 then
    let b := { b with
      state := .matching
      stats := { b.stats with matchOk := b.stats.matchOk + 1 } }
    let (cancels, b) :=
      if b.cancelledThisRound then (false, b) else b.percentHit b.options.cancelMatchPercent
    if cancels then b.scheduleTimer .cancelMatch else (b.maybeScheduleDisconnect .queue).2
  else if code = 2 then { b with state := .matching }
  else
    { b with
      stats := { b.stats with matchFailed := b.stats.matchFailed + 1 }
      state := .loggedIn }.scheduleTimer .match

/-- A bot that is going to disconnect does not get ready. -/
def handleMatchSuccess (roomId : RoomId) (b : BotClient F) : BotClient F :=
  let b := { b with
    roomId
    state := .inRoom
    inputLoopActive := false
    stats := { b.stats with matchSuccess := b.stats.matchSuccess + 1 } }
  match b.maybeScheduleDisconnect .room with
  | (true, b) => b
  | (false, b) => b.scheduleTimer .readyFlow

/-- 2 stands for `RoomState::Playing`. -/
def handleRoomState (roomId : RoomId) (state : Int) (b : BotClient F) : BotClient F :=
  let b := { b with roomId }
  if state = 2 then
    let b := { b with
      state := .playing
      stats := { b.stats with roomPlaying := b.stats.roomPlaying + 1 } }
    (b.startInputLoop.maybeScheduleDisconnect .playing).2
  else b

/-- A bot that has missed the `RoomStateNotify` learns here that the battle is on. -/
def handleGameState (b : BotClient F) : BotClient F :=
  let b := { b with stats := { b.stats with gameState := b.stats.gameState + 1 } }
  if b.roomId ≠ 0 ∧ b.state ≠ .playing then
    ({ b with state := .playing }.startInputLoop.maybeScheduleDisconnect .playing).2
  else b

/-- A round is over and the next one begins. -/
def handleGameOver (b : BotClient F) : BotClient F :=
  { b with
    roomId := 0
    inputLoopActive := false
    state := .loggedIn
    cancelledThisRound := false
    queueDisconnectThisRound := false
    roomDisconnectThisRound := false
    playingDisconnectThisRound := false
    reconnectCount := 0
    inputSeq := 0
    stats := { b.stats with gameOver := b.stats.gameOver + 1 } }.scheduleTimer .match

/-- Other messages, such as the answer to a heartbeat, change nothing. -/
def onMessage (b : BotClient F) : Message F → BotClient F
  | .loginResponse code playerId _ sessionToken =>
    if code = 0 then
      let b := { b with
        playerId
        sessionToken
        state := .loggedIn
        stats := { b.stats with loginOk := b.stats.loginOk + 1 } }
      b.scheduleHeartbeat.scheduleTimer .match
    else { b with stats := { b.stats with loginFailed := b.stats.loginFailed + 1 } }
  | .reconnectResponse code roomId =>
    if code = 0 then
      let b := { b with
        roomId
        state := if roomId = 0 then .loggedIn else .inRoom
        stats := { b.stats with reconnectOk := b.stats.reconnectOk + 1 } }
      if roomId ≠ 0 then b.scheduleReadyFlow.startInputLoop else b.scheduleTimer .match
    else { b with stats := { b.stats with reconnectFailed := b.stats.reconnectFailed + 1 } }
  | .matchResponse code _ => b.handleMatchResponse code
  | .matchSuccessNotify roomId _ => b.handleMatchSuccess roomId
  | .roomStateNotify roomId state _ => b.handleRoomState roomId state
  | .gameStateNotify _ _ _ => b.handleGameState
  | .gameOverNotify _ _ _ => b.handleGameOver
  | _ => b

/-- The handler of `async_read_some`, with the messages that have arrived. -/
def onRead (socket : Nat) (result : ReadResult) (arrived : List (Message F)) (b : BotClient F) :
    BotClient F :=
  if b.socket ≠ some socket then b
  else
    match result with
    | .failed => { b with connected := false }
    | .malformed => b.closeSocket
    | .messages => { arrived.foldl onMessage b with reading := true }

/-! ## Handlers and events -/

/-- A timer has fired. -/
def onTimer (resolved : Bool) (b : BotClient F) : BotTimer → BotClient F
  | .connect reconnect => b.connect reconnect resolved
  | .heartbeat => b.heartbeat
  | .match => b.match
  | .rematch => if b.state = .loggedIn ∧ b.roomId = 0 then b.match else b
  | .cancelMatch => b.cancelMatch
  | .simulateDisconnect _ => b.simulateDisconnect
  | .readyFlow => if b.connected ∧ b.roomId ≠ 0 then b.scheduleReadyFlow else b
  | .unready => b.unready.scheduleTimer .ready
  | .ready => b.ready
  | .sendInput => b.sendInput

/-- What a handler finds when it runs. -/
structure Surroundings (F : Type) where
  resolved : Bool
  arrived : List (Message F)

/-- A handler gets what it finds when it runs, not when it was posted. -/
def onHandler (around : Surroundings F) (b : BotClient F) : BotHandler F → BotClient F
  | .timer timer => b.onTimer around.resolved timer
  | .send packet => b.onSend packet
  | .connected socket reconnect failed => b.onConnected socket reconnect failed
  | .read socket result => b.onRead socket result around.arrived
  | .written socket failed => b.onWritten socket failed

/-- What happens to a bot. -/
inductive Event (F : Type) where
  /-- The first handler runs. -/
  | run (around : Surroundings F)
  | fire (timer : Nat)
  | connected (failed : Bool)
  | read (result : ReadResult)
  | written (failed : Bool)

/-- An event that nobody waits for changes nothing. -/
def step (b : BotClient F) : Event F → BotClient F
  | .run around =>
    match b.handlers with
    | [] => b
    | handler :: handlers => { b with handlers }.onHandler around handler
  | .fire n =>
    match b.timers[n]? with
    | none => b
    | some timer =>
      { b with timers := b.timers.eraseIdx n, handlers := b.handlers ++ [.timer timer] }
  | .connected failed =>
    match b.socket, b.connecting with
    | some socket, some reconnect =>
      { b with
        connecting := none
        handlers := b.handlers ++ [.connected socket reconnect failed] }
    | _, _ => b
  | .read result =>
    match b.socket with
    | some socket =>
      if b.reading then { b with reading := false, handlers := b.handlers ++ [.read socket result] }
      else b
    | none => b
  | .written failed =>
    match b.socket with
    | some socket =>
      if b.writing then
        { b with writing := false, handlers := b.handlers ++ [.written socket failed] }
      else b
    | none => b

/-- `Start` -/
def start (index : Nat) (options : BotOptions) (dice : Nat → Int) (axes : Nat → F)
    (resolved : Bool) : BotClient F :=
  { index, options, dice, axes : BotClient F }.connect false resolved

end BotClient
end Game
