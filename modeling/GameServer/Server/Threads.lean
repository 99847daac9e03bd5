import GameServer.Infra.Interleave
import GameServer.Server.GameServer

/-!
# Threads of the server

The same handlers as before, cut into atomic steps: one step is one section under a mutex or one
call of a setter. A program counter says where a thread is and holds its local variables; the
list at the end of some of them is what remains of a loop.

Two simplifications change nothing that another thread can see. `GetByPlayerId` is taken together
with the use of the session that it returns, because no step here binds or removes a session. And
`GetOrCreatePlayer` is taken together with the setter that follows it.
-/

namespace Game

open Infra

/-! ## StartMatching and TryCreateRoom -/

/-- A thread in `StartMatching`. -/
inductive MatchPc where
  | push (p : PlayerId) (session : SessionId)
  | contains (p : PlayerId) (session : SessionId)
  | setStatus (p : PlayerId) (session : SessionId) (pushed : Bool)
  | setPlayerRoom (p : PlayerId) (session : SessionId) (pushed : Bool)
  | setSessionRoom (p : PlayerId) (session : SessionId) (pushed : Bool)
  | reply (session : SessionId) (pushed : Bool)
  | tryPop
  | createRoom (players : List PlayerId)
  | joinStatus (roomId : RoomId) (players todo : List PlayerId)
  | joinRoom (roomId : RoomId) (players : List PlayerId) (p : PlayerId) (todo : List PlayerId)
  | joinNotify (roomId : RoomId) (players : List PlayerId) (p : PlayerId) (todo : List PlayerId)
  deriving DecidableEq

variable {F : Type}

/-- One step of `StartMatching`; `none` is the return to the caller. -/
def MatchPc.next (s : Server F) : MatchPc → Server F × Option MatchPc
  | .push p session =>
    if p = 0 then (s.send session (.matchResponse 1 "not login"), none)
    else
      let (pushed, queue) := s.matchQueue.push p
      (s.withQueue queue,
        some (if pushed then .setStatus p session true else .contains p session))
  | .contains p session =>
    (s, some (if s.matchQueue.contains p then .setStatus p session false else .reply session false))
  | .setStatus p session pushed =>
    (s.setPlayerStatus p .matching, some (.setPlayerRoom p session pushed))
  | .setPlayerRoom p session pushed =>
    (s.setPlayerRoomId p 0, some (.setSessionRoom p session pushed))
  | .setSessionRoom _ session pushed => (s.setSessionRoomId session 0, some (.reply session pushed))
  | .reply session pushed =>
    if pushed then (s.send session (.matchResponse 0 "matching"), some .tryPop)
    else (s.send session (.matchResponse 2 "already matching"), none)
  | .tryPop =>
    let (players, queue) := s.matchQueue.tryPopN s.needCount
    (s.withQueue queue, if players = [] then none else some (.createRoom players))
  | .createRoom players =>
    let (roomId, s) := s.createRoom players
    (s, some (.joinStatus roomId players players))
  | .joinStatus _ _ [] => (s, some .tryPop)
  | .joinStatus roomId players (p :: todo) =>
    (s.setPlayerStatus p .inRoom, some (.joinRoom roomId players p todo))
  | .joinRoom roomId players p todo =>
    (s.setPlayerRoomId p roomId, some (.joinNotify roomId players p todo))
  | .joinNotify roomId players p todo =>
    let s :=
      match s.connectionManager.getByPlayerId p with
      | some session => s.send session (.matchSuccessNotify roomId players)
      | none => s
    (s, some (.joinStatus roomId players todo))

/-! ## RemoveRoom -/

/-- A thread in `RoomManager::RemoveRoom`. -/
inductive RemovePc where
  | erase (roomId : RoomId)
  | resetSession (roomId : RoomId) (todo : List PlayerId)
  | resetRoom (roomId : RoomId) (p : PlayerId) (online : Bool) (todo : List PlayerId)
  | resetStatus (roomId : RoomId) (p : PlayerId) (online : Bool) (todo : List PlayerId)
  | removeGame (roomId : RoomId)
  deriving DecidableEq

/-- One step of `RemoveRoom`. -/
def RemovePc.next (s : Server F) : RemovePc → Server F × Option RemovePc
  | .erase roomId =>
    let (playerIds, s) := s.eraseRoom roomId
    (s, some (.resetSession roomId playerIds))
  | .resetSession roomId [] => (s, some (.removeGame roomId))
  | .resetSession roomId (p :: todo) =>
    match s.connectionManager.getByPlayerId p with
    | some session => (s.setSessionRoomId session 0, some (.resetRoom roomId p true todo))
    | none => (s, some (.resetRoom roomId p false todo))
  | .resetRoom roomId p online todo =>
    (s.setPlayerRoomId p 0, some (.resetStatus roomId p online todo))
  | .resetStatus roomId p online todo =>
    (s.setPlayerStatus p (if online then .online else .offline),
      some (.resetSession roomId todo))
  | .removeGame roomId => (s.removeGame roomId, none)

/-- The room of a thread in `RemoveRoom`. -/
def RemovePc.roomId : RemovePc → RoomId
  | .erase roomId => roomId
  | .resetSession roomId _ => roomId
  | .resetRoom roomId _ _ _ => roomId
  | .resetStatus roomId _ _ _ => roomId
  | .removeGame roomId => roomId

/-! ## Requests -/

/-- A worker thread that handles a request. -/
inductive HandlerPc (F : Type) where
  | done
  | handleMatch (session : SessionId) (requested : PlayerId)
  | matching (pc : MatchPc) (rest : List PlayerId)
  /-- The loop of `HandleLeaveWaiting` over the players to requeue. -/
  | requeue (todo : List PlayerId)
  | handleReady (session : SessionId) (ready : Bool)
  | setReady (p : PlayerId) (roomId : RoomId) (ready : Bool)
  | readyNotify (p : PlayerId) (roomId : RoomId) (ready started : Bool)
  | startSnapshot (roomId : RoomId)
  | addGame (roomId : RoomId) (players : List PlayerId)
  | startStatus (roomId : RoomId) (players todo : List PlayerId)
  | startRoom (roomId : RoomId) (players : List PlayerId) (p : PlayerId) (todo : List PlayerId)
  | startNotify (roomId : RoomId) (players : List PlayerId)
  | handleLeave (session : SessionId) (requested : RoomId)
  | ifWaiting (session : SessionId) (p : PlayerId) (roomId : RoomId)
  | ifPlaying (session : SessionId) (p : PlayerId) (roomId : RoomId)
  | leaveSnapshot (session : SessionId) (p : PlayerId) (roomId : RoomId)
  | leaveNotify (session : SessionId) (p : PlayerId) (roomId : RoomId) (rest : List PlayerId)
  | removing (pc : RemovePc) (rest : List PlayerId)
  | findGame (session : SessionId) (p : PlayerId) (roomId : RoomId)
  | eliminate (session : SessionId) (p : PlayerId) (roomId : RoomId)
  | surrenderNotify (session : SessionId) (p : PlayerId) (roomId : RoomId)
  | handleInput (session : SessionId) (nowMs : Int) (request : PlayerInput F)
  | pushInput (roomId : RoomId) (input : InputCommand F)

/-- One step of a handler. -/
def HandlerPc.next [Axis F] (s : Server F) : HandlerPc F → Server F × HandlerPc F
  | .done => (s, .done)
  | .handleMatch session requested =>
    let p := s.actingPlayer session requested
    if p = 0 then (s.send session (.matchResponse 1 "not login"), .done)
    else (s, .matching (.push p session) [])
  | .matching pc rest =>
    match pc.next s with
    | (s, some pc) => (s, .matching pc rest)
    | (s, none) => (s, .requeue rest)
  | .requeue [] => (s, .done)
  | .requeue (p :: todo) =>
    match s.connectionManager.getByPlayerId p with
    | some session => (s, .matching (.push p session) todo)
    | none => (s, .requeue todo)
  | .handleReady session ready =>
    let p := (s.sessionHeap session).playerId
    match s.getPlayerRoom p with
    | some roomId => (s, .setReady p roomId ready)
    | none => (s, .done)
  | .setReady p roomId ready =>
    match (s.roomHeap roomId).setReadyAndTryStart p ready with
    | some (started, room) =>
      (s.updateRoom roomId fun _ => room, .readyNotify p roomId ready started)
    | none => (s, .done)
  | .readyNotify p roomId ready started =>
    (s.broadcast roomId (.readyNotify p ready), if started then .startSnapshot roomId else .done)
  | .startSnapshot roomId => (s, .addGame roomId (s.roomHeap roomId).playerIds)
  | .addGame roomId players => (s.addGame roomId players, .startStatus roomId players players)
  | .startStatus roomId players [] => (s, .startNotify roomId players)
  | .startStatus roomId players (p :: todo) =>
    (s.setPlayerStatus p .playing, .startRoom roomId players p todo)
  | .startRoom roomId players p todo =>
    (s.setPlayerRoomId p roomId, .startStatus roomId players todo)
  | .startNotify roomId players =>
    (s.broadcast roomId (.roomStateNotify roomId RoomState.playing.toInt32 players), .done)
  | .handleLeave session requested =>
    let p := (s.sessionHeap session).playerId
    match s.getPlayerRoom p with
    | none => (s.send session (.leaveRoomResponse 2 "not in room"), .done)
    | some roomId =>
      if requested ≠ 0 ∧ requested ≠ roomId then
        (s.send session (.leaveRoomResponse 2 "not in room"), .done)
      else (s, .ifWaiting session p roomId)
  | .ifWaiting session p roomId =>
    if (s.roomHeap roomId).state = .waiting then (s, .leaveSnapshot session p roomId)
    else (s, .ifPlaying session p roomId)
  | .ifPlaying session p roomId =>
    if (s.roomHeap roomId).state = .playing then (s, .findGame session p roomId)
    else (s.send session (.leaveRoomResponse 3 "room closing"), .done)
  | .leaveSnapshot session p roomId =>
    (s, .leaveNotify session p roomId ((s.roomHeap roomId).playerIds.filter (· ≠ p)))
  | .leaveNotify session p roomId rest =>
    ((s.broadcast roomId (.playerLeaveRoomNotify roomId p 1)).send session
      (.leaveRoomResponse 0 "left room"), .removing (.erase roomId) rest)
  | .removing pc rest =>
    match pc.next s with
    | (s, some pc) => (s, .removing pc rest)
    | (s, none) => (s, .requeue rest)
  | .findGame session p roomId =>
    match s.getGame roomId with
    | some roomId => (s, .eliminate session p roomId)
    | none => (s.send session (.leaveRoomResponse 4 "game not running"), .done)
  | .eliminate session p roomId =>
    (s.updateGame roomId (·.eliminatePlayer p), .surrenderNotify session p roomId)
  | .surrenderNotify session p roomId =>
    ((s.broadcast roomId (.playerLeaveRoomNotify roomId p 2)).send session
      (.leaveRoomResponse 0 "surrendered"), .done)
  | .handleInput session nowMs request =>
    match s.getGame (s.sessionHeap session).roomId with
    | some roomId =>
      (s, .pushInput roomId
        { playerId := s.actingPlayer session request.playerId
          inputSeq := request.inputSeq
          moveX := request.moveX
          moveY := request.moveY
          fire := request.fire
          timestampMs := nowMs })
    | none => (s, .done)
  | .pushInput roomId input => (s.updateGame roomId (·.handleInput input), .done)

/-! ## GameLoop -/

/-- The tick callback after a settlement: `GameOverNotify`, `Close` and `RemoveRoom`. -/
inductive TailPc where
  | announce (roomId : RoomId) (winnerId : PlayerId) (losers : List PlayerId)
  | notify (roomId : RoomId) (winnerId : PlayerId) (losers todo : List PlayerId)
  | close (roomId : RoomId)
  | removing (pc : RemovePc)
  deriving DecidableEq

/-- The room of the end of a tick callback. -/
def TailPc.roomId : TailPc → RoomId
  | .announce roomId _ _ => roomId
  | .notify roomId _ _ _ => roomId
  | .close roomId => roomId
  | .removing pc => pc.roomId

/-- The locked part of `RemoveRoom` in the tick callback goes into the history. -/
def Server.logRemoval (s : Server F) : RemovePc → Server F
  | .erase roomId => s.logBattle (.removeRoom roomId)
  | _ => s

/-- One step of the end of the tick callback. -/
def TailPc.next (s : Server F) : TailPc → Server F × Option TailPc
  | .announce roomId winnerId losers =>
    (s.logBattle (.gameOver roomId),
      some (.notify roomId winnerId losers (s.roomHeap roomId).playerIds))
  | .notify roomId _ _ [] => (s, some (.close roomId))
  | .notify roomId winnerId losers (p :: todo) =>
    let s :=
      match s.connectionManager.getByPlayerId p with
      | some session => s.send session (.gameOverNotify roomId winnerId losers)
      | none => s
    (s, some (.notify roomId winnerId losers todo))
  | .close roomId => (s.updateRoom roomId Room.close, some (.removing (.erase roomId)))
  | .removing pc =>
    let (s, pc) := pc.next (s.logRemoval pc)
    (s, pc.map .removing)

/-- A step stays in its room. -/
theorem RemovePc.roomId_next {s : Server F} {pc pc' : RemovePc} (hpc : (pc.next s).2 = some pc') :
    pc'.roomId = pc.roomId := by
  cases pc with
  | erase r => cases hpc; rfl
  | resetSession r todo =>
    cases todo with
    | nil => cases hpc; rfl
    | cons p todo =>
      rw [next] at hpc
      split at hpc <;> (cases hpc; rfl)
  | resetRoom r p online todo => cases hpc; rfl
  | resetStatus r p online todo => cases hpc; rfl
  | removeGame r => simp [next] at hpc

theorem TailPc.roomId_next {s : Server F} {pc pc' : TailPc} (hpc : (pc.next s).2 = some pc') :
    pc'.roomId = pc.roomId := by
  cases pc with
  | announce r winnerId losers => cases hpc; rfl
  | notify r winnerId losers todo => cases todo <;> (cases hpc; rfl)
  | close r => cases hpc; rfl
  | removing pc =>
    obtain ⟨pc'', hpc'', rfl⟩ := Option.map_eq_some_iff.mp hpc
    exact RemovePc.roomId_next hpc''

/-- The three getters in the call of the tick callback. -/
inductive Getter where
  | state
  | isGameOver
  | winnerId
  deriving DecidableEq

/-- What the environment chooses for a step of the loop: the order in which the hash table is
copied, the argument of the callback that is evaluated next, the clock, and the results of the
storage. -/
structure LoopChoice where
  order : List RoomId := []
  getter : Getter := .state
  steadyMs : Int := 0
  battleId : Int := 0
  settled : Bool := false

/-- The thread of `GameLoop::Loop`. -/
inductive LoopPc (F : Type) where
  | copyRooms
  | tick (rooms : List RoomId)
  | advance (roomId : RoomId) (inputs : List (InputCommand F)) (rooms : List RoomId)
  /-- The arguments of the callback, in whatever order they are evaluated. -/
  | arguments (roomId : RoomId) (state : Option (GameState F)) (gameOver : Option Bool)
      (winnerId : Option PlayerId) (rooms : List RoomId)
  | callback (roomId : RoomId) (state : GameState F) (gameOver : Bool) (winnerId : PlayerId)
      (rooms : List RoomId)
  | stateNotify (roomId : RoomId) (state : GameState F) (gameOver : Bool) (winnerId : PlayerId)
      (rooms : List RoomId)
  | setSettlement (roomId : RoomId) (winnerId : PlayerId) (losers : List PlayerId)
      (rooms : List RoomId)
  | attempt (roomId : RoomId) (winnerId : PlayerId) (losers : List PlayerId)
      (rooms : List RoomId)
  | createBattle (roomId : RoomId) (winnerId : PlayerId) (losers : List PlayerId)
      (rooms : List RoomId)
  | settleBattle (roomId : RoomId) (winnerId : PlayerId) (losers : List PlayerId)
      (rooms : List RoomId)
  | tail (pc : TailPc) (rooms : List RoomId)

/-- The entry of `pending_settlements_`, created when there is none. -/
def Server.pending (s : Server F) (roomId : RoomId) : PendingSettlement :=
  (s.pendingSettlements roomId).getD {}

/-- One step of the loop. -/
def LoopPc.next [Axis F] (ch : LoopChoice) (s : Server F) : LoopPc F → Server F × LoopPc F
  | .copyRooms =>
    -- any enumeration of the table, each room once
    if ch.order.Nodup ∧ ch.order.toFinset = s.gameLoop then (s, .tick ch.order)
    else (s, .copyRooms)
  | .tick [] => (s, .copyRooms)
  | .tick (roomId :: rooms) =>
    (s.updateGame roomId (·.popAll.2),
      .advance roomId (s.gameHeap roomId).popAll.1 rooms)
  | .advance roomId inputs rooms =>
    (s.updateGame roomId (·.advance inputs), .arguments roomId none none none rooms)
  | .arguments roomId (some state) (some gameOver) (some winnerId) rooms =>
    (s, .callback roomId state gameOver winnerId rooms)
  | .arguments roomId state gameOver winnerId rooms =>
    let game := s.gameHeap roomId
    match ch.getter with
    | .state => (s, .arguments roomId (state.getD game.state) gameOver winnerId rooms)
    | .isGameOver => (s, .arguments roomId state (gameOver.getD game.gameOver) winnerId rooms)
    | .winnerId => (s, .arguments roomId state gameOver (winnerId.getD game.winnerId) rooms)
  | .callback roomId state gameOver winnerId rooms =>
    match s.getRoom roomId with
    | some roomId => (s, .stateNotify roomId state gameOver winnerId rooms)
    | none => (s, .tick rooms)
  | .stateNotify roomId state gameOver winnerId rooms =>
    (s.broadcast roomId (Server.buildNotify roomId state),
      if gameOver then
        .setSettlement roomId winnerId (state.players.keys.filter (· ≠ winnerId)) rooms
      else .tick rooms)
  | .setSettlement roomId winnerId losers rooms =>
    (s.updateRoom roomId Room.setSettlement, .attempt roomId winnerId losers rooms)
  | .attempt roomId winnerId losers rooms =>
    let pending := s.pending roomId
    if ch.steadyMs < pending.nextAttempt then (s.setPending roomId (some pending), .tick rooms)
    else
      ((s.setPending roomId (some { pending with nextAttempt := ch.steadyMs + 1000 })).logBattle
        (.attempt roomId ch.steadyMs), .createBattle roomId winnerId losers rooms)
  | .createBattle roomId winnerId losers rooms =>
    let pending := s.pending roomId
    if pending.battleId = 0 then
      ((s.setPending roomId (some { pending with battleId := ch.battleId })).logBattle
        (.createBattle roomId ch.battleId), .settleBattle roomId winnerId losers rooms)
    else (s, .settleBattle roomId winnerId losers rooms)
  | .settleBattle roomId winnerId losers rooms =>
    let battleId := (s.pending roomId).battleId
    if battleId = 0 then (s, .tick rooms)
    else
      let s := s.logBattle (.settleBattle roomId battleId winnerId losers ch.settled)
      if ch.settled then
        (s.setPending roomId none, .tail (.announce roomId winnerId losers) rooms)
      else (s, .tick rooms)
  | .tail pc rooms =>
    match pc.next s with
    | (s, some pc) => (s, .tail pc rooms)
    | (s, none) => (s, .tick rooms)

/-- The loop after a step of the end of the tick callback. -/
def LoopPc.tailed (rooms : List RoomId) : Option TailPc → LoopPc F
  | some pc => .tail pc rooms
  | none => .tick rooms

theorem LoopPc.next_tail [Axis F] (ch : LoopChoice) (s : Server F) (pc : TailPc)
    (rooms : List RoomId) :
    (tail pc rooms).next ch s = ((pc.next s).1, tailed rooms (pc.next s).2) := by
  rw [next]
  rcases pc.next s with ⟨s', _ | pc'⟩ <;> rfl

/-- One more argument is evaluated, or the callback is called. -/
theorem LoopPc.next_arguments [Axis F] (ch : LoopChoice) (s : Server F) (r : RoomId)
    (state : Option (GameState F)) (gameOver : Option Bool) (winner : Option PlayerId)
    (rooms : List RoomId) :
    (∃ st go, ∃ w ∈ winner, state = some st ∧ gameOver = some go ∧
      (arguments r state gameOver winner rooms).next ch s = (s, callback r st go w rooms)) ∨
    ∃ state' gameOver' winner', (arguments r state gameOver winner rooms).next ch s =
        (s, arguments r state' gameOver' winner' rooms) ∧
      (∀ st ∈ state', st ∈ state ∨ st = (s.gameHeap r).state) ∧
      (∀ w ∈ winner', w ∈ winner ∨ w = (s.gameHeap r).winnerId) ∧
      (gameOver' = gameOver ∨ gameOver = none ∧ gameOver' = some (s.gameHeap r).gameOver) := by
  cases state <;> cases gameOver <;> cases winner
  case some.some.some st go w => exact Or.inl ⟨st, go, w, rfl, rfl, rfl, rfl⟩
  all_goals
    refine Or.inr ?_
    cases hgetter : ch.getter
    all_goals
      simp only [next, hgetter]
      exact ⟨_, _, _, rfl, by simp, by simp, by simp⟩

/-! ## All threads together -/

/-- A thread: a worker with a request, the game loop, or the game loop seen from the moment at
which a settlement has succeeded. -/
inductive Thread (F : Type) where
  | handler (pc : HandlerPc F)
  | loop (pc : LoopPc F)
  | tail (pc : Option TailPc)

/-- One step of a thread. -/
def Thread.next [Axis F] (ch : LoopChoice) (s : Server F) : Thread F → Server F × Thread F
  | .handler pc => let (s, pc) := pc.next s; (s, .handler pc)
  | .loop pc => let (s, pc) := pc.next ch s; (s, .loop pc)
  | .tail (some pc) => let (s, pc) := pc.next s; (s, .tail pc)
  | .tail none => (s, .tail none)

/-- Threads that share the server. -/
abbrev Threads (ι F : Type) := Sys ι (Server F) (Thread F)

/-- One step of the threads. -/
abbrev Threads.step {ι : Type} [DecidableEq ι] [Axis F] (c : Threads ι F)
    (e : ι × LoopChoice) : Threads ι F :=
  Sys.step Thread.next c e

/-- `n` steps of one worker. -/
def turns {ι : Type} (i : ι) (n : Nat) : List (ι × LoopChoice) :=
  List.replicate n (i, {})

/-- A worker that has answered its request. -/
def Thread.isDone : Thread F → Bool
  | .handler .done => true
  | .tail none => true
  | _ => false

end Game
