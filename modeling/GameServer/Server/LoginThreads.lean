import GameServer.Login.Accounts
import GameServer.Server.Outside

/-!
# Threads that log in and connections that close

`HandleLogin`, `HandleReconnect` and the close callback of a connection, cut into atomic steps: one
step is one section under a mutex or one call of a setter. The lookup of the old session is taken
together with `Close` on it, and `GetOrCreatePlayer` together with the setter that follows it.

The lemmas say which part of `Presence` a step changes.
-/

namespace Game

open Infra

variable {F : Type}

/-! ## HandleLogin and HandleReconnect -/

/-- What the environment supplies for a step: the clock and the row that `LoadPlayer` returns. -/
structure LoginChoice where
  nowMs : Int := 0
  data : LoadedPlayer := { name := "", score := 1000 }

/-- A thread in `HandleLogin` or `HandleReconnect`. The `token` is that of a login and the `answer`
its name and token; a reconnect has neither. -/
inductive LoginPc where
  | account (session : SessionId) (call : AccountPc)
  | storeToken (session : SessionId) (p : PlayerId)
  | closeOther (session : SessionId) (p : PlayerId) (token : String)
  | checkToken (session : SessionId) (p : PlayerId) (sessionToken : String)
  | bindPlayerId (session : SessionId) (p : PlayerId) (token : Option String)
  | bindPlayer (session : SessionId) (p : PlayerId) (token : Option String)
  | setScore (session : SessionId) (p : PlayerId) (token : String)
  | setOnline (session : SessionId) (p : PlayerId) (answer : Option (String × String))
  | getPlayer (session : SessionId) (p : PlayerId)
  | findRoom (session : SessionId) (p : PlayerId) (answer : Option (String × String))
  | onReconnect (session : SessionId) (p : PlayerId) (answer : Option (String × String))
      (roomId : RoomId)
  | setSessionRoom (session : SessionId) (p : PlayerId) (answer : Option (String × String))
      (roomId : RoomId)
  | setPlayerRoom (session : SessionId) (p : PlayerId) (answer : Option (String × String))
      (roomId : RoomId)
  | readState (session : SessionId) (p : PlayerId) (answer : Option (String × String))
      (roomId : RoomId)
  | setStatus (session : SessionId) (p : PlayerId) (answer : Option (String × String))
      (roomId : RoomId) (status : PlayerStatus)
  | clearRoom (session : SessionId) (p : PlayerId) (answer : Option (String × String))
  | respond (session : SessionId) (p : PlayerId) (answer : Option (String × String))
      (roomId : RoomId)
  /-- The handler has sent its response. -/
  | done (session : SessionId) (p : PlayerId) (answer : Option (String × String))
  /-- The token of a reconnect was not the stored one. -/
  | refused (session : SessionId) (p : PlayerId)
  deriving DecidableEq

/-- The response of a handler that gets through. -/
def loginMessage (p : PlayerId) (roomId : RoomId) : Option (String × String) → Message F
  | some (name, token) => .loginResponse 0 p name token
  | none => .reconnectResponse 0 roomId

/-- One step of a handler. -/
def LoginPc.next (ch : LoginChoice) (s : Server F) : LoginPc → Server F × LoginPc
  | .account session (.done _ p _) => (s, .storeToken session p)
  | .account session call =>
    let (s, call) := call.next s
    (s, .account session call)
  | .storeToken session p =>
    let token := Server.generateSessionToken p ch.nowMs
    (s.storeToken p token, .closeOther session p token)
  | .closeOther session p token => (s.closeOther p session, .bindPlayerId session p (some token))
  | .checkToken session p sessionToken =>
    if s.loginService.sessionTokens p ≠ some sessionToken then
      (s.send session (.reconnectResponse 2 0), .refused session p)
    else (s, .bindPlayerId session p none)
  | .bindPlayerId session p (some token) =>
    (s.updateSession session ({ · with playerId := p, lastHeartbeatMs := ch.nowMs }),
      .bindPlayer session p (some token))
  | .bindPlayerId session p none =>
    (s.updateSession session ({ · with playerId := p }), .bindPlayer session p none)
  | .bindPlayer session p token =>
    (s.updateConnections (·.bindPlayer p session),
      match token with
      | some token => .setScore session p token
      | none => .setOnline session p none)
  | .setScore session p token =>
    (s.updatePlayers (·.update p ({ · with score := ch.data.score }) ch.data.name),
      .setOnline session p (some (ch.data.name, token)))
  | .setOnline session p answer =>
    (s.updatePlayers (·.setOnline p session),
      match answer with
      | some _ => .findRoom session p answer
      | none => .getPlayer session p)
  | .getPlayer session p => (s.updatePlayers (·.update p id), .findRoom session p none)
  | .findRoom session p answer =>
    match s.getPlayerRoom p with
    | some roomId => (s, .onReconnect session p answer roomId)
    | none => (s, .clearRoom session p answer)
  | .onReconnect session p answer roomId =>
    (s.updateRoom roomId (·.onPlayerReconnect p), .setSessionRoom session p answer roomId)
  | .setSessionRoom session p answer roomId =>
    (s.setSessionRoomId session roomId, .setPlayerRoom session p answer roomId)
  | .setPlayerRoom session p answer roomId =>
    (s.setPlayerRoomId p roomId, .readState session p answer roomId)
  | .readState session p answer roomId =>
    (s, .setStatus session p answer roomId
      (if (s.roomHeap roomId).state = .playing then .playing else .inRoom))
  | .setStatus session p answer roomId status =>
    (s.setPlayerStatus p status, .respond session p answer roomId)
  | .clearRoom session p answer => (s.setPlayerRoomId p 0, .respond session p answer 0)
  | .respond session p answer roomId =>
    (s.send session (loginMessage p roomId answer), .done session p answer)
  | .done session p answer => (s, .done session p answer)
  | .refused session p => (s, .refused session p)

/-! ## The close callback -/

/-- A thread in the close callback of the connection of `session`. -/
inductive ClosePc where
  | remove (session : SessionId)
  | check (session : SessionId)
  | setOffline (session : SessionId)
  | findRoom (session : SessionId)
  | onDisconnect (session : SessionId) (roomId : RoomId)
  | done (session : SessionId)
  deriving DecidableEq

/-- One step of the close callback. -/
def ClosePc.next (s : Server F) : ClosePc → Server F × ClosePc
  | .remove session =>
    (s.updateConnections (·.remove session (s.sessionHeap session).playerId), .check session)
  | .check session =>
    let p := (s.sessionHeap session).playerId
    if p = 0 then (s, .done session)
    else
      match s.connectionManager.getByPlayerId p with
      | some current => (s, if current ≠ session then .done session else .setOffline session)
      | none => (s, .setOffline session)
  | .setOffline session =>
    (s.updatePlayers (·.setOffline (s.sessionHeap session).playerId), .findRoom session)
  | .findRoom session =>
    let roomId := (s.sessionHeap session).roomId
    if roomId ≠ 0 then
      match s.getRoom roomId with
      | some roomId => (s, .onDisconnect session roomId)
      | none => (s, .done session)
    else (s, .done session)
  | .onDisconnect session roomId =>
    (s.updateRoom roomId (·.onPlayerDisconnect (s.sessionHeap session).playerId), .done session)
  | .done session => (s, .done session)

/-! ## Handlers that nobody interrupts -/

theorem ClosePc.iterate_next_setOffline (s : Server F) (session : SessionId) :
    (fun w : Server F × ClosePc => next w.1 w.2)^[3] (s, .setOffline session) =
      (s.dropPlayer session (s.sessionHeap session).playerId, .done session) := by
  have hfind : ∀ s : Server F, (fun w : Server F × ClosePc => next w.1 w.2)^[2]
      (s, .findRoom session) = (if (s.sessionHeap session).roomId ≠ 0 then
        match s.getRoom (s.sessionHeap session).roomId with
        | some roomId => s.updateRoom roomId (·.onPlayerDisconnect (s.sessionHeap session).playerId)
        | none => s
      else s, .done session) := by
    intro s
    by_cases hr : (s.sessionHeap session).roomId = 0
    · simp [Function.iterate_succ_apply, next, hr]
    · cases hroom : s.getRoom (s.sessionHeap session).roomId <;>
        simp [Function.iterate_succ_apply, next, hr, hroom]
  rw [Function.iterate_succ_apply]
  exact hfind _

/-- The close callback. -/
theorem ClosePc.iterate_next (s : Server F) (session : SessionId) :
    (fun w : Server F × ClosePc => next w.1 w.2)^[5] (s, .remove session) =
      (s.close session, .done session) := by
  have hcheck : ∀ s : Server F, (fun w : Server F × ClosePc => next w.1 w.2)^[4]
      (s, .check session) = (s.sessionClosed session, .done session) := by
    intro s
    rw [Function.iterate_succ_apply]
    have hdrop := iterate_next_setOffline s session
    by_cases hp : (s.sessionHeap session).playerId = 0
    · simp [Function.iterate_succ_apply, next, Server.sessionClosed, hp]
    · cases hc : s.connectionManager.getByPlayerId (s.sessionHeap session).playerId with
      | none =>
        have hnext : next s (.check session) = (s, .setOffline session) := by simp [next, hp, hc]
        simp only [hnext, hdrop, Server.sessionClosed, if_neg hp, hc]
      | some current =>
        by_cases hcur : current = session
        · have hnext : next s (.check session) = (s, .setOffline session) := by
            simp [next, hp, hc, hcur]
          simp only [hnext, hdrop, Server.sessionClosed, if_neg hp, hc, hcur, ne_eq,
            not_true_eq_false, if_false]
        · simp [Function.iterate_succ_apply, next, Server.sessionClosed, hp, hc, hcur]
  rw [Function.iterate_succ_apply]
  exact hcheck _

/-- The end of both handlers, from the lookup of the room on. -/
theorem LoginPc.iterate_next_findRoom (ch : LoginChoice) (s : Server F) (session : SessionId)
    (p : PlayerId) (answer : Option (String × String)) :
    (fun w : Server F × LoginPc => next ch w.1 w.2)^[7] (s, .findRoom session p answer) =
      ((s.rejoinRoom session p).2.send session
        (loginMessage p ((s.rejoinRoom session p).1.getD 0) answer), .done session p answer) := by
  cases hroom : s.getPlayerRoom p with
  | none => simp [Function.iterate_succ_apply, next, Server.rejoinRoom, hroom]
  | some roomId => simp [Function.iterate_succ_apply, next, Server.rejoinRoom, hroom]

/-- `HandleReconnect` with the stored token. -/
theorem LoginPc.iterate_next_reconnect (ch : LoginChoice) (s : Server F) (session : SessionId)
    {p : PlayerId} {token : String} (htoken : s.loginService.sessionTokens p = some token) :
    (fun w : Server F × LoginPc => next ch w.1 w.2)^[12] (s, .checkToken session p token) =
      (s.handleReconnect session (some (p, token)), .done session p none) := by
  have hcheck : next ch s (.checkToken session p token) = (s, .bindPlayerId session p none) :=
    if_neg (by simp [htoken])
  rw [Function.iterate_succ_apply, hcheck, Server.handleReconnect, if_neg (by simp [htoken])]
  exact iterate_next_findRoom ch _ session p none

/-- `HandleLogin` of a known account. -/
theorem LoginPc.iterate_next_login (ch : LoginChoice) (s : Server F) (session : SessionId)
    {p : PlayerId} {account : String} (hne : account ≠ "")
    (hknown : s.loginService.accountPlayers account = some p) :
    (fun w : Server F × LoginPc => next ch w.1 w.2)^[16] (s, .account session (.start account)) =
      (s.handleLogin session ch.nowMs ch.data (some account),
        .done session p (some (ch.data.name, Server.generateSessionToken p ch.nowMs))) := by
  have hstart : next ch s (.account session (.start account)) =
      (s, .account session (.find account)) := by
    simp only [next, AccountPc.next, if_neg hne]
  have hfind : next ch s (.account session (.find account)) =
      (s, .account session (.done account p false)) := by
    simp only [next, AccountPc.next_find_some hknown]
  have hid : s.getOrCreatePlayerId account = (p, s) := by
    simp only [Server.getOrCreatePlayerId, if_neg hne, hknown]
  rw [Function.iterate_succ_apply, hstart, Function.iterate_succ_apply, hfind,
    Server.handleLogin, hid]
  exact iterate_next_findRoom ch _ session p
    (some (ch.data.name, Server.generateSessionToken p ch.nowMs))

end Game
