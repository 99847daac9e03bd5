import GameServer.Infra.Prog
import GameServer.Storage.Mysql

/-!
# MysqlClient

`src/storage/mysql_client.cpp`, as programs that make requests: to the mutex of the client, to its
two fields, which the mutex guards, and to MySQL. The requests of the settlement service, to its
mutex and to Redis, are in the same type.
-/

namespace Game

open Infra

/-- The clients are numbered. -/
abbrev ClientId := Nat

/-- The settlement services are numbered. -/
abbrev ServiceId := Nat

/-- One `MysqlClient`: the thread that holds `mutex_` and how often, `conn_`, `in_transaction_`. -/
structure MysqlClient (ι : Type) where
  owner : Option ι := none
  depth : Nat := 0
  conn : Option Conn := none
  inTransaction : Bool := false

/-- A call of `SettleBattle` that has returned; `committed` says whether the battle was settled in
the database by then. -/
structure SettleAnswer where
  battleId : BattleId
  result : Bool
  committed : Bool
  deriving DecidableEq

/-- What the threads share. -/
structure Storage (ι : Type) where
  mysql : Mysql := {}
  clients : ClientId → MysqlClient ι := fun _ => {}
  /-- The threads that hold `mutex_` of the settlement services. -/
  services : ServiceId → Option ι := fun _ => none
  /-- The sorted set `rank:score` of Redis. -/
  rank : PlayerId → Option Int := fun _ => none
  answers : List SettleAnswer := []

/-- The steps of the code. -/
inductive StorageRequest where
  | lockClient (client : ClientId)
  | unlockClient (client : ClientId)
  /-- `conn_ != nullptr` -/
  | isConnected (client : ClientId)
  | isInTransaction (client : ClientId)
  | setInTransaction (client : ClientId) (value : Bool)
  /-- `mysql_init` to `mysql_real_connect`; `conn_` is null again when that fails. -/
  | mysqlConnect (client : ClientId)
  /-- `mysql_close`, and `conn_ = nullptr` -/
  | mysqlClose (client : ClientId)
  | mysqlQuery (client : ClientId) (sql : Sql)
  | mysqlInsertId (client : ClientId)
  | startTransaction (client : ClientId)
  | mysqlCommit (client : ClientId)
  | mysqlRollback (client : ClientId)
  | lockService (service : ServiceId)
  /-- `SettleBattle` unlocks the mutex, and returns. -/
  | unlockService (service : ServiceId) (battleId : BattleId) (result : Bool)
  /-- `ZADD rank:score` -/
  | zadd (playerId : PlayerId) (score : Int)

/-- What the code gets to see of the outcome. -/
@[reducible] def StorageRequest.Reply : StorageRequest → Type
  | isConnected _ | isInTransaction _ | mysqlConnect _ => Bool
  | startTransaction _ | mysqlCommit _ | mysqlRollback _ | zadd _ _ => Bool
  | mysqlQuery _ sql => Game.Reply sql
  | mysqlInsertId _ => BattleId
  | lockClient _ | unlockClient _ | setInTransaction _ _ | mysqlClose _ => Unit
  | lockService _ | unlockService _ _ _ => Unit

/-! ## Carrying out a request -/

namespace Storage

variable {ι : Type} [DecidableEq ι] (w : Storage ι)

/-- Changes one client. -/
def setClient (client : ClientId) (c : MysqlClient ι) : Storage ι :=
  { w with clients := Function.update w.clients client c }

/-- Changes the server. -/
def setMysql (m : Mysql) : Storage ι :=
  { w with mysql := m }

/-- The battle is settled in the database. -/
def isSettled (battleId : BattleId) : Bool :=
  match w.mysql.db (.battle battleId) with
  | none => false
  | some row => row.settled = 1

/-- `std::recursive_mutex::lock` -/
def lock (i : ι) (client : ClientId) : Option (Storage ι × Unit) :=
  let c := w.clients client
  match c.owner with
  | none => some (w.setClient client { c with owner := some i, depth := 1 }, ())
  | some j =>
    if j = i then some (w.setClient client { c with depth := c.depth + 1 }, ()) else none

/-- `std::recursive_mutex::unlock` -/
def unlock (client : ClientId) : Storage ι :=
  let c := w.clients client
  w.setClient client
    { c with owner := if c.depth ≤ 1 then none else c.owner, depth := c.depth - 1 }

/-- A request on the connection of the client, and the answer without a connection. -/
def onConn {α : Type} (client : ClientId) (missing : α) (f : Conn → Option (Mysql × α)) :
    Option (Storage ι × α) :=
  match (w.clients client).conn with
  | none => some (w, missing)
  | some conn => (f conn).map fun x => (w.setMysql x.1, x.2)

/-- A request of the thread `i`; `none` while it has to wait. -/
def exec (i : ι) : (q : StorageRequest) → Outcome → Storage ι → Option (Storage ι × q.Reply)
  | .lockClient client, _, w => w.lock i client
  | .unlockClient client, _, w => some (w.unlock client, ())
  | .isConnected client, _, w => some (w, (w.clients client).conn.isSome)
  | .isInTransaction client, _, w => some (w, (w.clients client).inTransaction)
  | .setInTransaction client value, _, w =>
    some (w.setClient client { w.clients client with inTransaction := value }, ())
  | .mysqlConnect client, outcome, w =>
    let (m, conn) := w.mysql.connect outcome
    some ((w.setMysql m).setClient client { w.clients client with conn := conn }, conn.isSome)
  | .mysqlClose client, _, w =>
    match (w.clients client).conn with
    | none => some (w, ())
    | some conn =>
      some ((w.setMysql (w.mysql.cut conn)).setClient client
        { w.clients client with conn := none }, ())
  | .mysqlQuery client sql, outcome, w =>
    w.onConn client (.error true) fun conn => w.mysql.query conn sql outcome
  | .mysqlInsertId client, _, w =>
    w.onConn client (0 : BattleId) fun conn => some (w.mysql, w.mysql.insertId conn)
  | .startTransaction client, outcome, w =>
    w.onConn client false fun conn => some (w.mysql.begin conn outcome)
  | .mysqlCommit client, outcome, w =>
    w.onConn client false fun conn => some (w.mysql.commit conn outcome)
  | .mysqlRollback client, outcome, w =>
    w.onConn client false fun conn => some (w.mysql.rollback conn outcome)
  | .lockService service, _, w =>
    match w.services service with
    | none => some ({ w with services := Function.update w.services service (some i) }, ())
    | some _ => none
  | .unlockService service battleId result, _, w =>
    let answer : SettleAnswer := ⟨battleId, result, w.isSettled battleId⟩
    some ({ w with
      services := Function.update w.services service none
      answers := w.answers ++ [answer] }, ())
  | .zadd playerId score, outcome, w =>
    -- A `ZADD` that fails may have been carried out before its answer was lost.
    let added := { w with rank := Function.update w.rank playerId (some score) }
    match outcome with
    | .ok => some (added, true)
    | .lost => some (added, false)
    | .error | .abort => some (w, false)

/-- What happens on its own to a connection. -/
inductive Happening where
  | cut (conn : Conn)
  | drop (conn : Conn)
  | resolve (conn : Conn)
  deriving DecidableEq

/-- Nobody has asked for it. -/
def happen : Happening → Storage ι → Storage ι
  | .cut conn, w => w.setMysql (w.mysql.cut conn)
  | .drop conn, w => w.setMysql (w.mysql.drop conn)
  | .resolve conn, w => w.setMysql (w.mysql.resolve conn)

end Storage

/-! ## The functions of the client -/

/-- A function of the storage code. -/
abbrev StorageM := Prog StorageRequest StorageRequest.Reply

/-- The function that makes one request. -/
abbrev ask (q : StorageRequest) : StorageM q.Reply :=
  Prog.request q

namespace MysqlClient

/-- The body of a function under `std::lock_guard<std::recursive_mutex>`. -/
def withLock {α : Type} (client : ClientId) (body : StorageM α) : StorageM α := do
  ask (.lockClient client)
  let a ← body
  ask (.unlockClient client)
  return a

/-- Without a connection it does nothing. -/
def disconnect (client : ClientId) : StorageM Unit :=
  withLock client do
    if ← ask (.isConnected client) then
      ask (.mysqlClose client)

/-- Refused during a transaction: it would be a connection without one. -/
def connect (client : ClientId) : StorageM Bool :=
  withLock client do
    if ← ask (.isInTransaction client) then
      return false
    disconnect client
    ask (.mysqlConnect client)

/-- `conn_ || Connect()` -/
def hasConnection (client : ClientId) : StorageM Bool := do
  if ← ask (.isConnected client) then
    return true
  connect client

/-- `lost` is what `mysql_errno` says about the last request. -/
def resetOnConnectionError (client : ClientId) (lost : Bool) : StorageM Unit := do
  if !(← ask (.isConnected client)) then
    return ()
  if ← ask (.isInTransaction client) then
    return ()
  if lost then
    disconnect client

/-- After an error a lost connection is dropped, so that the next request opens a new one. -/
def execute (client : ClientId) (sql : Dml) : StorageM Bool :=
  withLock client do
    if !(← hasConnection client) then
      return false
    match ← ask (.mysqlQuery client (.dml sql)) with
    | .error lost => do
      resetOnConnectionError client lost
      return false
    | .ok _ => return true

/-- -1 for an error. -/
def executeAffected (client : ClientId) (sql : Dml) : StorageM Int :=
  withLock client do
    if !(← hasConnection client) then
      return -1
    match ← ask (.mysqlQuery client (.dml sql)) with
    | .error lost => do
      resetOnConnectionError client lost
      return -1
    | .ok affected => return affected

/-- The mutex is held throughout, so `mysqlInsertId` is about this row. -/
def executeInsert (client : ClientId) (sql : Dml) : StorageM BattleId :=
  withLock client do
    if (← executeAffected client sql) ≠ 1 then
      return 0
    ask (.mysqlInsertId client)

/-- `if (mysql_rollback(conn_) != 0) Disconnect();` -/
def rollback (client : ClientId) : StorageM Unit := do
  if !(← ask (.mysqlRollback client)) then
    disconnect client

/-- What `RunTransaction` does with the result of `operation`, an error for an exception. -/
def endTransaction (client : ClientId) : Except Unit Bool → StorageM (Except Unit Bool)
  | .ok success => do
    if !(← ask (.isConnected client)) then
      ask (.setInTransaction client false)
      return .ok false
    if !success then
      rollback client
      ask (.setInTransaction client false)
      return .ok false
    if !(← ask (.mysqlCommit client)) then
      disconnect client
      ask (.setInTransaction client false)
      return .ok false
    ask (.setInTransaction client false)
    return .ok true
  | .error e => do
    if ← ask (.isConnected client) then
      rollback client
    ask (.setInTransaction client false)
    return .error e

/-- `operation` is `none` for an empty `std::function`. -/
def runTransaction (client : ClientId) (operation : Option (StorageM (Except Unit Bool))) :
    StorageM (Except Unit Bool) :=
  withLock client do
    if ← ask (.isInTransaction client) then
      return .ok false
    match operation with
    | none => return .ok false
    | some operation =>
      if !(← hasConnection client) then
        return .ok false
      if !(← ask (.startTransaction client)) then
        disconnect client
        return .ok false
      ask (.setInTransaction client true)
      endTransaction client (← operation)

/-- An error looks like a query without rows. -/
def query (client : ClientId) (sql : Select) : StorageM (List sql.Row) :=
  withLock client do
    if !(← hasConnection client) then
      return []
    match ← ask (.mysqlQuery client (.select sql)) with
    | .error lost => do
      resetOnConnectionError client lost
      return []
    | .ok rows => return rows

/-- Without a connection the text is left as it is. -/
def escapeString (client : ClientId) (value : List Char) : StorageM (List Char) :=
  withLock client do
    if !(← hasConnection client) then
      return value
    return mysqlRealEscapeString value

end MysqlClient
end Game
