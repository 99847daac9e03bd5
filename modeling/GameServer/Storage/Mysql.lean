import GameServer.Storage.Sql

/-!
# The MySQL server

Connections, their transactions and what can go wrong with a request. Statements lock rows until the
end of their transaction, and a statement on a row that another connection has locked waits.

When a connection is lost, the server finds out later: until then the transaction keeps its locks,
and a request that was on its way may still be carried out, in full or not at all.
-/

namespace Game

open Infra

abbrev Conn := Nat

/-- What the environment makes of a request. -/
inductive Outcome where
  | ok
  /-- An error that leaves the transaction open. -/
  | error
  /-- An error with which the server rolls the transaction back, as for a deadlock. -/
  | abort
  /-- The connection is lost before the answer. -/
  | lost
  deriving DecidableEq

/-- A request whose answer was lost. -/
inductive Inflight where
  | statement (sql : Sql)
  | commit

/-- The answer to a statement; `lost` is `mysql_errno` being `CR_SERVER_GONE_ERROR` or
`CR_SERVER_LOST`. -/
inductive Reply (sql : Sql) where
  | ok (answer : sql.Answer)
  | error (lost : Bool)

/-- The server and the connections to it. -/
structure Mysql where
  locks : Locks Key Key.Row Conn := { rows := Db.empty }
  /-- In a transaction. -/
  isOpen : Conn → Bool := fun _ => false
  /-- The statements of the transaction that is open. -/
  txn : Conn → Log := fun _ => []
  /-- What has been committed, and by whom. -/
  committed : List (Conn × Log) := []
  /-- Not lost, and not closed by the client. -/
  isLinked : Conn → Bool := fun _ => false
  inflight : Conn → Option Inflight := fun _ => none
  nextConn : Conn := 0
  autoIncrement : BattleId := 1
  /-- `mysql_insert_id`, as far as battles go. -/
  insertId : Conn → BattleId := fun _ => 0

namespace Mysql

/-- The committed contents of the tables. -/
def db (m : Mysql) : Db := m.locks.rows

/-- The end of a transaction that has changed nothing. -/
def finish (m : Mysql) (c : Conn) : Mysql :=
  { m with
    locks := m.locks.rollback c
    isOpen := Function.update m.isOpen c false
    txn := Function.update m.txn c [] }

/-- The end of a transaction that takes effect. -/
def commitOpen (m : Mysql) (c : Conn) : Mysql :=
  { m with
    locks := m.locks.commit c
    isOpen := Function.update m.isOpen c false
    txn := Function.update m.txn c []
    committed := if m.isOpen c then m.committed ++ [(c, m.txn c)] else m.committed }

/-- The connection is lost while this request is on its way. -/
def lose (m : Mysql) (c : Conn) (request : Option Inflight) : Mysql :=
  { m with
    isLinked := Function.update m.isLinked c false
    inflight := Function.update m.inflight c request }

/-- The next battle gets the next id. -/
def allocate (m : Mysql) (c : Conn) : Sql → Mysql
  | .dml (.insertBattle _) =>
    { m with
      autoIncrement := m.autoIncrement + 1
      insertId := Function.update m.insertId c m.autoIncrement }
  | _ => m

/-- A statement that has been carried out joins the transaction of the connection, or is one of its
own. -/
def log (m : Mysql) (c : Conn) (locks : Locks Key Key.Row Conn) (entry : mysqlStatements.Entry) :
    Mysql :=
  if m.isOpen c then
    { m with
      locks := locks
      txn := Function.update m.txn c (m.txn c ++ [entry]) }
  else
    { m with
      locks := locks.commit c
      committed := m.committed ++ [(c, [entry])] }

/-- A statement. -/
def perform (m : Mysql) (c : Conn) (sql : Sql) : Mysql × Reply sql :=
  match m.locks.run c mysqlStatements ⟨m.autoIncrement, sql⟩ with
  | none => (m, .error false)
  | some (locks, answer) =>
    ((m.log c locks ⟨⟨m.autoIncrement, sql⟩, answer⟩).allocate c sql, .ok answer)

/-- A plain `SELECT`. -/
def read (m : Mysql) (c : Conn) (sql : Sql) : Mysql × Reply sql :=
  match mysqlStatements.perform ⟨m.autoIncrement, sql⟩ (m.locks.view c) with
  | none => (m, .error false)
  | some (_, answer) => (m, .ok answer)

/-- The server carries out a statement; `none` while it waits for a lock. -/
def execute (m : Mysql) (c : Conn) (sql : Sql) : Option (Mysql × Reply sql) :=
  if sql.locks = false then some (m.read c sql)
  else if m.locks.Free c (Stmt.action ⟨m.autoIncrement, sql⟩).keys then some (m.perform c sql)
  else none

/-! ## Requests -/

/-- `mysql_query`; the result of a `SELECT` comes with the answer. -/
def query (m : Mysql) (c : Conn) (sql : Sql) (outcome : Outcome) : Option (Mysql × Reply sql) :=
  if m.isLinked c = false then some (m, .error true)
  else
    match outcome with
    | .ok => m.execute c sql
    | .error => some (m, .error false)
    | .abort => some (m.finish c, .error false)
    | .lost => some (m.lose c (some (.statement sql)), .error true)

/-- A request that is answered with success or failure: what it does, and what the server may still
do when the answer is lost. -/
def request (m : Mysql) (c : Conn) (act : Mysql → Mysql) (late : Option Inflight)
    (outcome : Outcome) : Mysql × Bool :=
  if m.isLinked c = false then (m, false)
  else
    match outcome with
    | .ok => (act m, true)
    | .error => (m, false)
    | .abort => (m.finish c, false)
    | .lost => (m.lose c late, false)

/-- A transaction begins, and one that is open is committed. -/
def start (m : Mysql) (c : Conn) : Mysql :=
  let m := m.commitOpen c
  { m with isOpen := Function.update m.isOpen c true }

/-- `START TRANSACTION` -/
def begin (m : Mysql) (c : Conn) : Outcome → Mysql × Bool :=
  m.request c (·.start c) none

/-- `mysql_commit` -/
def commit (m : Mysql) (c : Conn) : Outcome → Mysql × Bool :=
  m.request c (·.commitOpen c) (some .commit)

/-- `mysql_rollback` -/
def rollback (m : Mysql) (c : Conn) : Outcome → Mysql × Bool :=
  m.request c (·.finish c) none

/-- `mysql_real_connect` -/
def connect (m : Mysql) (outcome : Outcome) : Mysql × Option Conn :=
  match outcome with
  | .ok =>
    ({ m with
        isLinked := Function.update m.isLinked m.nextConn true
        nextConn := m.nextConn + 1 }, some m.nextConn)
  | _ => (m, none)

/-! ## What happens on its own -/

/-- The connection is lost between two requests, or closed. -/
def cut (m : Mysql) (c : Conn) : Mysql :=
  { m with isLinked := Function.update m.isLinked c false }

/-- Nothing of the connection is under way any more. -/
def forget (m : Mysql) (c : Conn) : Mysql :=
  { m with inflight := Function.update m.inflight c none }

/-- The server drops the transaction of a connection that is gone. -/
def drop (m : Mysql) (c : Conn) : Mysql :=
  if m.isLinked c then m else (m.finish c).forget c

/-- The server carries out the last request of a connection that is gone. -/
def resolve (m : Mysql) (c : Conn) : Mysql :=
  if m.isLinked c then m
  else
    match m.inflight c with
    | none => m
    | some .commit => (m.commitOpen c).forget c
    | some (.statement sql) =>
      match m.execute c sql with
      | none => m
      | some (m, _) => m.forget c

end Mysql
end Game
