import GameServer.Infra.LockOrder
import GameServer.Storage.SettlementService

/-!
# Row locks

The server as far as locks go, row by row, and calls of `ApplySettlement` on clients of their own.
The contents of the tables are left out: a statement that has locked its rows may be answered in any
way. Every request may fail, and a connection may be lost at any time; the server finds out later,
and until then a statement that is under way goes on locking its rows.
-/

namespace Game

open Infra

/-! ## Rows -/

/-- A row of `battle`, `battle_player_result`, `settlement_log` or `player`. -/
inductive TableRow where
  | battle (battleId : BattleId)
  | result (battleId : BattleId) (playerId : PlayerId)
  | log (battleId : BattleId) (playerId : PlayerId)
  | player (playerId : PlayerId)
  deriving DecidableEq

/-- Where `Db` keeps the row. -/
def TableRow.key : TableRow → Key
  | battle battleId => .battle battleId
  | result battleId _ => .results battleId
  | log battleId _ => .logs battleId
  | player playerId => .player playerId

/-- The rows under a key, when these players have rows of the battle. -/
def Key.tableRows (players : BattleId → List PlayerId) : Key → List TableRow
  | battle battleId => [.battle battleId]
  | results battleId => (players battleId).map (.result battleId)
  | logs battleId => (players battleId).map (.log battleId)
  | player playerId => [.player playerId]

/-- The rows that a statement locks, one after the other. -/
def Sql.tableRows (players : BattleId → List PlayerId) : Sql → List TableRow
  | select (.battleForUpdate battleId) => [.battle battleId]
  | select (.resultsForUpdate battleId) => (players battleId).map (.result battleId)
  | select (.player _) => []
  -- Nobody knows of the new row before the statement is over.
  | dml (.insertBattle _) => []
  | dml (.insertResult battleId playerId _ _) => [.result battleId playerId]
  | dml (.insertLog battleId playerId _) => [.log battleId playerId]
  | dml (.settleBattle battleId _) => [.battle battleId]
  | dml (.insertPlayer playerId _ _ _ _) => [.player playerId]
  | dml (.updateScore playerId _ _ _ _) => [.player playerId]
  | dml (.other change) => change.keys.flatMap (·.tableRows players)

theorem Key.key_of_mem_tableRows {players : BattleId → List PlayerId} {k : Key} {r : TableRow}
    (h : r ∈ k.tableRows players) : r.key = k := by
  cases k with
  | battle | player =>
    rw [List.mem_singleton.mp h]
    rfl
  | results | logs =>
    obtain ⟨p, -, rfl⟩ := List.mem_map.mp h
    rfl

/-- The rows that a statement locks are among those that it may change. -/
theorem Sql.key_mem_of_tableRows {players : BattleId → List PlayerId} {sql : Sql} {r : TableRow}
    (h : r ∈ sql.tableRows players) (n : BattleId) :
    sql.locks = true ∧ r.key ∈ (Stmt.action ⟨n, sql⟩).keys := by
  cases sql with
  | select q =>
    cases q with
    | battleForUpdate b =>
      rw [List.mem_singleton.mp h]
      exact ⟨rfl, List.mem_singleton_self _⟩
    | resultsForUpdate b =>
      obtain ⟨p, -, rfl⟩ := List.mem_map.mp h
      exact ⟨rfl, List.mem_singleton_self _⟩
    | player p => exact absurd h List.not_mem_nil
  | dml q =>
    cases q with
    | insertBattle => exact absurd h List.not_mem_nil
    | insertResult | insertLog | settleBattle | insertPlayer | updateScore =>
      rw [List.mem_singleton.mp h]
      exact ⟨rfl, List.mem_singleton_self _⟩
    | other change =>
      obtain ⟨k, hk, hr⟩ := List.mem_flatMap.mp h
      exact ⟨rfl, Key.key_of_mem_tableRows hr ▸ hk⟩

/-! ## The server -/

/-- The clients and the server. Connections are the transactions of the lock table. -/
structure RowLocks where
  locks : LockTable TableRow Conn := {}
  isOpen : Conn → Bool := fun _ => false
  isLinked : Conn → Bool := fun _ => false
  nextConn : Conn := 0
  conn : ClientId → Option Conn := fun _ => none
  inTransaction : ClientId → Bool := fun _ => false

/-- What the tables may say to a request. -/
structure TableContents where
  answer : (sql : Sql) → sql.Answer
  insertId : BattleId
  players : BattleId → List PlayerId

namespace RowLocks

variable (s : RowLocks)

/-- The end of the transaction of a connection. -/
def finish (c : Conn) : RowLocks :=
  { s with locks := s.locks.release c, isOpen := Function.update s.isOpen c false }

/-- The end of a statement, which outside of transactions is a transaction of its own. -/
def endStatement (c : Conn) : RowLocks :=
  { s with locks := if s.isOpen c then s.locks.finish c else s.locks.release c }

/-- The connection is lost, or closed. -/
def cut (c : Conn) : RowLocks :=
  { s with isLinked := Function.update s.isLinked c false }

/-- The server finds out. -/
def drop (c : Conn) : RowLocks :=
  if s.isLinked c then s else s.finish c

/-- A statement reaches the server. -/
def send (client : ClientId) (rows : List TableRow) : RowLocks :=
  match s.conn client with
  | none => s
  | some c =>
    if s.isLinked c ∧ s.locks.pending c = none then { s with locks := s.locks.ask c rows } else s

/-- `mysql_query`; `none` while there are rows to be locked. -/
def query (contents : TableContents) (c : Conn) (sql : Sql) (outcome : Outcome) :
    Option (RowLocks × Reply sql) :=
  if s.isLinked c = false then some (s, .error true)
  else
    match outcome with
    | .ok =>
      if s.locks.pending c = some [] then some (s.endStatement c, .ok (contents.answer sql))
      else none
    | .error => some (s.endStatement c, .error false)
    | .abort => some (s.finish c, .error false)
    | .lost => some (s.cut c, .error true)

/-- The other requests on a connection. -/
def request (c : Conn) (act : RowLocks) (outcome : Outcome) : RowLocks × Bool :=
  if s.isLinked c = false then (s, false)
  else
    match outcome with
    | .ok => (act, true)
    | .error => (s, false)
    | .abort => (s.finish c, false)
    | .lost => (s.cut c, false)

/-- `START TRANSACTION` -/
def start (c : Conn) : RowLocks :=
  { s.finish c with isOpen := Function.update s.isOpen c true }

/-- `mysql_real_connect` -/
def connect (client : ClientId) : RowLocks :=
  { s with
    isLinked := Function.update s.isLinked s.nextConn true
    nextConn := s.nextConn + 1
    conn := Function.update s.conn client (some s.nextConn) }

/-- A request on the connection of the client, and the answer without a connection. -/
def onConn (client : ClientId) (act : Conn → RowLocks) (outcome : Outcome) : RowLocks × Bool :=
  match s.conn client with
  | none => (s, false)
  | some c => s.request c (act c) outcome

/-- A request; `none` while it has to wait. Each client has a call of its own, so its mutex is
free. -/
def exec (contents : TableContents) :
    (q : StorageRequest) → Outcome → RowLocks → Option (RowLocks × q.Reply)
  | .lockClient _, _, s | .unlockClient _, _, s => some (s, ())
  | .isConnected client, _, s => some (s, (s.conn client).isSome)
  | .isInTransaction client, _, s => some (s, s.inTransaction client)
  | .setInTransaction client value, _, s =>
    some ({ s with inTransaction := Function.update s.inTransaction client value }, ())
  | .mysqlConnect client, outcome, s =>
    if outcome = .ok then some (s.connect client, true)
    else some ({ s with conn := Function.update s.conn client none }, false)
  | .mysqlClose client, _, s =>
    match s.conn client with
    | none => some (s, ())
    | some c => some ({ s.cut c with conn := Function.update s.conn client none }, ())
  | .mysqlQuery client sql, outcome, s =>
    match s.conn client with
    | none => some (s, .error true)
    | some c => s.query contents c sql outcome
  | .mysqlInsertId _, _, s => some (s, contents.insertId)
  | .startTransaction client, outcome, s => some (s.onConn client s.start outcome)
  | .mysqlCommit client, outcome, s | .mysqlRollback client, outcome, s =>
    some (s.onConn client s.finish outcome)
  | .lockService _, _, s | .unlockService _ _ _, _, s => some (s, ())
  | .zadd _ _, outcome, s => some (s, outcome = .ok)

/-! ## Calls -/

/-- The calls that a client makes, one after the other. -/
def settleAll (client : ClientId) : List (Battle × List BattlePlayerResult) → StorageM Unit
  | [] => return ()
  | (battle, results) :: calls => do
    let _ ← (BattleRepository.mk (some client)).applySettlement battle results
    settleAll client calls

/-- The clients with what remains of their calls. -/
abbrev Calls := Pool ClientId RowLocks StorageRequest StorageRequest.Reply

/-- Before the first call of each client. -/
def beforeCalls (calls : ClientId → List (Battle × List BattlePlayerResult)) : Calls :=
  { world := {}, prog := fun client => settleAll client (calls client) }

/-- What can happen. -/
inductive Event where
  /-- The statement that the client makes next reaches the server. -/
  | send (client : ClientId) (contents : TableContents)
  /-- The server locks the next row for the statement on the connection. -/
  | take (c : Conn)
  /-- The next request of the client is answered. -/
  | answer (client : ClientId) (outcome : Outcome) (contents : TableContents)
  | cut (c : Conn)
  | drop (c : Conn)

def step (s : Calls) : Event → Calls
  | .send client contents =>
    match s.prog client with
    | .step (.mysqlQuery a sql) _ =>
      { s with world := s.world.send a (sql.tableRows contents.players) }
    | _ => s
  | .take c => { s with world := { s.world with locks := s.world.locks.take c } }
  | .answer client outcome contents =>
    match s.prog client with
    | .pure _ => s
    | .step q k =>
      match exec contents q outcome s.world with
      | none => s
      | some (w, r) => { world := w, prog := Function.update s.prog client (k r) }
  | .cut c => { s with world := s.world.cut c }
  | .drop c => { s with world := s.world.drop c }

end RowLocks
end Game
