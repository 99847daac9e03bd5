import GameServer.Storage.Clients
import Mathlib.Logic.Relation

/-!
# Callbacks of a transaction

The operations that a callback of `RunTransaction` has, and the run of a call while other threads
are at work on other clients.
-/

namespace Game

open Infra

/-- A callback: its next operation, and how it goes on from the result. -/
inductive Callback where
  | ret (success : Bool)
  | throw
  | execute (sql : Dml) (k : Bool → Callback)
  | executeAffected (sql : Dml) (k : Int → Callback)
  | executeInsert (sql : Dml) (k : BattleId → Callback)
  | query (sql : Select) (k : List sql.Row → Callback)
  | escapeString (value : List Char) (k : List Char → Callback)
  | runTransaction (operation : Callback) (k : Except Unit Bool → Callback)
  | connect (k : Bool → Callback)
  | disconnect (k : Callback)

/-- What the callback does. -/
def Callback.run (client : ClientId) : Callback → StorageM (Except Unit Bool)
  | ret success => return .ok success
  | throw => return .error ()
  | execute sql k => do (k (← MysqlClient.execute client sql)).run client
  | executeAffected sql k => do (k (← MysqlClient.executeAffected client sql)).run client
  | executeInsert sql k => do (k (← MysqlClient.executeInsert client sql)).run client
  | query sql k => do (k (← MysqlClient.query client sql)).run client
  | escapeString value k => do (k (← MysqlClient.escapeString client value)).run client
  | runTransaction operation k => do
    (k (← MysqlClient.runTransaction client (some (operation.run client)))).run client
  | connect k => do (k (← MysqlClient.connect client)).run client
  | disconnect k => do
    MysqlClient.disconnect client
    k.run client

/-! ## Runs of a call -/

/-- A step of the rest of the system. The mutex keeps the other threads away from the client until
the call returns, and what they do with it later is no part of the call. -/
inductive Elsewhere {ι : Type} [DecidableEq ι] (client : ClientId) (w w' : Storage ι) : Prop where
  | happen (e : Storage.Happening) (h : w' = w.happen e)
  | exec {j : ι} {q : StorageRequest} {x : Outcome} {r : q.Reply} (hq : q.client ≠ some client)
      (h : Storage.exec j q x w = some (w', r))

theorem Elsewhere.of_allowed {ι : Type} [DecidableEq ι] {i j : ι} {client : ClientId}
    {w w' : Storage ι} {q : StorageRequest} {x : Outcome} {r : q.Reply} (hij : j ≠ i)
    (howner : (w.clients client).owner = some i) (hq : q.Allowed j w)
    (h : Storage.exec j q x w = some (w', r)) : Elsewhere client w w' :=
  .exec (Storage.client_ne_of_owner hij howner hq h) h

/-- A statement that fails leaves the transaction open, unless the connection is lost. -/
def StorageRequest.Mild : StorageRequest → Outcome → Prop
  | mysqlQuery _ _, x => x ≠ .abort
  | _, _ => True

/-- The requests of a call of the thread `i`. -/
def calls {ι : Type} [DecidableEq ι] (i : ι) (client : ClientId) :
    Contract StorageRequest StorageRequest.Reply (Storage ι) where
  exec q w r w' := ∃ x, q.Mild x ∧ Storage.exec i q x w = some (w', r)
  rely := Relation.ReflTransGen (Elsewhere client)
  guar _ _ _ := True

abbrev StorageStep (ι : Type) := Prog.Step StorageRequest StorageRequest.Reply (Storage ι)

/-- The statement that a step has carried out with success, when it locks what it reads. -/
def succeeded {ι : Type} : StorageStep ι → Option mysqlStatements.Entry
  | ⟨before, .mysqlQuery _ sql, .ok answer, _⟩ =>
    if sql.locks then some ⟨⟨before.mysql.autoIncrement, sql⟩, answer⟩ else none
  | _ => none

/-- The statements that have been carried out with success. -/
def statements {ι : Type} (t : List (StorageStep ι)) : Log :=
  t.filterMap succeeded

/-- A statement goes over the connection `c`, and it succeeds in a transaction only. -/
def Within {ι : Type} (client : ClientId) (c : Conn) : StorageStep ι → Prop
  | ⟨before, .mysqlQuery a _, reply, _⟩ =>
    a = client ∧ (before.clients client).conn = some c ∧
      ∀ answer, reply = .ok answer → before.mysql.isOpen c = true
  | _ => True

/-- The client is in no transaction, and its connection, if there is one, is idle. -/
def Storage.AtRest (w : Storage ι) (client : ClientId) : Prop :=
  (w.clients client).inTransaction = false ∧ ∀ c, (w.clients client).conn = some c →
    w.mysql.isOpen c = false ∧ w.mysql.inflight c = none

/-- The thread can lock the mutex: nobody holds it, or the thread itself does. -/
def Storage.Lockable (w : Storage ι) (i : ι) (client : ClientId) : Prop :=
  (w.clients client).owner = none ∨
    (w.clients client).owner = some i ∧ (w.clients client).depth ≠ 0

end Game
