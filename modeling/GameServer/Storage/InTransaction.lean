import GameServer.Storage.Transactions

/-!
# Callbacks in a transaction

While `in_transaction_` is set, no function of the client leaves the transaction (`Stays`), and so
no callback does (`stays_callback`): statements go over the connection on which the transaction has
begun, and nothing is committed.
-/

namespace Game

open Infra

variable {ι : Type} {i : ι} {client : ClientId} {w w' : Storage ι}
  {start : Storage ι} {c : Conn} {d : Nat} {before : List Log} {t : List (StorageStep ι)}

/-- The call began in the state `start`, and its statements are within the connections `P`. -/
def CallFrom (client : ClientId) (start : Storage ι) (P : Conn → Prop) (w : Storage ι)
    (t : List (StorageStep ι)) : Prop :=
  start.mysql.committed <+: w.mysql.committed ∧ ∀ c, P c → ∀ e ∈ t, Within client c e

variable {P : Conn → Prop}

theorem CallFrom.append (h : CallFrom client start P w t) {e : StorageStep ι}
    (hcommitted : w.mysql.committed <+: w'.mysql.committed)
    (he : ∀ c, P c → Within client c e) : CallFrom client start P w' (t ++ [e]) := by
  refine ⟨h.1.trans hcommitted, fun c hc e' he' => ?_⟩
  rcases List.mem_append.mp he' with he' | he'
  · exact h.2 c hc e' he'
  · exact List.mem_singleton.mp he' ▸ he c hc

theorem within_tame {q : StorageRequest} (hq : q.Tame client w) (r : q.Reply) (c : Conn) :
    Within client c ⟨w, q, r, w'⟩ := by
  cases q with
  | mysqlQuery a sql => exact hq.elim
  | _ => trivial

variable [DecidableEq ι]

/-- The runs of a call, with its steps. The statements are within one connection. -/
abbrev recordedCalls (i : ι) (client : ClientId) :=
  Prog.recorded (calls i client) fun t => ∃ c, ∀ e ∈ t, Within client c e

theorem CallFrom.elsewhere (hw : w.Consistent) (h : CallFrom client start P w t)
    (hrely : Relation.ReflTransGen (Elsewhere client) w w') : CallFrom client start P w' t := by
  suffices h : w'.Consistent ∧ CallFrom client start P w' t from h.2
  induction hrely with
  | refl => exact ⟨hw, h⟩
  | tail _ hstep ih =>
    obtain ⟨hconsistent, hcommitted, -, -⟩ := hstep.spec ih.1
    exact ⟨hconsistent, ih.2.1.trans hcommitted, ih.2.2⟩

theorem lasting_call (hP : ∃ c, P c) :
    Lasting (calls i client) (fun t => ∃ c, ∀ e ∈ t, Within client c e) False i client
      (CallFrom client start P) where
  exec h := h.imp fun _ h => h.2
  succeeds _ := False.elim
  rely hw _ h hrely := ⟨hrely, h.elsewhere hw hrely⟩
  guar h := hP.imp fun c hc => h.2 c hc
  step hw _ h hexec hq := by
    obtain ⟨x, -, hexec⟩ := hexec
    exact h.append ((Storage.exec_effect hw hexec).committed hw) fun c _ => within_tame hq _ c

/-! ## Callbacks -/

/-- The call is in the transaction. -/
abbrev InTransaction (i : ι) (client : ClientId) (start : Storage ι) (c : Conn)
    (before : List Log) (d : Nat) : Storage ι × List (StorageStep ι) → Prop :=
  Calling i client (some c) (CallFrom client start (· = c)) d true (Inside c before)

/-- A function that does not leave the transaction. -/
def Stays {α : Type} (i : ι) (client : ClientId) (start : Storage ι) (c : Conn)
    (before : List Log) (p : StorageM α) : Prop :=
  ∀ d, Prog.Triple (recordedCalls i client) (InTransaction i client start c before d) p
    fun _ => InTransaction i client start c before d

theorem lasting_eq (i : ι) (client : ClientId) (start : Storage ι) (c : Conn) :
    Lasting (calls i client) (fun t => ∃ c, ∀ e ∈ t, Within client c e) False i client
      (CallFrom client start (· = c)) :=
  lasting_call ⟨c, rfl⟩

theorem triple_mysqlQuery (sql : Sql) :
    Prog.Triple (recordedCalls i client)
      (Calling i client (some c) (CallFrom client start (· = c)) d true
        fun t conn m => Inside c before t conn m ∧ conn.isSome = true)
      (ask (.mysqlQuery client sql)) fun _ => InTransaction i client start c before d := by
  refine triple_ask (fun _ => lasting_eq ..) (fun _ => steady_inside) fun w t w' r h hexec => ?_
  obtain ⟨x, hx, hexec⟩ := hexec
  obtain ⟨hinside, hconn⟩ := h.known
  have hcommitted := (Storage.exec_effect h.consistent hexec).committed h.consistent
  rcases Storage.onConn_cases hexec with ⟨hnone, -, -⟩ | ⟨a, m, ha, hquery, rfl⟩
  · dsimp only at hconn
    rw [hnone] at hconn
    cases hconn
  · obtain rfl : a = c := hinside.conn a ha
    have hm := h.consistent.mysql
    obtain ⟨hinside', hopen⟩ := (hinside.query _ _ hm rfl hquery).resolve_left fun h => hx h.1
    refine h.setMysql ((Mysql.query_cases hquery).advance hm) h.privateConn
      (h.lasting.append hcommitted fun b hb => ?_) hinside'
    subst hb
    exact ⟨rfl, ha, fun answer heq => (hopen answer heq).2⟩

/-- A statement, once the client has looked for its connection. -/
theorem stays_query {α : Type} {sql : Sql} {none : α} {k : Reply sql → StorageM α}
    (hk : ∀ reply, Stays i client start c before (k reply)) :
    Stays i client start c before (MysqlClient.withLock client do
      if !(← MysqlClient.hasConnection client) then
        return none
      k (← ask (.mysqlQuery client sql))) := by
  intro d
  refine triple_withLock (lasting_eq ..) steady_inside (fun _ => lasting_eq ..)
    (fun _ => steady_inside) ?_
  refine .bind (triple_hasConnection_inTransaction (lasting_eq ..) steady_inside) fun r =>
    .ite (fun _ => ?_) fun hr => ?_
  · exact .pure fun s h => { h with known := h.known.1 }
  · refine .bind ((triple_mysqlQuery sql).mono (fun s h => ?_) fun _ _ h => h) fun reply =>
      hk reply _
    exact { h with known := ⟨h.known.1, h.known.2.trans (by simpa using hr)⟩ }

/-- What a function does when a statement has failed. -/
theorem stays_failed {α : Type} (lost : Bool) (a : α) :
    Stays i client start c before (do
      MysqlClient.resetOnConnectionError client lost
      return a) := fun _ =>
  .bind (triple_reset_inTransaction (lasting_eq ..) steady_inside lost) fun _ => .pure fun _ h => h

theorem stays_pure {α : Type} (a : α) :
    Stays i client start c before (Pure.pure a : StorageM α) := fun _ =>
  .pure fun _ h => h

theorem stays_execute (sql : Dml) :
    Stays i client start c before (MysqlClient.execute client sql) := by
  refine stays_query fun reply => ?_
  cases reply with
  | error lost => exact stays_failed lost false
  | ok => exact stays_pure true

theorem stays_executeAffected (sql : Dml) :
    Stays i client start c before (MysqlClient.executeAffected client sql) := by
  refine stays_query fun reply => ?_
  cases reply with
  | error lost => exact stays_failed lost (-1)
  | ok affected => exact stays_pure affected

theorem stays_select (sql : Select) :
    Stays i client start c before (MysqlClient.query client sql) := by
  refine stays_query fun reply => ?_
  cases reply with
  | error lost => exact stays_failed lost []
  | ok rows => exact stays_pure rows

theorem stays_executeInsert (sql : Dml) :
    Stays i client start c before (MysqlClient.executeInsert client sql) := by
  intro d
  refine triple_withLock (lasting_eq ..) steady_inside (fun _ => lasting_eq ..)
    (fun _ => steady_inside) ?_
  refine .bind (stays_executeAffected sql _) fun affected =>
    .ite (fun _ => stays_pure 0 _) fun _ => ?_
  exact triple_mysqlInsertId (lasting_eq ..) steady_inside

theorem stays_escapeString (value : List Char) :
    Stays i client start c before (MysqlClient.escapeString client value) := by
  intro d
  refine triple_withLock (lasting_eq ..) steady_inside (fun _ => lasting_eq ..)
    (fun _ => steady_inside) ?_
  refine .bind (triple_hasConnection_inTransaction (lasting_eq ..) steady_inside) fun r =>
    .ite (fun _ => ?_) fun _ => ?_
  all_goals exact .pure fun s h => { h with known := h.known.1 }

theorem stays_connect : Stays i client start c before (MysqlClient.connect client) := fun _ =>
  (triple_connect_inTransaction (lasting_eq ..) steady_inside).mono (fun _ h => h) fun _ _ h =>
    { h with known := h.known.1 }

theorem stays_disconnect : Stays i client start c before (MysqlClient.disconnect client) :=
  fun _ =>
    (triple_disconnect (lasting_eq ..) steady_inside steady_inside (fun _ _ h => h)
      fun _ _ _ hm h => h.close hm).mono (fun _ h => h) fun _ _ h => { h with known := h.known.1 }

/-- **A nested transaction is refused.** -/
theorem triple_nested {C : Contract StorageRequest StorageRequest.Reply (Storage ι)}
    {G : List (StorageStep ι) → Prop} {S : Prop} {own : Option Conn}
    {E : Storage ι → List (StorageStep ι) → Prop}
    {K : List (StorageStep ι) → Option Conn → Mysql → Prop} (hE : Lasting C G S i client E)
    (hK : Steady own K) (operation : Option (StorageM (Except Unit Bool))) :
    Prog.Triple (Prog.recorded C G) (Calling i client own E d true K)
      (MysqlClient.runTransaction client operation) fun a =>
        Calling i client own E d true fun t conn m => K t conn m ∧ a = .ok false := by
  refine triple_withLock hE hK (fun _ => hE) (fun a => hK.and (p := fun _ => a = .ok false)) ?_
  refine .bind (triple_isInTransaction hE hK) fun r => .ite (fun _ => ?_) fun hr => ?_
  · exact .pure fun s h => { h with known := ⟨h.known.1, rfl⟩ }
  · exact fun s h => absurd h.known.2 hr

theorem stays_runTransaction (operation : Option (StorageM (Except Unit Bool))) :
    Stays i client start c before (MysqlClient.runTransaction client operation) := fun _ =>
  (triple_nested (lasting_eq ..) steady_inside operation).mono (fun _ h => h) fun _ _ h =>
    { h with known := h.known.1 }

/-- **No callback leaves the transaction.** -/
theorem stays_callback (callback : Callback) :
    Stays i client start c before (callback.run client) := by
  induction callback with
  | ret success => exact stays_pure _
  | throw => exact stays_pure _
  | execute sql k ih => exact fun d => .bind (stays_execute sql d) fun r => ih r d
  | executeAffected sql k ih => exact fun d => .bind (stays_executeAffected sql d) fun r => ih r d
  | executeInsert sql k ih => exact fun d => .bind (stays_executeInsert sql d) fun r => ih r d
  | query sql k ih => exact fun d => .bind (stays_select sql d) fun r => ih r d
  | escapeString value k ih => exact fun d => .bind (stays_escapeString value d) fun r => ih r d
  | runTransaction operation k _ ih =>
    exact fun d => .bind (stays_runTransaction _ d) fun r => ih r d
  | connect k ih => exact fun d => .bind (stays_connect d) fun r => ih r d
  | disconnect k ih => exact fun d => .bind (stays_disconnect d) fun _ => ih d

end Game
