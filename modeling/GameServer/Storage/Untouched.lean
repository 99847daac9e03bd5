import GameServer.Storage.Clients

/-!
# A row that is left alone

The row of one player, while the other transactions are about other rows. Nobody holds its lock
between two requests, and what is still under way on lost connections does not change it
(`Mysql.Untouched`). Statements may name the row if they are no part of a longer transaction and
leave it as it is (`Mysql.Harmless`).
-/

namespace Game

open Infra

variable {p : PlayerId} {row : PlayerRow}

/-- The statement is about the row of this player. -/
def Sql.Names (p : PlayerId) (sql : Sql) : Prop :=
  ∃ n, Key.player p ∈ (Stmt.action ⟨n, sql⟩).keys

/-- Carried out on this row, the statement leaves it as it is. -/
def Sql.Keeps (p : PlayerId) (row : PlayerRow) (sql : Sql) : Prop :=
  ∀ n db db' answer, db (.player p) = some row →
    mysqlStatements.perform ⟨n, sql⟩ db = some (db', answer) → db' (.player p) = some row

/-- A statement about other rows. -/
theorem Sql.keeps_of_not_names {sql : Sql} (h : ¬ sql.Names p) : sql.Keeps p row := by
  intro n db db' answer hrow hperform
  obtain ⟨v, -, rfl⟩ := Action.perform_eq_some.mp hperform
  have hkey : Key.player p ∉ (Stmt.action ⟨n, sql⟩).keys := fun hmem => h ⟨n, hmem⟩
  show (if h : Key.player p ∈ (Stmt.action ⟨n, sql⟩).keys then v _ h else db (.player p)) = some row
  rw [dif_neg hkey]
  exact hrow

theorem Sql.keeps_select (p : PlayerId) (row : PlayerRow) :
    Sql.Keeps p row (.select (.player p)) := by
  intro n db db' answer hrow hperform
  obtain ⟨v, hact, rfl⟩ := Action.perform_row_eq_some.mp hperform
  cases hact
  exact (Function.update_self ..).trans hrow

namespace Mysql

variable {m m' : Mysql} {c : Conn} {sql : Sql}

/-- On this connection the statement is none to worry about. -/
def Harmless (p : PlayerId) (row : PlayerRow) (m : Mysql) (c : Conn) (sql : Sql) : Prop :=
  sql.Names p → sql.Keeps p row ∧ m.isOpen c = false

/-- The row is there, nobody has locked it, and nothing under way will change it. -/
structure Untouched (p : PlayerId) (row : PlayerRow) (m : Mysql) : Prop where
  stored : m.db (.player p) = some row
  free : m.locks.holder (.player p) = none
  late : ∀ c sql, m.inflight c = some (.statement sql) → m.Harmless p row c sql

/-- What matters of a server for the row. -/
theorem Untouched.congr (h : m.Untouched p row)
    (hrow : m'.db (.player p) = m.db (.player p)) (hfree : m'.locks.holder (.player p) = none)
    (hlate : ∀ c sql, m'.inflight c = some (.statement sql) →
      m.inflight c = some (.statement sql) ∧ (m.isOpen c = false → m'.isOpen c = false)) :
    m'.Untouched p row where
  stored := hrow.trans h.stored
  free := hfree
  late c sql hsql hnames := by
    obtain ⟨hbefore, hopen⟩ := hlate c sql hsql
    obtain ⟨hkeeps, hclosed⟩ := h.late c sql hbefore hnames
    exact ⟨hkeeps, hopen hclosed⟩

/-- A key that nobody holds. -/
theorem view_of_free {k : Key} (h : m.locks.holder k = none) (c : Conn) :
    m.locks.view c k = m.db k := by
  unfold Locks.view
  rw [if_neg (by rw [h]; exact nofun)]
  rfl

/-- Ending transactions frees keys. -/
theorem holder_end {locks : Locks Key Key.Row Conn} {k : Key} (c : Conn)
    (h : locks.holder k = none ∨ locks.holder k = some c) :
    (if locks.holder k = some c then none else locks.holder k) = none := by
  split
  · rfl
  · next hne => exact h.resolve_right hne

/-! ## The end of a transaction -/

/-- A transaction that is closed is closed afterwards. -/
theorem closed_update (isOpen : Conn → Bool) (c a : Conn) (h : isOpen a = false) :
    Function.update isOpen c false a = false := by
  by_cases ha : a = c
  · rw [ha, Function.update_self]
  · rw [Function.update_of_ne ha]
    exact h

theorem Untouched.finish (h : m.Untouched p row) (c : Conn) : (m.finish c).Untouched p row :=
  h.congr rfl (holder_end c (Or.inl h.free))
    fun a _ hsql => ⟨hsql, closed_update m.isOpen c a⟩

theorem Untouched.commitOpen (h : m.Untouched p row) (c : Conn) :
    (m.commitOpen c).Untouched p row :=
  h.congr (view_of_free h.free c) (holder_end c (Or.inl h.free))
    fun a _ hsql => ⟨hsql, closed_update m.isOpen c a⟩

theorem Untouched.forget (h : m.Untouched p row) (c : Conn) : (m.forget c).Untouched p row := by
  refine h.congr rfl h.free fun a sql hsql => ⟨?_, id⟩
  by_cases ha : a = c
  · rw [ha] at hsql
    have hnone : (m.forget c).inflight c = none := forget_inflight m c
    rw [hnone] at hsql
    cases hsql
  · exact (Function.update_of_ne ha ..).symm.trans hsql

theorem Untouched.cut (h : m.Untouched p row) (c : Conn) : (m.cut c).Untouched p row :=
  h.congr rfl h.free fun _ _ hsql => ⟨hsql, id⟩

theorem Untouched.drop (h : m.Untouched p row) (c : Conn) : (m.drop c).Untouched p row := by
  unfold Mysql.drop
  split
  · exact h
  · exact (h.finish c).forget c

/-- The connection is lost while a request is on its way. -/
theorem Untouched.lose (h : m.Untouched p row) (c : Conn) {request : Option Inflight}
    (hrequest : ∀ sql, request = some (.statement sql) → m.Harmless p row c sql) :
    (m.lose c request).Untouched p row where
  stored := h.stored
  free := h.free
  late a sql hsql := by
    by_cases ha : a = c
    · subst ha
      have hself : (m.lose a request).inflight a = request := Function.update_self ..
      exact hrequest sql (hself.symm.trans hsql)
    · exact h.late a sql ((Function.update_of_ne ha ..).symm.trans hsql)

theorem Untouched.connect (h : m.Untouched p row) (x : Outcome) :
    (m.connect x).1.Untouched p row := by
  cases x with
  | ok => exact h.congr rfl h.free fun _ _ hsql => ⟨hsql, id⟩
  | error | abort | lost => exact h

/-- A transaction begins on a connection that is there. -/
theorem Untouched.start (h : m.Untouched p row) (hm : m.Consistent)
    (hlinked : m.isLinked c = true) : (m.start c).Untouched p row := by
  have hcommitted := h.commitOpen c
  refine hcommitted.congr rfl hcommitted.free fun a sql hsql => ⟨hsql, fun hclosed => ?_⟩
  have hne : a ≠ c := by
    rintro rfl
    have hnone : m.inflight a = none := hm.linked a hlinked
    have hsame : m.inflight a = some (.statement sql) := hsql
    rw [hnone] at hsame
    cases hsame
  exact (Function.update_of_ne hne ..).trans hclosed

/-! ## Statements -/

theorem Untouched.allocate (h : m.Untouched p row) (c : Conn) (sql : Sql) :
    (m.allocate c sql).Untouched p row := by
  unfold Mysql.allocate
  split
  · exact h.congr rfl h.free fun _ _ hsql => ⟨hsql, id⟩
  · exact h

/-- **A harmless statement** is carried out. -/
theorem Untouched.executed (h : m.Untouched p row) (hsql : m.Harmless p row c sql)
    {reply : Reply sql} (hexec : Executed m c sql m' reply) : m'.Untouched p row := by
  cases hexec with
  | failed => exact h
  | read => exact h
  | @done locks answer hlocks hfree hrun =>
    refine Untouched.allocate ?_ c sql
    obtain ⟨hperform, hrows, hholder⟩ := Locks.view_run hrun
    have hkey : locks.holder (.player p) =
        if Key.player p ∈ (Stmt.action ⟨m.autoIncrement, sql⟩).keys then some c
        else m.locks.holder (.player p) := congrFun hholder _
    unfold Mysql.log
    split
    · -- In a transaction: the statement does not name the row.
      next hopen =>
      have hnot : Key.player p ∉ (Stmt.action ⟨m.autoIncrement, sql⟩).keys := by
        intro hmem
        have hclosed := (hsql ⟨_, hmem⟩).2
        rw [hopen] at hclosed
        cases hclosed
      rw [if_neg hnot] at hkey
      refine h.congr ?_ (hkey.trans h.free) fun _ _ hlate => ⟨hlate, id⟩
      exact congrFun hrows _
    · have hview : m.locks.view c (.player p) = some row := (view_of_free h.free c).trans h.stored
      have hkeeps : sql.Keeps p row := by
        by_cases hnames : sql.Names p
        · exact (hsql hnames).1
        · exact Sql.keeps_of_not_names hnames
      refine h.congr ?_ (holder_end c ?_) fun _ _ hlate => ⟨hlate, id⟩
      · show locks.view c (.player p) = _
        rw [h.stored]
        exact hkeeps _ _ _ _ hview hperform
      · rw [hkey]
        split
        · exact Or.inr rfl
        · exact Or.inl h.free

theorem Untouched.queried (h : m.Untouched p row) (hsql : m.Harmless p row c sql) {x : Outcome}
    {reply : Reply sql} (hquery : Queried m c sql x m' reply) : m'.Untouched p row := by
  cases hquery with
  | failed => exact h
  | aborted => exact h.finish c
  | lost =>
    refine h.lose c fun sql' heq => ?_
    cases heq
    exact hsql
  | executed hlinked hexec => exact h.executed hsql hexec

/-- `START TRANSACTION`, `COMMIT` and `ROLLBACK`. -/
theorem Untouched.requested (h : m.Untouched p row) {act : Mysql → Mysql} {late : Option Inflight}
    {ok : Bool} (hact : m.isLinked c = true → (act m).Untouched p row)
    (hlate : ∀ sql, late ≠ some (.statement sql)) (hrequest : Requested m c act late m' ok) :
    m'.Untouched p row := by
  cases hrequest with
  | failed => exact h
  | aborted => exact h.finish c
  | lost => exact h.lose c fun sql heq => absurd heq (hlate sql)
  | done hlinked => exact hact hlinked

/-- **What is still under way** is carried out late. -/
theorem Untouched.resolve (h : m.Untouched p row) (c : Conn) : (m.resolve c).Untouched p row := by
  have hcases := resolve_cases m c
  generalize m.resolve c = m' at hcases ⊢
  cases hcases with
  | idle => exact h
  | commit => exact (h.commitOpen c).forget c
  | executed hinflight hexec => exact (h.executed (h.late c _ hinflight) hexec).forget c

end Mysql

/-! ## Requests -/

/-- The request makes no statement about the row of this player, or a harmless one. -/
def StorageRequest.Harmless {ι : Type} (p : PlayerId) (row : PlayerRow) (w : Storage ι) :
    StorageRequest → Prop
  | mysqlQuery a sql => ∀ c, (w.clients a).conn = some c → w.mysql.Harmless p row c sql
  | _ => True

namespace Storage

variable {ι : Type} {w w' : Storage ι} {i : ι}

theorem untouched_happen (h : w.mysql.Untouched p row) (e : Happening) :
    (w.happen e).mysql.Untouched p row := by
  cases e with
  | cut c => exact h.cut c
  | drop c => exact h.drop c
  | resolve c => exact h.resolve c

theorem untouched_onConn {α : Type} {a : ClientId} {missing r : α}
    {f : Conn → Option (Mysql × α)} (h : w.mysql.Untouched p row)
    (hf : ∀ c m, (w.clients a).conn = some c → f c = some (m, r) → m.Untouched p row)
    (hexec : w.onConn a missing f = some (w', r)) : w'.mysql.Untouched p row := by
  rcases onConn_cases hexec with ⟨-, rfl, -⟩ | ⟨c, m, hconn, heq, rfl⟩
  · exact h
  · exact hf c m hconn heq

/-- **A harmless request** leaves the row alone. -/
theorem untouched_exec [DecidableEq ι] (h : w.mysql.Untouched p row) (hw : w.mysql.Consistent)
    {q : StorageRequest} {x : Outcome} {r : q.Reply} (hq : q.Harmless p row w)
    (hexec : exec i q x w = some (w', r)) : w'.mysql.Untouched p row := by
  cases q with
  | lockClient a =>
    change w.lock i a = some (w', r) at hexec
    unfold lock at hexec
    dsimp only at hexec
    split at hexec
    · cases hexec
      exact h
    · split at hexec
      · cases hexec
        exact h
      · cases hexec
  | unlockClient a | setInTransaction a value | isConnected a | isInTransaction a | unlockService =>
    cases hexec
    exact h
  | lockService s =>
    unfold exec at hexec
    dsimp only at hexec
    split at hexec
    · cases hexec
      exact h
    · cases hexec
  | zadd q score =>
    cases x <;>
    · cases hexec
      exact h
  | mysqlConnect a =>
    cases hexec
    exact h.connect x
  | mysqlClose a =>
    unfold exec at hexec
    dsimp only at hexec
    split at hexec
    · cases hexec
      exact h
    · next c hconn =>
      cases hexec
      exact h.cut c
  | mysqlInsertId a =>
    refine untouched_onConn h (fun c m _ hf => ?_) hexec
    cases hf
    exact h
  | mysqlQuery a sql =>
    refine untouched_onConn h (fun c m hconn hf => ?_) hexec
    exact h.queried (hq c hconn) (Mysql.query_cases hf)
  | startTransaction a =>
    refine untouched_onConn h (fun c m _ hf => ?_) hexec
    exact h.requested (fun hlinked => h.start hw hlinked) (fun _ h => by cases h)
      (Mysql.request_cases (Option.some.inj hf))
  | mysqlCommit a =>
    refine untouched_onConn h (fun c m _ hf => ?_) hexec
    exact h.requested (fun _ => h.commitOpen c) (fun _ h => by cases h)
      (Mysql.request_cases (Option.some.inj hf))
  | mysqlRollback a =>
    refine untouched_onConn h (fun c m _ hf => ?_) hexec
    exact h.requested (fun _ => h.finish c) (fun _ h => by cases h)
      (Mysql.request_cases (Option.some.inj hf))

end Storage
end Game
