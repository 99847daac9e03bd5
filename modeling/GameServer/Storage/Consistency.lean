import GameServer.Storage.Mysql

/-!
# What the server keeps

Whatever the connections ask for and whatever becomes of their requests, the tables hold what has
been committed, one transaction after the other, and each open transaction sees its own statements
on top of that (`Mysql.Consistent`). A step of one connection leaves the others alone
(`Mysql.Others`).
-/

namespace Game

open Infra

namespace Mysql

/-- The tables hold what has been committed, and the transactions are as their statements have made
them. -/
structure Consistent (m : Mysql) : Prop where
  fresh : ∀ c, m.nextConn ≤ c → m.isLinked c = false ∧ m.isOpen c = false ∧ m.inflight c = none
  closed : ∀ c, m.isOpen c = false → m.locks.Clean c ∧ m.txn c = []
  follows : ∀ c, m.locks.Follows c mysqlStatements (m.txn c)
  linked : ∀ c, m.isLinked c = true → m.inflight c = none
  replay : mysqlStatements.Replays (m.committed.flatMap (·.2)) Db.empty m.db
  committed_lt : ∀ x ∈ m.committed, x.1 < m.nextConn

/-- What a step of the connection `c` leaves to the others. -/
structure Others (c : Conn) (m m' : Mysql) : Prop where
  isOpen : ∀ a, a ≠ c → m'.isOpen a = m.isOpen a
  isLinked : ∀ a, a ≠ c → m'.isLinked a = m.isLinked a
  inflight : ∀ a, a ≠ c → m'.inflight a = m.inflight a
  txn : ∀ a, a ≠ c → m'.txn a = m.txn a
  insertId : ∀ a, a ≠ c → m'.insertId a = m.insertId a
  clean : ∀ a, a ≠ c → m.locks.Clean a → m'.locks.Clean a
  follows : ∀ a, a ≠ c → ∀ log, m.locks.Follows a mysqlStatements log →
    m'.locks.Follows a mysqlStatements log

/-- A step of the connection `c` that commits these transactions. -/
structure Advance (c : Conn) (m m' : Mysql) (logs : List Log) : Prop where
  consistent : m'.Consistent
  others : Others c m m'
  nextConn : m'.nextConn = m.nextConn
  committed : m'.committed = m.committed ++ logs.map (c, ·)
  replays : mysqlStatements.Replays logs.flatten m.db m'.db

variable {m m' m'' : Mysql} {c : Conn} {logs : List Log}

theorem consistent_init : Consistent {} where
  fresh _ _ := ⟨rfl, rfl, rfl⟩
  closed _ _ := ⟨fun _ h => (by cases h), rfl⟩
  follows _ := Locks.follows_nil fun _ h => (by cases h)
  linked _ _ := rfl
  replay := rfl
  committed_lt _ h := absurd h List.not_mem_nil

theorem Others.refl (c : Conn) (m : Mysql) : Others c m m :=
  ⟨fun _ _ => rfl, fun _ _ => rfl, fun _ _ => rfl, fun _ _ => rfl, fun _ _ => rfl,
    fun _ _ => id, fun _ _ _ => id⟩

theorem Others.trans (h : Others c m m') (h' : Others c m' m'') : Others c m m'' where
  isOpen a ha := (h'.isOpen a ha).trans (h.isOpen a ha)
  isLinked a ha := (h'.isLinked a ha).trans (h.isLinked a ha)
  inflight a ha := (h'.inflight a ha).trans (h.inflight a ha)
  txn a ha := (h'.txn a ha).trans (h.txn a ha)
  insertId a ha := (h'.insertId a ha).trans (h.insertId a ha)
  clean a ha hc := h'.clean a ha (h.clean a ha hc)
  follows a ha log hf := h'.follows a ha log (h.follows a ha log hf)

theorem Advance.refl (hm : m.Consistent) (c : Conn) : Advance c m m [] :=
  ⟨hm, .refl c m, rfl, (List.append_nil _).symm, rfl⟩

theorem Advance.trans {logs' : List Log} (h : Advance c m m' logs) (h' : Advance c m' m'' logs') :
    Advance c m m'' (logs ++ logs') where
  consistent := h'.consistent
  others := h.others.trans h'.others
  nextConn := h'.nextConn.trans h.nextConn
  committed := by rw [h'.committed, h.committed, List.append_assoc, List.map_append]
  replays := by
    rw [List.flatten_append, Statements.replays_append]
    exact ⟨_, h.replays, h'.replays⟩

/-- A step that commits nothing leaves the tables as they are. -/
theorem Advance.db_eq (h : Advance c m m' []) : m'.db = m.db :=
  h.replays

/-- A connection that is linked is not a fresh one. -/
theorem Consistent.lt_nextConn (hm : m.Consistent) (hlinked : m.isLinked c = true) :
    c < m.nextConn := by
  refine Nat.lt_of_not_le fun hge => ?_
  have hlost := (hm.fresh c hge).1
  rw [hlinked] at hlost
  cases hlost

theorem Consistent.lt_of_inflight (hm : m.Consistent) {request : Inflight}
    (hinflight : m.inflight c = some request) : c < m.nextConn := by
  refine Nat.lt_of_not_le fun hge => ?_
  have hnone := (hm.fresh c hge).2.2
  rw [hinflight] at hnone
  cases hnone

/-- The server is consistent after a step of `c`, once it is as far as `c` goes. -/
theorem Consistent.step (hm : m.Consistent) (ho : Others c m m') (hnext : m'.nextConn = m.nextConn)
    (hfresh : m.nextConn ≤ c →
      m'.isLinked c = false ∧ m'.isOpen c = false ∧ m'.inflight c = none)
    (hclosed : m'.isOpen c = false → m'.locks.Clean c ∧ m'.txn c = [])
    (hfollows : m'.locks.Follows c mysqlStatements (m'.txn c))
    (hlinked : m'.isLinked c = true → m'.inflight c = none)
    (hcommitted : m'.committed = m.committed ++ logs.map (c, ·))
    (hlogs : logs ≠ [] → c < m.nextConn)
    (hreplay : mysqlStatements.Replays (logs.flatten) m.db m'.db) : Advance c m m' logs where
  others := ho
  nextConn := hnext
  committed := hcommitted
  replays := hreplay
  consistent.committed_lt x hx := by
    rw [hcommitted] at hx
    rw [hnext]
    rcases List.mem_append.mp hx with hx | hx
    · exact hm.committed_lt x hx
    · obtain ⟨log, hlog, rfl⟩ := List.mem_map.mp hx
      exact hlogs (List.ne_nil_of_mem hlog)
  consistent.fresh a ha := by
    rw [hnext] at ha
    by_cases hac : a = c
    · exact hac ▸ hfresh (hac ▸ ha)
    · rw [ho.isLinked a hac, ho.isOpen a hac, ho.inflight a hac]
      exact hm.fresh a ha
  consistent.closed a ha := by
    by_cases hac : a = c
    · exact hac ▸ hclosed (hac ▸ ha)
    · obtain ⟨hclean, htxn⟩ := hm.closed a (ho.isOpen a hac ▸ ha)
      exact ⟨ho.clean a hac hclean, (ho.txn a hac).trans htxn⟩
  consistent.follows a := by
    by_cases hac : a = c
    · exact hac ▸ hfollows
    · rw [ho.txn a hac]
      exact ho.follows a hac _ (hm.follows a)
  consistent.linked a ha := by
    by_cases hac : a = c
    · exact hac ▸ hlinked (hac ▸ ha)
    · rw [ho.inflight a hac]
      exact hm.linked a (ho.isLinked a hac ▸ ha)
  consistent.replay := by
    rw [hcommitted, List.flatMap_append, Statements.replays_append, List.flatMap_map]
    refine ⟨m.db, hm.replay, ?_⟩
    simpa using hreplay

/-- The same when nothing is committed. -/
theorem Consistent.keep (hm : m.Consistent) (ho : Others c m m') (hnext : m'.nextConn = m.nextConn)
    (hfresh : m.nextConn ≤ c →
      m'.isLinked c = false ∧ m'.isOpen c = false ∧ m'.inflight c = none)
    (hclosed : m'.isOpen c = false → m'.locks.Clean c ∧ m'.txn c = [])
    (hfollows : m'.locks.Follows c mysqlStatements (m'.txn c))
    (hlinked : m'.isLinked c = true → m'.inflight c = none)
    (hcommitted : m'.committed = m.committed) (hdb : m'.db = m.db) : Advance c m m' [] :=
  hm.step ho hnext hfresh hclosed hfollows hlinked (hcommitted.trans (List.append_nil _).symm)
    (fun h => absurd rfl h) hdb

/-! ## The end of a transaction -/

theorem Consistent.finish (hm : m.Consistent) (c : Conn) : Advance c m (m.finish c) [] := by
  have hclean : (m.finish c).locks.Clean c := Locks.clean_rollback
  have htxn : (m.finish c).txn c = [] := Function.update_self ..
  have ho : Others c m (m.finish c) :=
    ⟨fun _ ha => Function.update_of_ne ha .., fun _ _ => rfl, fun _ _ => rfl,
      fun _ ha => Function.update_of_ne ha .., fun _ _ => rfl, fun _ _ h => h.rollback c,
      fun _ ha _ h => h.rollback ha.symm⟩
  refine hm.keep ho rfl (fun hge => ?_) (fun _ => ⟨hclean, htxn⟩) ?_ (hm.linked c) rfl rfl
  · obtain ⟨hlost, -, hnone⟩ := hm.fresh c hge
    exact ⟨hlost, Function.update_self .., hnone⟩
  · rw [htxn]
    exact Locks.follows_nil hclean

theorem Consistent.commitOpen (hm : m.Consistent) (c : Conn) :
    Advance c m (m.commitOpen c) (if m.isOpen c then [m.txn c] else []) := by
  have hclean : (m.commitOpen c).locks.Clean c := Locks.clean_commit
  have htxn : (m.commitOpen c).txn c = [] := Function.update_self ..
  have ho : Others c m (m.commitOpen c) :=
    ⟨fun _ ha => Function.update_of_ne ha .., fun _ _ => rfl, fun _ _ => rfl,
      fun _ ha => Function.update_of_ne ha .., fun _ _ => rfl, fun _ _ h => h.commit c,
      fun _ ha _ h => h.commit ha.symm⟩
  have hcommitted : (m.commitOpen c).committed =
      m.committed ++ (if m.isOpen c then [m.txn c] else []).map (c, ·) := by
    unfold Mysql.commitOpen
    cases m.isOpen c
    · exact (List.append_nil _).symm
    · rfl
  -- A transaction that is not open has done nothing.
  have hlog : (if m.isOpen c then [m.txn c] else []).flatten = m.txn c := by
    cases hopen : m.isOpen c with
    | true => simp
    | false => simp [(hm.closed c hopen).2]
  refine hm.step ho rfl (fun hge => ?_) (fun _ => ⟨hclean, htxn⟩) ?_ (hm.linked c) hcommitted
    (fun h => ?_) ?_
  · obtain ⟨hlost, -, hnone⟩ := hm.fresh c hge
    exact ⟨hlost, Function.update_self .., hnone⟩
  · rw [htxn]
    exact Locks.follows_nil hclean
  · refine Nat.lt_of_not_le fun hge => h ?_
    rw [(hm.fresh c hge).2.1]
    rfl
  · rw [hlog]
    exact Locks.replays_commit (hm.follows c)

theorem Consistent.start (hm : m.Consistent) (hlinked : m.isLinked c = true) :
    Advance c m (m.start c) (if m.isOpen c then [m.txn c] else []) := by
  have hcommit := hm.commitOpen c
  have hnone := hm.linked c hlinked
  have hopen : (m.start c).isOpen c = true := Function.update_self ..
  have ho : Others c m (m.start c) :=
    { hcommit.others with
      isOpen := fun a ha =>
        (Function.update_of_ne ha ..).trans (hcommit.others.isOpen a ha) }
  refine hm.step ho rfl (fun hge => ?_) (fun h => ?_) (hcommit.consistent.follows c)
    (fun _ => hnone) hcommit.committed (fun _ => hm.lt_nextConn hlinked) hcommit.replays
  · exact absurd (hm.lt_nextConn hlinked) (Nat.not_lt.mpr hge)
  · rw [hopen] at h
    cases h

/-! ## Connections -/

/-- The connection is lost. -/
theorem Consistent.lose (hm : m.Consistent) (hlinked : m.isLinked c = true)
    (request : Option Inflight) : Advance c m (m.lose c request) [] := by
  have hlost : (m.lose c request).isLinked c = false := Function.update_self ..
  have ho : Others c m (m.lose c request) :=
    ⟨fun _ _ => rfl, fun _ ha => Function.update_of_ne ha ..,
      fun _ ha => Function.update_of_ne ha .., fun _ _ => rfl, fun _ _ => rfl, fun _ _ => id,
      fun _ _ _ => id⟩
  refine hm.keep ho rfl (fun hge => ?_) (hm.closed c) (hm.follows c) (fun h => ?_) rfl rfl
  · exact absurd (hm.lt_nextConn hlinked) (Nat.not_lt.mpr hge)
  · rw [hlost] at h
    cases h

theorem Consistent.cut (hm : m.Consistent) (c : Conn) : Advance c m (m.cut c) [] := by
  have hlost : (m.cut c).isLinked c = false := Function.update_self ..
  have ho : Others c m (m.cut c) :=
    ⟨fun _ _ => rfl, fun _ ha => Function.update_of_ne ha .., fun _ _ => rfl, fun _ _ => rfl,
      fun _ _ => rfl, fun _ _ => id, fun _ _ _ => id⟩
  refine hm.keep ho rfl (fun hge => ?_) (hm.closed c) (hm.follows c) (fun h => ?_) rfl rfl
  · obtain ⟨-, hopen, hnone⟩ := hm.fresh c hge
    exact ⟨hlost, hopen, hnone⟩
  · rw [hlost] at h
    cases h

theorem Consistent.forget (hm : m.Consistent) (c : Conn) : Advance c m (m.forget c) [] := by
  have hnone : (m.forget c).inflight c = none := Function.update_self ..
  have ho : Others c m (m.forget c) :=
    ⟨fun _ _ => rfl, fun _ _ => rfl, fun _ ha => Function.update_of_ne ha .., fun _ _ => rfl,
      fun _ _ => rfl, fun _ _ => id, fun _ _ _ => id⟩
  refine hm.keep ho rfl (fun hge => ?_) (hm.closed c) (hm.follows c) (fun _ => hnone) rfl rfl
  obtain ⟨hlost, hopen, -⟩ := hm.fresh c hge
  exact ⟨hlost, hopen, hnone⟩

/-- What a new connection is like. -/
structure Fresh (m m' : Mysql) (c : Conn) : Prop where
  eq : c = m.nextConn
  lt : c < m'.nextConn
  isLinked : m'.isLinked c = true
  isOpen : m'.isOpen c = false
  inflight : m'.inflight c = none

theorem Consistent.connect (hm : m.Consistent) (outcome : Outcome) :
    (m.connect outcome).1.Consistent ∧ Others m.nextConn m (m.connect outcome).1 ∧
      m.nextConn ≤ (m.connect outcome).1.nextConn ∧
      (m.connect outcome).1.committed = m.committed ∧
      ∀ c, (m.connect outcome).2 = some c → Fresh m (m.connect outcome).1 c := by
  have hkeep : m.Consistent ∧ Others m.nextConn m m ∧ m.nextConn ≤ m.nextConn ∧
      m.committed = m.committed ∧ ∀ c, (none : Option Conn) = some c → Fresh m m c :=
    ⟨hm, .refl _ m, Nat.le_refl _, rfl, fun _ h => (by cases h)⟩
  cases outcome with
  | error | abort | lost => exact hkeep
  | ok =>
    obtain ⟨-, hopen, hnone⟩ := hm.fresh m.nextConn (Nat.le_refl _)
    have hold : ∀ a, a ≠ m.nextConn →
        Function.update m.isLinked m.nextConn true a = m.isLinked a :=
      fun a ha => Function.update_of_ne ha ..
    have hlinked : Function.update m.isLinked m.nextConn true m.nextConn = true :=
      Function.update_self ..
    refine ⟨⟨fun a ha => ?_, hm.closed, hm.follows, fun a ha => ?_, hm.replay,
      fun x hx => Nat.lt_succ_of_lt (hm.committed_lt x hx)⟩,
      ⟨fun _ _ => rfl, hold, fun _ _ => rfl, fun _ _ => rfl, fun _ _ => rfl, fun _ _ => id,
        fun _ _ _ => id⟩, Nat.le_succ _, rfl, fun c hc => ?_⟩
    · obtain ⟨h₁, h₂, h₃⟩ := hm.fresh a (Nat.le_of_succ_le ha)
      exact ⟨(hold a (Nat.ne_of_gt ha)).trans h₁, h₂, h₃⟩
    · by_cases hne : a = m.nextConn
      · exact hne ▸ hnone
      · exact hm.linked a ((hold a hne).symm.trans ha)
    · cases hc
      exact ⟨rfl, Nat.lt_succ_self _, hlinked, hopen, hnone⟩

/-! ## Statements -/

theorem Consistent.allocate (hm : m.Consistent) (c : Conn) (sql : Sql) :
    Advance c m (m.allocate c sql) [] := by
  unfold Mysql.allocate
  split
  · exact hm.keep ⟨fun _ _ => rfl, fun _ _ => rfl, fun _ _ => rfl, fun _ _ => rfl,
      fun _ ha => Function.update_of_ne ha .., fun _ _ => id, fun _ _ _ => id⟩ rfl (hm.fresh c)
      (hm.closed c) (hm.follows c) (hm.linked c) rfl rfl
  · exact .refl hm c

/-- A statement that has been carried out. -/
theorem Consistent.log (hm : m.Consistent) {q : Stmt} {r : q.sql.Answer}
    {locks : Locks Key Key.Row Conn} (hlt : c < m.nextConn)
    (hfree : m.locks.Free c q.action.keys)
    (hrun : m.locks.run c mysqlStatements q = some (locks, r)) :
    Advance c m (m.log c locks ⟨q, r⟩) (if m.isOpen c then [] else [[⟨q, r⟩]]) := by
  have hclean : ∀ a, a ≠ c → m.locks.Clean a → locks.Clean a :=
    fun a ha h => h.run ha.symm hrun
  have hfollows : ∀ a, a ≠ c → ∀ log, m.locks.Follows a mysqlStatements log →
      locks.Follows a mysqlStatements log := fun a ha log h => h.other_run ha.symm hfree hrun
  obtain ⟨hperform, hrows, -⟩ := Locks.view_run hrun
  cases hopen : m.isOpen c with
  | true =>
    have ho : Others c m (m.log c locks ⟨q, r⟩) := by
      unfold Mysql.log
      rw [if_pos hopen]
      exact ⟨fun _ _ => rfl, fun _ _ => rfl, fun _ _ => rfl,
        fun _ ha => Function.update_of_ne ha .., fun _ _ => rfl, hclean, hfollows⟩
    have hrest : m.log c locks ⟨q, r⟩ = { m with
        locks := locks, txn := Function.update m.txn c (m.txn c ++ [⟨q, r⟩]) } := if_pos hopen
    rw [hrest] at ho ⊢
    refine hm.keep ho rfl (hm.fresh c) (fun h => ?_) ?_ (hm.linked c) rfl hrows
    · rw [hopen] at h
      cases h
    · dsimp only
      rw [Function.update_self]
      exact (hm.follows c).run hrun
  | false =>
    have ho : Others c m (m.log c locks ⟨q, r⟩) := by
      unfold Mysql.log
      rw [if_neg (by simp [hopen])]
      exact ⟨fun _ _ => rfl, fun _ _ => rfl, fun _ _ => rfl, fun _ _ => rfl, fun _ _ => rfl,
        fun a ha h => (hclean a ha h).commit c,
        fun a ha log h => (hfollows a ha log h).commit ha.symm⟩
    have hrest : m.log c locks ⟨q, r⟩ = { m with
        locks := locks.commit c, committed := m.committed ++ [(c, [⟨q, r⟩])] } :=
      if_neg (by simp [hopen])
    obtain ⟨hmine, htxn⟩ := hm.closed c hopen
    rw [hrest] at ho ⊢
    refine hm.step ho rfl (hm.fresh c) (fun _ => ⟨Locks.clean_commit, htxn⟩) ?_ (hm.linked c) rfl
      (fun _ => hlt) ?_
    · rw [htxn]
      exact Locks.follows_nil Locks.clean_commit
    · rw [Locks.view_of_clean hmine] at hperform
      exact ⟨_, hperform, rfl⟩

/-- A statement that has been carried out gets an id besides. -/
def carryOut (m : Mysql) (c : Conn) (sql : Sql) (locks : Locks Key Key.Row Conn)
    (answer : sql.Answer) : Mysql :=
  (m.log c locks ⟨⟨m.autoIncrement, sql⟩, answer⟩).allocate c sql

/-- What the server can make of a statement. -/
inductive Executed (m : Mysql) (c : Conn) (sql : Sql) : Mysql → Reply sql → Prop where
  | failed : Executed m c sql m (.error false)
  | read {db : Db} {answer : sql.Answer} (hlocks : sql.locks = false)
      (hperform : mysqlStatements.perform ⟨m.autoIncrement, sql⟩ (m.locks.view c) =
        some (db, answer)) : Executed m c sql m (.ok answer)
  | done {locks : Locks Key Key.Row Conn} {answer : sql.Answer} (hlocks : sql.locks = true)
      (hfree : m.locks.Free c (Stmt.action ⟨m.autoIncrement, sql⟩).keys)
      (hrun : m.locks.run c mysqlStatements ⟨m.autoIncrement, sql⟩ = some (locks, answer)) :
      Executed m c sql (m.carryOut c sql locks answer) (.ok answer)

/-- What can become of `mysql_query`. -/
inductive Queried (m : Mysql) (c : Conn) (sql : Sql) : Outcome → Mysql → Reply sql → Prop where
  | failed (outcome : Outcome) (lost : Bool) : Queried m c sql outcome m (.error lost)
  | aborted (hlinked : m.isLinked c = true) : Queried m c sql .abort (m.finish c) (.error false)
  | lost (hlinked : m.isLinked c = true) :
      Queried m c sql .lost (m.lose c (some (.statement sql))) (.error true)
  | executed {m' : Mysql} {answer : sql.Answer} (hlinked : m.isLinked c = true)
      (h : Executed m c sql m' (.ok answer)) : Queried m c sql .ok m' (.ok answer)

/-- What can become of the other requests. -/
inductive Requested (m : Mysql) (c : Conn) (act : Mysql → Mysql) (late : Option Inflight) :
    Mysql → Bool → Prop where
  | failed : Requested m c act late m false
  | aborted (hlinked : m.isLinked c = true) : Requested m c act late (m.finish c) false
  | lost (hlinked : m.isLinked c = true) : Requested m c act late (m.lose c late) false
  | done (hlinked : m.isLinked c = true) : Requested m c act late (act m) true

variable {sql : Sql} {reply : Reply sql} {outcome : Outcome}

theorem execute_cases (h : m.execute c sql = some (m', reply)) : Executed m c sql m' reply := by
  unfold execute at h
  split at h
  · next hlocks =>
    unfold read at h
    split at h
    · cases h
      exact .failed
    · next hperform =>
      cases h
      exact .read hlocks hperform
  · next hlocks =>
    split at h
    · next hfree =>
      unfold perform at h
      split at h
      · cases h
        exact .failed
      · next hrun =>
        cases h
        exact .done (Bool.not_eq_false _ ▸ hlocks) hfree hrun
    · cases h

theorem query_cases (h : m.query c sql outcome = some (m', reply)) :
    Queried m c sql outcome m' reply := by
  unfold query at h
  split at h
  · cases h
    exact .failed _ true
  · next hlinked =>
    rw [Bool.not_eq_false] at hlinked
    cases outcome with
    | ok =>
      cases hexec : execute_cases h with
      | failed => exact .failed _ false
      | read => exact .executed hlinked (execute_cases h)
      | done => exact .executed hlinked (execute_cases h)
    | error =>
      cases h
      exact .failed _ false
    | abort =>
      cases h
      exact .aborted hlinked
    | lost =>
      cases h
      exact .lost hlinked

theorem request_cases {act : Mysql → Mysql} {late : Option Inflight} {ok : Bool}
    (h : m.request c act late outcome = (m', ok)) : Requested m c act late m' ok := by
  unfold request at h
  split at h
  · cases h
    exact .failed
  · next hlinked =>
    rw [Bool.not_eq_false] at hlinked
    cases outcome with
    | ok =>
      cases h
      exact .done hlinked
    | error =>
      cases h
      exact .failed
    | abort =>
      cases h
      exact .aborted hlinked
    | lost =>
      cases h
      exact .lost hlinked

/-! ## Steps -/

theorem Consistent.carryOut (hm : m.Consistent) {locks : Locks Key Key.Row Conn}
    {answer : sql.Answer} (hlt : c < m.nextConn)
    (hfree : m.locks.Free c (Stmt.action ⟨m.autoIncrement, sql⟩).keys)
    (hrun : m.locks.run c mysqlStatements ⟨m.autoIncrement, sql⟩ = some (locks, answer)) :
    Advance c m (m.carryOut c sql locks answer)
      (if m.isOpen c then [] else [[⟨⟨m.autoIncrement, sql⟩, answer⟩]]) := by
  have hlog := hm.log hlt hfree hrun
  have h := hlog.trans (hlog.consistent.allocate c sql)
  rwa [List.append_nil] at h

/-- What carrying out a statement does not touch. -/
theorem carryOut_frame (m : Mysql) (c : Conn) (sql : Sql) (locks : Locks Key Key.Row Conn)
    (answer : sql.Answer) : (m.carryOut c sql locks answer).isOpen = m.isOpen ∧
      (m.carryOut c sql locks answer).isLinked = m.isLinked ∧
      (m.carryOut c sql locks answer).inflight = m.inflight := by
  have hlog : (m.log c locks ⟨⟨m.autoIncrement, sql⟩, answer⟩).isOpen = m.isOpen ∧
      (m.log c locks ⟨⟨m.autoIncrement, sql⟩, answer⟩).isLinked = m.isLinked ∧
      (m.log c locks ⟨⟨m.autoIncrement, sql⟩, answer⟩).inflight = m.inflight := by
    unfold Mysql.log
    split <;> exact ⟨rfl, rfl, rfl⟩
  unfold carryOut Mysql.allocate
  split <;> exact hlog

theorem Executed.frame (h : Executed m c sql m' reply) :
    m'.isOpen = m.isOpen ∧ m'.isLinked = m.isLinked ∧ m'.inflight = m.inflight := by
  cases h with
  | failed | read => exact ⟨rfl, rfl, rfl⟩
  | done => exact carryOut_frame m c sql _ _

/-- The transaction after one more statement. -/
theorem carryOut_txn (hopen : m.isOpen c = true) (locks : Locks Key Key.Row Conn)
    (answer : sql.Answer) : (m.carryOut c sql locks answer).txn c =
      m.txn c ++ [⟨⟨m.autoIncrement, sql⟩, answer⟩] := by
  have hlog : (m.log c locks ⟨⟨m.autoIncrement, sql⟩, answer⟩).txn c =
      m.txn c ++ [⟨⟨m.autoIncrement, sql⟩, answer⟩] := by
    unfold Mysql.log
    rw [if_pos hopen]
    exact Function.update_self ..
  unfold carryOut Mysql.allocate
  split <;> exact hlog

theorem Executed.advance (hm : m.Consistent) (hlt : c < m.nextConn)
    (h : Executed m c sql m' reply) : ∃ logs, Advance c m m' logs := by
  cases h with
  | failed | read => exact ⟨_, .refl hm c⟩
  | done hlocks hfree hrun => exact ⟨_, hm.carryOut hlt hfree hrun⟩

theorem Queried.advance (hm : m.Consistent) (h : Queried m c sql outcome m' reply) :
    ∃ logs, Advance c m m' logs := by
  cases h with
  | failed => exact ⟨_, .refl hm c⟩
  | aborted => exact ⟨_, hm.finish c⟩
  | lost hlinked => exact ⟨_, hm.lose hlinked _⟩
  | executed hlinked h => exact h.advance hm (hm.lt_nextConn hlinked)

theorem Requested.advance {act : Mysql → Mysql} {late : Option Inflight} {ok : Bool}
    (hm : m.Consistent) (hact : m.isLinked c = true → ∃ logs, Advance c m (act m) logs)
    (h : Requested m c act late m' ok) : ∃ logs, Advance c m m' logs := by
  cases h with
  | failed => exact ⟨_, .refl hm c⟩
  | aborted => exact ⟨_, hm.finish c⟩
  | lost hlinked => exact ⟨_, hm.lose hlinked late⟩
  | done hlinked => exact hact hlinked

theorem Consistent.drop (hm : m.Consistent) (c : Conn) : Advance c m (m.drop c) [] := by
  unfold Mysql.drop
  split
  · exact .refl hm c
  · have h := hm.finish c
    exact h.trans (h.consistent.forget c)

/-- What the server can make of the last request of a lost connection. -/
inductive Resolved (m : Mysql) (c : Conn) : Mysql → Prop where
  | idle : Resolved m c m
  | commit (hinflight : m.inflight c = some .commit) : Resolved m c ((m.commitOpen c).forget c)
  | executed {sql : Sql} {m' : Mysql} {reply : Reply sql}
      (hinflight : m.inflight c = some (.statement sql)) (h : Executed m c sql m' reply) :
      Resolved m c (m'.forget c)

theorem resolve_cases (m : Mysql) (c : Conn) : Resolved m c (m.resolve c) := by
  unfold Mysql.resolve
  split
  · exact .idle
  · split
    · exact .idle
    · next hinflight => exact .commit hinflight
    · next sql hinflight =>
      split
      · exact .idle
      · next hexec => exact .executed hinflight (execute_cases hexec)

theorem Consistent.resolve (hm : m.Consistent) (c : Conn) :
    ∃ logs, Advance c m (m.resolve c) logs := by
  have h := resolve_cases m c
  generalize m.resolve c = m' at h ⊢
  cases h with
  | idle => exact ⟨_, .refl hm c⟩
  | commit => exact ⟨_, (hm.commitOpen c).trans ((hm.commitOpen c).consistent.forget c)⟩
  | executed hinflight h =>
    obtain ⟨logs, hadvance⟩ := h.advance hm (hm.lt_of_inflight hinflight)
    exact ⟨_, hadvance.trans (hadvance.consistent.forget c)⟩

end Mysql
end Game
