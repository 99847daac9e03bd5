import GameServer.Storage.Calls

/-!
# Transactions of a client

What `RunTransaction` knows about its connection from `START TRANSACTION` to the end of the
transaction, and what the two ends of the call make of that, around any operation that stays in the
transaction.
-/

namespace Game

open Infra

variable {ι : Type} {i : ι} {client : ClientId} {w w' : Storage ι}
  {start : Storage ι} {c : Conn} {d : Nat} {before : List Log} {t : List (StorageStep ι)}

theorem statements_append (t : List (StorageStep ι)) (e : StorageStep ι) :
    statements (t ++ [e]) = statements t ++ (succeeded e).toList := by
  unfold statements
  rw [List.filterMap_append]
  cases h : succeeded e <;> simp [h]

theorem statements_quiet (t : List (StorageStep ι)) {e : StorageStep ι} (he : succeeded e = none) :
    statements (t ++ [e]) = statements t := by
  rw [statements_append, he, Option.toList_none, List.append_nil]

/-! ## In a transaction -/

/-- The transaction of the connection `c` has done the statements so far, and nothing of it has been
committed. -/
structure Inside (c : Conn) (before : List Log) (t : List (StorageStep ι)) (conn : Option Conn)
    (m : Mysql) : Prop where
  conn : ∀ a, conn = some a → a = c
  txn : m.isLinked c = true → m.isOpen c = true ∧ m.txn c = statements t
  isOver : m.Over c before

theorem steady_inside : Steady (ι := ι) (some c) (Inside c before) where
  aside t conn m m' hm haside h := by
    have hc := haside c (Or.inr rfl)
    refine ⟨h.conn, fun hlinked => ?_, hc.isOver hm h.isOver⟩
    obtain ⟨hlinked, hopen, htxn⟩ := hc.linked hlinked
    rw [hopen, htxn]
    exact h.txn hlinked
  quiet t e conn m he h := by
    refine ⟨h.conn, fun hlinked => ?_, h.isOver⟩
    rw [statements_quiet t he]
    exact h.txn hlinked

/-- Nothing of the transaction has been committed, and nothing of it will be. -/
structure Abandoned (c : Conn) (before : List Log) (t : List (StorageStep ι))
    (conn : Option Conn) (m : Mysql) : Prop where
  conn : ∀ a, conn = some a → a = c
  isOver : m.Over c before

theorem steady_abandoned : Steady (ι := ι) (some c) (Abandoned c before) where
  aside _ _ _ _ hm haside h := ⟨h.conn, (haside c (Or.inr rfl)).isOver hm h.isOver⟩
  quiet _ _ _ _ _ h := ⟨h.conn, h.isOver⟩

theorem Inside.abandoned {conn : Option Conn} {m : Mysql} (h : Inside c before t conn m) :
    Abandoned c before t conn m :=
  ⟨h.conn, h.isOver⟩

/-- The server rolls the transaction back. -/
theorem over_finish {m : Mysql} (hm : m.Consistent) (hlinked : m.isLinked c = true)
    (h : m.Over c before) : (m.finish c).Over c before := by
  refine ⟨Or.inl (hm.linked c hlinked), ?_⟩
  rw [(hm.finish c).committedBy_eq, List.append_nil]
  exact h.committedBy

/-- What a statement makes of the transaction. -/
theorem Inside.query (client : ClientId) (w' : Storage ι) {conn : Option Conn} {m m' : Mysql}
    {sql : Sql} {x : Outcome} {reply : Reply sql} (hm : m.Consistent)
    (h : Inside c before t conn m) (hw : w.mysql = m) (hquery : m.query c sql x = some (m', reply)) :
    (x = .abort ∧ reply = .error false ∧
      Abandoned c before (t ++ [⟨w, .mysqlQuery client sql, reply, w'⟩]) conn m') ∨
    Inside c before (t ++ [⟨w, .mysqlQuery client sql, reply, w'⟩]) conn m' ∧
      ∀ answer, reply = .ok answer → m.isLinked c = true ∧ m.isOpen c = true := by
  subst hw
  cases Mysql.query_cases hquery with
  | failed outcome lost =>
    exact Or.inr ⟨steady_inside.quiet t _ conn _ rfl h, fun answer heq => by cases heq⟩
  | aborted hlinked =>
    refine Or.inl ⟨rfl, rfl, steady_abandoned.quiet t _ conn _ rfl ?_⟩
    exact ⟨h.conn, over_finish hm hlinked h.isOver⟩
  | lost hlinked =>
    refine Or.inr ⟨steady_inside.quiet t _ conn _ rfl
      ⟨h.conn, fun hl => ?_, ?_, h.isOver.committedBy⟩, fun answer heq => by cases heq⟩
    · rw [show (w.mysql.lose c (some (.statement sql))).isLinked c = false from
        Function.update_self ..] at hl
      cases hl
    · exact Or.inr ⟨⟨sql, Function.update_self ..⟩, (h.txn hlinked).1⟩
  | @executed m' answer hlinked hexec =>
    obtain ⟨hopen, htxn⟩ := h.txn hlinked
    refine Or.inr ⟨?_, fun _ _ => ⟨hlinked, hopen⟩⟩
    cases hexec with
    | read hlocks =>
      refine steady_inside.quiet t _ conn _ ?_ h
      unfold succeeded
      dsimp only
      rw [hlocks]
      rfl
    | @done locks _ hlocks hfree hrun =>
      have hadvance := hm.carryOut (hm.lt_nextConn hlinked) hfree hrun
      obtain ⟨hopen', hlinked', hinflight'⟩ := Mysql.carryOut_frame w.mysql c sql locks answer
      rw [if_pos hopen] at hadvance
      refine ⟨h.conn, fun _ => ⟨(congrFun hopen' c).trans hopen, ?_⟩, ?_, ?_⟩
      · rw [Mysql.carryOut_txn hopen, htxn, statements_append]
        unfold succeeded
        dsimp only
        rw [if_pos hlocks]
        rfl
      · unfold Mysql.Quiet
        rw [hinflight', hopen']
        exact h.isOver.quiet
      · rw [hadvance.committedBy_eq, List.append_nil]
        exact h.isOver.committedBy

/-- Without its connection the transaction cannot go on, and it is not committed either. -/
theorem Inside.close {m : Mysql} (hm : m.Consistent) {a : Conn}
    (h : Inside c before t (some a) m) : Inside c before t none (m.cut a) := by
  obtain rfl : a = c := h.conn a rfl
  have haside : Mysql.Aside a m (m.cut a) := .cut rfl
  refine ⟨fun b hb => (by cases hb), fun hlinked => ?_, haside.isOver hm h.isOver⟩
  rw [show (m.cut a).isLinked a = false from Function.update_self ..] at hlinked
  cases hlinked

/-! ## After the transaction -/

/-- A `COMMIT` that has failed, or whose answer has been lost. -/
def CommitFailed : StorageStep ι → Prop
  | ⟨_, .mysqlCommit _, ok, _⟩ => ok = false
  | _ => False

/-- Nothing has been committed, and the client is in no transaction. -/
structure RolledBack (c : Conn) (before : List Log) (t : List (StorageStep ι))
    (conn : Option Conn) (m : Mysql) : Prop where
  isOver : m.Over c before
  closed : ∀ a, conn = some a → m.isOpen a = false ∧ m.inflight a = none

/-- The transaction has ended with the result `a`. -/
structure Ended (c : Conn) (before : List Log) (a : Except Unit Bool) (t : List (StorageStep ι))
    (conn : Option Conn) (m : Mysql) : Prop where
  committed : a = .ok true → m.Over c (before ++ [statements t])
  uncommitted : a ≠ .ok true → m.Over c before ∨
    (∃ e ∈ t, CommitFailed e) ∧ m.InDoubt c before (statements t)
  closed : ∀ a, conn = some a → m.isOpen a = false ∧ m.inflight a = none

theorem steady_rolledBack : Steady (ι := ι) (some c) (RolledBack c before) where
  aside _ _ _ _ hm haside h :=
    ⟨(haside c (Or.inr rfl)).isOver hm h.isOver,
      fun a ha => ⟨(haside a (Or.inl ha)).closed (h.closed a ha).1,
        (haside a (Or.inl ha)).idle (h.closed a ha).2⟩⟩
  quiet _ _ _ _ _ h := ⟨h.isOver, h.closed⟩

theorem steady_ended (a : Except Unit Bool) : Steady (ι := ι) (some c) (Ended c before a) where
  aside t conn m m' hm haside h := by
    have hc := haside c (Or.inr rfl)
    refine ⟨fun ha => hc.isOver hm (h.committed ha), fun ha => ?_,
      fun b hb => ⟨(haside b (Or.inl hb)).closed (h.closed b hb).1,
        (haside b (Or.inl hb)).idle (h.closed b hb).2⟩⟩
    rcases h.uncommitted ha with hover | ⟨hfailed, hdoubt⟩
    · exact Or.inl (hc.isOver hm hover)
    · exact Or.inr ⟨hfailed, hc.inDoubt hm hdoubt⟩
  quiet t e conn m he h := by
    refine ⟨?_, ?_, h.closed⟩
    · rw [statements_quiet t he]
      exact h.committed
    · rw [statements_quiet t he]
      intro ha
      refine (h.uncommitted ha).imp_right fun ⟨⟨e', he', hfailed⟩, hdoubt⟩ =>
        ⟨⟨e', List.mem_append_left _ he', hfailed⟩, hdoubt⟩

theorem RolledBack.ended {conn : Option Conn} {m : Mysql} (h : RolledBack c before t conn m)
    {a : Except Unit Bool} (ha : a ≠ .ok true) : Ended c before a t conn m :=
  ⟨fun heq => absurd heq ha, fun _ => Or.inl h.isOver, h.closed⟩

/-- A `COMMIT` has failed. -/
structure Doubtful (c : Conn) (before : List Log) (t : List (StorageStep ι))
    (conn : Option Conn) (m : Mysql) : Prop where
  conn : ∀ a, conn = some a → a = c
  failed : ∃ e ∈ t, CommitFailed e
  inDoubt : m.InDoubt c before (statements t)

theorem steady_doubtful : Steady (ι := ι) (some c) (Doubtful c before) where
  aside _ _ _ _ hm haside h := ⟨h.conn, h.failed, (haside c (Or.inr rfl)).inDoubt hm h.inDoubt⟩
  quiet t e conn m he h := by
    obtain ⟨e', he', hfailed⟩ := h.failed
    refine ⟨h.conn, ⟨e', List.mem_append_left _ he', hfailed⟩, ?_⟩
    rw [statements_quiet t he]
    exact h.inDoubt

theorem Abandoned.close {m : Mysql} (hm : m.Consistent) {a : Conn}
    (h : Abandoned c before t (some a) m) : RolledBack c before t none (m.cut a) := by
  obtain rfl : a = c := h.conn a rfl
  have haside : Mysql.Aside a m (m.cut a) := .cut rfl
  exact ⟨haside.isOver hm h.isOver, fun b hb => (by cases hb)⟩

theorem Doubtful.ended {m : Mysql} (h : Doubtful c before t none m) :
    Ended c before (.ok false) t none m :=
  ⟨fun heq => (by cases heq), fun _ => Or.inr ⟨h.failed, h.inDoubt⟩, fun b hb => (by cases hb)⟩

theorem Doubtful.close {m : Mysql} (hm : m.Consistent) {a : Conn}
    (h : Doubtful c before t (some a) m) : Ended c before (.ok false) t none (m.cut a) := by
  obtain rfl : a = c := h.conn a rfl
  have haside : Mysql.Aside a m (m.cut a) := .cut rfl
  exact Doubtful.ended ⟨fun b hb => (by cases hb), h.failed, haside.inDoubt hm h.inDoubt⟩

/-- What a rollback makes of the transaction. -/
theorem Abandoned.rollback {conn : Option Conn} {m m' : Mysql} {ok : Bool}
    (hm : m.Consistent) (h : Abandoned c before t conn m)
    (hrequest : Mysql.Requested m c (·.finish c) none m' ok) :
    if ok then RolledBack c before t conn m' else Abandoned c before t conn m' := by
  have hfinish := fun hlinked => over_finish hm hlinked h.isOver
  cases hrequest with
  | failed => exact ⟨h.conn, h.isOver⟩
  | aborted hlinked => exact ⟨h.conn, hfinish hlinked⟩
  | lost hlinked => exact ⟨h.conn, Or.inl (Function.update_self ..), h.isOver.committedBy⟩
  | done hlinked =>
    refine ⟨hfinish hlinked, fun a ha => ?_⟩
    rw [h.conn a ha]
    exact ⟨Function.update_self .., hm.linked c hlinked⟩

/-- What a `COMMIT` makes of the transaction. -/
theorem Inside.commit {conn : Option Conn} {m m' : Mysql} {ok : Bool}
    (hm : m.Consistent) (h : Inside c before t conn m)
    (hrequest : Mysql.Requested m c (·.commitOpen c) (some .commit) m' ok) :
    if ok then Ended c before (.ok true) (t ++ [⟨w, .mysqlCommit client, ok, w'⟩]) conn m'
    else Doubtful c before (t ++ [⟨w, .mysqlCommit client, ok, w'⟩]) conn m' := by
  have hstatements : statements (t ++ [⟨w, .mysqlCommit client, ok, w'⟩]) = statements t :=
    statements_quiet t rfl
  have hfailed : ok = false → ∃ e ∈ t ++ [⟨w, .mysqlCommit client, ok, w'⟩], CommitFailed e :=
    fun hok => ⟨_, List.mem_append_right _ (List.mem_singleton_self _), hok⟩
  cases hrequest with
  | failed => exact ⟨h.conn, hfailed rfl, .rolledBack h.isOver⟩
  | aborted hlinked =>
    exact ⟨h.conn, hfailed rfl, .rolledBack (over_finish hm hlinked h.isOver)⟩
  | lost hlinked =>
    obtain ⟨hopen, htxn⟩ := h.txn hlinked
    refine ⟨h.conn, hfailed rfl, ?_⟩
    rw [hstatements]
    exact .pending (Function.update_self ..) hopen htxn (Function.update_self ..)
      h.isOver.committedBy
  | done hlinked =>
    obtain ⟨hopen, htxn⟩ := h.txn hlinked
    refine ⟨fun _ => ⟨Or.inl (hm.linked c hlinked), ?_⟩, fun hne => absurd rfl hne, fun a ha => ?_⟩
    · rw [(hm.commitOpen c).committedBy_eq, if_pos hopen, htxn, h.isOver.committedBy, hstatements]
    · rw [h.conn a ha]
      exact ⟨Function.update_self .., hm.linked c hlinked⟩

/-! ## The end of the transaction -/

/-- What the operation leaves behind when it returns `r`. -/
structure Operated (S : Prop) (c : Conn) (before : List Log) (r : Except Unit Bool)
    (t : List (StorageStep ι)) (conn : Option Conn) (m : Mysql) : Prop where
  abandoned : Abandoned c before t conn m
  inside : r = .ok true → Inside c before t conn m
  connected : S → conn.isSome = true

/-- The call reports the result of the operation, and `false` when that has not been committed. -/
def Reports (S : Prop) (r a : Except Unit Bool) : Prop :=
  a = r ∨ r = .ok true ∧ a = .ok false ∧ ¬ S

theorem steady_operated {S : Prop} {r : Except Unit Bool} :
    Steady (ι := ι) (some c) (Operated S c before r) where
  aside t conn m m' hm haside h :=
    ⟨steady_abandoned.aside t conn m m' hm haside h.abandoned,
      fun hr => steady_inside.aside t conn m m' hm haside (h.inside hr), h.connected⟩
  quiet t e conn m he h :=
    ⟨steady_abandoned.quiet t e conn m he h.abandoned,
      fun hr => steady_inside.quiet t e conn m he (h.inside hr), h.connected⟩

variable [DecidableEq ι] {C : Contract StorageRequest StorageRequest.Reply (Storage ι)}
  {G : List (StorageStep ι) → Prop} {S : Prop} {E : Storage ι → List (StorageStep ι) → Prop}

/-- `E` lasts through the `COMMIT` of the transaction. -/
def Commits (C : Contract StorageRequest StorageRequest.Reply (Storage ι)) (i : ι)
    (client : ClientId) (c : Conn) (before : List Log)
    (E : Storage ι → List (StorageStep ι) → Prop) : Prop :=
  ∀ {w t ok w' d}, Calling i client (some c) E d true (Inside c before) (w, t) →
    (w.clients client).conn = some c → C.exec (.mysqlCommit client) w ok w' →
    E w' (t ++ [⟨w, .mysqlCommit client, ok, w'⟩])

section

variable (hE : Lasting C G S i client E)
include hE

theorem triple_mysqlRollback :
    Prog.Triple (Prog.recorded C G) (Calling i client (some c) E d true
        fun t conn m => Abandoned c before t conn m ∧ conn.isSome = true)
      (ask (.mysqlRollback client)) fun ok => Calling i client (some c) E d true
        (if ok then RolledBack c before else Abandoned c before) := by
  refine triple_ask (fun _ => hE) (fun ok => ?_) fun w t w' ok h hexec => ?_
  · cases ok
    · exact steady_abandoned
    · exact steady_rolledBack
  have hF := hE.step h.consistent h.owner h.lasting hexec rfl
  obtain ⟨x, hexec⟩ := hE.exec hexec
  obtain ⟨habandoned, hconn⟩ := h.known
  rcases Storage.onConn_cases hexec with ⟨hnone, -, -⟩ | ⟨a, m, ha, hrequest, rfl⟩
  · dsimp only at hconn
    rw [hnone] at hconn
    cases hconn
  · obtain rfl : a = c := habandoned.conn a ha
    have hm := h.consistent.mysql
    have hcases := Mysql.request_cases (Option.some.inj hrequest)
    refine h.setMysql (hcases.advance hm fun _ => ⟨_, hm.finish a⟩) h.privateConn hF ?_
    have hafter := habandoned.rollback hm hcases
    cases ok
    · exact steady_abandoned.quiet t _ _ _ rfl hafter
    · exact steady_rolledBack.quiet t _ _ _ rfl hafter

/-- `if (mysql_rollback(conn_) != 0) Disconnect();` -/
theorem triple_rollback :
    Prog.Triple (Prog.recorded C G) (Calling i client (some c) E d true
        fun t conn m => Abandoned c before t conn m ∧ conn.isSome = true)
      (MysqlClient.rollback client) fun _ =>
        Calling i client (some c) E d true (RolledBack c before) := by
  unfold MysqlClient.rollback
  refine .bind (triple_mysqlRollback hE) fun ok => ?_
  cases ok with
  | true => exact .pure fun _ h => h
  | false =>
    refine (triple_disconnect hE steady_abandoned steady_rolledBack (fun t m h => ?_)
      fun _ _ _ hm h => h.close hm).mono (fun _ h => h) fun _ _ h => { h with known := h.known.1 }
    exact ⟨h.isOver, fun a ha => by cases ha⟩

theorem triple_mysqlCommit (hcommit : Commits C i client c before E) :
    Prog.Triple (Prog.recorded C G) (Calling i client (some c) E d true
        fun t conn m => Inside c before t conn m ∧ conn.isSome = true)
      (ask (.mysqlCommit client)) fun ok => Calling i client (some c) E d true
        fun t conn m => (if ok then Ended c before (.ok true) else Doubtful c before) t conn m ∧
          (S → ok = true) := by
  refine triple_ask (fun _ => hE) (fun ok => ?_) fun w t w' ok h hexec => ?_
  · cases ok
    · exact steady_doubtful.and (p := fun _ => S → false = true)
    · exact (steady_ended _).and (p := fun _ => S → true = true)
  obtain ⟨hinside, hconn⟩ := h.known
  have hc : (w.clients client).conn = some c := by
    obtain ⟨a, ha⟩ := Option.isSome_iff_exists.mp hconn
    rw [hinside.conn a ha] at ha
    exact ha
  have hF := hcommit { h with known := hinside } hc hexec
  have hsucceeds := hE.succeeds hexec
  obtain ⟨x, hexec⟩ := hE.exec hexec
  rcases Storage.onConn_cases hexec with ⟨hnone, -, -⟩ | ⟨a, m, ha, hrequest, rfl⟩
  · exact absurd (hnone.symm.trans hc) nofun
  · obtain rfl : a = c := hinside.conn a ha
    have hm := h.consistent.mysql
    have hcases := Mysql.request_cases (Option.some.inj hrequest)
    refine h.setMysql (hcases.advance hm fun _ => ⟨_, hm.commitOpen a⟩) h.privateConn hF
      ⟨?_, hsucceeds⟩
    cases ok <;> exact hinside.commit hm hcases

/-- The end of a call whose transaction has ended with `a`. -/
theorem triple_leave {K : List (StorageStep ι) → Option Conn → Mysql → Prop}
    (hK : Steady (some c) K) {r a : Except Unit Bool}
    (hended : ∀ t conn m, K t conn m → Ended c before a t conn m ∧ Reports S r a) :
    Prog.Triple (Prog.recorded C G) (Calling i client (some c) E d true K)
      (do
        ask (.setInTransaction client false)
        return a) fun a => Calling i client (some c) E d false
          fun t conn m => Ended c before a t conn m ∧ Reports S r a :=
  .bind (triple_setInTransaction hE hK false) fun _ => .pure fun _ h =>
    { h with known := hended _ _ _ h.known }

theorem triple_endTransaction {r : Except Unit Bool}
    (hcommit : r = .ok true → Commits C i client c before E) :
    Prog.Triple (Prog.recorded C G) (Calling i client (some c) E d true (Operated S c before r))
      (MysqlClient.endTransaction client r) fun a => Calling i client (some c) E d false
        fun t conn m => Ended c before a t conn m ∧ Reports S r a := by
  have hisConnected : Prog.Triple (Prog.recorded C G)
      (Calling i client (some c) E d true (Operated S c before r))
      (ask (.isConnected client)) _ := triple_isConnected hE steady_operated
  -- Without a connection there is nothing to end.
  have hgone : ∀ {conn : Option Conn} {m : Mysql} {t : List (StorageStep ι)} {a : Except Unit Bool},
      a ≠ .ok true → Operated S c before r t conn m ∧ conn.isSome = false →
      Ended c before a t conn m ∧ ¬ S := by
    rintro conn m t a ha ⟨h, hconn⟩
    refine ⟨RolledBack.ended ⟨h.abandoned.isOver, fun b hb => ?_⟩ ha, fun hS => ?_⟩
    · rw [hb] at hconn
      cases hconn
    · rw [h.connected hS] at hconn
      cases hconn
  have hrollback : Prog.Triple (Prog.recorded C G) (Calling i client (some c) E d true
      fun t conn m => Operated S c before r t conn m ∧ conn.isSome = true)
      (MysqlClient.rollback client) fun _ =>
        Calling i client (some c) E d true (RolledBack c before) :=
    (triple_rollback hE).mono (fun s h => { h with known := ⟨h.known.1.abandoned, h.known.2⟩ })
      fun _ _ h => h
  cases r with
  | error e =>
    refine .bind hisConnected fun connected => ?_
    cases connected with
    | false =>
      exact triple_leave hE steady_operated.and fun t conn m h =>
        ⟨(hgone (a := .error e) nofun h).1, Or.inl rfl⟩
    | true =>
      exact .bind hrollback fun _ => triple_leave hE steady_rolledBack fun t conn m h =>
        ⟨h.ended nofun, Or.inl rfl⟩
  | ok success =>
    refine .bind hisConnected fun connected => ?_
    cases connected with
    | false =>
      refine triple_leave hE steady_operated.and fun t conn m h =>
        ⟨(hgone (a := .ok false) nofun h).1, ?_⟩
      cases success with
      | false => exact Or.inl rfl
      | true => exact Or.inr ⟨rfl, rfl, (hgone (a := .ok false) nofun h).2⟩
    | true =>
      cases success with
      | false =>
        exact .bind hrollback fun _ => triple_leave hE steady_rolledBack fun t conn m h =>
          ⟨h.ended nofun, Or.inl rfl⟩
      | true =>
        refine .bind ((triple_mysqlCommit hE (hcommit rfl)).mono
          (fun s h => { h with known := ⟨h.known.1.inside rfl, h.known.2⟩ }) fun _ _ h => h)
          fun ok => ?_
        cases ok with
        | true =>
          exact triple_leave hE (steady_ended _).and fun t conn m h => ⟨h.1, Or.inl rfl⟩
        | false =>
          refine .bind (triple_disconnect hE steady_doubtful.and
            ((steady_ended (.ok false)).and (p := fun _ => S → false = true))
            (fun _ _ h => ⟨h.1.ended, h.2⟩) fun _ _ _ hm h => ⟨h.1.close hm, h.2⟩) fun _ => ?_
          refine triple_leave hE ((steady_ended _).and.and) fun t conn m h => ?_
          exact ⟨h.1.1, Or.inr ⟨rfl, rfl, fun hS => nomatch h.1.2 hS⟩⟩

end

/-! ## Connecting -/

/-- What is known lasts when the client gives up its connection and opens a new one. -/
structure Reconnects (E : Storage ι → List (StorageStep ι) → Prop)
    (K : List (StorageStep ι) → Option Conn → Mysql → Prop) : Prop where
  cut : ∀ t c m, K t (some c) m → K t none (m.cut c)
  failed : ∀ t m x, K t none m → K t none (m.connect x).1
  opened : ∀ w t x c, w.Consistent → E w t → K t none w.mysql →
    Mysql.Fresh w.mysql (w.mysql.connect x).1 c → K t (some c) (w.mysql.connect x).1

section

variable {K : List (StorageStep ι) → Option Conn → Mysql → Prop}
  (hE : Lasting C G S i client E) (hK : Steady none K) (hR : Reconnects E K)
include hE hK hR

theorem triple_mysqlConnect :
    Prog.Triple (Prog.recorded C G)
      (Calling i client none E d false fun t conn m => K t conn m ∧ conn = none)
      (ask (.mysqlConnect client)) fun r => Calling i client none E d false
        fun t conn m => K t conn m ∧ conn.isSome = r ∧ (S → r = true) := by
  refine triple_ask (fun _ => hE)
    (fun r => hK.and (p := fun conn => conn.isSome = r ∧ (S → r = true)))
    fun w t w' r h hexec => ?_
  have hF := hE.step h.consistent h.owner h.lasting hexec rfl
  have hsucceeds := hE.succeeds hexec
  have hlasting : E w t := h.lasting
  obtain ⟨hknown, hnone⟩ := h.known
  dsimp only at hknown hnone
  rw [hnone] at hknown
  obtain ⟨x, hexec⟩ := hE.exec hexec
  have heffect := Storage.exec_effect h.consistent hexec
  obtain ⟨-, -, -, -, hfresh⟩ := h.consistent.mysql.connect x
  cases hexec
  have hm := Storage.setClient_clients_self (w.setMysql (w.mysql.connect x).1) client
    { w.clients client with conn := (w.mysql.connect x).2 }
  have hconn := congrArg MysqlClient.conn hm
  have hafter : K t (w.mysql.connect x).2 (w.mysql.connect x).1 := by
    cases hc : (w.mysql.connect x).2 with
    | none => exact hR.failed t _ x hknown
    | some c => exact hR.opened w t x c h.consistent hlasting hknown (hfresh c hc)
  refine ⟨⟨(heffect.consistent h.consistent).1, fun c hc => (by cases hc), hF, ?_,
    ⟨hK.quiet t _ _ _ rfl ?_, ?_, hsucceeds⟩⟩, ?_, ?_⟩
  · exact (congrArg MysqlClient.inTransaction hm).trans h.inTransaction
  · change K t ((Storage.setClient (w.setMysql (w.mysql.connect x).1) client
      { w.clients client with conn := (w.mysql.connect x).2 }).clients client).conn
      (w.mysql.connect x).1
    rw [hm]
    exact hafter
  · exact congrArg Option.isSome hconn
  · exact (congrArg MysqlClient.owner hm).trans h.owner
  · exact (congrArg MysqlClient.depth hm).trans h.depth

theorem triple_connect :
    Prog.Triple (Prog.recorded C G) (Calling i client none E d false K)
      (MysqlClient.connect client) fun r => Calling i client none E d false
        fun t conn m => K t conn m ∧ conn.isSome = r ∧ (S → r = true) := by
  refine triple_withLock hE hK (fun _ => hE)
    (fun r => hK.and (p := fun conn => conn.isSome = r ∧ (S → r = true))) ?_
  refine .bind (triple_isInTransaction hE hK) fun r => .ite (fun hr => ?_) fun _ => ?_
  · exact fun s h => absurd (h.known.2.symm.trans hr) nofun
  · refine .bind ((triple_disconnect hE hK hK (fun t m h => h) fun t c m _ h => ?_).mono
      (fun s h => { h with known := h.known.1 }) fun _ _ h => h) fun _ =>
        triple_mysqlConnect hE hK hR
    exact hR.cut t c m h

theorem triple_hasConnection :
    Prog.Triple (Prog.recorded C G) (Calling i client none E d false K)
      (MysqlClient.hasConnection client) fun r => Calling i client none E d false
        fun t conn m => K t conn m ∧ conn.isSome = r ∧ (S → r = true) := by
  refine .bind (triple_isConnected hE hK) fun r => ?_
  cases r with
  | true => exact .pure fun s h => { h with known := ⟨h.known.1, h.known.2, fun _ => rfl⟩ }
  | false =>
    exact (triple_connect hE hK hR).mono (fun s h => { h with known := h.known.1 })
      fun _ _ h => h

end

/-! ## The beginning -/

/-- No transaction has begun, nor any statement been made. -/
structure Resting (start : Storage ι) (t : List (StorageStep ι)) (conn : Option Conn) (m : Mysql) :
    Prop where
  silent : statements t = []
  conn : ∀ c, conn = some c → m.isOpen c = false ∧ m.Over c (start.mysql.committedBy c)

omit [DecidableEq ι] in
theorem steady_resting : Steady none (Resting start) where
  aside t conn m m' hm haside h := by
    refine ⟨h.silent, fun c hc => ?_⟩
    obtain ⟨hopen, hover⟩ := h.conn c hc
    have hc := haside c (Or.inl hc)
    exact ⟨hc.closed hopen, hc.isOver hm hover⟩
  quiet t e conn m he h := ⟨(statements_quiet t he).trans h.silent, h.conn⟩

/-- The call has not begun its transaction. -/
abbrev AtStart (i : ι) (client : ClientId) (start : Storage ι)
    (E : Storage ι → List (StorageStep ι) → Prop) (d : Nat) (p : Option Conn → Prop) :
    Storage ι × List (StorageStep ι) → Prop :=
  Calling i client none E d false fun t conn m => Resting start t conn m ∧ p conn

/-- The transaction has begun. -/
structure Begun (c : Conn) (before : List Log) (t : List (StorageStep ι)) (conn : Option Conn)
    (m : Mysql) : Prop where
  inside : Inside c before t conn m
  silent : statements t = []
  conn : conn = some c

omit [DecidableEq ι] in
theorem steady_begun : Steady (ι := ι) (some c) (Begun c before) where
  aside t conn m m' hm haside h :=
    ⟨steady_inside.aside t conn m m' hm haside h.inside, h.silent, h.conn⟩
  quiet t e conn m he h :=
    ⟨steady_inside.quiet t e conn m he h.inside, (statements_quiet t he).trans h.silent, h.conn⟩

omit [DecidableEq ι] in
/-- What `START TRANSACTION` makes of the connection. -/
theorem Resting.begin {conn : Option Conn} {m m' : Mysql} {ok : Bool}
    (hm : m.Consistent) (h : Resting start t conn m) (hconn : conn = some c)
    (hrequest : Mysql.Requested m c (·.start c) none m' ok) :
    if ok then Begun c (start.mysql.committedBy c) t conn m'
    else Abandoned c (start.mysql.committedBy c) t conn m' := by
  obtain ⟨hopen, hover⟩ := h.conn c hconn
  have hmine : ∀ a, conn = some a → a = c := fun a ha => Option.some.inj (ha.symm.trans hconn)
  cases hrequest with
  | failed => exact ⟨hmine, hover⟩
  | aborted hlinked => exact ⟨hmine, over_finish hm hlinked hover⟩
  | lost hlinked => exact ⟨hmine, Or.inl (Function.update_self ..), hover.committedBy⟩
  | done hlinked =>
    have hadvance := hm.start hlinked
    rw [hopen] at hadvance
    refine ⟨⟨hmine, fun _ => ⟨Function.update_self .., ?_⟩, Or.inl (hm.linked c hlinked), ?_⟩,
      h.silent, hconn⟩
    · rw [h.silent]
      exact Function.update_self ..
    · rw [hadvance.committedBy_eq, if_neg Bool.false_ne_true, List.append_nil]
      exact hover.committedBy

omit [DecidableEq ι] in
theorem reconnects_resting
    (hlater : ∀ {w t}, E w t → start.mysql.committed <+: w.mysql.committed) :
    Reconnects E (Resting start) where
  cut t c m h := ⟨h.silent, fun a ha => by cases ha⟩
  failed t m x h := ⟨h.silent, fun a ha => by cases ha⟩
  opened w t x c hw hE h hfresh := by
    obtain ⟨-, -, -, hcommitted, -⟩ := hw.mysql.connect x
    obtain ⟨new, hnew⟩ := hlater hE
    refine ⟨h.silent, fun a ha => ?_⟩
    cases ha
    have hnone : w.mysql.committedBy c = [] :=
      hw.mysql.committedBy_fresh (Nat.le_of_eq hfresh.eq.symm)
    have hbefore := Mysql.committedBy_append hnew.symm c
    rw [hnone] at hbefore
    refine ⟨hfresh.isOpen, Or.inl hfresh.inflight, ?_⟩
    rw [(List.append_eq_nil_iff.mp hbefore.symm).1, Mysql.committedBy, hcommitted]
    exact hnone

section

variable (hE : Lasting C G S i client E)
include hE

theorem triple_startTransaction :
    Prog.Triple (Prog.recorded C G) (AtStart i client start E d (· = some c))
      (ask (.startTransaction client)) fun ok => Calling i client (some c) E d false
        fun t conn m => (if ok then Begun c (start.mysql.committedBy c)
          else Abandoned c (start.mysql.committedBy c)) t conn m ∧ (S → ok = true) := by
  refine triple_ask (fun _ => hE) (fun ok => ?_) fun w t w' ok h hexec => ?_
  · cases ok
    · exact steady_abandoned.and (p := fun _ => S → false = true)
    · exact steady_begun.and (p := fun _ => S → true = true)
  obtain ⟨hresting, hconn⟩ := h.known
  have hF := hE.step h.consistent h.owner h.lasting hexec
    ⟨rfl, fun a ha => (hresting.conn a ha).1⟩
  have hsucceeds := hE.succeeds hexec
  obtain ⟨x, hexec⟩ := hE.exec hexec
  rcases Storage.onConn_cases hexec with ⟨hnone, -, -⟩ | ⟨a, m, ha, hrequest, rfl⟩
  · exact absurd (hnone.symm.trans hconn) nofun
  · obtain rfl : a = c := Option.some.inj (ha.symm.trans hconn)
    have hm := h.consistent.mysql
    have hcases := Mysql.request_cases (Option.some.inj hrequest)
    refine h.setMysql (hcases.advance hm fun hlinked => ⟨_, hm.start hlinked⟩)
      (fun b hb => ?_) hF ⟨?_, hsucceeds⟩
    · cases hb
      exact h.consistent.privateConn ha
    · have hafter := hresting.begin hm hconn hcases
      cases ok
      · exact steady_abandoned.quiet t _ _ _ rfl hafter
      · exact steady_begun.quiet t _ _ _ rfl hafter

end

/-! ## The whole call -/

/-- The operation stays in the transaction, and `F r` is known when it returns `r`. -/
def Operates (C : Contract StorageRequest StorageRequest.Reply (Storage ι))
    (G : List (StorageStep ι) → Prop) (S : Prop) (i : ι) (client : ClientId) (d : Nat) (c : Conn)
    (before : List Log) (E : Storage ι → List (StorageStep ι) → Prop)
    (F : Except Unit Bool → Storage ι → List (StorageStep ι) → Prop)
    (operation : StorageM (Except Unit Bool)) : Prop :=
  Prog.Triple (Prog.recorded C G) (Calling i client (some c) E d true (Begun c before)) operation
    fun r => Calling i client (some c) (F r) d true (Operated S c before r)

/-- The call is over: without a connection, without a transaction, or with one. -/
inductive Returned (S : Prop) (i : ι) (client : ClientId) (start : Storage ι)
    (operation : Option (StorageM (Except Unit Bool)))
    (E : Storage ι → List (StorageStep ι) → Prop)
    (F : Conn → Except Unit Bool → Storage ι → List (StorageStep ι) → Prop) (d : Nat)
    (a : Except Unit Bool) (s : Storage ι × List (StorageStep ι)) : Prop where
  | refused (ha : a = .ok false) (hS : S → operation = none)
      (h : AtStart i client start E d (fun _ => True) s)
  | unbegun (c : Conn) (ha : a = .ok false) (hS : ¬ S)
      (h : Calling i client (some c) E d false (RolledBack c (start.mysql.committedBy c)) s)
  | ended (c : Conn) (r : Except Unit Bool) (hr : Reports S r a)
      (h : Calling i client (some c) (F c r) d false
        (Ended c (start.mysql.committedBy c) a) s)

section

variable {F : Conn → Except Unit Bool → Storage ι → List (StorageStep ι) → Prop}
  (hE : Lasting C G S i client E) (hF : ∀ c r, Lasting C G S i client (F c r))
  (hcommit : ∀ c, Commits C i client c (start.mysql.committedBy c) (F c (.ok true)))
include hE hF hcommit

/-- A call with a connection. -/
theorem triple_transaction {operation : StorageM (Except Unit Bool)}
    {o : Option (StorageM (Except Unit Bool))}
    (hoperation : Operates C G S i client d c (start.mysql.committedBy c) E (F c) operation) :
    Prog.Triple (Prog.recorded C G) (AtStart i client start E d (· = some c))
      (do
        if !(← ask (.startTransaction client)) then
          MysqlClient.disconnect client
          return .ok false
        ask (.setInTransaction client true)
        MysqlClient.endTransaction client (← operation))
      (Returned S i client start o E F d) := by
  refine .bind (triple_startTransaction hE) fun ok => ?_
  cases ok with
  | false =>
    refine .bind (triple_disconnect hE (steady_abandoned.and (p := fun _ => S → false = true))
      (steady_rolledBack.and (p := fun _ => S → false = true))
      (fun t m h => ⟨⟨h.1.isOver, fun a ha => by cases ha⟩, h.2⟩)
      fun _ _ _ hm h => ⟨h.1.close hm, h.2⟩) fun _ => .pure fun s h => ?_
    exact .unbegun c rfl (fun hS => nomatch h.known.1.2 hS) { h with known := h.known.1.1 }
  | true =>
    refine .bind ((triple_setInTransaction hE steady_begun true).mono
      (fun s h => { h with known := h.known.1 }) fun _ _ h => h) fun _ =>
      .bind hoperation fun r => ?_
    have hcommit' : r = .ok true →
        Commits C i client c (start.mysql.committedBy c) (F c r) := fun hr => hr ▸ hcommit c
    exact (triple_endTransaction (hF c r) hcommit').mono (fun _ h => h)
      fun a s h => .ended c r h.known.2 { h with known := h.known.1 }

/-- The body of a call. -/
theorem triple_runTransaction_body
    (hlater : ∀ {w t}, E w t → start.mysql.committed <+: w.mysql.committed)
    {operation : Option (StorageM (Except Unit Bool))}
    (hoperation : ∀ o, operation = some o → ∀ c,
      Operates C G S i client d c (start.mysql.committedBy c) E (F c) o) :
    Prog.Triple (Prog.recorded C G) (AtStart i client start E d fun _ => True)
      (do
        if ← ask (.isInTransaction client) then
          return .ok false
        match operation with
        | none => return .ok false
        | some operation =>
          if !(← MysqlClient.hasConnection client) then
            return .ok false
          if !(← ask (.startTransaction client)) then
            MysqlClient.disconnect client
            return .ok false
          ask (.setInTransaction client true)
          MysqlClient.endTransaction client (← operation))
      (Returned S i client start operation E F d) := by
  refine .bind (triple_isInTransaction hE steady_resting.and) fun r =>
    .ite (fun hr => ?_) fun _ => ?_
  · exact fun s h => absurd (h.known.2.symm.trans hr) nofun
  · cases operation with
    | none => exact .pure fun s h => .refused rfl (fun _ => rfl) { h with known := h.known.1 }
    | some operation =>
      refine .bind ((triple_hasConnection hE steady_resting (reconnects_resting hlater)).mono
        (fun s h => { h with known := h.known.1.1 }) fun _ _ h => h) fun r => ?_
      cases r with
      | false =>
        exact .pure fun s h => .refused rfl (fun hS => nomatch h.known.2.2 hS)
          { h with known := ⟨h.known.1, trivial⟩ }
      | true =>
        intro s h
        obtain ⟨hresting, hconn, -⟩ := h.known
        obtain ⟨c, hc⟩ := Option.isSome_iff_exists.mp hconn
        exact triple_transaction hE hF hcommit (hoperation operation rfl c) s
          { h with known := ⟨hresting, hc⟩ }

end

end Game
