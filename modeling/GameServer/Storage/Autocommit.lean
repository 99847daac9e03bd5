import GameServer.Storage.Sessions

/-!
# Statements outside of transactions

The functions of a client in a thread that is in no transaction. Each statement is a transaction of
its own, and a connection that is lost is given up, so that the client is left at rest.
-/

namespace Game

open Infra

variable {ι : Type} {σ : Option ServiceId} {S : Prop} {i : ι} {client : ClientId}
  {start w w' : Storage ι} {T : Storage ι → Prop} {d : Nat} {t : List (StorageStep ι)}

/-- No transaction is open on the connection, and nothing is under way. -/
def Rested (_ : List (StorageStep ι)) (conn : Option Conn) (m : Mysql) : Prop :=
  ∀ c, conn = some c → m.isOpen c = false ∧ m.inflight c = none

/-- The answer, if there is one, is that of the tables. -/
def Answers (w : Storage ι) (sql : Sql) (reply : Reply sql) : Prop :=
  ∀ answer, reply = .ok answer →
    ∃ n db, mysqlStatements.perform ⟨n, sql⟩ w.mysql.db = some (db, answer)

theorem steady_rested : Steady (ι := ι) none Rested where
  aside _ _ _ _ _ haside h c hc :=
    ⟨(haside c (Or.inl hc)).closed (h c hc).1, (haside c (Or.inl hc)).idle (h c hc).2⟩
  quiet _ _ _ _ _ h := h

/-- A connection that has been lost is not at rest. -/
theorem steady_unless (p : Prop) : Steady (ι := ι) none fun t conn m => ¬ p → Rested t conn m where
  aside t conn m m' hm haside h hp := steady_rested.aside t conn m m' hm haside (h hp)
  quiet _ _ _ _ _ h := h

theorem Resting.rested {conn : Option Conn} {m : Mysql} (h : Resting start t conn m) :
    Rested t conn m := by
  intro c hc
  obtain ⟨hopen, hover⟩ := h.conn c hc
  exact ⟨hopen, hover.quiet.resolve_right fun h => absurd (hopen.symm.trans h.2) nofun⟩

/-- What a statement of its own makes of the connection. -/
theorem Rested.query {conn : Option Conn} {m m' : Mysql} {c : Conn} {sql : Sql} {x : Outcome}
    {reply : Reply sql} (h : Rested t conn m) (hc : conn = some c)
    (hquery : Mysql.Queried m c sql x m' reply) (t' : List (StorageStep ι)) :
    ¬ reply = .error true → Rested t' conn m' := by
  intro hreply a ha
  obtain rfl : a = c := Option.some.inj (ha.symm.trans hc)
  obtain ⟨hopen, hidle⟩ := h a ha
  cases hquery with
  | failed => exact ⟨hopen, hidle⟩
  | aborted => exact ⟨Function.update_self .., hidle⟩
  | lost => exact absurd rfl hreply
  | executed hlinked hexec =>
    obtain ⟨hopen', -, hidle'⟩ := hexec.frame
    exact ⟨(congrFun hopen' a).trans hopen, (congrFun hidle' a).trans hidle⟩

theorem answers_of_queried {m' : Mysql} {c : Conn} {sql : Sql} {x : Outcome} {reply : Reply sql}
    (hm : w.mysql.Consistent) (hopen : w.mysql.isOpen c = false)
    (hquery : Mysql.Queried w.mysql c sql x m' reply) : Answers w sql reply := by
  rintro answer rfl
  have hview : w.mysql.locks.view c = w.mysql.db := Locks.view_of_clean (hm.closed c hopen).1
  cases hquery with
  | executed hlinked hexec =>
    cases hexec with
    | read hlocks hperform => exact ⟨_, _, hview ▸ hperform⟩
    | done hlocks hfree hrun => exact ⟨_, _, hview ▸ (Locks.view_run hrun).1⟩

theorem Calling.leaving {own : Option Conn} {s : Storage ι × List (StorageStep ι)}
    (h : Calling i client own (InCall σ S i client fun _ => T) 0 false Rested s) :
    Leaving σ S i client T s where
  inCall := h.lasting
  owner := h.owner
  depth := h.depth
  atRest := ⟨h.inTransaction, h.known⟩

variable [DecidableEq ι]

section

variable {C : Contract StorageRequest StorageRequest.Reply (Storage ι)}
  {G : List (StorageStep ι) → Prop} {E : Storage ι → List (StorageStep ι) → Prop}

/-- A connection that has been lost is given up. -/
theorem triple_reset (hE : Lasting C G S i client E) (lost : Bool) :
    Prog.Triple (Prog.recorded C G)
      (Calling i client none E d false fun t conn m => ¬ lost = true → Rested t conn m)
      (MysqlClient.resetOnConnectionError client lost)
      fun _ => Calling i client none E d false Rested := by
  have hK : Steady (ι := ι) none fun t conn m => ¬ lost = true → Rested t conn m := steady_unless _
  refine .bind (triple_isConnected hE hK) fun connected => .ite (fun hno => ?_) fun _ => ?_
  · refine .pure fun s h => { h with known := fun c hc => ?_ }
    have hconn := h.known.2
    rw [hc] at hconn
    rw [← hconn] at hno
    cases hno
  · refine .bind (triple_isInTransaction hE hK.and) fun r => .ite (fun hr => ?_) fun _ =>
      .ite (fun hlost => ?_) fun hlost => ?_
    · exact fun s h => absurd (h.known.2.symm.trans hr) nofun
    · refine (triple_disconnect hE (hK.and (p := fun conn => conn.isSome = connected)).and
        steady_rested (fun t m _ c hc => (by cases hc)) fun t c m _ _ a ha => ?_).mono
          (fun _ h => h) fun _ _ h => { h with known := h.known.1 }
      cases ha
    · exact .pure fun s h => { h with known := h.known.1.1 hlost }

/-- After a statement that has failed. -/
theorem triple_resetAfter {sql : Sql} (hE : Lasting C G S i client E) (lost : Bool) :
    Prog.Triple (Prog.recorded C G)
      (Calling i client none E d false
        fun t conn m => ¬ (Reply.error lost : Reply sql) = .error true → Rested t conn m)
      (MysqlClient.resetOnConnectionError client lost)
      fun _ => Calling i client none E d false Rested := by
  refine (triple_reset hE lost).mono (fun s h => ?_) fun _ _ h => h
  exact { h with known := fun hlost => h.known fun heq => hlost (by cases heq; rfl) }

/-- A function whose statement has failed. -/
theorem triple_failed {α : Type} {sql : Sql} (hE : Lasting C G S i client E) (lost : Bool) (a : α)
    {P : α → Storage ι → List (StorageStep ι) → Prop} (hP : ∀ w t, E w t → P a w t) :
    Prog.Triple (Prog.recorded C G)
      (Calling i client none E d false
        fun t conn m => ¬ (Reply.error lost : Reply sql) = .error true → Rested t conn m)
      (do
        MysqlClient.resetOnConnectionError client lost
        return a)
      fun a => Calling i client none (P a) d false Rested :=
  .bind (triple_resetAfter hE lost) fun _ => .pure fun _ h =>
    { h with lasting := hP _ _ h.lasting }

omit [DecidableEq ι] in
/-- A function whose statement has succeeded. -/
theorem triple_answered {α : Type} {sql : Sql} {answer : sql.Answer} (a : α) :
    Prog.Triple (Prog.recorded C G)
      (Calling i client none E d false
        fun t conn m => ¬ Reply.ok answer = .error true → Rested t conn m)
      (Pure.pure a : StorageM α) fun _ => Calling i client none E d false Rested :=
  .pure fun _ h => { h with known := h.known nofun }

omit [DecidableEq ι] in
theorem reconnects_rested : Reconnects E Rested where
  cut _ _ _ _ _ hc := by cases hc
  failed _ _ _ _ _ hc := by cases hc
  opened w t x c _ _ _ hfresh a ha := by
    cases ha
    exact ⟨hfresh.isOpen, hfresh.inflight⟩

/-- What a statement makes of `E`, when it goes over a connection at rest. -/
def Queries (C : Contract StorageRequest StorageRequest.Reply (Storage ι)) (i : ι)
    (client : ClientId) (sql : Sql) (E : Storage ι → List (StorageStep ι) → Prop)
    (F : Reply sql → Storage ι → List (StorageStep ι) → Prop) : Prop :=
  ∀ {w t c m x reply}, w.Consistent → (w.clients client).owner = some i →
    (w.clients client).conn = some c → w.mysql.isOpen c = false →
    Mysql.Queried w.mysql c sql x m reply →
    C.exec (.mysqlQuery client sql) w reply (w.setMysql m) → E w t →
    F reply (w.setMysql m) (t ++ [⟨w, .mysqlQuery client sql, reply, w.setMysql m⟩])

section

variable {sql : Sql} {F : Reply sql → Storage ι → List (StorageStep ι) → Prop}
  (hE : Lasting C G S i client E) (hF : ∀ reply, Lasting C G S i client (F reply))
  (hquery : Queries C i client sql E F)
include hE hF hquery

/-- A statement. -/
theorem triple_statement :
    Prog.Triple (Prog.recorded C G)
      (Calling i client none E d false fun t conn m => Rested t conn m ∧ conn.isSome = true)
      (ask (.mysqlQuery client sql)) fun reply =>
        Calling i client none (F reply) d false
          fun t conn m => ¬ reply = .error true → Rested t conn m := by
  refine triple_ask hF (fun _ => steady_unless _) fun w t w' reply h hexec => ?_
  obtain ⟨hrested, hconn⟩ := h.known
  obtain ⟨x, hx⟩ := hE.exec hexec
  rcases Storage.onConn_cases hx with ⟨hnone, -, -⟩ | ⟨c, m, hc, heq, rfl⟩
  · dsimp only at hconn
    rw [hnone] at hconn
    cases hconn
  · have hcases := Mysql.query_cases heq
    exact h.setMysql (hcases.advance h.consistent.mysql) (fun _ h => by cases h)
      (hquery h.consistent h.owner hc (hrested c hc).1 hcases hexec h.lasting)
      (hrested.query hc hcases _)

/-- A function that makes one statement, once the client has looked for its connection. -/
theorem triple_query {α : Type} {none : α} {k : Reply sql → StorageM α}
    {P : α → Storage ι → List (StorageStep ι) → Prop}
    (hnone : ¬ S → ∀ w t, E w t → P none w t)
    (hk : ∀ reply, Prog.Triple (Prog.recorded C G)
      (Calling i client Option.none (F reply) d false
        fun t conn m => ¬ reply = .error true → Rested t conn m) (k reply)
      fun a => Calling i client Option.none (P a) d false Rested) :
    Prog.Triple (Prog.recorded C G) (Calling i client Option.none E d false Rested)
      (do
        if !(← MysqlClient.hasConnection client) then
          return none
        k (← ask (.mysqlQuery client sql)))
      fun a => Calling i client Option.none (P a) d false Rested := by
  refine .bind (triple_hasConnection hE steady_rested reconnects_rested) fun connected =>
    .ite (fun hno => ?_) fun hyes => ?_
  · refine .pure fun s h => ?_
    obtain ⟨hrested, -, hsucceeds⟩ := h.known
    have hnS : ¬ S := fun hs => by
      rw [hsucceeds hs] at hno
      cases hno
    exact { h with lasting := hnone hnS _ _ h.lasting, known := hrested }
  · refine .bind ((triple_statement hE hF hquery).mono (fun s h => ?_) fun _ _ h => h) hk
    exact { h with known := ⟨h.known.1, h.known.2.1.trans (by simpa using hyes)⟩ }

end

/-- `EscapeString` makes no statement. -/
theorem triple_escape (hE : Lasting C G S i client E) {value : List Char}
    {P : List Char → Storage ι → List (StorageStep ι) → Prop}
    (hP : ∀ a, a = value ∨ a = mysqlRealEscapeString value → ∀ w t, E w t → P a w t) :
    Prog.Triple (Prog.recorded C G) (Calling i client none E d false Rested)
      (do
        if !(← MysqlClient.hasConnection client) then
          return value
        return mysqlRealEscapeString value)
      fun a => Calling i client none (P a) d false Rested := by
  refine .bind (triple_hasConnection hE steady_rested reconnects_rested) fun connected =>
    .ite (fun _ => .pure fun s h => ?_) fun _ => .pure fun s h => ?_
  · exact { h with lasting := hP _ (Or.inl rfl) _ _ h.lasting, known := h.known.1 }
  · exact { h with lasting := hP _ (Or.inr rfl) _ _ h.lasting, known := h.known.1 }

end

/-! ## Calls of a thread -/

omit [DecidableEq ι] in
theorem InCall.mono {T' : Storage ι → Prop} (hT : ∀ w, T w → T' w)
    (h : InCall σ S i client (fun _ => T) w t) : InCall σ S i client (fun _ => T') w t :=
  ⟨h.lawful, h.free, hT w h.known, h.meets⟩

/-- A call that does not care for what has happened before it. -/
theorem triple_call_rested {α : Type} {body : StorageM α} {F : α → Storage ι → Prop}
    (hT : Stable σ i T) (hF : ∀ a, Stable σ i (F a))
    (hbody : Prog.Triple (Prog.recorded (thread σ S i) (Meets σ S i))
      (Calling i client none (InCall σ S i client fun _ => T) 0 false Rested) body
      fun a => Calling i client none (InCall σ S i client fun _ => F a) 0 false Rested) :
    Prog.Triple (thread σ S i) (Idle σ i T) (MysqlClient.withLock client body)
      fun a => Idle σ i (F a) :=
  triple_call hT hF fun _ => hbody.mono
    (fun _ h => { h with lasting := h.lasting.mono fun _ h => h.1, known := h.known.1.rested })
    fun _ _ h => h.leaving

/-- A statement of a thread. If `S`, it has to be one that locks nothing. -/
theorem queries_thread {sql : Sql} (hsql : sql.Autocommit) (hS : S → sql.locks = false)
    {F : Reply sql → Storage ι → Prop}
    (hread : ∀ w w' reply, w.Lawful σ → w'.Lawful σ → w.Onward σ i w' → T w →
      Answers w sql reply → (S → ∃ answer, reply = .ok answer) → F reply w') :
    Queries (thread σ S i) i client sql (InCall σ S i client fun _ => T)
      fun reply => InCall σ S i client fun _ => F reply := by
  intro w t c m x reply hw howner hc hclosed hquery hexec h
  have hduty : StorageRequest.Duty σ i w (.mysqlQuery client sql) :=
    ⟨howner, fun _ _ _ => Or.inr hsql⟩
  have hdb : S → m.db = w.mysql.db := by
    intro hs
    cases hquery with
    | failed | aborted | lost => rfl
    | executed hlinked hdone =>
      cases hdone with
      | read => rfl
      | done hlocks => exact absurd ((hS hs).symm.trans hlocks) nofun
  exact h.step hexec hduty rfl hdb fun hw' honward hknown =>
    hread w _ reply h.lawful hw' honward hknown
      (answers_of_queried hw.mysql hclosed hquery) hexec.2

/-- `Query` of a player. -/
theorem triple_select {p : PlayerId} (hT : Stable σ i T) {F : List PlayerData → Storage ι → Prop}
    (hF : ∀ rows, Stable σ i (F rows)) (hnone : ∀ w, ¬ S → T w → F [] w)
    (hread : ∀ w, w.Lawful σ → T w →
      F ((w.mysql.db (.player p)).toList.map fun r => { r with playerId := p }) w) :
    Prog.Triple (thread σ S i) (Idle σ i T) (MysqlClient.query client (.player p))
      fun rows => Idle σ i (F rows) := by
  let H : Reply (.select (.player p)) → Storage ι → Prop
    | .ok rows, w => F rows w
    | .error _, w => ¬ S ∧ T w
  have hH : ∀ reply, Stable σ i (H reply) := by
    rintro (rows | lost)
    · exact hF rows
    · exact (stable_const _).and hT
  have hsql : Sql.Autocommit (.select (.player p)) := trivial
  refine triple_call_rested hT hF (triple_query (lasting_inCall fun _ => hT)
    (fun reply => lasting_inCall fun _ => hH reply) (queries_thread hsql (fun _ => rfl)
      fun w w' reply hw hw' honward hknown hanswers hsucceeds => ?_)
    (fun hnS _ _ h => h.mono fun w => hnone w hnS) fun reply => ?_)
  · cases reply with
    | error lost =>
      refine ⟨fun hs => ?_, hT w w' hw hw' honward hknown⟩
      obtain ⟨answer, h⟩ := hsucceeds hs
      cases h
    | ok rows =>
      obtain ⟨n, db, hperform⟩ := hanswers rows rfl
      obtain ⟨v, hact, -⟩ := Action.perform_row_eq_some.mp hperform
      cases hact
      exact hF _ w w' hw hw' honward (hread w hw hknown)
  · cases reply with
    | error lost =>
      exact triple_failed (lasting_inCall fun _ => hH (.error lost)) lost [] fun _ _ h =>
        h.mono fun w hw => hnone w hw.1 hw.2
    | ok rows => exact triple_answered (C := thread σ S i) (G := Meets σ S i) rows

/-- A function that changes rows. -/
theorem triple_dml {α : Type} {sql : Dml} {none : α} {k : Reply (.dml sql) → StorageM α}
    (hsql : Sql.Autocommit (.dml sql)) (hS : ¬ S) (hT : Stable σ i T)
    (hk : ∀ reply, Prog.Triple (Prog.recorded (thread σ S i) (Meets σ S i))
      (Calling i client Option.none (InCall σ S i client fun _ => T) d false
        fun t conn m => ¬ reply = .error true → Rested t conn m) (k reply)
      fun _ => Calling i client Option.none (InCall σ S i client fun _ => T) d false Rested) :
    Prog.Triple (Prog.recorded (thread σ S i) (Meets σ S i))
      (Calling i client Option.none (InCall σ S i client fun _ => T) d false Rested)
      (do
        if !(← MysqlClient.hasConnection client) then
          return none
        k (← ask (.mysqlQuery client (.dml sql))))
      fun _ => Calling i client Option.none (InCall σ S i client fun _ => T) d false Rested :=
  triple_query (lasting_inCall fun _ => hT) (fun _ => lasting_inCall fun _ => hT)
    (queries_thread hsql (fun hs => absurd hs hS)
      fun w w' _ hw hw' honward hknown _ _ => hT w w' hw hw' honward hknown)
    (fun _ _ _ h => h) hk

theorem triple_execute {sql : Dml} (hsql : Sql.Autocommit (.dml sql)) (hS : ¬ S)
    (hT : Stable σ i T) : Prog.Triple (thread σ S i) (Idle σ i T)
      (MysqlClient.execute client sql) fun _ => Idle σ i T := by
  refine triple_call_rested hT (fun _ => hT) (triple_dml hsql hS hT fun reply => ?_)
  cases reply with
  | error lost => exact triple_failed (lasting_inCall fun _ => hT) lost false fun _ _ h => h
  | ok => exact triple_answered true

theorem triple_executeInsert {sql : Dml} (hsql : Sql.Autocommit (.dml sql)) (hS : ¬ S)
    (hT : Stable σ i T) : Prog.Triple (thread σ S i) (Idle σ i T)
      (MysqlClient.executeInsert client sql) fun _ => Idle σ i T := by
  have hE : Lasting (thread σ S i) (Meets σ S i) S i client (InCall σ S i client fun _ => T) :=
    lasting_inCall fun _ => hT
  refine triple_call_rested hT (fun _ => hT) ?_
  have haffected : Prog.Triple (Prog.recorded (thread σ S i) (Meets σ S i))
      (Calling i client none (InCall σ S i client fun _ => T) 0 false Rested)
      (MysqlClient.executeAffected client sql)
      fun _ => Calling i client none (InCall σ S i client fun _ => T) 0 false Rested := by
    refine triple_withLock hE steady_rested (fun _ => hE) (fun _ => steady_rested)
      (triple_dml hsql hS hT fun reply => ?_)
    cases reply with
    | error lost => exact triple_failed hE lost (-1) fun _ _ h => h
    | ok affected => exact triple_answered affected
  refine .bind haffected fun affected => .ite (fun _ => .pure fun _ h => h) fun _ => ?_
  exact triple_mysqlInsertId hE steady_rested

theorem triple_escapeString (hT : Stable σ i T) (value : List Char) :
    Prog.Triple (thread σ S i) (Idle σ i T) (MysqlClient.escapeString client value)
      fun _ => Idle σ i T :=
  triple_call_rested hT (fun _ => hT) (triple_escape (lasting_inCall fun _ => hT)
    fun _ _ _ _ h => h)

end Game
