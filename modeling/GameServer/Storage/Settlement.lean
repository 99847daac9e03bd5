import GameServer.Storage.Results
import GameServer.Storage.Sessions

/-!
# The transaction of a settlement

The body of the transaction of `ApplySettlement`, statement by statement. When it returns true, its
statements have settled the battle, or have found it settled in the same way.
-/

namespace Game

open Infra BattleRepository

variable {ι : Type} {σ : Option ServiceId} {S : Prop} {i : ι} {client : ClientId}
  {w w' : Storage ι} {T : Storage ι → Prop} {c : Conn} {d : Nat} {before : List Log}
  {t : List (StorageStep ι)} {log log' log'' : Log}

/-! ## Where the transaction stands -/

/-- The transaction has made these statements. -/
structure Active (c : Conn) (before : List Log) (log : Log) (t : List (StorageStep ι))
    (conn : Option Conn) (m : Mysql) : Prop where
  inside : Inside c before t conn m
  conn : conn = some c
  made : statements t = log

/-- The transaction has failed. -/
structure Broken (S : Prop) (c : Conn) (before : List Log) (t : List (StorageStep ι))
    (conn : Option Conn) (m : Mysql) : Prop where
  fails : ¬ S
  abandoned : Abandoned c before t conn m
  conn : conn = some c

/-- The transaction has made statements of the kind `L`, or it has failed, and then `p`. -/
def Stands (S : Prop) (c : Conn) (before : List Log) (L : Log → Prop) (p : Prop)
    (t : List (StorageStep ι)) (conn : Option Conn) (m : Mysql) : Prop :=
  (∃ log, L log ∧ Active c before log t conn m) ∨ p ∧ Broken S c before t conn m

/-- After a function that returns `r`: if it is true, it has made statements of the kind `L`. -/
structure Went (c : Conn) (before : List Log) (L : Log → Prop) (r : Bool)
    (t : List (StorageStep ι)) (conn : Option Conn) (m : Mysql) : Prop where
  abandoned : Abandoned c before t conn m
  active : r = true → ∃ log, L log ∧ Active c before log t conn m
  conn : conn = some c

theorem steady_active : Steady (ι := ι) (some c) (Active c before log) where
  aside t conn m m' hm haside h :=
    ⟨steady_inside.aside t conn m m' hm haside h.inside, h.conn, h.made⟩
  quiet t e conn m he h :=
    ⟨steady_inside.quiet t e conn m he h.inside, h.conn, (statements_quiet t he).trans h.made⟩

theorem steady_stands {L : Log → Prop} {p : Prop} :
    Steady (ι := ι) (some c) (Stands S c before L p) where
  aside t conn m m' hm haside h := by
    refine h.imp (fun ⟨log, hL, h⟩ => ⟨log, hL, ?_⟩) fun ⟨hp, h⟩ => ⟨hp, h.fails, ?_, h.conn⟩
    · exact steady_active.aside t conn m m' hm haside h
    · exact steady_abandoned.aside t conn m m' hm haside h.abandoned
  quiet t e conn m he h := by
    refine h.imp (fun ⟨log, hL, h⟩ => ⟨log, hL, ?_⟩) fun ⟨hp, h⟩ => ⟨hp, h.fails, ?_, h.conn⟩
    · exact steady_active.quiet t e conn m he h
    · exact steady_abandoned.quiet t e conn m he h.abandoned

theorem Stands.mono {L L' : Log → Prop} {p p' : Prop} {conn : Option Conn} {m : Mysql}
    (h : Stands S c before L p t conn m) (hL : ∀ log, L log → L' log) (hp : p → p') :
    Stands S c before L' p' t conn m :=
  h.imp (fun ⟨log, h, hactive⟩ => ⟨log, hL log h, hactive⟩) fun ⟨h, hbroken⟩ => ⟨hp h, hbroken⟩

theorem Stands.conn {L : Log → Prop} {p : Prop} {conn : Option Conn} {m : Mysql}
    (h : Stands S c before L p t conn m) : conn = some c :=
  h.elim (fun ⟨_, _, h⟩ => h.conn) fun ⟨_, h⟩ => h.conn

theorem Stands.abandoned {L : Log → Prop} {p : Prop} {conn : Option Conn} {m : Mysql}
    (h : Stands S c before L p t conn m) : Abandoned c before t conn m :=
  h.elim (fun ⟨_, _, h⟩ => h.inside.abandoned) fun ⟨_, h⟩ => h.abandoned

theorem Stands.went {L : Log → Prop} {r : Bool} {p : Prop} {conn : Option Conn} {m : Mysql}
    (h : Stands S c before L p t conn m) (hp : p → r = false) : Went c before L r t conn m :=
  ⟨h.abandoned, fun hr => h.resolve_right fun ⟨hfailed, _⟩ => absurd (hp hfailed) (hr ▸ nofun),
    h.conn⟩

/-- The log goes on with these statements. -/
def Extends (log : Log) (qs : List Sql) (log' : Log) : Prop :=
  ∃ rest, log' = log ++ rest ∧ rest.map (·.1.sql) = qs

theorem Extends.refl (log : Log) : Extends log [] log :=
  ⟨[], (List.append_nil log).symm, rfl⟩

theorem Extends.trans {qs qs' : List Sql} (h : Extends log qs log') (h' : Extends log' qs' log'') :
    Extends log (qs ++ qs') log'' := by
  obtain ⟨rest, rfl, rfl⟩ := h
  obtain ⟨rest', rfl, rfl⟩ := h'
  exact ⟨rest ++ rest', List.append_assoc .., List.map_append⟩

/-! ## Statements -/

variable [DecidableEq ι]

/-- In the transaction nothing but the transaction can change. -/
abbrev InBody (σ : Option ServiceId) (S : Prop) (i : ι) (client : ClientId)
    (T : Storage ι → Prop) (c : Conn) (d : Nat)
    (K : List (StorageStep ι) → Option Conn → Mysql → Prop) :
    Storage ι × List (StorageStep ι) → Prop :=
  Calling i client (some c) (InCall σ S i client fun _ => T) d true K

/-- The program of the thread `i`, with its steps. -/
abbrev recordedThread (σ : Option ServiceId) (S : Prop) (i : ι) :=
  Prog.recorded (thread (ι := ι) σ S i) (Meets σ S i)

/-- What statements the transaction can go on to, when it has made those of `log`. -/
def Leads (T : Storage ι → Prop) (log : Log) (sql : Sql) (L : sql.Answer → Log → Prop) : Prop :=
  ∀ w n db db' answer, T w → mysqlStatements.Replays log w.mysql.db db →
    mysqlStatements.perform ⟨n, sql⟩ db = some (db', answer) →
    L answer (log ++ [⟨⟨n, sql⟩, answer⟩])

variable (hT : Stable σ i T)
include hT

theorem triple_inTransaction {sql : Sql} {L : sql.Answer → Log → Prop} (hsql : sql.locks = true)
    (hL : Leads T log sql L) :
    Prog.Triple (recordedThread σ S i) (InBody σ S i client T c d (Active c before log))
      (ask (.mysqlQuery client sql)) fun reply => InBody σ S i client T c d
        (Stands S c before (fun log' => ∃ answer, reply = .ok answer ∧ L answer log')
          (∃ lost, reply = .error lost)) := by
  refine triple_ask (fun _ => lasting_inCall fun _ => hT) (fun _ => steady_stands)
    fun w t w' reply h hexec => ?_
  have hactive := h.known
  have hm := h.consistent.mysql
  have hduty : StorageRequest.Duty σ i w (.mysqlQuery client sql) := by
    refine ⟨h.owner, fun a ha hlinked => Or.inl ?_⟩
    obtain rfl := hactive.inside.conn a ha
    exact (hactive.inside.txn hlinked).1
  have hsucceeds := hexec.2
  obtain ⟨⟨x, hx⟩, -⟩ := id hexec
  rcases Storage.onConn_cases hx with ⟨hnone, -, -⟩ | ⟨a, m, ha, hquery, rfl⟩
  · exact absurd (hnone.symm.trans hactive.conn) nofun
  obtain rfl : a = c := hactive.inside.conn a ha
  have hcases := Mysql.query_cases hquery
  have hinside := hactive.inside.query client (w.setMysql m) hm rfl hquery
  refine h.setMysql (hcases.advance hm) h.privateConn ?_ ?_
  · refine h.lasting.step hexec hduty rfl (fun _ => ?_) fun hw' honward hknown =>
      hT _ _ h.lasting.lawful hw' honward hknown
    -- A statement in a transaction leaves the tables alone.
    cases hcases with
    | failed | aborted | lost => rfl
    | executed hlinked hdone =>
      cases hdone with
      | read => rfl
      | done hlocks hfree hrun =>
        have hadvance := hm.carryOut (hm.lt_nextConn hlinked) hfree hrun
        rw [if_pos (hactive.inside.txn hlinked).1] at hadvance
        exact hadvance.db_eq
  · cases reply with
    | error lost =>
      refine Or.inr ⟨⟨lost, rfl⟩, fun hS => ?_, ?_, hactive.conn⟩
      · obtain ⟨answer, h⟩ := hsucceeds hS
        cases h
      · exact hinside.elim (fun h => h.2.2) fun h => h.1.abandoned
    | ok answer =>
      obtain ⟨hinside, -⟩ := hinside.resolve_left fun h => nomatch h.2.1
      have hstep : L answer (log ++ [⟨⟨w.mysql.autoIncrement, sql⟩, answer⟩]) := by
        cases hcases with
        | executed hlinked hdone =>
          cases hdone with
          | read hlocks => exact absurd (hsql.symm.trans hlocks) nofun
          | done hlocks hfree hrun =>
            have hfollows := (hm.follows a).1
            rw [(hactive.inside.txn hlinked).2, hactive.made] at hfollows
            exact hL w _ _ _ answer h.lasting.known hfollows (Locks.view_run hrun).1
      refine Or.inl ⟨_, ⟨answer, rfl, hstep⟩, hinside, hactive.conn, ?_⟩
      rw [statements_append, hactive.made]
      unfold succeeded
      dsimp only
      rw [if_pos hsql]
      rfl

theorem triple_hasConnection_in :
    Prog.Triple (recordedThread σ S i) (InBody σ S i client T c d (Active c before log))
      (MysqlClient.hasConnection client) fun connected => InBody σ S i client T c d
        fun t conn m => Active c before log t conn m ∧ connected = true := by
  refine (triple_hasConnection_inTransaction (lasting_inCall fun _ => hT) steady_active).mono
    (fun _ h => h) fun connected s h => { h with known := ⟨h.known.1, ?_⟩ }
  rw [← h.known.2, h.known.1.conn]
  rfl

/-- A function that makes one statement. -/
theorem triple_function {α : Type} (sql : Sql) {L : sql.Answer → Log → Prop} {fail : α}
    {f : sql.Answer → α} {k : Reply sql → StorageM α} (hsql : sql.locks = true)
    (hL : Leads T log sql L) (hok : ∀ answer, k (.ok answer) = pure (f answer))
    (herror : ∀ lost, k (.error lost) = do
      MysqlClient.resetOnConnectionError client lost
      return fail) :
    Prog.Triple (recordedThread σ S i) (InBody σ S i client T c d (Active c before log))
      (MysqlClient.withLock client do
        if !(← MysqlClient.hasConnection client) then
          return fail
        k (← ask (.mysqlQuery client sql)))
      fun a => InBody σ S i client T c d
        (Stands S c before (fun log' => ∃ answer, a = f answer ∧ L answer log') (a = fail)) := by
  have hE : Lasting (thread σ S i) (Meets σ S i) S i client (InCall σ S i client fun _ => T) :=
    lasting_inCall fun _ => hT
  refine triple_withLock hE steady_active (fun _ => hE) (fun _ => steady_stands) ?_
  refine .bind (triple_hasConnection_in hT) fun connected => .ite (fun hno => ?_) fun _ => ?_
  · exact fun s h => absurd h.known.2 (by simpa using hno)
  · refine .bind ((triple_inTransaction hT hsql hL).mono (fun s h => { h with known := h.known.1 })
      fun _ _ h => h) fun reply => ?_
    cases reply with
    | ok answer =>
      rw [hok]
      refine .pure fun s h => { h with known := h.known.mono (fun log' h => ?_) fun h => ?_ }
      · obtain ⟨answer', heq, h⟩ := h
        cases heq
        exact ⟨answer, rfl, h⟩
      · obtain ⟨lost, heq⟩ := h
        cases heq
    | error lost =>
      rw [herror]
      refine .bind (triple_reset_inTransaction hE steady_stands lost) fun _ =>
        .pure fun s h => { h with known := h.known.mono (fun log' h => ?_) fun _ => rfl }
      obtain ⟨answer, heq, -⟩ := h
      cases heq

theorem triple_execute_in (sql : Dml) :
    Prog.Triple (recordedThread σ S i) (InBody σ S i client T c d (Active c before log))
      (MysqlClient.execute client sql) fun ok => InBody σ S i client T c d
        (Stands S c before (Extends log [.dml sql]) (ok = false)) := by
  refine (triple_function hT (.dml sql)
    (L := fun _ => Extends log [.dml sql]) (f := fun _ => true) rfl
    (fun _ _ _ _ _ _ _ _ => ⟨_, rfl, rfl⟩) (fun _ => rfl) fun _ => rfl).mono (fun _ h => h)
      fun ok s h => { h with known := h.known.mono (fun log' h => ?_) id }
  obtain ⟨answer, -, h⟩ := h
  exact h

theorem triple_executeAffected_in (sql : Dml) :
    Prog.Triple (recordedThread σ S i) (InBody σ S i client T c d (Active c before log))
      (MysqlClient.executeAffected client sql) fun affected => InBody σ S i client T c d
        (Stands S c before (Extends log [.dml sql]) (affected = -1)) := by
  refine (triple_function hT (.dml sql)
    (L := fun _ => Extends log [.dml sql]) (f := id) rfl
    (fun _ _ _ _ _ _ _ _ => ⟨_, rfl, rfl⟩) (fun _ => rfl) fun _ => rfl).mono (fun _ h => h)
      fun ok s h => { h with known := h.known.mono (fun log' h => ?_) id }
  obtain ⟨answer, -, h⟩ := h
  exact h

theorem triple_query_in {q : Select} {L : List q.Row → Log → Prop}
    (hq : Sql.locks (.select q) = true) (hL : Leads T log (.select q) L) :
    Prog.Triple (recordedThread σ S i) (InBody σ S i client T c d (Active c before log))
      (MysqlClient.query client q) fun rows => InBody σ S i client T c d
        (Stands S c before (L rows) (rows = [])) := by
  refine (triple_function hT (.select q) (f := id) hq hL (fun _ => rfl)
    fun _ => rfl).mono (fun _ h => h)
      fun ok s h => { h with known := h.known.mono (fun log' h => ?_) id }
  obtain ⟨answer, rfl, h⟩ := h
  exact h

theorem triple_escapeString_in (value : List Char) :
    Prog.Triple (recordedThread σ S i) (InBody σ S i client T c d (Active c before log))
      (MysqlClient.escapeString client value) fun escaped => InBody σ S i client T c d
        fun t conn m => Active c before log t conn m ∧
          escaped = mysqlRealEscapeString value := by
  have hE : Lasting (thread σ S i) (Meets σ S i) S i client (InCall σ S i client fun _ => T) :=
    lasting_inCall fun _ => hT
  refine triple_withLock hE steady_active (fun _ => hE) (fun escaped => steady_active.and
    (p := fun _ => escaped = mysqlRealEscapeString value)) ?_
  refine .bind (triple_hasConnection_in hT) fun connected => .ite (fun hno => ?_) fun _ => ?_
  · exact fun s h => absurd h.known.2 (by simpa using hno)
  · exact .pure fun s h => { h with known := ⟨h.known.1, rfl⟩ }

/-! ## Saving the results -/

omit hT in
/-- A step of the body, and what comes after it when it returns true. -/
theorem triple_andThen {p q : StorageM Bool} {L L' : Log → Prop}
    (hp : Prog.Triple (recordedThread σ S i) (InBody σ S i client T c d (Active c before log)) p
      fun r => InBody σ S i client T c d (Went c before L r))
    (hq : ∀ log', L log' →
      Prog.Triple (recordedThread σ S i) (InBody σ S i client T c d (Active c before log')) q
        fun r => InBody σ S i client T c d (Went c before L' r)) :
    Prog.Triple (recordedThread σ S i) (InBody σ S i client T c d (Active c before log))
      (do
        if !(← p) then
          return false
        q) fun r => InBody σ S i client T c d (Went c before L' r) := by
  refine .bind hp fun r => .ite (fun _ => ?_) fun hr => fun s h => ?_
  · exact .pure fun s h => { h with known := ⟨h.known.abandoned, nofun, h.known.conn⟩ }
  · obtain ⟨log', hL, hactive⟩ := h.known.active (by simpa using hr)
    exact hq log' hL s { h with known := hactive }

theorem triple_insertBattlePlayerResult (x : BattlePlayerResult) :
    Prog.Triple (recordedThread σ S i) (InBody σ S i client T c d (Active c before log))
      (insertBattlePlayerResult ⟨some client⟩ x) fun r => InBody σ S i client T c d
        (Went c before (Extends log [.dml (.insertResult x.battleId x.playerId
          (mysqlRealEscapeString x.result.toList) x.scoreDelta)]) r) := by
  refine .bind (triple_escapeString_in hT _) fun escaped s h => ?_
  obtain ⟨hactive, rfl⟩ := h.known
  refine Prog.Triple.bind (triple_executeAffected_in hT _) (fun affected => .pure fun s h => ?_) s
    { h with known := hactive }
  exact { h with known := h.known.went fun hfailed => by rw [hfailed]; rfl }

theorem triple_insertSettlementLog (x : SettlementLog) :
    Prog.Triple (recordedThread σ S i) (InBody σ S i client T c d (Active c before log))
      (insertSettlementLog ⟨some client⟩ x) fun r => InBody σ S i client T c d
        (Went c before
          (Extends log [.dml (.insertLog x.battleId x.playerId x.scoreDelta)]) r) := by
  refine .bind (triple_executeAffected_in hT _) fun affected => .pure fun s h => ?_
  exact { h with known := h.known.went fun hfailed => by rw [hfailed]; rfl }

theorem triple_updatePlayerScore (p : PlayerId) (scoreDelta : Int) :
    Prog.Triple (recordedThread σ S i) (InBody σ S i client T c d (Active c before log))
      (PlayerRepository.updatePlayerScore ⟨some client⟩ p scoreDelta) fun r =>
        InBody σ S i client T c d (Went c before (Extends log [.dml (.updateScore p
          (1000 + scoreDelta) scoreDelta (if 0 < scoreDelta then 1 else 0)
          (if scoreDelta < 0 then 1 else 0))]) r) :=
  (triple_execute_in hT _).mono (fun _ h => h) fun _ _ h => { h with known := h.known.went id }

theorem triple_saveResults (battle : Battle) : ∀ (results : List BattlePlayerResult) (log : Log),
    Prog.Triple (recordedThread σ S i) (InBody σ S i client T c d (Active c before log))
      (saveResults ⟨some client⟩ battle results) fun r => InBody σ S i client T c d
        (Went c before (Extends log (results.flatMap (saveSql battle))) r)
  | [], log => .pure fun s h =>
    { h with known := ⟨h.known.inside.abandoned, fun _ => ⟨log, .refl log, h.known⟩, h.known.conn⟩ }
  | x :: results, log => by
    refine triple_andThen (triple_insertBattlePlayerResult hT x) fun log₁ h₁ =>
      triple_andThen (triple_insertSettlementLog hT _) fun log₂ h₂ =>
        triple_andThen (triple_updatePlayerScore hT x.playerId x.scoreDelta) fun log₃ h₃ =>
          (triple_saveResults battle results log₃).mono (fun _ h => h) fun r s h =>
            { h with known := ⟨h.known.abandoned, fun hr => ?_, h.known.conn⟩ }
    obtain ⟨log', h', hactive⟩ := h.known.active hr
    exact ⟨log', ((h₁.trans h₂).trans h₃).trans h', hactive⟩

end Game
