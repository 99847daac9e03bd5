import GameServer.Storage.Clients
import GameServer.Storage.Results
import GameServer.Storage.RowLocks

/-!
# The order of the statements

What a client knows of its own transaction while it is in `ApplySettlement`, and that it locks rows
in one order only (`triple_appliesSettlement`): first the row of the battle, and then the players by
their ids. The results and the log entries of the battle are guarded by its row.
-/

namespace Game

open Infra BattleRepository

/-- The order in which rows are locked. -/
def settlementOrder : LockOrder TableRow Int where
  guard
    | .battle battleId | .result battleId _ | .log battleId _ => some (.battle battleId)
    | .player _ => none
  rank
    | .player playerId => playerId
    | .battle _ | .result _ _ | .log _ _ => 0

/-! ## What a client knows -/

/-- Where the client is with its transaction. -/
inductive Phase where
  /-- It has none, or no connection. -/
  | idle
  /-- Its statements have locked these rows. -/
  | made (rows : List TableRow)
  /-- A request has failed. -/
  | broken

structure Script where
  isConnected : Bool
  inTransaction : Bool
  phase : Phase

namespace Script

/-- What the client knows after a request. -/
def Next : (q : StorageRequest) → Script → q.Reply → Script → Prop
  | .isConnected _, g, r, g' =>
    r = g.isConnected ∧ g' = if r then g else { g with phase := .idle }
  | .isInTransaction _, g, r, g' => r = g.inTransaction ∧ g' = g
  | .setInTransaction _ value, g, _, g' => g' = { g with inTransaction := value }
  | .mysqlConnect _, g, r, g' => g' = { g with isConnected := r }
  | .mysqlClose _, g, _, g' => g' = { g with isConnected := false, phase := .idle }
  | .mysqlQuery _ sql, g, .ok _, g' => ∃ rows players, g.phase = .made rows ∧
    g' = { g with phase := .made (rows ++ sql.tableRows players) }
  | .mysqlQuery _ _, g, .error _, g' => g' = { g with phase := .broken }
  | .startTransaction _, g, r, g' => g' = { g with phase := if r then .made [] else .broken }
  | .mysqlCommit _, g, r, g' | .mysqlRollback _, g, r, g' =>
    g' = { g with phase := if r then .idle else .broken }
  | .lockClient _, g, _, g' | .unlockClient _, g, _, g' | .mysqlInsertId _, g, _, g'
  | .lockService _, g, _, g' | .unlockService _ _ _, g, _, g' | .zadd _ _, g, _, g' => g' = g

/-- What a request has to meet. -/
def Meets (client : ClientId) : StorageRequest → Script → Prop
  | .mysqlConnect a, g | .startTransaction a, g => a = client ∧ g.phase = .idle
  | .mysqlQuery a sql, g => a = client ∧ ∃ rows, g.phase = .made rows ∧
    ∀ players, settlementOrder.Allows (· ∈ rows) (sql.tableRows players)
  | q, _ => q.client = some client

/-- No transaction has begun. -/
def Outside (g : Script) : Prop :=
  g.inTransaction = false ∧ g.phase = .idle

/-- The transaction can go on, as long as there is a connection. -/
def Ready (rows : List TableRow) (g : Script) : Prop :=
  g.inTransaction = true ∧ (g.isConnected = true → g.phase = .made rows)

end Script

/-- The requests of a client, as far as it can tell itself. -/
def scripted (client : ClientId) : Contract StorageRequest StorageRequest.Reply Script where
  exec q g r g' := g.Next q r g'
  rely g g' := g' = g
  guar q g _ := g.Meets client q

variable {client : ClientId} {A : Script → Prop} {rows : List TableRow}

theorem Script.Meets.client_eq {q : StorageRequest} {g : Script} (h : g.Meets client q) :
    q.client = some client := by
  cases q with
  | mysqlConnect | startTransaction | mysqlQuery => exact congrArg some h.1
  | _ => exact h

/-- Every request is answered in some way. -/
theorem Script.exists_next (q : StorageRequest) (g : Script) : ∃ r g', g.Next q r g' := by
  cases q with
  | isConnected a => exact ⟨g.isConnected, _, rfl, rfl⟩
  | isInTransaction a => exact ⟨g.inTransaction, _, rfl, rfl⟩
  | mysqlQuery a sql => exact ⟨.error true, _, rfl⟩
  | mysqlConnect | startTransaction | mysqlCommit | mysqlRollback | zadd => exact ⟨true, _, rfl⟩
  | lockClient | unlockClient | setInTransaction | mysqlClose | lockService | unlockService =>
    exact ⟨(), _, rfl⟩
  | mysqlInsertId a => exact ⟨0, _, rfl⟩

theorem Script.meets_of_wp {α : Type} {φ : α → Script → Prop} {q : StorageRequest}
    {k : q.Reply → StorageM α} {g : Script}
    (h : Prog.wp (scripted client) φ (.step q k) g) : g.Meets client q := by
  obtain ⟨r, g', hnext⟩ := g.exists_next q
  exact (h r g' hnext).1

theorem triple_asks {q : StorageRequest} {B : q.Reply → Script → Prop}
    (h : ∀ g r g', A g → g.Next q r g' → g.Meets client q ∧ B r g') :
    Prog.Triple (scripted client) A (ask q) B := by
  intro g hA r g' hnext
  obtain ⟨hmeets, hB⟩ := h g r g' hA hnext
  refine ⟨hmeets, ?_⟩
  rintro _ rfl
  exact hB

theorem triple_underLock {α : Type} {body : StorageM α} {B : α → Script → Prop}
    (h : Prog.Triple (scripted client) A body B) :
    Prog.Triple (scripted client) A (MysqlClient.withLock client body) B := by
  refine .bind (triple_asks (q := .lockClient client) (B := fun _ => A) fun g r g' hA hnext => ?_)
    fun _ => .bind h fun a => .bind (triple_asks (q := .unlockClient client) (B := fun _ => B a)
      fun g r g' hB hnext => ?_) fun _ => .pure fun _ h => h
  · obtain rfl : g' = g := hnext
    exact ⟨rfl, hA⟩
  · obtain rfl : g' = g := hnext
    exact ⟨rfl, hB⟩

theorem triple_asksConnected : Prog.Triple (scripted client) A (ask (.isConnected client))
    fun r g' => ∃ g, A g ∧ r = g.isConnected ∧ g' = if r then g else { g with phase := .idle } :=
  triple_asks fun g _ _ hA hnext => ⟨rfl, g, hA, hnext.1, hnext.2⟩

theorem triple_asksInTransaction {b : Bool} (hb : ∀ g, A g → g.inTransaction = b) :
    Prog.Triple (scripted client) A (ask (.isInTransaction client)) fun r g => A g ∧ r = b := by
  refine triple_asks fun g r g' hA hnext => ?_
  obtain ⟨rfl, rfl⟩ := hnext
  exact ⟨rfl, hA, hb _ hA⟩

theorem triple_setsInTransaction (value : Bool) : Prog.Triple (scripted client) A
    (ask (.setInTransaction client value))
    fun _ g' => ∃ g, A g ∧ g' = { g with inTransaction := value } :=
  triple_asks fun g _ _ hA hnext => ⟨rfl, g, hA, hnext⟩

/-! ## Connections -/

/-- `Disconnect` leaves the client without a connection. -/
theorem triple_disconnects {b : Bool} (hb : ∀ g, A g → g.inTransaction = b) :
    Prog.Triple (scripted client) A (MysqlClient.disconnect client)
      fun _ g => g.inTransaction = b ∧ g.isConnected = false ∧ g.phase = .idle := by
  refine triple_underLock (.bind triple_asksConnected fun r => .ite (fun hr => ?_) fun hr => ?_)
  · refine triple_asks ?_
    rintro g' r' g'' ⟨g, hA, -, rfl⟩ rfl
    exact ⟨rfl, by rw [if_pos hr]; exact hb g hA, rfl, rfl⟩
  · refine .pure ?_
    rintro g' ⟨g, hA, hconnected, rfl⟩
    rw [if_neg hr]
    exact ⟨hb g hA, hconnected.symm.trans (Bool.eq_false_iff.mpr hr), rfl⟩

theorem triple_connects : Prog.Triple (scripted client) Script.Outside
    (MysqlClient.connect client) fun _ => Script.Outside := by
  refine triple_underLock (.bind (triple_asksInTransaction fun g h => h.1) fun r =>
    .ite (fun hr => ?_) fun _ => ?_)
  · exact .pure fun g h => absurd (h.2.symm.trans hr) nofun
  · refine .bind ((triple_disconnects (A := Script.Outside) fun g h => h.1).mono
      (fun g h => h.1) fun _ _ h => h) fun _ => triple_asks ?_
    rintro g r' g' ⟨hb, -, hidle⟩ rfl
    exact ⟨⟨rfl, hidle⟩, hb, hidle⟩

theorem triple_hasConnection_outside : Prog.Triple (scripted client) Script.Outside
    (MysqlClient.hasConnection client) fun _ => Script.Outside := by
  refine .bind triple_asksConnected fun r => .ite (fun hr => ?_) fun hr => ?_
  · refine .pure ?_
    rintro g' ⟨g, hA, -, rfl⟩
    rw [if_pos hr]
    exact hA
  · refine triple_connects.mono ?_ fun _ _ h => h
    rintro g' ⟨g, hA, -, rfl⟩
    rw [if_neg hr]
    exact ⟨hA.1, rfl⟩

/-- In a transaction nothing is connected anew. -/
theorem triple_hasConnection_ready : Prog.Triple (scripted client) (Script.Ready rows)
    (MysqlClient.hasConnection client)
    fun r g => g.Ready rows ∧ (r = true → g.isConnected = true) := by
  refine .bind triple_asksConnected fun r => .ite (fun hr => ?_) fun hr => ?_
  · refine .pure ?_
    rintro g' ⟨g, hA, hconnected, rfl⟩
    rw [if_pos hr]
    exact ⟨hA, fun _ => hconnected.symm.trans hr⟩
  · refine triple_underLock (.bind ((triple_asksInTransaction (A := Script.Ready rows)
      fun g h => h.1).mono ?_ fun _ _ h => h) fun r' => .ite (fun _ => ?_) fun hr' => ?_)
    · rintro g' ⟨g, hA, hconnected, rfl⟩
      rw [if_neg hr]
      refine ⟨hA.1, fun h => absurd (hconnected.trans h) hr⟩
    · exact .pure fun g h => ⟨h.1, nofun⟩
    · exact fun g h => absurd h.2 hr'

theorem triple_reset_ready (lost : Bool) : Prog.Triple (scripted client)
    (fun g => g.inTransaction = true) (MysqlClient.resetOnConnectionError client lost)
    fun _ g => g.inTransaction = true := by
  have hconnected : Prog.Triple (scripted client) (fun g => g.inTransaction = true)
      (ask (.isConnected client)) fun _ g => g.inTransaction = true := by
    refine triple_asksConnected.mono (fun _ h => h) ?_
    rintro r g' ⟨g, hA, -, rfl⟩
    split <;> exact hA
  refine .bind hconnected fun r => .ite (fun _ => .pure fun _ h => h) fun _ =>
    .bind (triple_asksInTransaction fun _ h => h) fun r' => .ite (fun _ => .pure fun _ h => h.1) ?_
  exact fun hr' g h => absurd h.2 hr'

/-! ## Statements -/

/-- After a function that has failed or has locked these rows as well. -/
def Script.After (rows : List TableRow) (sql : Sql) (done : Prop) (g : Script) : Prop :=
  g.inTransaction = true ∧ (done → ∃ players, g.Ready (rows ++ sql.tableRows players))

/-- A function that makes one statement. -/
theorem triple_makes {α : Type} {sql : Sql} {fail : α} {f : sql.Answer → α}
    {k : Reply sql → StorageM α}
    (hsql : ∀ players, settlementOrder.Allows (· ∈ rows) (sql.tableRows players))
    (hok : ∀ answer, k (.ok answer) = pure (f answer))
    (herror : ∀ lost, k (.error lost) = do
      MysqlClient.resetOnConnectionError client lost
      return fail) :
    Prog.Triple (scripted client) (Script.Ready rows)
      (MysqlClient.withLock client do
        if !(← MysqlClient.hasConnection client) then
          return fail
        k (← ask (.mysqlQuery client sql)))
      fun a => Script.After rows sql (a ≠ fail) := by
  refine triple_underLock (.bind triple_hasConnection_ready fun connected =>
    .ite (fun _ => ?_) fun hyes => ?_)
  · exact .pure fun g h => ⟨h.1.1, fun hne => absurd rfl hne⟩
  · have hconnected : connected = true := by simpa using hyes
    have hasks : Prog.Triple (scripted client)
        (fun g => g.Ready rows ∧ (connected = true → g.isConnected = true))
        (ask (.mysqlQuery client sql)) fun reply g => g.inTransaction = true ∧
          ∀ answer, reply = .ok answer → ∃ players, g.Ready (rows ++ sql.tableRows players) := by
      refine triple_asks fun g reply g' h hnext => ?_
      -- The rows are only known while the transaction has not failed.
      have hmade := h.1.2 (h.2 hconnected)
      refine ⟨⟨rfl, rows, hmade, hsql⟩, ?_⟩
      cases reply with
      | error lost =>
        obtain rfl := hnext
        exact ⟨h.1.1, fun answer heq => by cases heq⟩
      | ok answer =>
        obtain ⟨rows', players, hmade', rfl⟩ := hnext
        cases hmade.symm.trans hmade'
        exact ⟨h.1.1, fun _ _ => ⟨players, h.1.1, fun _ => rfl⟩⟩
    refine .bind hasks fun reply => ?_
    cases reply with
    | ok answer =>
      rw [hok]
      exact .pure fun g h => ⟨h.1, fun _ => h.2 answer rfl⟩
    | error lost =>
      rw [herror]
      exact .bind ((triple_reset_ready lost).mono (fun g h => h.1) fun _ _ h => h) fun _ =>
        .pure fun g h => ⟨h, fun hne => absurd rfl hne⟩

theorem triple_executes {sql : Dml}
    (hsql : ∀ players, settlementOrder.Allows (· ∈ rows) ((Sql.dml sql).tableRows players)) :
    Prog.Triple (scripted client) (Script.Ready rows) (MysqlClient.execute client sql)
      fun ok => Script.After rows (.dml sql) (ok ≠ false) :=
  triple_makes (f := fun _ => true) hsql (fun _ => rfl) fun _ => rfl

theorem triple_executesAffected {sql : Dml}
    (hsql : ∀ players, settlementOrder.Allows (· ∈ rows) ((Sql.dml sql).tableRows players)) :
    Prog.Triple (scripted client) (Script.Ready rows) (MysqlClient.executeAffected client sql)
      fun affected => Script.After rows (.dml sql) (affected ≠ -1) :=
  triple_makes (f := id) hsql (fun _ => rfl) fun _ => rfl

theorem triple_queries {sql : Select}
    (hsql : ∀ players, settlementOrder.Allows (· ∈ rows) ((Sql.select sql).tableRows players)) :
    Prog.Triple (scripted client) (Script.Ready rows) (MysqlClient.query client sql)
      fun answer => Script.After rows (.select sql) (answer ≠ []) :=
  triple_makes (f := id) hsql (fun _ => rfl) fun _ => rfl

theorem triple_escapes (value : List Char) : Prog.Triple (scripted client) (Script.Ready rows)
    (MysqlClient.escapeString client value) fun _ => Script.Ready rows :=
  triple_underLock (.bind triple_hasConnection_ready fun _ =>
    .ite (fun _ => .pure fun _ h => h.1) fun _ => .pure fun _ h => h.1)

/-! ## The transaction of a settlement -/

/-- The battle's row is locked, and no player above `m`. -/
structure Below (b : BattleId) (m : PlayerId) (rows : List TableRow) : Prop where
  battle : .battle b ∈ rows
  rank : ∀ r ∈ rows, settlementOrder.rank r ≤ m
  nonneg : 0 ≤ m

/-- A row of the battle is locked. -/
theorem Below.guarded {b : BattleId} {m : PlayerId} {r : TableRow} (h : Below b m rows)
    (hguard : settlementOrder.guard r = some (.battle b)) (hrank : settlementOrder.rank r = 0) :
    settlementOrder.Allows (· ∈ rows) [r] ∧ Below b m (rows ++ [r]) := by
  refine ⟨Or.inl fun r' hr' => ?_, List.mem_append_left _ h.battle, fun r' hr' => ?_, h.nonneg⟩
  · rw [List.mem_singleton.mp hr']
    exact ⟨.battle b, hguard, h.battle⟩
  · rcases List.mem_append.mp hr' with hr' | hr'
    · exact h.rank r' hr'
    · rw [List.mem_singleton.mp hr', hrank]
      exact h.nonneg

/-- The next player is locked. -/
theorem Below.player {b : BattleId} {m p : PlayerId} (h : Below b m rows) (hp : m < p) :
    settlementOrder.Allows (· ∈ rows) [.player p] ∧ Below b p (rows ++ [.player p]) := by
  refine ⟨Or.inr ⟨.player p, rfl, fun g hg => (by cases hg), fun r hr => Or.inr ?_⟩,
    List.mem_append_left _ h.battle, fun r hr => ?_, h.nonneg.trans hp.le⟩
  · show settlementOrder.rank r < p
    exact (h.rank r hr).trans_lt hp
  · rcases List.mem_append.mp hr with hr | hr
    · exact (h.rank r hr).trans hp.le
    · rw [List.mem_singleton.mp hr]
      exact le_refl p

/-- After a step of the loop, which goes on when it returns true. -/
def Script.Went (b : BattleId) (m : PlayerId) (ok : Bool) (g : Script) : Prop :=
  g.inTransaction = true ∧ (ok = true → ∃ rows, Below b m rows ∧ g.Ready rows)

/-- A function of the loop that has locked the row `r`. -/
theorem Script.After.went {b : BattleId} {m : PlayerId} {sql : Sql} {r : TableRow} {done : Prop}
    {ok : Bool} {g : Script} (h : g.After rows sql done)
    (hrows : ∀ players, sql.tableRows players = [r]) (hbelow : Below b m (rows ++ [r]))
    (hok : ok = true → done) : g.Went b m ok := by
  refine ⟨h.1, fun heq => ?_⟩
  obtain ⟨players, hready⟩ := h.2 (hok heq)
  rw [hrows] at hready
  exact ⟨_, hbelow, hready⟩

variable {b : BattleId} {m : PlayerId}

theorem triple_insertsResult {x : BattlePlayerResult} (hb : x.battleId = b)
    (h : Below b m rows) : Prog.Triple (scripted client) (Script.Ready rows)
      (insertBattlePlayerResult ⟨some client⟩ x) (Script.Went b m) := by
  obtain ⟨hallows, hbelow⟩ := h.guarded (r := .result b x.playerId) rfl rfl
  refine .bind (triple_escapes _) fun escaped => ?_
  subst hb
  exact .bind (triple_executesAffected fun _ => hallows) fun affected => .pure fun g hg =>
    hg.went (fun _ => rfl) hbelow fun hpos heq => by
      rw [heq] at hpos
      exact absurd hpos (by decide)

theorem triple_insertsLog {x : SettlementLog} (hb : x.battleId = b) (h : Below b m rows) :
    Prog.Triple (scripted client) (Script.Ready rows) (insertSettlementLog ⟨some client⟩ x)
      (Script.Went b m) := by
  obtain ⟨hallows, hbelow⟩ := h.guarded (r := .log b x.playerId) rfl rfl
  subst hb
  exact .bind (triple_executesAffected fun _ => hallows) fun affected => .pure fun g hg =>
    hg.went (fun _ => rfl) hbelow fun hpos heq => by
      rw [heq] at hpos
      exact absurd hpos (by decide)

theorem triple_updatesScore {p : PlayerId} (hp : m < p) (h : Below b m rows) (scoreDelta : Int) :
    Prog.Triple (scripted client) (Script.Ready rows)
      (PlayerRepository.updatePlayerScore ⟨some client⟩ p scoreDelta) (Script.Went b p) := by
  obtain ⟨hallows, hbelow⟩ := h.player hp
  exact (triple_executes fun _ => hallows).mono (fun _ h => h) fun ok g hg =>
    hg.went (fun _ => rfl) hbelow fun hok heq => by
      rw [hok] at heq
      cases heq

/-- A step of the loop, and what comes after it. -/
theorem triple_goesOn {p q : StorageM Bool} {B : Bool → Script → Prop}
    (hB : ∀ g, g.inTransaction = true → B false g)
    (hp : Prog.Triple (scripted client) A p (Script.Went b m))
    (hq : ∀ rows, Below b m rows → Prog.Triple (scripted client) (Script.Ready rows) q B) :
    Prog.Triple (scripted client) A (do
      if !(← p) then
        return false
      q) B := by
  refine .bind hp fun ok => .ite (fun _ => ?_) fun hok g hg => ?_
  · exact .pure fun g hg => hB g hg.1
  · obtain ⟨rows, hbelow, hready⟩ := hg.2 (by simpa using hok)
    exact hq rows hbelow g hready

/-- After the loop. -/
def Script.Saved (b : BattleId) (ok : Bool) (g : Script) : Prop :=
  g.inTransaction = true ∧ (ok = true → ∃ rows, .battle b ∈ rows ∧ g.Ready rows)

/-- **The results are saved in the order of the players.** -/
theorem triple_savesResults (battle : Battle) : ∀ (results : List BattlePlayerResult)
    {m : PlayerId} {rows : List TableRow}, Below battle.battleId m rows →
    List.IsChain (· < ·) (m :: results.map (·.playerId)) →
    (∀ x ∈ results, x.battleId = battle.battleId) →
    Prog.Triple (scripted client) (Script.Ready rows) (saveResults ⟨some client⟩ battle results)
      (Script.Saved battle.battleId)
  | [], _, rows, h, _, _ => .pure fun _ hg => ⟨hg.1, fun _ => ⟨rows, h.battle, hg⟩⟩
  | x :: results, m, rows, h, hchain, hbattle => by
    obtain ⟨hlt, hrest⟩ := List.isChain_cons_cons.mp hchain
    have hfailed : ∀ g : Script, g.inTransaction = true → g.Saved battle.battleId false :=
      fun g hg => ⟨hg, nofun⟩
    exact triple_goesOn hfailed (triple_insertsResult (hbattle x List.mem_cons_self) h)
      fun rows₁ h₁ => triple_goesOn hfailed (triple_insertsLog rfl h₁)
        fun rows₂ h₂ => triple_goesOn hfailed (triple_updatesScore hlt h₂ x.scoreDelta)
          fun rows₃ h₃ => triple_savesResults battle results h₃ hrest
            fun y hy => hbattle y (List.mem_cons_of_mem _ hy)

theorem below_battle (b : BattleId) : Below b 0 [.battle b] where
  battle := List.mem_singleton_self _
  rank r hr := by
    rw [List.mem_singleton.mp hr]
    exact le_refl (0 : Int)
  nonneg := le_refl 0

/-- The body of the transaction. -/
theorem triple_settles {battle : Battle} {ordered : List BattlePlayerResult}
    (hchecked : checkResults battle ordered = true) :
    Prog.Triple (scripted client) (Script.Ready [])
      (settlement ⟨some client⟩ client battle ordered) fun _ g => g.inTransaction = true := by
  obtain ⟨hchain, hexpected, -⟩ := checkResults_iff.mp hchecked
  have hfirst : ∀ players, settlementOrder.Allows (· ∈ [])
      ((Sql.select (.battleForUpdate battle.battleId)).tableRows players) := fun _ =>
    Or.inr ⟨.battle battle.battleId, rfl, fun _ hg => (Option.some.inj hg).symm,
      fun _ h => absurd h List.not_mem_nil⟩
  refine .bind (triple_queries hfirst) fun found => ?_
  match found with
  | [] => exact .pure fun g h => h.1
  | _ :: _ :: _ => exact .pure fun g h => h.1
  | [row] =>
    intro g h
    -- The row has been found, so it is locked now.
    obtain ⟨players, hready⟩ := h.2 nofun
    refine Prog.Triple.ite (A := Script.Ready [.battle battle.battleId])
      (fun _ => .pure fun g h => h.1) (fun _ => .ite (fun _ => .ite (fun _ => ?_) fun _ => ?_)
        fun _ => ?_) g hready
    · exact .pure fun g h => h.1
    · -- The battle is settled: its results are guarded by its row.
      have hguarded : ∀ players, settlementOrder.Allows (· ∈ [.battle battle.battleId])
          ((Sql.select (.resultsForUpdate battle.battleId)).tableRows players) := by
        intro players
        refine Or.inl fun r hr => ?_
        obtain ⟨p, -, rfl⟩ := List.mem_map.mp hr
        exact ⟨.battle battle.battleId, rfl, List.mem_singleton_self _⟩
      exact .bind (triple_queries hguarded) fun saved => .pure fun g h => h.1
    · refine .bind (triple_savesResults battle ordered (below_battle _) hchain
        fun x hx => (hexpected x hx).1) fun ok => .ite (fun _ => .pure fun g h => h.1)
          fun hok g h => ?_
      obtain ⟨rows, hmem, hready⟩ := h.2 (by simpa using hok)
      have hlocked : ∀ players, settlementOrder.Allows (· ∈ rows)
          ((Sql.dml (.settleBattle battle.battleId battle.winnerId)).tableRows players) :=
        fun _ => Or.inl fun r hr => by
          rw [List.mem_singleton.mp hr]
          exact ⟨.battle battle.battleId, rfl, hmem⟩
      have hsettle : Prog.Triple (scripted client) (Script.Ready rows) (do
          let affected ← MysqlClient.executeAffected client
            (.settleBattle battle.battleId battle.winnerId)
          return decide (affected = 1)) fun _ g => g.inTransaction = true :=
        .bind (triple_executesAffected hlocked) fun affected => .pure fun g h => h.1
      exact hsettle g hready

/-! ## The whole call -/

/-- `COMMIT` or rollback; what fails is followed by `Disconnect`. -/
theorem triple_ends (result : Except Unit Bool) : Prog.Triple (scripted client)
    (fun g => g.inTransaction = true) (MysqlClient.endTransaction client result)
    fun _ => Script.Outside := by
  -- Whatever has happened, the call ends outside of the transaction.
  have hleave : ∀ a : Except Unit Bool, Prog.Triple (scripted client)
      (fun g => g.phase = .idle) (do
        ask (.setInTransaction client false)
        return a) fun _ => Script.Outside := by
    refine fun a => .bind (triple_setsInTransaction false) fun _ => .pure ?_
    rintro g' ⟨g, hidle, rfl⟩
    exact ⟨rfl, hidle⟩
  have hdisconnect : Prog.Triple (scripted client) (fun g => g.inTransaction = true)
      (MysqlClient.disconnect client) fun _ g => g.phase = .idle :=
    (triple_disconnects fun _ h => h).mono (fun _ h => h) fun _ _ h => h.2.2
  have hconnected : Prog.Triple (scripted client) (fun g => g.inTransaction = true)
      (ask (.isConnected client))
      fun r g => g.inTransaction = true ∧ (r = false → g.phase = .idle) := by
    refine triple_asksConnected.mono (fun _ h => h) ?_
    rintro r g' ⟨g, hA, -, rfl⟩
    cases r with
    | true => exact ⟨hA, nofun⟩
    | false => exact ⟨hA, fun _ => rfl⟩
  have hrollback : Prog.Triple (scripted client) (fun g => g.inTransaction = true)
      (MysqlClient.rollback client) fun _ g => g.phase = .idle := by
    refine .bind (triple_asks (B := fun r g => g.inTransaction = true ∧
      (r = true → g.phase = .idle)) ?_) fun r => .ite (fun _ => ?_) fun hr => ?_
    · rintro g r g' hA rfl
      exact ⟨rfl, hA, fun hr => by rw [hr]; rfl⟩
    · exact hdisconnect.mono (fun g h => h.1) fun _ _ h => h
    · exact .pure fun g h => h.2 (by simpa using hr)
  have hcommit : Prog.Triple (scripted client) (fun g => g.inTransaction = true)
      (ask (.mysqlCommit client))
      fun r g => g.inTransaction = true ∧ (r = true → g.phase = .idle) := by
    refine triple_asks ?_
    rintro g r g' hA rfl
    exact ⟨rfl, hA, fun hr => by rw [hr]; rfl⟩
  unfold MysqlClient.endTransaction
  cases result with
  | error e =>
    refine .bind hconnected fun r => ?_
    cases r with
    | true =>
      exact .bind (hrollback.mono (fun g h => h.1) fun _ _ h => h) fun _ => hleave _
    | false =>
      exact (hleave (.error e)).mono (fun g h => h.2 rfl) fun _ _ h => h
  | ok success =>
    refine .bind hconnected fun r => .ite (fun hr => ?_) fun _ => .ite (fun _ => ?_) fun _ => ?_
    · exact (hleave _).mono (fun g h => h.2 (by simpa using hr)) fun _ _ h => h
    · exact .bind (hrollback.mono (fun g h => h.1) fun _ _ h => h) fun _ => hleave _
    · refine .bind (hcommit.mono (fun g h => h.1) fun _ _ h => h) fun r =>
        .ite (fun _ => ?_) fun hr => ?_
      · exact .bind (hdisconnect.mono (fun g h => h.1) fun _ _ h => h) fun _ => hleave _
      · exact (hleave _).mono (fun g h => h.2 (by simpa using hr)) fun _ _ h => h

/-- A transaction with a body that stays in it. -/
theorem triple_runsTransaction {body : StorageM (Except Unit Bool)}
    (hbody : Prog.Triple (scripted client) (Script.Ready []) body
      fun _ g => g.inTransaction = true) :
    Prog.Triple (scripted client) Script.Outside (MysqlClient.runTransaction client (some body))
      fun _ => Script.Outside := by
  refine triple_underLock (.bind (triple_asksInTransaction fun g h => h.1) fun r =>
    .ite (fun _ => .pure fun g h => h.1) fun _ => ?_)
  refine .bind (triple_hasConnection_outside.mono (fun g h => h.1) fun _ _ h => h) fun connected =>
    .ite (fun _ => .pure fun g h => h) fun _ => ?_
  have hstart : Prog.Triple (scripted client) Script.Outside (ask (.startTransaction client))
      fun ok g => g.inTransaction = false ∧ (ok = true → g.phase = .made []) := by
    refine triple_asks ?_
    rintro g ok g' ⟨hin, hidle⟩ rfl
    exact ⟨⟨rfl, hidle⟩, hin, fun hok => by rw [hok]; rfl⟩
  refine .bind hstart fun ok => .ite (fun _ => ?_) fun hok => ?_
  · exact .bind (triple_disconnects fun g h => h.1) fun _ => .pure fun g h => ⟨h.1, h.2.2⟩
  · refine .bind (triple_setsInTransaction true) fun _ g' h => ?_
    obtain ⟨g, ⟨-, hmade⟩, rfl⟩ := h
    exact (hbody.bind fun result => triple_ends result) _
      ⟨rfl, fun _ => hmade (by simpa using hok)⟩

/-- **The order of a settlement.** -/
theorem triple_appliesSettlement (battle : Battle) (results : List BattlePlayerResult) :
    Prog.Triple (scripted client) Script.Outside
      (applySettlement ⟨some client⟩ battle results) fun _ => Script.Outside := by
  unfold applySettlement
  refine .ite (fun _ => .pure fun _ h => h) fun _ => .ite (fun _ => .pure fun _ h => h)
    fun hchecked => ?_
  have hchecked' := Bool.eq_true_of_not_eq_false hchecked
  refine .bind (triple_runsTransaction (.bind (triple_settles hchecked') fun _ =>
    .pure fun _ h => h)) fun result => ?_
  cases result with
  | ok result => exact .pure fun _ h => h
  | error e => exact .pure fun _ h => h

theorem triple_settleAll (client : ClientId) :
    ∀ calls : List (Battle × List BattlePlayerResult),
    Prog.Triple (scripted client) Script.Outside (RowLocks.settleAll client calls)
      fun _ => Script.Outside
  | [] => .pure fun _ h => h
  | (battle, results) :: calls =>
    .bind (triple_appliesSettlement battle results) fun _ => triple_settleAll client calls

end Game
