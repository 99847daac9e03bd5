import GameServer.Storage.Callback
import GameServer.Storage.Lawful

/-!
# What the threads owe to each other

What is true of the storage between any two requests (`Storage.Lawful`), what a request has to meet
for that (`StorageRequest.Duty`), and what a thread can count on meanwhile (`Storage.Onward`).

With a settlement service `σ` whose calls bring `rank:score` up to date, a score in there is the one
in the database, or some call for a battle of the player is still to come (`Storage.Ranked`).
-/

namespace Game

open Infra

namespace Storage

variable {ι : Type} (w : Storage ι)

/-- A call for the battle has returned true when it was settled. -/
def Answered (battleId : BattleId) : Prop :=
  ∃ a ∈ w.answers, a.battleId = battleId ∧ a.result = true ∧ a.committed = true

/-- A settled battle of the player, other than the battles `P`, is still to be answered. -/
def Owed (P : BattleId → Prop) (playerId : PlayerId) : Prop :=
  ∃ b, ¬ P b ∧ w.mysql.db.Settled b ∧ playerId ∈ w.mysql.db.participants b ∧ ¬ w.Answered b

/-- The score is the one in the database, or a battle other than `P` is still to be answered. -/
def Fresh (P : BattleId → Prop) (playerId : PlayerId) (score : Option Int) : Prop :=
  score = w.mysql.db.score playerId ∨ w.Owed P playerId

/-- The players of the settled battles have fresh scores in `rank:score`. -/
def Ranked : Prop :=
  ∀ b p, w.mysql.db.Settled b → p ∈ w.mysql.db.participants b →
    w.Fresh (fun _ => False) p (w.rank p)

/-- What is true between any two requests. -/
structure Lawful (σ : Option ServiceId) : Prop where
  consistent : w.Consistent
  mysql : w.mysql.Lawful
  atRest : ∀ client, (w.clients client).owner = none → w.AtRest client
  answered : ∀ b, w.Answered b → w.mysql.db.Settled b
  ranked : σ.isSome = true → w.Ranked

/-- What the others leave to the thread `i`, and what the thread does to a client leaves to itself. -/
structure Onward (σ : Option ServiceId) (i : ι) (w w' : Storage ι) : Prop where
  evolves : Evolves w.mysql.db w'.mysql.db
  committed : w.mysql.committed <+: w'.mysql.committed
  services : ∀ s, w'.services s = some i ↔ w.services s = some i
  frozen : ∀ s, σ = some s → w.services s = some i → w'.rank = w.rank ∧ w'.answers = w.answers

end Storage

/-- What the code meets when it makes a request. -/
def StorageRequest.Duty {ι : Type} (σ : Option ServiceId) (i : ι) (w : Storage ι) :
    StorageRequest → Prop
  | lockClient _ | lockService _ => True
  | isConnected a | isInTransaction a | setInTransaction a _ | mysqlConnect a | mysqlClose a
  | mysqlInsertId a | mysqlRollback a => (w.clients a).owner = some i
  | unlockClient a =>
    (w.clients a).owner = some i ∧ ((w.clients a).depth ≤ 1 → w.AtRest a)
  | startTransaction a => (w.clients a).owner = some i ∧
    ∀ c, (w.clients a).conn = some c → w.mysql.isOpen c = false
  | mysqlQuery a sql => (w.clients a).owner = some i ∧ ∀ c, (w.clients a).conn = some c →
    w.mysql.isLinked c = true → w.mysql.isOpen c = true ∨ sql.Autocommit
  | mysqlCommit a => (w.clients a).owner = some i ∧ ∀ c, (w.clients a).conn = some c →
    w.mysql.isLinked c = true → w.mysql.isOpen c = true → Committable (w.mysql.txn c)
  | zadd playerId score => ∀ s, σ = some s →
    w.services s = some i ∧ w.Fresh (fun _ => False) playerId (some score)
  | unlockService s battleId result => w.services s = some i ∧
    ∀ s', σ = some s' → s = s' ∧ (result = true → ∀ p ∈ w.mysql.db.participants battleId,
      w.Fresh (· = battleId) p (w.rank p))

theorem StorageRequest.Duty.allowed {ι : Type} {σ : Option ServiceId} {i : ι} {w : Storage ι}
    {q : StorageRequest} (h : q.Duty σ i w) : q.Allowed i w := by
  cases q with
  | lockClient | lockService | zadd => trivial
  | isConnected | isInTransaction | setInTransaction | mysqlConnect | mysqlClose | mysqlInsertId
  | mysqlRollback => exact h
  | unlockClient | startTransaction | mysqlQuery | mysqlCommit | unlockService => exact h.1

namespace Storage

variable {ι : Type} {w w' w'' : Storage ι} {σ : Option ServiceId} {i j : ι} {q : StorageRequest}
  {x : Outcome} {r : q.Reply} {P : BattleId → Prop}

theorem isSettled_iff {b : BattleId} : w.isSettled b = true ↔ w.mysql.db.Settled b := by
  unfold isSettled Db.Settled
  split
  · next h => simp [h]
  · next row h => simp [h]

theorem Onward.refl (w : Storage ι) : Onward σ i w w :=
  ⟨.refl _, List.prefix_rfl, fun _ => Iff.rfl, fun _ _ _ => ⟨rfl, rfl⟩⟩

theorem Onward.trans (h : Onward σ i w w') (h' : Onward σ i w' w'') : Onward σ i w w'' where
  evolves := h.evolves.trans h'.evolves
  committed := h.committed.trans h'.committed
  services s := (h'.services s).trans (h.services s)
  frozen s hs hi := by
    obtain ⟨hrank, hanswers⟩ := h.frozen s hs hi
    obtain ⟨hrank', hanswers'⟩ := h'.frozen s hs ((h.services s).mpr hi)
    exact ⟨hrank'.trans hrank, hanswers'.trans hanswers⟩

theorem answered_congr {b : BattleId} (h : w'.answers = w.answers) :
    w'.Answered b ↔ w.Answered b := by
  unfold Answered
  rw [h]

/-! ## Fresh scores -/

theorem Fresh.mono {P' : BattleId → Prop} {p : PlayerId} {score : Option Int}
    (h : w.Fresh P p score) (hP : ∀ b, P' b → P b) : w.Fresh P' p score :=
  h.imp_right fun ⟨b, hb, h⟩ => ⟨b, fun hb' => hb (hP b hb'), h⟩

/-- **A fresh score stays fresh** while nothing is answered: when the score in the database changes,
a battle has been settled that has no answer yet. -/
theorem Fresh.evolves (hw : w.Lawful σ) {p : PlayerId} {score : Option Int} {b : BattleId}
    (hb : w.mysql.db.Settled b) (hp : p ∈ w.mysql.db.participants b)
    (hP : ∀ b, P b → w.mysql.db.Settled b) (hevolves : Evolves w.mysql.db w'.mysql.db)
    (hanswers : w'.answers = w.answers) (h : w.Fresh P p score) : w'.Fresh P p score := by
  rcases h with heq | ⟨b', hb', hsettled, hp', hopen⟩
  · rcases hevolves.score p b hb hp with hsame | ⟨b', hnew, hsettled', hp'⟩
    · exact Or.inl (heq.trans hsame.symm)
    · refine Or.inr ⟨b', fun h => hnew (hP b' h), hsettled', hp', fun h => hnew ?_⟩
      exact hw.answered b' ((answered_congr hanswers).mp h)
  · exact Or.inr ⟨b', hb', hevolves.isSettled hsettled, hevolves.participants hsettled ▸ hp',
      fun h => hopen ((answered_congr hanswers).mp h)⟩

theorem Lawful.ranked_of_evolves (hw : w.Lawful σ) (hσ : σ.isSome = true)
    (hevolves : Evolves w.mysql.db w'.mysql.db) (hrank : w'.rank = w.rank)
    (hanswers : w'.answers = w.answers) : w'.Ranked := by
  intro b p hb hp
  by_cases hold : w.mysql.db.Settled b
  · rw [hevolves.participants hold] at hp
    rw [hrank]
    exact (hw.ranked hσ b p hold hp).evolves hw hold hp (fun _ => False.elim) hevolves hanswers
  · exact Or.inr ⟨b, id, hb, hp, fun h => hold (hw.answered b ((answered_congr hanswers).mp h))⟩

/-- The answer to a call for `b`. -/
theorem Ranked.answer (h : w.Ranked) {b : BattleId} {result : Bool}
    (hresult : result = true → ∀ p ∈ w.mysql.db.participants b, w.Fresh (· = b) p (w.rank p))
    (hdb : w'.mysql = w.mysql) (hrank : w'.rank = w.rank)
    (hanswers : w'.answers = w.answers ++ [⟨b, result, w.isSettled b⟩]) : w'.Ranked := by
  have hanswered : ∀ b', w'.Answered b' → w.Answered b' ∨ b' = b ∧ result = true := by
    rintro b' ⟨a, ha, rfl, hresult, hcommitted⟩
    rw [hanswers] at ha
    rcases List.mem_append.mp ha with ha | ha
    · exact Or.inl ⟨a, ha, rfl, hresult, hcommitted⟩
    · cases List.mem_singleton.mp ha
      exact Or.inr ⟨rfl, hresult⟩
  intro b₁ p hb₁ hp
  rw [hdb] at hb₁ hp
  unfold Fresh Owed
  rw [hrank, hdb]
  rcases h b₁ p hb₁ hp with heq | ⟨b₂, -, hb₂, hp₂, hopen⟩
  · exact Or.inl heq
  · by_cases hb : b₂ = b ∧ result = true
    · obtain ⟨rfl, hresult'⟩ := hb
      -- The battle that was waited for is answered, and so its players have been looked after.
      refine (hresult hresult' p hp₂).imp_right ?_
      rintro ⟨b₃, hne, hb₃, hp₃, hopen₃⟩
      exact ⟨b₃, id, hb₃, hp₃, fun h => (hanswered b₃ h).elim hopen₃ fun h => hne h.1⟩
    · exact Or.inr ⟨b₂, id, hb₂, hp₂, fun h => (hanswered b₂ h).elim hopen hb⟩

/-! ## Requests -/

variable [DecidableEq ι]

/-- Requests to a client have nothing to do with the services. -/
theorem exec_shared (h : exec i q x w = some (w', r)) (hq : q.client.isSome = true) :
    w'.services = w.services ∧ w'.rank = w.rank ∧ w'.answers = w.answers := by
  have honConn : ∀ {α : Type} {a : ClientId} {missing r : α} {f : Conn → Option (Mysql × α)},
      w.onConn a missing f = some (w', r) →
        w'.services = w.services ∧ w'.rank = w.rank ∧ w'.answers = w.answers := by
    intro α a missing r f h
    rcases onConn_cases h with ⟨-, rfl, -⟩ | ⟨c, m, -, -, rfl⟩ <;> exact ⟨rfl, rfl, rfl⟩
  cases q with
  | lockClient a =>
    change w.lock i a = some (w', r) at h
    unfold lock at h
    dsimp only at h
    split at h
    · cases h
      exact ⟨rfl, rfl, rfl⟩
    · split at h
      · cases h
        exact ⟨rfl, rfl, rfl⟩
      · cases h
  | unlockClient | setInTransaction | mysqlConnect | isConnected | isInTransaction =>
    cases h
    exact ⟨rfl, rfl, rfl⟩
  | lockService | unlockService | zadd => cases hq
  | mysqlClose a =>
    unfold exec at h
    dsimp only at h
    split at h
    · cases h
      exact ⟨rfl, rfl, rfl⟩
    · cases h
      exact ⟨rfl, rfl, rfl⟩
  | mysqlInsertId a | mysqlQuery a sql | startTransaction a | mysqlCommit a | mysqlRollback a =>
    exact honConn h

/-- The owner of a mutex changes when it is locked, or unlocked for the last time. -/
theorem exec_owner (h : exec i q x w = some (w', r)) (a : ClientId) :
    (w'.clients a).owner = (w.clients a).owner ∨
      (w.clients a).owner = none ∧ (w'.clients a).owner = some i ∨
      q = .unlockClient a ∧ (w.clients a).depth ≤ 1 ∧ w' = w.unlock a := by
  by_cases hq : q.client = some a
  case neg => exact Or.inl (congrArg MysqlClient.owner (exec_clients h hq))
  have hset : ∀ {u : Storage ι} {c : MysqlClient ι}, c.owner = (w.clients a).owner →
      ((u.setClient a c).clients a).owner = (w.clients a).owner := by
    intro u c hc
    rw [setClient_clients_self, hc]
  have honConn : ∀ {α : Type} {missing r : α} {f : Conn → Option (Mysql × α)},
      w.onConn a missing f = some (w', r) → (w'.clients a).owner = (w.clients a).owner := by
    intro α missing r f h
    rcases onConn_cases h with ⟨-, rfl, -⟩ | ⟨c, m, -, -, rfl⟩ <;> rfl
  cases q with
  | lockService | unlockService | zadd => cases hq
  | lockClient b =>
    obtain rfl := Option.some.inj hq
    change w.lock i b = some (w', r) at h
    unfold lock at h
    dsimp only at h
    split at h
    · next hnone =>
      cases h
      exact Or.inr (Or.inl ⟨hnone, congrArg MysqlClient.owner (setClient_clients_self ..)⟩)
    · next j hj =>
      split at h
      · cases h
        exact Or.inl (hset rfl)
      · cases h
  | unlockClient b =>
    obtain rfl := Option.some.inj hq
    cases h
    by_cases hdepth : (w.clients b).depth ≤ 1
    · exact Or.inr (Or.inr ⟨rfl, hdepth, rfl⟩)
    · exact Or.inl (hset (if_neg hdepth))
  | setInTransaction | mysqlConnect =>
    obtain rfl := Option.some.inj hq
    cases h
    exact Or.inl (hset rfl)
  | isConnected | isInTransaction =>
    cases h
    exact Or.inl rfl
  | mysqlClose b =>
    obtain rfl := Option.some.inj hq
    unfold exec at h
    dsimp only at h
    split at h
    · cases h
      exact Or.inl rfl
    · cases h
      exact Or.inl (hset rfl)
  | mysqlInsertId b | mysqlQuery b sql | startTransaction b | mysqlCommit b | mysqlRollback b =>
    obtain rfl := Option.some.inj hq
    exact Or.inl (honConn h)

/-! ## What the requests keep -/

omit [DecidableEq ι] in
theorem lawful_onConn {α : Type} {a : ClientId} {missing r : α}
    {f : Conn → Option (Mysql × α)} (hm : w.mysql.Lawful)
    (hf : ∀ c m, (w.clients a).conn = some c → f c = some (m, r) →
      ∃ logs, Mysql.LawfulStep c w.mysql m logs)
    (h : w.onConn a missing f = some (w', r)) : w'.mysql.Lawful := by
  rcases onConn_cases h with ⟨-, rfl, -⟩ | ⟨c, m, hc, heq, rfl⟩
  · exact hm
  · obtain ⟨logs, hstep⟩ := hf c m hc heq
    exact hm.step hstep

theorem Lawful.mysql_exec (hw : w.Lawful σ) (hq : q.Duty σ i w)
    (h : exec i q x w = some (w', r)) : w'.mysql.Lawful := by
  have hm := hw.consistent.mysql
  have hsafe := hw.mysql.safe
  cases q with
  | lockClient a =>
    change w.lock i a = some (w', r) at h
    unfold lock at h
    dsimp only at h
    split at h
    · cases h
      exact hw.mysql
    · split at h
      · cases h
        exact hw.mysql
      · cases h
  | unlockClient | setInTransaction | isConnected | isInTransaction | unlockService =>
    cases h
    exact hw.mysql
  | lockService s =>
    unfold exec at h
    dsimp only at h
    split at h
    · cases h
      exact hw.mysql
    · cases h
  | zadd =>
    cases x <;>
    · cases h
      exact hw.mysql
  | mysqlConnect a =>
    cases h
    exact hw.mysql.connect hm x
  | mysqlClose a =>
    unfold exec at h
    dsimp only at h
    split at h
    · cases h
      exact hw.mysql
    · next c hc =>
      cases h
      exact hw.mysql.step (.cut hm (hsafe c))
  | mysqlInsertId a =>
    refine lawful_onConn hw.mysql (fun c m _ heq => ?_) h
    cases heq
    exact ⟨_, (Mysql.Advance.refl hm c).lawfulStep (hsafe c)⟩
  | mysqlQuery a sql =>
    exact lawful_onConn hw.mysql (fun c m hc heq =>
      (Mysql.query_cases heq).lawful hm (hsafe c) (hq.2 c hc)) h
  | startTransaction a =>
    refine lawful_onConn hw.mysql (fun c m hc heq => ?_) h
    refine (Mysql.request_cases (Option.some.inj heq)).lawful hm (hsafe c)
      (fun hlinked => ⟨⟨_, hm.start hlinked, Mysql.lawful_commitOpen fun hopen => ?_⟩, rfl⟩)
      fun _ => Or.inl rfl
    rw [hq.2 c hc] at hopen
    cases hopen
  | mysqlCommit a =>
    refine lawful_onConn hw.mysql (fun c m hc heq => ?_) h
    refine (Mysql.request_cases (Option.some.inj heq)).lawful hm (hsafe c)
      (fun hlinked => ⟨⟨_, hm.commitOpen c, Mysql.lawful_commitOpen (hq.2 c hc hlinked)⟩, rfl⟩)
      fun hlinked => Or.inr ⟨rfl, hq.2 c hc hlinked⟩
  | mysqlRollback a =>
    refine lawful_onConn hw.mysql (fun c m hc heq => ?_) h
    exact (Mysql.request_cases (Option.some.inj heq)).lawful hm (hsafe c)
      (fun _ => ⟨⟨_, hm.finish c, fun _ hlog => absurd hlog List.not_mem_nil⟩, rfl⟩)
      fun _ => Or.inl rfl

omit [DecidableEq ι] in
/-- A client that has been at rest and that nobody has used since. -/
theorem AtRest.of_kept (hw : w.Consistent) {a : ClientId} (h : w.AtRest a)
    (hclient : w'.clients a = w.clients a)
    (hkept : ∀ c, w.Private a c → Mysql.Aside c w.mysql w'.mysql) : w'.AtRest a := by
  unfold AtRest
  rw [hclient]
  refine ⟨h.1, fun c hc => ?_⟩
  obtain ⟨hopen, hidle⟩ := h.2 c hc
  have haside := hkept c (hw.privateConn hc)
  exact ⟨haside.closed hopen, haside.idle hidle⟩

omit [DecidableEq ι] in
theorem owner_unlock {a : ClientId} (h : (w.clients a).depth ≤ 1) :
    ((w.unlock a).clients a).owner = none :=
  (congrArg MysqlClient.owner (setClient_clients_self ..)).trans (if_pos h)

omit [DecidableEq ι] in
theorem AtRest.unlock {a : ClientId} (h : w.AtRest a) : (w.unlock a).AtRest a := by
  obtain ⟨hin, hconn⟩ := h
  unfold Storage.unlock AtRest
  dsimp only
  rw [setClient_clients_self]
  exact ⟨hin, hconn⟩

/-- Who unlocks the mutex for the last time has to leave the client at rest. -/
theorem atRest_exec (hw : w.Consistent) {a : ClientId}
    (hrest : (w.clients a).owner = none → w.AtRest a) (hq : q.Allowed i w)
    (hlast : q = .unlockClient a → (w.clients a).depth ≤ 1 → w.AtRest a)
    (h : exec i q x w = some (w', r)) (hnone : (w'.clients a).owner = none) : w'.AtRest a := by
  by_cases hclient : q.client = some a
  · -- Only the last unlocking leaves the mutex free.
    have hmine : ∀ {o : Option ι}, o = some i → (w'.clients a).owner = o → False := by
      rintro o rfl ho
      rw [hnone] at ho
      cases ho
    rcases exec_owner h a with hsame | ⟨-, hlocked⟩ | ⟨rfl, hdepth, rfl⟩
    · cases q with
      | lockClient b =>
        obtain rfl := Option.some.inj hclient
        change w.lock i b = some (w', r) at h
        unfold lock at h
        dsimp only at h
        rw [← hsame, hnone] at h
        cases h
        rw [setClient_clients_self] at hnone
        cases hnone
      | lockService | unlockService | zadd => cases hclient
      | _ =>
        obtain rfl := Option.some.inj hclient
        exact (hmine hq hsame).elim
    · exact (hmine rfl hlocked).elim
    · exact (hlast rfl hdepth).unlock
  · have hsame := exec_clients h hclient
    rw [hsame] at hnone
    refine (hrest hnone).of_kept hw hsame fun c hc => ?_
    exact .kept ((exec_effect hw h).kept hw hclient hc).1

theorem Lawful.atRest_exec (hw : w.Lawful σ) (hq : q.Duty σ i w)
    (h : exec i q x w = some (w', r)) (a : ClientId) (hnone : (w'.clients a).owner = none) :
    w'.AtRest a := by
  refine Storage.atRest_exec hw.consistent (hw.atRest a) hq.allowed (fun heq hdepth => ?_) h hnone
  subst heq
  exact hq.2 hdepth

/-- The others neither lock a mutex for the thread nor unlock what it has locked. -/
theorem owner_exec (hij : j ≠ i) (hq : q.Allowed j w) (h : Storage.exec j q x w = some (w', r))
    (a : ClientId) : (w'.clients a).owner = some i ↔ (w.clients a).owner = some i := by
  have hne : some j ≠ some i := fun heq => hij (Option.some.inj heq)
  rcases exec_owner h a with hsame | ⟨hnone, hlocked⟩ | ⟨rfl, hdepth, rfl⟩
  · rw [hsame]
  · rw [hnone, hlocked]
    exact iff_of_false hne nofun
  · have howner : (w.clients a).owner = some j := hq
    unfold unlock
    dsimp only
    rw [setClient_clients_self, howner]
    exact iff_of_false (by rw [if_pos hdepth]; exact nofun) hne

theorem Lawful.evolves_exec (hw : w.Lawful σ) (hq : q.Duty σ i w)
    (h : exec i q x w = some (w', r)) : Evolves w.mysql.db w'.mysql.db := by
  have heffect := exec_effect hw.consistent h
  exact hw.mysql.evolves hw.consistent.mysql (hw.mysql_exec hq h)
    (heffect.consistent hw.consistent).1.mysql (heffect.committed hw.consistent)

omit [DecidableEq ι] in
/-- Nothing is answered, and no score is written. -/
theorem Lawful.quiet (hw : w.Lawful σ) (hconsistent : w'.Consistent) (hmysql : w'.mysql.Lawful)
    (hrest : ∀ a, (w'.clients a).owner = none → w'.AtRest a)
    (hevolves : Evolves w.mysql.db w'.mysql.db) (hrank : w'.rank = w.rank)
    (hanswers : w'.answers = w.answers) : w'.Lawful σ where
  consistent := hconsistent
  mysql := hmysql
  atRest := hrest
  answered b hb := hevolves.isSettled (hw.answered b ((answered_congr hanswers).mp hb))
  ranked hσ := hw.ranked_of_evolves hσ hevolves hrank hanswers

/-- **Requests keep the storage lawful.** -/
theorem Lawful.exec (hw : w.Lawful σ) (hq : q.Duty σ i w) (h : Storage.exec i q x w = some (w', r)) :
    w'.Lawful σ := by
  have hconsistent := ((exec_effect hw.consistent h).consistent hw.consistent).1
  have hmysql := hw.mysql_exec hq h
  have hrest := hw.atRest_exec hq h
  have hevolves := hw.evolves_exec hq h
  by_cases hclient : q.client.isSome = true
  · obtain ⟨-, hrank, hanswers⟩ := exec_shared h hclient
    exact hw.quiet hconsistent hmysql hrest hevolves hrank hanswers
  · cases q with
    | lockService s =>
      have hsame : w'.rank = w.rank ∧ w'.answers = w.answers := by
        unfold Storage.exec at h
        dsimp only at h
        split at h
        · cases h
          exact ⟨rfl, rfl⟩
        · cases h
      exact hw.quiet hconsistent hmysql hrest hevolves hsame.1 hsame.2
    | unlockService s b result =>
      cases h
      refine ⟨hconsistent, hmysql, hrest, ?_, fun hσ => ?_⟩
      · rintro b' ⟨a, ha, rfl, hresult, hcommitted⟩
        rcases List.mem_append.mp ha with ha | ha
        · exact hw.answered _ ⟨a, ha, rfl, hresult, hcommitted⟩
        · cases List.mem_singleton.mp ha
          exact isSettled_iff.mp hcommitted
      · obtain ⟨s', hs'⟩ := Option.isSome_iff_exists.mp hσ
        exact (hw.ranked hσ).answer (hq.2 s' hs').2 rfl rfl rfl
    | zadd p score =>
      have hsame : w'.mysql = w.mysql ∧ w'.answers = w.answers ∧
          (w'.rank = w.rank ∨ w'.rank = Function.update w.rank p (some score)) := by
        cases x <;>
        · cases h
          exact ⟨rfl, rfl, by first | exact Or.inl rfl | exact Or.inr rfl⟩
      obtain ⟨hm, hanswers, hrank⟩ := hsame
      refine ⟨hconsistent, hmysql, hrest, fun b hb => ?_, fun hσ b p' hb hp' => ?_⟩
      · exact hevolves.isSettled (hw.answered b ((answered_congr hanswers).mp hb))
      · have hfresh : w.Fresh (fun _ => False) p' (w'.rank p') := by
          rw [hm] at hb hp'
          obtain ⟨s, hs⟩ := Option.isSome_iff_exists.mp hσ
          rcases hrank with hrank | hrank
          · rw [hrank]
            exact hw.ranked hσ b p' hb hp'
          · by_cases heq : p' = p
            · subst heq
              rw [hrank, Function.update_self]
              exact (hq s hs).2
            · rw [hrank, Function.update_of_ne heq]
              exact hw.ranked hσ b p' hb hp'
        rw [hm] at hb hp'
        exact hfresh.evolves hw hb hp' (fun _ => False.elim) hevolves hanswers
    | _ => exact absurd rfl hclient

/-- What a request of another thread leaves alone. -/
theorem Lawful.onward_exec (hw : w.Lawful σ) (hij : j ≠ i) (hq : q.Duty σ j w)
    (h : Storage.exec j q x w = some (w', r)) :
    Onward σ i w w' ∧ ∀ a, (w'.clients a).owner = some i ↔ (w.clients a).owner = some i := by
  have hne : some j ≠ some i := fun heq => hij (Option.some.inj heq)
  have hservices : (∀ s, w'.services s = some i ↔ w.services s = some i) ∧
      ∀ s, σ = some s → w.services s = some i → w'.rank = w.rank ∧ w'.answers = w.answers := by
    by_cases hclient : q.client.isSome = true
    · obtain ⟨hservices, hsame⟩ := exec_shared h hclient
      exact ⟨fun s => by rw [hservices], fun _ _ _ => hsame⟩
    · cases q with
      | lockService s =>
        unfold Storage.exec at h
        dsimp only at h
        split at h
        · next hfree =>
          cases h
          refine ⟨fun s' => ?_, fun _ _ _ => ⟨rfl, rfl⟩⟩
          by_cases hs : s' = s
          · subst hs
            dsimp only
            rw [Function.update_self, hfree]
            exact iff_of_false hne nofun
          · dsimp only
            rw [Function.update_of_ne hs]
        · cases h
      | unlockService s b result =>
        cases h
        have hs : w.services s = some j := hq.1
        refine ⟨fun s' => ?_, fun s' hs' hi => ?_⟩
        · by_cases hss : s' = s
          · subst hss
            dsimp only
            rw [Function.update_self, hs]
            exact iff_of_false nofun hne
          · dsimp only
            rw [Function.update_of_ne hss]
        · obtain rfl := (hq.2 s' hs').1
          exact absurd (hs.symm.trans hi) hne
      | zadd p score =>
        refine ⟨fun s => ?_, fun s hs hi => absurd ((hq s hs).1.symm.trans hi) hne⟩
        cases x <;>
        · cases h
          rfl
      | _ => exact absurd rfl hclient
  exact ⟨⟨hw.evolves_exec hq h, (exec_effect hw.consistent h).committed hw.consistent,
    hservices.1, hservices.2⟩, owner_exec hij hq.allowed h⟩

/-- What a request of the thread to a client leaves alone. -/
theorem Lawful.onward_self (hw : w.Lawful σ) (hq : q.Duty σ i w) (hclient : q.client.isSome = true)
    (h : Storage.exec i q x w = some (w', r)) : Onward σ i w w' := by
  obtain ⟨hservices, hsame⟩ := exec_shared h hclient
  exact ⟨hw.evolves_exec hq h, (exec_effect hw.consistent h).committed hw.consistent,
    fun s => by rw [hservices], fun _ _ _ => hsame⟩

/-! ## What happens on its own -/

omit [DecidableEq ι] in
theorem Lawful.mysql_happen (hw : w.Lawful σ) (e : Happening) : (w.happen e).mysql.Lawful := by
  have hm := hw.consistent.mysql
  cases e with
  | cut c => exact hw.mysql.step (.cut hm (hw.mysql.safe c))
  | drop c => exact hw.mysql.step (.drop hm (hw.mysql.safe c))
  | resolve c =>
    obtain ⟨logs, hstep⟩ := Mysql.LawfulStep.resolve hm (hw.mysql.safe c)
    exact hw.mysql.step hstep

omit [DecidableEq ι] in
/-- **So does what happens on its own.** -/
theorem Lawful.happen (hw : w.Lawful σ) (e : Happening) :
    (w.happen e).Lawful σ ∧ ∀ i, Onward σ i w (w.happen e) := by
  have hm := hw.mysql_happen e
  have hconsistent := hw.consistent.happen e
  obtain ⟨c, logs, hadvance⟩ := advance_happen hw.consistent e
  have hlater : w.mysql.committed <+: (w.happen e).mysql.committed := by
    rw [hadvance.committed]
    exact List.prefix_append ..
  have hevolves := hw.mysql.evolves hw.consistent.mysql hm hconsistent.mysql hlater
  have hshared : (w.happen e).services = w.services ∧ (w.happen e).rank = w.rank ∧
      (w.happen e).answers = w.answers := by
    cases e <;> exact ⟨rfl, rfl, rfl⟩
  obtain ⟨hservices, hrank, hanswers⟩ := hshared
  refine ⟨hw.quiet hconsistent hm (fun a ha => ?_) hevolves hrank hanswers, fun i =>
    ⟨hevolves, hlater, fun s => by rw [hservices], fun _ _ _ => ⟨hrank, hanswers⟩⟩⟩
  rw [happen_clients] at ha
  exact (hw.atRest a ha).of_kept hw.consistent (congrFun (happen_clients w e) a) fun c _ =>
    aside_happen hw.consistent e c

end Storage
end Game
