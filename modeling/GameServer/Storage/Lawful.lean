import GameServer.Storage.Connections
import GameServer.Storage.Settling

/-!
# Servers that the code has used

When statements outside of transactions are those of `Sql.Autocommit` and transactions are committed
as `ApplySettlement` commits them, then the tables are accounted for (`Mysql.Lawful.accounting`),
also when a request is carried out after its connection has been lost.
-/

namespace Game

open Infra

namespace Mysql

/-- Whatever is still under way on the connection may be carried out. -/
structure Safe (m : Mysql) (c : Conn) : Prop where
  commit : m.inflight c = some .commit → m.isOpen c = true → Committable (m.txn c)
  statement : ∀ sql, m.inflight c = some (.statement sql) → m.isOpen c = true ∨ sql.Autocommit

/-- All that has been committed, or may be, is what the code commits. -/
structure Lawful (m : Mysql) : Prop where
  committed : ∀ x ∈ m.committed, Log.Lawful x.2
  safe : ∀ c, m.Safe c

/-- A lawful step of a connection. -/
structure LawfulStep (c : Conn) (m m' : Mysql) (logs : List Log) : Prop where
  advance : Advance c m m' logs
  logs : ∀ log ∈ logs, Log.Lawful log
  safe : m'.Safe c

variable {m m' : Mysql} {c : Conn} {logs : List Log}

theorem lawful_init : Lawful {} where
  committed _ h := absurd h List.not_mem_nil
  safe _ := ⟨fun h => (by cases h), fun _ h => by cases h⟩

theorem safe_of_idle (h : m.inflight c = none) : m.Safe c where
  commit hc := absurd (h.symm.trans hc) nofun
  statement _ hs := absurd (h.symm.trans hs) nofun

theorem Safe.congr (h : m.Safe c) (hinflight : m'.inflight c = m.inflight c)
    (hopen : m'.isOpen c = m.isOpen c) (htxn : m'.txn c = m.txn c) : m'.Safe c where
  commit hc ho := by
    rw [htxn]
    exact h.commit (hinflight.symm.trans hc) (hopen.symm.trans ho)
  statement sql hs := by
    rw [hopen]
    exact h.statement sql (hinflight.symm.trans hs)

theorem Lawful.step (h : m.Lawful) (hstep : LawfulStep c m m' logs) : m'.Lawful where
  committed x hx := by
    rw [hstep.advance.committed] at hx
    rcases List.mem_append.mp hx with hx | hx
    · exact h.committed x hx
    · obtain ⟨log, hlog, rfl⟩ := List.mem_map.mp hx
      exact hstep.logs log hlog
  safe a := by
    by_cases ha : a = c
    · exact ha ▸ hstep.safe
    · have ho := hstep.advance.others
      exact (h.safe a).congr (ho.inflight a ha) (ho.isOpen a ha) (ho.txn a ha)

/-- A step that commits nothing. -/
theorem Advance.lawfulStep (h : Advance c m m' []) (hsafe : m'.Safe c) : LawfulStep c m m' [] :=
  ⟨h, fun _ hlog => absurd hlog List.not_mem_nil, hsafe⟩

theorem lawful_commitOpen (htxn : m.isOpen c = true → Committable (m.txn c)) :
    ∀ log ∈ if m.isOpen c then [m.txn c] else [], Log.Lawful log := by
  intro log hlog
  cases hopen : m.isOpen c with
  | true =>
    rw [if_pos hopen] at hlog
    exact List.mem_singleton.mp hlog ▸ Or.inl (htxn hopen)
  | false =>
    rw [hopen] at hlog
    exact absurd hlog List.not_mem_nil

/-- A statement that has been carried out. -/
theorem Executed.lawful {sql : Sql} {reply : Reply sql} (hm : m.Consistent)
    (hlt : c < m.nextConn) (hsql : m.isOpen c = true ∨ sql.Autocommit)
    (h : Executed m c sql m' reply) :
    ∃ logs, Advance c m m' logs ∧ ∀ log ∈ logs, Log.Lawful log := by
  cases h with
  | failed | read => exact ⟨[], .refl hm c, fun _ hlog => absurd hlog List.not_mem_nil⟩
  | @done locks answer hlocks hfree hrun =>
    refine ⟨_, hm.carryOut hlt hfree hrun, fun log hlog => ?_⟩
    split at hlog
    · exact absurd hlog List.not_mem_nil
    · next hopen =>
      exact Or.inr ⟨_, List.mem_singleton.mp hlog, hsql.resolve_left hopen⟩

theorem Queried.lawful {sql : Sql} {x : Outcome} {reply : Reply sql} (hm : m.Consistent)
    (hsafe : m.Safe c) (hsql : m.isLinked c = true → m.isOpen c = true ∨ sql.Autocommit)
    (h : Queried m c sql x m' reply) : ∃ logs, LawfulStep c m m' logs := by
  cases h with
  | failed => exact ⟨_, (Advance.refl hm c).lawfulStep hsafe⟩
  | aborted hlinked =>
    exact ⟨_, (hm.finish c).lawfulStep (safe_of_idle (hm.linked c hlinked))⟩
  | lost hlinked =>
    refine ⟨_, (hm.lose hlinked _).lawfulStep ⟨fun hc => ?_, fun sql' hs => ?_⟩⟩
    · rw [show (m.lose c (some (.statement sql))).inflight c = some (.statement sql) from
        Function.update_self ..] at hc
      cases hc
    · rw [show (m.lose c (some (.statement sql))).inflight c = some (.statement sql) from
        Function.update_self ..] at hs
      cases hs
      exact hsql hlinked
  | executed hlinked h =>
    obtain ⟨logs, hadvance, hlogs⟩ := h.lawful hm (hm.lt_nextConn hlinked) (hsql hlinked)
    refine ⟨logs, hadvance, hlogs, safe_of_idle ?_⟩
    rw [h.frame.2.2]
    exact hm.linked c hlinked

/-- The other requests. -/
theorem Requested.lawful {act : Mysql → Mysql} {late : Option Inflight} {ok : Bool}
    (hm : m.Consistent) (hsafe : m.Safe c)
    (hact : m.isLinked c = true →
      (∃ logs, Advance c m (act m) logs ∧ ∀ log ∈ logs, Log.Lawful log) ∧
        (act m).inflight c = m.inflight c)
    (hlate : m.isLinked c = true → late = none ∨
      late = some .commit ∧ (m.isOpen c = true → Committable (m.txn c)))
    (h : Requested m c act late m' ok) : ∃ logs, LawfulStep c m m' logs := by
  cases h with
  | failed => exact ⟨_, (Advance.refl hm c).lawfulStep hsafe⟩
  | aborted hlinked =>
    exact ⟨_, (hm.finish c).lawfulStep (safe_of_idle (hm.linked c hlinked))⟩
  | lost hlinked =>
    refine ⟨_, (hm.lose hlinked late).lawfulStep ?_⟩
    have hinflight : (m.lose c late).inflight c = late := Function.update_self ..
    rcases hlate hlinked with rfl | ⟨rfl, htxn⟩
    · exact safe_of_idle hinflight
    · exact ⟨fun _ => htxn, fun _ hs => absurd (hinflight.symm.trans hs) nofun⟩
  | done hlinked =>
    obtain ⟨⟨logs, hadvance, hlogs⟩, hinflight⟩ := hact hlinked
    exact ⟨logs, hadvance, hlogs, safe_of_idle (hinflight.trans (hm.linked c hlinked))⟩

/-- A new connection has nothing under way. -/
theorem Lawful.connect (h : m.Lawful) (hm : m.Consistent) (x : Outcome) :
    (m.connect x).1.Lawful := by
  obtain ⟨-, ho, -, hcommitted, -⟩ := hm.connect x
  refine ⟨hcommitted.symm ▸ h.committed, fun a => ?_⟩
  by_cases ha : a = m.nextConn
  · subst ha
    refine safe_of_idle ?_
    cases x <;> exact (hm.fresh m.nextConn (Nat.le_refl _)).2.2
  · exact (h.safe a).congr (ho.inflight a ha) (ho.isOpen a ha) (ho.txn a ha)

/-! ## What happens on its own -/

theorem LawfulStep.cut (hm : m.Consistent) (hsafe : m.Safe c) : LawfulStep c m (m.cut c) [] :=
  (hm.cut c).lawfulStep (hsafe.congr rfl rfl rfl)

theorem LawfulStep.drop (hm : m.Consistent) (hsafe : m.Safe c) : LawfulStep c m (m.drop c) [] := by
  refine (hm.drop c).lawfulStep ?_
  unfold Mysql.drop
  split
  · exact hsafe
  · exact safe_of_idle (forget_inflight _ c)

theorem LawfulStep.resolve (hm : m.Consistent) (hsafe : m.Safe c) :
    ∃ logs, LawfulStep c m (m.resolve c) logs := by
  have h := resolve_cases m c
  generalize m.resolve c = m' at h ⊢
  cases h with
  | idle => exact ⟨_, (Advance.refl hm c).lawfulStep hsafe⟩
  | commit hinflight =>
    have hcommit := hm.commitOpen c
    refine ⟨_, hcommit.trans (hcommit.consistent.forget c), ?_, safe_of_idle (forget_inflight _ c)⟩
    rw [List.append_nil]
    exact lawful_commitOpen (hsafe.commit hinflight)
  | executed hinflight h =>
    obtain ⟨logs, hadvance, hlogs⟩ :=
      h.lawful hm (hm.lt_of_inflight hinflight) (hsafe.statement _ hinflight)
    refine ⟨_, hadvance.trans (hadvance.consistent.forget c), ?_,
      safe_of_idle (forget_inflight _ c)⟩
    rw [List.append_nil]
    exact hlogs

/-! ## The tables -/

theorem Lawful.forall_log (h : m.Lawful) {committed : List (Conn × Log)}
    (hsub : ∀ x ∈ committed, x ∈ m.committed) :
    ∀ log ∈ committed.map (·.2), Log.Lawful log := by
  intro log hlog
  obtain ⟨x, hx, rfl⟩ := List.mem_map.mp hlog
  exact h.committed x (hsub x hx)

/-- **The tables are accounted for.** -/
theorem Lawful.accounting (h : m.Lawful) (hm : m.Consistent) :
    ∃ settled, Accounting m.db settled := by
  have hreplay := hm.replay
  rw [List.flatMap_def] at hreplay
  obtain ⟨settled, hA, -⟩ := Accounting.empty.replay (h.forall_log fun _ hx => hx) hreplay
  exact ⟨settled, hA⟩

theorem Lawful.evolves (h : m.Lawful) (hm : m.Consistent) (h' : m'.Lawful) (hm' : m'.Consistent)
    (hlater : m.committed <+: m'.committed) : Evolves m.db m'.db := by
  obtain ⟨new, hnew⟩ := hlater
  obtain ⟨settled, hA⟩ := h.accounting hm
  have hreplay := replays_of_prefix hm hm' hnew.symm
  rw [List.flatMap_def] at hreplay
  have hlogs := h'.forall_log fun x hx => hnew ▸ List.mem_append_right m.committed hx
  obtain ⟨-, -, hevolves⟩ := hA.replay hlogs hreplay
  exact hevolves

/-- A transaction that has been committed has settled its battle. -/
theorem Lawful.applied (h : m.Lawful) (hm : m.Consistent) {battle : Battle}
    {results : List BattlePlayerResult} {log : Log} (hvalid : ValidResults battle results)
    (hlog : Settles battle results log ∨ Confirms battle results log)
    (hmem : (c, log) ∈ m.committed) : Applied battle results m.db := by
  have hreplay := hm.replay
  rw [List.flatMap_def] at hreplay
  exact Accounting.empty.applied (h.forall_log fun _ hx => hx) hreplay hvalid hlog
    (List.mem_map_of_mem hmem)

end Mysql
end Game
