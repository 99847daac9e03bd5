import GameServer.Storage.Consistency

/-!
# Connections

What a connection has committed (`Mysql.committedBy`), and what can happen to it while nothing is
requested of it (`Mysql.Aside`): it is lost, its transaction is dropped, or its last request is
carried out late. A transaction whose `COMMIT` was on its way is the only one that can still be
committed then (`Mysql.InDoubt`).
-/

namespace Game

open Infra

namespace Mysql

/-- What the connection has committed. -/
def committedBy (m : Mysql) (c : Conn) : List Log :=
  (m.committed.filter (·.1 = c)).map (·.2)

/-- Nothing has happened to the connection. -/
structure Kept (c : Conn) (m m' : Mysql) : Prop where
  isOpen : m'.isOpen c = m.isOpen c
  isLinked : m'.isLinked c = m.isLinked c
  inflight : m'.inflight c = m.inflight c
  txn : m'.txn c = m.txn c
  insertId : m'.insertId c = m.insertId c
  committedBy : m'.committedBy c = m.committedBy c

/-- What happens to a connection when nothing is requested of it. -/
inductive Aside (c : Conn) (m m' : Mysql) : Prop where
  | kept (h : Kept c m m')
  | cut (h : m' = m.cut c)
  | drop (h : m' = m.drop c)
  | resolve (h : m' = m.resolve c)

variable {m m' : Mysql} {a c : Conn} {logs : List Log}

theorem Kept.refl (c : Conn) (m : Mysql) : Kept c m m :=
  ⟨rfl, rfl, rfl, rfl, rfl, rfl⟩

/-- The transactions of the step, when they are those of the connection. -/
theorem filter_map_pair (a c : Conn) (logs : List Log) :
    ((logs.map (a, ·)).filter (·.1 = c)).map (·.2) = if a = c then logs else [] := by
  split
  · next h =>
    rw [List.filter_eq_self.mpr (by simp [h]), List.map_map]
    exact List.map_id logs
  · next h =>
    rw [List.filter_eq_nil_iff.mpr (by simp [h])]
    rfl

theorem Advance.committedBy_eq (h : Advance c m m' logs) :
    m'.committedBy c = m.committedBy c ++ logs := by
  unfold committedBy
  rw [h.committed, List.filter_append, List.map_append, filter_map_pair, if_pos rfl]

theorem committedBy_append {new : List (Conn × Log)} (h : m'.committed = m.committed ++ new)
    (c : Conn) : m'.committedBy c = m.committedBy c ++ (new.filter (·.1 = c)).map (·.2) := by
  unfold committedBy
  rw [h, List.filter_append, List.map_append]

/-- What has been committed between two states. -/
theorem replays_of_prefix (hm : m.Consistent) (hm' : m'.Consistent) {new : List (Conn × Log)}
    (h : m'.committed = m.committed ++ new) :
    mysqlStatements.Replays (new.flatMap (·.2)) m.db m'.db := by
  have hreplay := hm'.replay
  rw [h, List.flatMap_append, Statements.replays_append] at hreplay
  obtain ⟨db, hbefore, hafter⟩ := hreplay
  rwa [hm.replay.unique hbefore] at hafter

/-- A connection that does not exist yet has committed nothing. -/
theorem mem_committed_of_committedBy {log : Log} (h : log ∈ m.committedBy c) :
    (c, log) ∈ m.committed := by
  obtain ⟨⟨a, log⟩, hmem, rfl⟩ := List.mem_map.mp h
  obtain ⟨hmem', ha⟩ := List.mem_filter.mp hmem
  obtain rfl : a = c := of_decide_eq_true ha
  exact hmem'

theorem Consistent.committedBy_fresh (hm : m.Consistent) (hc : m.nextConn ≤ c) :
    m.committedBy c = [] := by
  unfold committedBy
  rw [List.filter_eq_nil_iff.mpr]
  · rfl
  · intro x hx
    have hlt := hm.committed_lt x hx
    have hne : x.1 ≠ c := Nat.ne_of_lt (Nat.lt_of_lt_of_le hlt hc)
    exact fun heq => hne (of_decide_eq_true heq)

theorem Advance.kept (h : Advance a m m' logs) (hc : c ≠ a) : Kept c m m' where
  isOpen := h.others.isOpen c hc
  isLinked := h.others.isLinked c hc
  inflight := h.others.inflight c hc
  txn := h.others.txn c hc
  insertId := h.others.insertId c hc
  committedBy := by
    unfold Mysql.committedBy
    rw [h.committed, List.filter_append, List.map_append, filter_map_pair, if_neg hc.symm,
      List.append_nil]

/-! ## What can still become of a transaction -/

/-- Nothing more will be committed: no request is under way, or a statement of an open transaction
that will not be committed. -/
def Quiet (m : Mysql) (c : Conn) : Prop :=
  m.inflight c = none ∨ (∃ sql, m.inflight c = some (.statement sql)) ∧ m.isOpen c = true

/-- The connection has committed these transactions, and that is all. -/
structure Over (m : Mysql) (c : Conn) (logs : List Log) : Prop where
  quiet : m.Quiet c
  committedBy : m.committedBy c = logs

/-- The transaction `log` of the connection has been committed or not, or that is still open. -/
inductive InDoubt (m : Mysql) (c : Conn) (before : List Log) (log : Log) : Prop where
  | rolledBack (h : m.Over c before)
  | committed (h : m.Over c (before ++ [log]))
  | pending (hinflight : m.inflight c = some .commit) (hopen : m.isOpen c = true)
      (htxn : m.txn c = log) (hlost : m.isLinked c = false) (hby : m.committedBy c = before)

theorem Kept.quiet (h : Kept c m m') (hq : m.Quiet c) : m'.Quiet c := by
  unfold Quiet
  rw [h.inflight, h.isOpen]
  exact hq

theorem drop_eq (hlost : m.isLinked c = false) : m.drop c = (m.finish c).forget c :=
  if_neg (by simp [hlost])

theorem quiet_drop (m : Mysql) (c : Conn) (hq : m.Quiet c) : (m.drop c).Quiet c := by
  cases hlinked : m.isLinked c with
  | true => rwa [drop, if_pos hlinked]
  | false =>
    rw [drop_eq hlinked]
    exact Or.inl (Function.update_self ..)

theorem forget_inflight (m : Mysql) (c : Conn) : (m.forget c).inflight c = none :=
  Function.update_self ..

/-- What is carried out late in an open transaction is not committed. -/
theorem Consistent.over_resolve (hm : m.Consistent) (h : m.Over c logs) :
    (m.resolve c).Over c logs := by
  have hcases := resolve_cases m c
  generalize m.resolve c = m' at hcases ⊢
  cases hcases with
  | idle => exact h
  | commit hinflight =>
    exfalso
    rcases h.quiet with hnone | ⟨⟨sql, hsql⟩, -⟩
    · rw [hnone] at hinflight
      cases hinflight
    · rw [hsql] at hinflight
      cases hinflight
  | @executed sql m' reply hinflight hexec =>
    refine ⟨Or.inl (forget_inflight m' c), ?_⟩
    have hopen : m.isOpen c = true := by
      rcases h.quiet with hnone | ⟨-, hopen⟩
      · rw [hnone] at hinflight
        cases hinflight
      · exact hopen
    change m'.committedBy c = logs
    cases hexec with
    | failed | read => exact h.committedBy
    | done hlocks hfree hrun =>
      have hadvance := hm.carryOut (hm.lt_of_inflight hinflight) hfree hrun
      rw [if_pos hopen] at hadvance
      rw [hadvance.committedBy_eq, List.append_nil]
      exact h.committedBy

theorem Aside.isOver (hm : m.Consistent) (h : Aside c m m') (ho : m.Over c logs) :
    m'.Over c logs := by
  cases h with
  | kept h => exact ⟨h.quiet ho.quiet, h.committedBy.trans ho.committedBy⟩
  | cut h =>
    subst h
    exact ⟨ho.quiet, ho.committedBy⟩
  | drop h =>
    subst h
    refine ⟨quiet_drop m c ho.quiet, ?_⟩
    rw [(hm.drop c).committedBy_eq, List.append_nil]
    exact ho.committedBy
  | resolve h =>
    subst h
    exact hm.over_resolve ho

theorem Aside.inDoubt (hm : m.Consistent) (h : Aside c m m') {before : List Log} {log : Log}
    (hd : m.InDoubt c before log) : m'.InDoubt c before log := by
  cases hd with
  | rolledBack ho => exact .rolledBack (h.isOver hm ho)
  | committed ho => exact .committed (h.isOver hm ho)
  | pending hinflight hopen htxn hlost hby =>
    cases h with
    | kept h =>
      exact .pending (h.inflight.trans hinflight) (h.isOpen.trans hopen) (h.txn.trans htxn)
        (h.isLinked.trans hlost) (h.committedBy.trans hby)
    | cut h =>
      subst h
      exact .pending hinflight hopen htxn (Function.update_self ..) hby
    | drop h =>
      subst h
      have hadvance := (hm.drop c).committedBy_eq
      rw [drop_eq hlost] at hadvance ⊢
      rw [List.append_nil] at hadvance
      exact .rolledBack ⟨Or.inl (forget_inflight _ c), hadvance.trans hby⟩
    | resolve h =>
      subst h
      have heq : m.resolve c = (m.commitOpen c).forget c := by
        unfold Mysql.resolve
        rw [if_neg (by simp [hlost]), hinflight]
      have hadvance := (hm.commitOpen c).committedBy_eq
      rw [if_pos hopen, htxn, hby] at hadvance
      rw [heq]
      exact .committed ⟨Or.inl (forget_inflight _ c), hadvance⟩

/-- A connection that is still there has been left alone. -/
theorem Aside.linked (h : Aside c m m') (hlinked : m'.isLinked c = true) :
    m.isLinked c = true ∧ m'.isOpen c = m.isOpen c ∧ m'.txn c = m.txn c := by
  cases h with
  | kept h => exact ⟨h.isLinked ▸ hlinked, h.isOpen, h.txn⟩
  | cut h =>
    subst h
    rw [show (m.cut c).isLinked c = false from Function.update_self ..] at hlinked
    cases hlinked
  | drop h =>
    subst h
    cases hold : m.isLinked c with
    | true =>
      rw [Mysql.drop, if_pos hold]
      exact ⟨rfl, rfl, rfl⟩
    | false =>
      rw [drop_eq hold] at hlinked
      exact absurd (hold.symm.trans hlinked) nofun
  | resolve h =>
    subst h
    cases hold : m.isLinked c with
    | true =>
      rw [Mysql.resolve, if_pos hold]
      exact ⟨rfl, rfl, rfl⟩
    | false =>
      have hcases := resolve_cases m c
      generalize m.resolve c = m' at hcases hlinked
      cases hcases with
      | idle => exact absurd (hold.symm.trans hlinked) nofun
      | commit => exact absurd (hold.symm.trans hlinked) nofun
      | executed hinflight hexec =>
        have hframe := congrFun hexec.frame.2.1 c
        exact absurd (hold.symm.trans (hframe.symm.trans hlinked)) nofun

/-- A connection with nothing under way stays like that. -/
theorem Aside.idle (h : Aside c m m') (hnone : m.inflight c = none) : m'.inflight c = none := by
  cases h with
  | kept h => exact h.inflight.trans hnone
  | cut h =>
    subst h
    exact hnone
  | drop h =>
    subst h
    unfold Mysql.drop
    split
    · exact hnone
    · exact forget_inflight _ c
  | resolve h =>
    subst h
    have hcases := resolve_cases m c
    generalize m.resolve c = m' at hcases ⊢
    cases hcases with
    | idle => exact hnone
    | commit | executed => exact forget_inflight _ c

/-- A transaction does not begin on its own. -/
theorem Aside.closed (h : Aside c m m') (hopen : m.isOpen c = false) : m'.isOpen c = false := by
  cases h with
  | kept h => exact h.isOpen.trans hopen
  | cut h =>
    subst h
    exact hopen
  | drop h =>
    subst h
    unfold Mysql.drop
    split
    · exact hopen
    · exact Function.update_self ..
  | resolve h =>
    subst h
    have hcases := resolve_cases m c
    generalize m.resolve c = m' at hcases ⊢
    cases hcases with
    | idle => exact hopen
    | commit => exact Function.update_self ..
    | executed hinflight hexec => exact (congrFun hexec.frame.1 c).trans hopen

/-- A new connection is nothing to the old ones. -/
theorem kept_connect (hm : m.Consistent) (outcome : Outcome) (hc : c < m.nextConn) :
    Kept c m (m.connect outcome).1 := by
  obtain ⟨-, ho, -, hcommitted, -⟩ := hm.connect outcome
  have hne : c ≠ m.nextConn := Nat.ne_of_lt hc
  exact ⟨ho.isOpen c hne, ho.isLinked c hne, ho.inflight c hne, ho.txn c hne, ho.insertId c hne,
    by rw [committedBy, hcommitted, committedBy]⟩

end Mysql
end Game
