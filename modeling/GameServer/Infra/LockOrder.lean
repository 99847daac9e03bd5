import Mathlib.Logic.Function.Basic
import Mathlib.Logic.Relation
import Mathlib.Order.Basic

/-!
# The order of locks

Transactions that lock keys one after the other, and free them together in the end. A transaction
waits for the one that holds the next key of its statement.

A key may have a guard, which whoever locks the key has locked before. As long as the keys that are
not guarded are locked in ascending order, nobody waits in a circle (`Orderly.acyclic`).
-/

namespace Infra

/-- Who has locked which key, and what the statement of a transaction has still to lock. -/
structure LockTable (κ τ : Type) where
  holder : κ → Option τ := fun _ => none
  /-- `none` when the transaction is making no statement. -/
  pending : τ → Option (List κ) := fun _ => none

/-- The order in which keys are to be locked. -/
structure LockOrder (κ α : Type) where
  guard : κ → Option κ
  rank : κ → α

variable {κ τ α : Type}

/-- What a transaction may lock in one statement, when it holds these keys: keys whose guards it
holds, or a single key above all that it holds. -/
def LockOrder.Allows [LT α] (o : LockOrder κ α) (held : κ → Prop) (ks : List κ) : Prop :=
  (∀ k ∈ ks, ∃ g, o.guard k = some g ∧ held g) ∨
    ∃ k, ks = [k] ∧ (∀ g, o.guard k = some g → g = k) ∧
      ∀ k', held k' → k' = k ∨ o.rank k' < o.rank k

/-- What is allowed depends on what is held. -/
theorem LockOrder.Allows.congr [LT α] {o : LockOrder κ α} {held held' : κ → Prop}
    {ks : List κ} (h : o.Allows held ks) (heq : ∀ k, held' k ↔ held k) : o.Allows held' ks := by
  have hsame : held' = held := funext fun k => propext (heq k)
  rwa [hsame]

namespace LockTable

variable (s : LockTable κ τ)

/-- The key that comes next. -/
def next (a : τ) : Option κ :=
  (s.pending a).bind List.head?

def WaitsFor (a b : τ) : Prop :=
  ∃ k, s.next a = some k ∧ s.holder k = some b ∧ b ≠ a

/-- The locks are in order. -/
structure Orderly [LT α] (o : LockOrder κ α) : Prop where
  guarded : ∀ k g a, o.guard k = some g → s.holder k = some a → s.holder g = some a
  allowed : ∀ a ks, s.pending a = some ks → o.Allows (s.holder · = some a) ks

variable [DecidableEq κ] [DecidableEq τ]

/-- A statement that has to lock these keys. -/
def ask (a : τ) (ks : List κ) : LockTable κ τ :=
  { s with pending := Function.update s.pending a (some ks) }

/-- Nobody else holds the key. -/
def Free (a : τ) (k : κ) : Prop :=
  s.holder k = none ∨ s.holder k = some a

instance (a : τ) (k : κ) : Decidable (s.Free a k) :=
  inferInstanceAs (Decidable (_ ∨ _))

/-- The statement locks its next key, when that is free. -/
def take (a : τ) : LockTable κ τ :=
  match s.pending a with
  | some (k :: ks) =>
    if s.Free a k then
      { holder := Function.update s.holder k (some a)
        pending := Function.update s.pending a (some ks) }
    else s
  | _ => s

/-- The statement is over. -/
def finish (a : τ) : LockTable κ τ :=
  { s with pending := Function.update s.pending a none }

/-- The transaction is over. -/
def release (a : τ) : LockTable κ τ :=
  { holder := fun k => if s.holder k = some a then none else s.holder k
    pending := Function.update s.pending a none }

variable {s} {a b : τ} {k : κ} {ks : List κ}

omit [DecidableEq κ] in
theorem release_holder_iff : (s.release a).holder k = some b ↔ b ≠ a ∧ s.holder k = some b := by
  unfold release
  dsimp only
  split
  · next h =>
    rw [h]
    refine iff_of_false nofun ?_
    rintro ⟨hne, heq⟩
    exact hne (Option.some.inj heq).symm
  · next h =>
    constructor
    · intro hb
      refine ⟨?_, hb⟩
      rintro rfl
      exact h hb
    · exact And.right

omit [DecidableEq κ] in
theorem pending_update_iff {p : Option (List κ)} :
    Function.update s.pending a p b = some ks ↔
      b = a ∧ p = some ks ∨ b ≠ a ∧ s.pending b = some ks := by
  by_cases hb : b = a
  · subst hb
    rw [Function.update_self]
    simp
  · rw [Function.update_of_ne hb]
    simp [hb]

/-- What `take` does, if anything. -/
theorem take_cases (s : LockTable κ τ) (a : τ) : s.take a = s ∨
    ∃ k ks, s.pending a = some (k :: ks) ∧ s.Free a k ∧
      s.take a = { holder := Function.update s.holder k (some a)
                   pending := Function.update s.pending a (some ks) } := by
  unfold take
  split
  · next k ks hpending =>
    split
    · next hfree => exact Or.inr ⟨k, ks, hpending, hfree, rfl⟩
    · exact Or.inl rfl
  · exact Or.inl rfl

/-! ## The other transactions -/

/-- What matters of the table for one transaction. -/
structure Same (b : τ) (s s' : LockTable κ τ) : Prop where
  holder : ∀ k, s'.holder k = some b ↔ s.holder k = some b
  pending : s'.pending b = s.pending b

omit [DecidableEq κ] [DecidableEq τ] in
theorem Same.refl (b : τ) (s : LockTable κ τ) : Same b s s :=
  ⟨fun _ => Iff.rfl, rfl⟩

omit [DecidableEq κ] in
theorem same_ask (h : b ≠ a) (s : LockTable κ τ) (ks : List κ) : Same b s (s.ask a ks) :=
  ⟨fun _ => Iff.rfl, Function.update_of_ne h ..⟩

omit [DecidableEq κ] in
theorem same_finish (h : b ≠ a) (s : LockTable κ τ) : Same b s (s.finish a) :=
  ⟨fun _ => Iff.rfl, Function.update_of_ne h ..⟩

omit [DecidableEq κ] in
theorem same_release (h : b ≠ a) (s : LockTable κ τ) : Same b s (s.release a) :=
  ⟨fun _ => release_holder_iff.trans (and_iff_right h), Function.update_of_ne h ..⟩

omit [DecidableEq τ] in
/-- Who holds a key after it has been locked. -/
theorem holder_update_iff (hfree : s.Free a k) {k' : κ} :
    Function.update s.holder k (some a) k' = some b ↔
      s.holder k' = some b ∨ k' = k ∧ b = a := by
  by_cases hk : k' = k
  · subst hk
    rw [Function.update_self]
    constructor
    · intro h
      exact Or.inr ⟨rfl, (Option.some.inj h).symm⟩
    · rintro (h | ⟨-, rfl⟩)
      · rcases hfree with hnone | hself
        · exact absurd (hnone.symm.trans h) nofun
        · exact hself.symm.trans h
      · rfl
  · rw [Function.update_of_ne hk]
    exact (or_iff_left fun h => hk h.1).symm

theorem same_take (h : b ≠ a) (s : LockTable κ τ) : Same b s (s.take a) := by
  rcases take_cases s a with heq | ⟨k, ks, -, hfree, heq⟩ <;> rw [heq]
  · exact .refl b s
  · exact ⟨fun k' => (holder_update_iff hfree).trans (or_iff_left fun hk => h hk.2),
      Function.update_of_ne h ..⟩

/-! ## Order is kept -/

variable [Preorder α] {o : LockOrder κ α}

omit [DecidableEq κ] [DecidableEq τ] in
theorem orderly_empty : Orderly ({} : LockTable κ τ) o where
  guarded _ _ _ _ h := by cases h
  allowed _ _ h := by cases h

omit [DecidableEq κ] in
theorem Orderly.ask (h : s.Orderly o) (hks : o.Allows (s.holder · = some a) ks) :
    (s.ask a ks).Orderly o where
  guarded := h.guarded
  allowed b ks' hpending := by
    rcases pending_update_iff.mp hpending with ⟨rfl, hself⟩ | ⟨-, hother⟩
    · cases hself
      exact hks
    · exact h.allowed b ks' hother

omit [DecidableEq κ] in
theorem Orderly.finish (h : s.Orderly o) (a : τ) : (s.finish a).Orderly o where
  guarded := h.guarded
  allowed b ks hpending := by
    rcases pending_update_iff.mp hpending with ⟨-, hself⟩ | ⟨-, hother⟩
    · cases hself
    · exact h.allowed b ks hother

omit [DecidableEq κ] in
/-- All keys of a transaction are freed together. -/
theorem Orderly.release (h : s.Orderly o) (a : τ) : (s.release a).Orderly o where
  guarded k g b hguard hb := by
    obtain ⟨hne, hb⟩ := release_holder_iff.mp hb
    exact release_holder_iff.mpr ⟨hne, h.guarded k g b hguard hb⟩
  allowed b ks hpending := by
    rcases pending_update_iff.mp hpending with ⟨-, hself⟩ | ⟨hb, hother⟩
    · cases hself
    · have hbefore : o.Allows (s.holder · = some b) ks := h.allowed b ks hother
      exact hbefore.congr (same_release hb s).holder

theorem Orderly.take (h : s.Orderly o) (a : τ) : (s.take a).Orderly o := by
  rcases take_cases s a with heq | ⟨k, ks, hpending, hfree, heq⟩ <;> rw [heq]
  · exact h
  have hallowed := h.allowed a (k :: ks) hpending
  refine ⟨fun k' g b hguard hb => ?_, fun b ks' hpending' => ?_⟩
  · rw [holder_update_iff hfree] at hb ⊢
    rcases hb with hb | ⟨rfl, rfl⟩
    · exact Or.inl (h.guarded k' g b hguard hb)
    · -- The key itself: its guard is held, or it is its own guard.
      rcases hallowed with hcovered | ⟨k, hks, hown, -⟩
      · obtain ⟨g', hguard', hheld⟩ := hcovered k' List.mem_cons_self
        cases hguard.symm.trans hguard'
        exact Or.inl hheld
      · cases hks
        exact Or.inr ⟨hown g hguard, rfl⟩
  · rcases pending_update_iff.mp hpending' with ⟨rfl, hself⟩ | ⟨hb, hother⟩
    · cases hself
      rcases hallowed with hcovered | ⟨k, hks, -⟩
      · refine Or.inl fun k' hk' => ?_
        obtain ⟨g, hguard, hheld⟩ := hcovered k' (List.mem_cons_of_mem _ hk')
        exact ⟨g, hguard, (holder_update_iff hfree).mpr (Or.inl hheld)⟩
      · cases hks
        exact Or.inl fun k' hk' => absurd hk' List.not_mem_nil
    · have hbefore : o.Allows (s.holder · = some b) ks' := h.allowed b ks' hother
      exact hbefore.congr fun k' => (holder_update_iff hfree).trans (or_iff_left fun h => hb h.2)

/-! ## Nobody waits in a circle -/

omit [DecidableEq κ] [DecidableEq τ] in
/-- A transaction that is waited for and waits itself, waits for a higher key. -/
theorem Orderly.rank_lt (h : s.Orderly o) {k' : κ} {c : τ} (hheld : s.holder k = some b)
    (hnext : s.next b = some k') (hholder : s.holder k' = some c) (hne : c ≠ b) :
    o.rank k < o.rank k' := by
  obtain ⟨ks, hpending, hhead⟩ := Option.bind_eq_some_iff.mp hnext
  obtain ⟨ks, rfl⟩ := List.head?_eq_some_iff.mp hhead
  rcases h.allowed b _ hpending with hcovered | ⟨k'', hks, -, habove⟩
  · -- Whoever holds `k'` holds its guard, and so does `b`.
    obtain ⟨g, hguard, hg⟩ := hcovered k' List.mem_cons_self
    exact absurd (Option.some.inj ((h.guarded k' g c hguard hholder).symm.trans hg)) hne
  · cases hks
    refine (habove k hheld).resolve_left ?_
    rintro rfl
    exact hne (Option.some.inj (hholder.symm.trans hheld))

omit [DecidableEq κ] [DecidableEq τ] in
theorem Orderly.rank_lt_of_transGen (h : s.Orderly o) (hwait : Relation.TransGen s.WaitsFor a b)
    {k' : κ} {c : τ} (hnext : s.next b = some k') (hholder : s.holder k' = some c) (hne : c ≠ b) :
    ∃ k, s.next a = some k ∧ o.rank k < o.rank k' := by
  induction hwait generalizing k' c with
  | single hstep =>
    obtain ⟨k, hk, hheld, -⟩ := hstep
    exact ⟨k, hk, h.rank_lt hheld hnext hholder hne⟩
  | tail _ hstep ih =>
    obtain ⟨k₁, hk₁, hheld, hne₁⟩ := hstep
    obtain ⟨k, hk, hlt⟩ := ih hk₁ hheld hne₁
    exact ⟨k, hk, hlt.trans (h.rank_lt hheld hnext hholder hne)⟩

omit [DecidableEq κ] [DecidableEq τ] in
/-- **Nobody waits in a circle.** -/
theorem Orderly.acyclic (h : s.Orderly o) (a : τ) : ¬ Relation.TransGen s.WaitsFor a a := by
  intro hcycle
  obtain ⟨b, ⟨k, hk, hholder, hne⟩, -⟩ := Relation.TransGen.head'_iff.mp hcycle
  obtain ⟨k', hk', hlt⟩ := h.rank_lt_of_transGen hcycle hk hholder hne
  cases hk.symm.trans hk'
  exact lt_irrefl _ hlt

/-- Out of order two transactions are enough for a circle. -/
example : Relation.TransGen (LockTable.WaitsFor ⟨some, fun a => some [!a]⟩) true true :=
  .tail (b := false) (.single ⟨false, rfl, rfl, by decide⟩) ⟨true, rfl, rfl, by decide⟩

end LockTable
end Infra
