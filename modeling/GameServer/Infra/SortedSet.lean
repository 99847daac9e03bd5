import Mathlib.Data.List.Sort
import Mathlib.Data.Prod.Lex

/-!
# Sorted sets

Members with scores, each member once, in the order of the scores; members of one score are in
their own order. A range of indices is inclusive at both ends, and negative indices count from the
end.

* `mem_add`, `length_add`: what `add` does
* `indexRange_of_nonneg`: a range of non-negative indices is a window of the list
* `window_append`: consecutive windows
-/

namespace Infra

/-! ## The set -/

section Set

variable {κ σ : Type _} [LinearOrder κ] [LinearOrder σ]

/-- The first row is not after the second: its score is lower, or else its member is. -/
def UpTo (a b : κ × σ) : Prop :=
  toLex (a.2, a.1) ≤ toLex (b.2, b.1)

instance : DecidableRel (UpTo (κ := κ) (σ := σ)) := fun a b =>
  inferInstanceAs (Decidable (toLex (a.2, a.1) ≤ toLex (b.2, b.1)))

instance : Std.Total (UpTo (κ := κ) (σ := σ)) where
  total a b := le_total (toLex (a.2, a.1)) (toLex (b.2, b.1))

instance : IsTrans (κ × σ) UpTo where
  trans _ _ _ := le_trans

/-- A sorted set, lowest score first. -/
structure SortedSet (κ σ : Type _) [LinearOrder κ] [LinearOrder σ] where
  entries : List (κ × σ)
  sorted : entries.Pairwise UpTo
  nodup : (entries.map Prod.fst).Nodup

namespace SortedSet

def empty : SortedSet κ σ where
  entries := []
  sorted := List.Pairwise.nil
  nodup := List.nodup_nil

/-- Sets the score of a member. -/
def add (set : SortedSet κ σ) (member : κ) (score : σ) : SortedSet κ σ where
  entries := (set.entries.filter (·.1 ≠ member)).orderedInsert UpTo (member, score)
  sorted := (set.sorted.filter _).orderedInsert _ _
  nodup := by
    have hperm := (List.perm_orderedInsert UpTo (member, score)
      (set.entries.filter (·.1 ≠ member))).map Prod.fst
    rw [hperm.nodup_iff, List.map_cons, List.nodup_cons]
    refine ⟨fun hmem => ?_, set.nodup.sublist (List.filter_sublist.map _)⟩
    obtain ⟨row, hrow, hmember⟩ := List.mem_map.mp hmem
    exact of_decide_eq_true (List.mem_filter.mp hrow).2 hmember

theorem mem_add (set : SortedSet κ σ) (member : κ) (score : σ) (row : κ × σ) :
    row ∈ (set.add member score).entries ↔
      row = (member, score) ∨ row ∈ set.entries ∧ row.1 ≠ member := by
  unfold add
  rw [List.mem_orderedInsert, List.mem_filter, decide_eq_true_iff]

/-- A new member makes the set larger by one. -/
theorem length_add (set : SortedSet κ σ) {member : κ} (score : σ)
    (hnew : ∀ row ∈ set.entries, row.1 ≠ member) :
    (set.add member score).entries.length = set.entries.length + 1 := by
  unfold add
  rw [List.orderedInsert_length, List.filter_eq_self.mpr]
  exact fun row hrow => decide_eq_true (hnew row hrow)

/-- Distinct members, added to the empty set. -/
theorem length_addAll (score : σ) : ∀ (members : List κ), members.Nodup →
    let set := members.foldr (fun member set => add set member score) empty
    set.entries.length = members.length ∧ ∀ row ∈ set.entries, row.1 ∈ members
  | [], _ => ⟨rfl, fun row hrow => by cases hrow⟩
  | member :: members, hnd => by
    obtain ⟨hlength, hmem⟩ := length_addAll score members (List.nodup_cons.mp hnd).2
    have hnew : ∀ row ∈ (members.foldr (fun member set => add set member score) empty).entries,
        row.1 ≠ member := by
      rintro row hrow rfl
      exact (List.nodup_cons.mp hnd).1 (hmem row hrow)
    dsimp only at hlength ⊢
    rw [List.foldr_cons, length_add _ score hnew, hlength, List.length_cons]
    refine ⟨rfl, fun row hrow => ?_⟩
    rcases (mem_add _ member score row).mp hrow with rfl | ⟨hold, -⟩
    · exact List.mem_cons_self
    · exact List.mem_cons_of_mem _ (hmem row hold)

end SortedSet
end Set

/-! ## Ranges of indices -/

variable {α : Type _}

/-- The elements from index `start` to index `stop`, both included. -/
def indexRange (l : List α) (start stop : Int) : List α :=
  let start := if start < 0 then max (l.length + start) 0 else start
  let stop := if stop < 0 then l.length + stop else stop
  (l.drop start.toNat).take (stop + 1 - start).toNat

theorem indexRange_of_nonneg (l : List α) {start stop : Int} (hstart : 0 ≤ start)
    (hstop : 0 ≤ stop) :
    indexRange l start stop = (l.drop start.toNat).take (stop + 1 - start).toNat := by
  unfold indexRange
  rw [if_neg (not_lt.mpr hstart), if_neg (not_lt.mpr hstop)]

/-- Two windows side by side are one. -/
theorem window_append (l : List α) (offset m n : Nat) :
    (l.drop offset).take m ++ (l.drop (offset + m)).take n = (l.drop offset).take (m + n) := by
  rw [List.take_add, List.drop_drop]

end Infra
