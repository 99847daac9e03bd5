import GameServer.Infra.Run
import Mathlib.Data.List.Nodup

/-!
# Histories of a queue

A queue without repetitions that is served in groups: elements arrive at the end, an element may
leave on its own, and a group of `n` leaves at the front. A history is a list of such events, and
it is fair when each of them is what the queue of that moment allows.

* `Fair.length_pop`, `Fair.nodup`: the groups of a fair history
* `fate_push`: what becomes of an element that has arrived
-/

namespace Infra

variable {α : Type _}

/-- What happens to a queue. -/
inductive FifoEvent (α : Type _) where
  | push (a : α)
  | remove (a : α)
  | pop (as : List α)

namespace FifoEvent

variable [DecidableEq α]

/-- The queue after an event. -/
def apply (q : List α) : FifoEvent α → List α
  | push a => q ++ [a]
  | remove a => q.filter (· ≠ a)
  | pop as => q.drop as.length

/-- The event is one that the queue allows; a group is the first `n` elements. -/
def Allowed (n : Nat) (q : List α) : FifoEvent α → Prop
  | push a => a ∉ q
  | remove a => a ∈ q
  | pop as => as ≠ [] ∧ n ≤ q.length ∧ as = q.take n

/-- The event concerns `a`. -/
def about (a : α) : FifoEvent α → Bool
  | push b => b = a
  | remove b => b = a
  | pop as => a ∈ as

/-- Every event of the history is allowed when it happens. -/
def Fair (n : Nat) (q : List α) (history : List (FifoEvent α)) : Prop :=
  AllSteps apply (Allowed n) q history

variable {n : Nat} {q : List α} {e : FifoEvent α}

/-- The queue stays free of repetitions. -/
theorem nodup_apply (hq : q.Nodup) (he : Allowed n q e) : (apply q e).Nodup := by
  cases e with
  | push a =>
    refine hq.append (List.nodup_singleton a) ?_
    rwa [List.disjoint_singleton]
  | remove a => exact hq.filter _
  | pop as => exact hq.sublist (List.drop_sublist _ q)

/-- An element that an event does not concern stays where it is. -/
theorem mem_apply {a : α} (ha : a ∈ q) (he : Allowed n q e) (hab : e.about a = false) :
    a ∈ apply q e := by
  cases e with
  | push b => exact List.mem_append_left _ ha
  | remove b => exact List.mem_filter.mpr ⟨ha, by simpa [about, Ne.eq_def, eq_comm (a := a)] using hab⟩
  | pop as =>
    obtain ⟨-, hn, rfl⟩ := he
    rw [apply, List.length_take, Nat.min_eq_left hn]
    rw [← List.take_append_drop n q, List.mem_append] at ha
    exact ha.resolve_left (by simpa [about] using hab)

/-- **Groups.** Each has `n` different elements. -/
theorem group_of_fair : ∀ {history : List (FifoEvent α)} {q : List α}, q.Nodup →
    Fair n q history → ∀ {as}, pop as ∈ history → as.length = n ∧ as.Nodup
  | e :: history, q, hq, h, as, hmem => by
    rcases List.mem_cons.mp hmem with rfl | hmem
    · obtain ⟨-, hn, rfl⟩ := h.1
      exact ⟨by rw [List.length_take, Nat.min_eq_left hn], hq.sublist (List.take_sublist n q)⟩
    · exact group_of_fair (nodup_apply hq h.1) h.2 hmem

/-- The first event that concerns an element of the queue takes it away. -/
theorem fate_of_mem {a : α} : ∀ {history : List (FifoEvent α)} {q : List α}, a ∈ q →
    Fair n q history →
    (history.find? (about a) = none ∧ a ∈ history.foldl apply q) ∨
      history.find? (about a) = some (remove a) ∨
      ∃ as, history.find? (about a) = some (pop as) ∧ a ∈ as
  | [], _, ha, _ => Or.inl ⟨rfl, ha⟩
  | e :: history, q, ha, h => by
    by_cases hab : e.about a = true
    · rw [List.find?_cons_of_pos hab]
      cases e with
      | push b =>
        obtain rfl : b = a := by simpa [about] using hab
        exact absurd ha h.1
      | remove b =>
        obtain rfl : b = a := by simpa [about] using hab
        exact Or.inr (Or.inl rfl)
      | pop as => exact Or.inr (Or.inr ⟨as, rfl, by simpa [about] using hab⟩)
    · rw [List.find?_cons_of_neg hab]
      exact fate_of_mem (mem_apply ha h.1 (by simpa using hab)) h.2

/-- **What becomes of an arrival.** Either it is still in the queue, or the next event that concerns
it is its own removal or a group that it leaves with. -/
theorem fate_of_push {a : α} {past later : List (FifoEvent α)}
    (h : Fair n q (past ++ push a :: later)) :
    (later.find? (about a) = none ∧ a ∈ (past ++ push a :: later).foldl apply q) ∨
      later.find? (about a) = some (remove a) ∨
      ∃ as, later.find? (about a) = some (pop as) ∧ a ∈ as := by
  obtain ⟨-, -, hlater⟩ := allSteps_append.mp h
  rw [List.foldl_append, List.foldl_cons]
  exact fate_of_mem (List.mem_append_right _ (List.mem_singleton.mpr rfl)) hlater

end FifoEvent
end Infra
