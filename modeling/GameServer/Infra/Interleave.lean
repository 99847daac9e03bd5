import GameServer.Infra.Run
import Mathlib.Logic.Function.Basic
import Mathlib.Logic.Function.Iterate

/-!
# Interleaving

Threads over a shared state. One event lets one thread take one atomic step; `χ` is what the
environment chooses for that step.

The lemmas say how a property of some thread, or of every thread, passes over a step: only the
thread that moves changes, so it is enough to look at that one.
-/

namespace Infra

/-- A shared state and the local states of the threads. -/
structure Sys (ι : Type _) (σ : Type _) (τ : Type _) where
  shared : σ
  threads : ι → τ

namespace Sys

variable {ι : Type _} {σ : Type _} {τ : Type _} {χ : Type _} [DecidableEq ι]

/-- One step of one thread. -/
def step (next : χ → σ → τ → σ × τ) (c : Sys ι σ τ) (e : ι × χ) : Sys ι σ τ :=
  let moved := next e.2 c.shared (c.threads e.1)
  { shared := moved.1, threads := Function.update c.threads e.1 moved.2 }

/-- Some thread is in a state with property `Q`. -/
def Some (Q : τ → Prop) (c : Sys ι σ τ) : Prop :=
  ∃ i, Q (c.threads i)

variable {next : χ → σ → τ → σ × τ} {c : Sys ι σ τ} {e : ι × χ}

@[simp] theorem step_shared :
    (c.step next e).shared = (next e.2 c.shared (c.threads e.1)).1 := rfl

@[simp] theorem step_threads_self :
    (c.step next e).threads e.1 = (next e.2 c.shared (c.threads e.1)).2 :=
  Function.update_self ..

theorem step_threads_of_ne {j : ι} (h : j ≠ e.1) : (c.step next e).threads j = c.threads j :=
  Function.update_of_ne h ..

theorem step_threads (j : ι) : (c.step next e).threads j =
    if j = e.1 then (next e.2 c.shared (c.threads e.1)).2 else c.threads j :=
  Function.update_apply ..

/-- What a step of thread `i` comes to, once it is known what the thread does. -/
theorem step_of_next {i : ι} {x : χ} {s : σ} {t : τ} (h : next x c.shared (c.threads i) = (s, t)) :
    (c.step next (i, x)).shared = s ∧
      ∀ j, (c.step next (i, x)).threads j = if j = i then t else c.threads j := by
  refine ⟨congrArg Prod.fst h, fun j => ?_⟩
  have ht : (next x c.shared (c.threads i)).2 = t := congrArg Prod.snd h
  rw [← ht]
  exact step_threads j

/-- Every thread has `A` after the step when the moving one has, and the others keep it. -/
theorem forall_step {A : τ → Prop} (hmove : A (next e.2 c.shared (c.threads e.1)).2)
    (hothers : ∀ j, j ≠ e.1 → A (c.threads j)) (j : ι) : A ((c.step next e).threads j) := by
  by_cases hj : j = e.1
  · subst hj
    rw [step_threads_self]
    exact hmove
  · rw [step_threads_of_ne hj]
    exact hothers j hj

/-- The same for a property that names the thread. -/
theorem forall_index_step {A : ι → τ → Prop}
    (hmove : A e.1 (next e.2 c.shared (c.threads e.1)).2)
    (hothers : ∀ j, j ≠ e.1 → A j (c.threads j)) (j : ι) : A j ((c.step next e).threads j) := by
  by_cases hj : j = e.1
  · subst hj
    rw [step_threads_self]
    exact hmove
  · rw [step_threads_of_ne hj]
    exact hothers j hj

/-- What some thread had ahead of it is still ahead, unless the moving thread has just done it. -/
theorem Some.step {Q : τ → Prop} (h : c.Some Q)
    (hmove : Q (c.threads e.1) → Q (next e.2 c.shared (c.threads e.1)).2) :
    (c.step next e).Some Q := by
  obtain ⟨j, hj⟩ := h
  by_cases he : j = e.1
  · subst he
    exact ⟨e.1, by rw [step_threads_self]; exact hmove hj⟩
  · exact ⟨j, by rwa [step_threads_of_ne he]⟩

/-- A thread that nobody interrupts. -/
theorem foldl_replicate_step (i : ι) (x : χ) : ∀ (n : Nat) (c : Sys ι σ τ),
    (((List.replicate n (i, x)).foldl (step next) c).shared,
      ((List.replicate n (i, x)).foldl (step next) c).threads i) =
    (fun w : σ × τ => next x w.1 w.2)^[n] (c.shared, c.threads i)
  | 0, _ => rfl
  | n + 1, c => by
    rw [List.replicate_succ, List.foldl_cons, foldl_replicate_step i x n, step_shared,
      step_threads_self (e := (i, x)), Function.iterate_succ_apply]

end Sys
end Infra
