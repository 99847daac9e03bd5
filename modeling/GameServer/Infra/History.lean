import Mathlib.Data.List.Induction

/-!
# Histories

A list of events, oldest first, in which every event is justified by those before it. A monitor
reads such a list with a state of its own and gets stuck at an event that it does not allow:
`justified_of_monitor` says how to read off what the histories that a monitor accepts have in
common.
-/

namespace Infra

variable {ε : Type _} {Q : List ε → ε → Prop}

/-- `Q past e` for every event `e` of the history and the events `past` before it. -/
def Justified (Q : List ε → ε → Prop) (history : List ε) : Prop :=
  ∀ past e later, history = past ++ e :: later → Q past e

theorem justified_nil : Justified Q [] := by
  intro past e later h
  simp at h

theorem justified_concat {history : List ε} {e : ε} :
    Justified Q (history ++ [e]) ↔ Justified Q history ∧ Q history e := by
  constructor
  · intro h
    refine ⟨fun past e' later heq => ?_, h history e [] rfl⟩
    exact h past e' (later ++ [e]) (by rw [heq, List.append_assoc, List.cons_append])
  · rintro ⟨h, he⟩ past e' later heq
    rcases List.eq_nil_or_concat later with rfl | ⟨later', e'', rfl⟩
    · obtain ⟨hpast, hlast⟩ := List.append_inj' heq rfl
      rw [← hpast, ← List.singleton_inj.mp hlast]
      exact he
    · -- the last event is not the one in question
      rw [List.concat_eq_append, ← List.cons_append, ← List.append_assoc] at heq
      exact h past e' later' (List.append_inj' heq rfl).1

variable {σ : Type _} {next : σ → ε → Option σ} {J : σ → List ε → Prop}

/--
**What a monitor guarantees.**

`J` says what the state of the monitor remembers of the history. If in every step that the monitor
takes `J` justifies the event and goes on, then every history that the monitor accepts is justified.
-/
theorem justified_of_monitor {s : σ} (hstart : J s [])
    (hstep : ∀ s s' past e, J s past → next s e = some s' → Q past e ∧ J s' (past ++ [e]))
    (history : List ε) : ∀ {s'}, history.foldlM next s = some s' →
      Justified Q history ∧ J s' history := by
  induction history using List.reverseRecOn with
  | nil =>
    intro s' h
    cases h
    exact ⟨justified_nil, hstart⟩
  | append_singleton history e ih =>
    intro s' h
    rw [List.foldlM_append] at h
    obtain ⟨s₁, h₁, h⟩ := Option.bind_eq_some_iff.mp h
    obtain ⟨hjust, hJ⟩ := ih h₁
    have hnext : next s₁ e = some s' := by simpa using h
    obtain ⟨hQ, hJ'⟩ := hstep s₁ s' history e hJ hnext
    exact ⟨justified_concat.mpr ⟨hjust, hQ⟩, hJ'⟩

end Infra
