/-!
# Runs

A transition function applied to a list of events, and the two ways of looking at such a run: the
states it goes through and the steps it takes.

* `AllStates.of_allSteps`: an invariant that every step keeps, as long as the step meets a guard
* `allStates_iff_allSteps`, `allSteps_iff_allSteps`: the same with the guard exact
* `allSteps_of_allStates`: an exact guard for a property that fails some time after a bad step
* `last_of_guard`: an exact guard for a property of the last state only
* `answers_eq`: two systems that answer every call alike
-/

namespace Infra

variable {σ : Type _} {ε : Type _} (step : σ → ε → σ)

/-- `P` in every state of the run, the first and the last included. -/
def AllStates (P : σ → Prop) (s : σ) : List ε → Prop
  | [] => P s
  | e :: es => P s ∧ AllStates P (step s e) es

/-- `G` of every event of the run in the state in which it happens. -/
def AllSteps (G : σ → ε → Prop) (s : σ) : List ε → Prop
  | [] => True
  | e :: es => G s e ∧ AllSteps G (step s e) es

instance decidableAllSteps {G : σ → ε → Prop} [∀ s e, Decidable (G s e)] :
    ∀ (s : σ) (es : List ε), Decidable (AllSteps step G s es)
  | _, [] => isTrue trivial
  | s, e :: es =>
    have : Decidable (AllSteps step G (step s e) es) := decidableAllSteps (step s e) es
    inferInstanceAs (Decidable (G s e ∧ AllSteps step G (step s e) es))

variable {step}

/-- What no step of a run changes, the run does not change. -/
theorem foldl_frame {τ : Type _} {π : σ → τ} (hstep : ∀ s e, π (step s e) = π s) :
    ∀ (es : List ε) (s : σ), π (es.foldl step s) = π s
  | [], _ => rfl
  | e :: es, s => (foldl_frame hstep es (step s e)).trans (hstep s e)

theorem AllStates.last {P : σ → Prop} : ∀ (es : List ε) {s : σ},
    AllStates step P s es → P (es.foldl step s)
  | [], _, h => h
  | _ :: es, _, h => AllStates.last es h.2

theorem AllStates.imp {P Q : σ → Prop} (hPQ : ∀ s, P s → Q s) : ∀ (es : List ε) {s : σ},
    AllStates step P s es → AllStates step Q s es
  | [], _, h => hPQ _ h
  | _ :: es, _, h => ⟨hPQ _ h.1, AllStates.imp hPQ es h.2⟩

theorem AllSteps.imp {G H : σ → ε → Prop} (hGH : ∀ s e, G s e → H s e) : ∀ (es : List ε) {s : σ},
    AllSteps step G s es → AllSteps step H s es
  | [], _, _ => trivial
  | _ :: es, _, h => ⟨hGH _ _ h.1, AllSteps.imp hGH es h.2⟩

theorem allSteps_append {G : σ → ε → Prop} : ∀ {es es' : List ε} {s : σ},
    AllSteps step G s (es ++ es') ↔ AllSteps step G s es ∧ AllSteps step G (es.foldl step s) es'
  | [], _, _ => (iff_of_eq (true_and _)).symm
  | _ :: _, _, _ => (and_congr_right fun _ => allSteps_append).trans and_assoc.symm

/-- **The invariant rule.** Steps that meet the guard keep the invariant. -/
theorem AllStates.of_allSteps {I : σ → Prop} {G : σ → ε → Prop}
    (hstep : ∀ s e, I s → G s e → I (step s e)) : ∀ (es : List ε) {s : σ},
    I s → AllSteps step G s es → AllStates step I s es
  | [], _, hs, _ => hs
  | _ :: es, _, hs, h => ⟨hs, AllStates.of_allSteps hstep es (hstep _ _ hs h.1) h.2⟩

/-- The invariant rule for steps that need no guard. -/
theorem AllStates.of_step {I : σ → Prop} (hstep : ∀ s e, I s → I (step s e)) :
    ∀ (es : List ε) {s : σ}, I s → AllStates step I s es
  | [], _, hs => hs
  | _ :: es, _, hs => ⟨hs, AllStates.of_step hstep es (hstep _ _ hs)⟩

/--
**An exact guard.**

The invariant gives the property, a step that meets the guard keeps the invariant, and a step that
does not meet it breaks the property. Then the runs with the property throughout are exactly those
whose steps all meet the guard.
-/
theorem allStates_iff_allSteps {I P : σ → Prop} {G : σ → ε → Prop} (hIP : ∀ s, I s → P s)
    (hstep : ∀ s e, I s → G s e → I (step s e))
    (hbad : ∀ s e, I s → P (step s e) → G s e) : ∀ (es : List ε) {s : σ}, I s →
    (AllStates step P s es ↔ AllSteps step G s es)
  | [], s, hs => ⟨fun _ => trivial, fun _ => hIP s hs⟩
  | e :: es, s, hs => by
    constructor
    · rintro ⟨-, hrest⟩
      have hP : P (step s e) := by
        cases es with
        | nil => exact hrest
        | cons e' es => exact hrest.1
      have hG := hbad s e hs hP
      exact ⟨hG, (allStates_iff_allSteps hIP hstep hbad es (hstep s e hs hG)).mp hrest⟩
    · rintro ⟨hG, hrest⟩
      exact ⟨hIP s hs, (allStates_iff_allSteps hIP hstep hbad es (hstep s e hs hG)).mpr hrest⟩

/-- The same for a property of the steps: it gives the invariant for the state after the step. -/
theorem allSteps_iff_allSteps {I : σ → Prop} {P G : σ → ε → Prop}
    (hiff : ∀ s e, I s → (P s e ↔ G s e)) (hkeep : ∀ s e, I s → P s e → I (step s e)) :
    ∀ (es : List ε) {s : σ}, I s → (AllSteps step P s es ↔ AllSteps step G s es)
  | [], _, _ => Iff.rfl
  | e :: es, s, hs => by
    constructor
    · rintro ⟨hP, hrest⟩
      exact ⟨(hiff s e hs).mp hP,
        (allSteps_iff_allSteps hiff hkeep es (hkeep s e hs hP)).mp hrest⟩
    · rintro ⟨hG, hrest⟩
      have hP := (hiff s e hs).mpr hG
      exact ⟨hP, (allSteps_iff_allSteps hiff hkeep es (hkeep s e hs hP)).mpr hrest⟩

/--
**A guard that shows late.**

After a step that does not meet the guard the property holds for a while, but it is bound to fail
before the run ends.
-/
theorem allSteps_of_allStates {I P B : σ → Prop} {G : σ → ε → Prop}
    (hstep : ∀ s e, I s → G s e → I (step s e)) (hbad : ∀ s e, I s → ¬ G s e → B (step s e))
    (hkeep : ∀ s e, B s → P s → B (step s e)) (es : List ε) {s : σ} (hs : I s)
    (hlast : B (es.foldl step s) → ¬ P (es.foldl step s)) (h : AllStates step P s es) :
    AllSteps step G s es := by
  have hdoomed : ∀ (es : List ε) {s : σ}, B s → AllStates step P s es → B (es.foldl step s) := by
    intro es
    induction es with
    | nil => exact fun hB _ => hB
    | cons e es ih => exact fun hB h => ih (hkeep _ e hB h.1) h.2
  induction es generalizing s with
  | nil => trivial
  | cons e es ih =>
    by_cases hG : G s e
    · exact ⟨hG, ih (hstep s e hs hG) hlast h.2⟩
    · have hB := hdoomed es (hbad s e hs hG) h.2
      exact absurd (h.2.last es) (hlast hB)

/-- A run stays in a set that no step leaves. -/
theorem last_of_stable {B : σ → Prop} (hstable : ∀ s e, B s → B (step s e)) :
    ∀ (es : List ε) {s : σ}, B s → B (es.foldl step s)
  | [], _, h => h
  | _ :: es, _, h => last_of_stable hstable es (hstable _ _ h)

/-- A run whose steps meet the guard ends with the invariant, any other run ends badly. -/
theorem last_of_guard {I B : σ → Prop} {G : σ → ε → Prop}
    (hstep : ∀ s e, I s → G s e → I (step s e)) (hbad : ∀ s e, I s → ¬ G s e → B (step s e))
    (hstable : ∀ s e, B s → B (step s e)) : ∀ (es : List ε) {s : σ}, I s →
    (AllSteps step G s es ∧ I (es.foldl step s)) ∨ (¬ AllSteps step G s es ∧ B (es.foldl step s))
  | [], _, hs => Or.inl ⟨trivial, hs⟩
  | e :: es, s, hs => by
    by_cases hG : G s e
    · rcases last_of_guard hstep hbad hstable es (hstep s e hs hG) with ⟨h, hI⟩ | ⟨h, hB⟩
      · exact Or.inl ⟨⟨hG, h⟩, hI⟩
      · exact Or.inr ⟨fun hall => h hall.2, hB⟩
    · exact Or.inr ⟨fun hall => hG hall.1, last_of_stable hstable es (hbad s e hs hG)⟩

/-! ## Answers -/

/-- The answers to a list of calls, one after the other. -/
def answers {ρ : Type _} (call : σ → ε → ρ × σ) : σ → List ε → List ρ
  | _, [] => []
  | s, e :: es => (call s e).1 :: answers call (call s e).2 es

/-- **Simulation.** Two systems that answer alike in related states, and stay related, answer alike
for good. -/
theorem answers_eq {τ : Type _} {ρ : Type _} {call : σ → ε → ρ × σ} {call' : τ → ε → ρ × τ}
    {R : σ → τ → Prop}
    (hcall : ∀ s t e, R s t → (call s e).1 = (call' t e).1 ∧ R (call s e).2 (call' t e).2) :
    ∀ (es : List ε) {s : σ} {t : τ}, R s t → answers call s es = answers call' t es
  | [], _, _, _ => rfl
  | e :: es, s, t, hR => by
    obtain ⟨hsame, hR'⟩ := hcall s t e hR
    rw [answers, answers, hsame, answers_eq hcall es hR']

end Infra
