import GameServer.Infra.Run
import Mathlib.Logic.Relation
import Mathlib.Logic.Function.Basic

/-!
# Programs among others

A thread of a concurrent system as a program that makes requests. What the system answers to a
request `q` has the type `R q`, and the program goes on from there. Between two requests the other
threads go on too.

A contract says what a request can do, what the others may do meanwhile and what a thread owes to
them. `Prog.wp` is the weakest precondition of a program that keeps to its contract:

* `Run.wp`: what it says about the runs of one program
* `Pool.sound`: what it says about many programs whose contracts fit together
* `Pool.Sound.wp_beside`: what it says about one program beside such a pool
-/

namespace Infra

/-- A program with a result of type `α`. -/
inductive Prog (Q : Type) (R : Q → Type) (α : Type) where
  | pure (a : α)
  | step (q : Q) (k : R q → Prog Q R α)

namespace Prog

variable {Q : Type} {R : Q → Type} {α β : Type}

/-- One program after the other. -/
def bind : Prog Q R α → (α → Prog Q R β) → Prog Q R β
  | .pure a, f => f a
  | .step q k, f => .step q fun r => (k r).bind f

instance : Monad (Prog Q R) where
  pure := .pure
  bind := bind

/-- The program that makes one request. -/
def request (q : Q) : Prog Q R (R q) :=
  .step q .pure

end Prog

/-- What a request can make of a state, what the others can make of it before the next request, and
what a request has to meet. -/
structure Contract (Q : Type) (R : Q → Type) (W : Type) where
  exec : (q : Q) → W → R q → W → Prop
  rely : W → W → Prop
  guar : Q → W → W → Prop

namespace Prog

variable {Q W : Type} {R : Q → Type} {α β : Type} {C : Contract Q R W}

/-- Every request of the program meets the contract, and the program ends with `φ`. -/
def wp (C : Contract Q R W) (φ : α → W → Prop) : Prog Q R α → W → Prop
  | .pure a, w => φ a w
  | .step q k, w => ∀ r w₁, C.exec q w r w₁ →
    C.guar q w w₁ ∧ ∀ w₂, C.rely w₁ w₂ → wp C φ (k r) w₂

@[simp] theorem wp_pure {φ : α → W → Prop} {a : α} {w : W} :
    wp C φ (Pure.pure a : Prog Q R α) w ↔ φ a w := Iff.rfl

@[simp] theorem wp_bind {φ : β → W → Prop} {f : α → Prog Q R β} {p : Prog Q R α} {w : W} :
    wp C φ (p >>= f) w ↔ wp C (fun a w => wp C φ (f a) w) p w := by
  change wp C φ (p.bind f) w ↔ _
  induction p generalizing w with
  | pure a => rfl
  | step q k ih =>
    exact forall₃_congr fun r w₁ _ => and_congr_right fun _ => forall₂_congr fun w₂ _ => ih r

theorem wp_mono {φ ψ : α → W → Prop} (h : ∀ a w, φ a w → ψ a w) {p : Prog Q R α} {w : W}
    (hp : wp C φ p w) : wp C ψ p w := by
  induction p generalizing w with
  | pure a => exact h a w hp
  | step q k ih =>
    intro r w₁ hexec
    obtain ⟨hguar, hp⟩ := hp r w₁ hexec
    exact ⟨hguar, fun w₂ hrely => ih r (hp w₂ hrely)⟩

/-- **What every step keeps**, the program keeps too. -/
theorem wp_frame {T : W → Prop} {φ : α → W → Prop}
    (hexec : ∀ q w r w', T w → C.exec q w r w' → C.guar q w w' → T w')
    (hrely : ∀ w w', T w → C.rely w w' → T w') {p : Prog Q R α} {w : W} (hT : T w)
    (hp : wp C φ p w) : wp C (fun a w => φ a w ∧ T w) p w := by
  induction p generalizing w with
  | pure a => exact ⟨hp, hT⟩
  | step q k ih =>
    intro r w₁ hq
    obtain ⟨hguar, hp⟩ := hp r w₁ hq
    have hT₁ := hexec q w r w₁ hT hq hguar
    exact ⟨hguar, fun w₂ hw₂ => ih r (hrely w₁ w₂ hT₁ hw₂) (hp w₂ hw₂)⟩

/-- From every state with `A` the program keeps to its contract and ends with `B`. -/
def Triple (C : Contract Q R W) (A : W → Prop) (p : Prog Q R α) (B : α → W → Prop) : Prop :=
  ∀ w, A w → wp C B p w

theorem Triple.pure {A : W → Prop} {B : α → W → Prop} {a : α} (h : ∀ w, A w → B a w) :
    Triple C A (Pure.pure a) B :=
  h

theorem Triple.bind {A : W → Prop} {B : α → W → Prop} {D : β → W → Prop} {p : Prog Q R α}
    {f : α → Prog Q R β} (hp : Triple C A p B) (hf : ∀ a, Triple C (B a) (f a) D) :
    Triple C A (p >>= f) D :=
  fun w hA => wp_bind.mpr (wp_mono (fun a w hB => hf a w hB) (hp w hA))

theorem Triple.mono {A A' : W → Prop} {B B' : α → W → Prop} {p : Prog Q R α}
    (h : Triple C A p B) (hA : ∀ w, A' w → A w) (hB : ∀ a w, B a w → B' a w) :
    Triple C A' p B' :=
  fun w hw => wp_mono hB (h w (hA w hw))

theorem Triple.ite {c : Prop} [Decidable c] {A : W → Prop} {B : α → W → Prop} {p p' : Prog Q R α}
    (h : c → Triple C A p B) (h' : ¬ c → Triple C A p' B) :
    Triple C A (if c then p else p') B := by
  split
  · next hc => exact h hc
  · next hc => exact h' hc

/-! ## Runs of one program -/

/-- A request that has been carried out. -/
structure Step (Q : Type) (R : Q → Type) (W : Type) where
  before : W
  request : Q
  reply : R request
  after : W

/-- The program gets from one state to another with these steps of its own. -/
inductive Run (C : Contract Q R W) :
    Prog Q R α → W → List (Step Q R W) → Prog Q R α → W → Prop where
  | refl (p : Prog Q R α) (w : W) : Run C p w [] p w
  | step {q : Q} {k : R q → Prog Q R α} {r : R q} {w w₁ w₂ w' : W} {t : List (Step Q R W)}
      {p : Prog Q R α} (hexec : C.exec q w r w₁) (hrely : C.rely w₁ w₂)
      (hrun : Run C (k r) w₂ t p w') : Run C (.step q k) w (⟨w, q, r, w₁⟩ :: t) p w'

/-- The contract about states together with the steps that have led to them, which have to meet
`G`. -/
def recorded (C : Contract Q R W) (G : List (Step Q R W) → Prop) :
    Contract Q R (W × List (Step Q R W)) where
  exec q s r s' := C.exec q s.1 r s'.1 ∧ s'.2 = s.2 ++ [⟨s.1, q, r, s'.1⟩]
  rely s s' := C.rely s.1 s'.1 ∧ s'.2 = s.2
  guar _ _ s' := G s'.2

variable {G : List (Step Q R W) → Prop} {φ : α → W → Prop} {p p' : Prog Q R α} {w w' : W}
  {t : List (Step Q R W)}

/-- **The rest of a run.** -/
theorem Run.wp (h : Run C p w t p' w') (hp : wp C φ p w) : Prog.wp C φ p' w' := by
  induction h with
  | refl => exact hp
  | step hexec hrely hrun ih => exact ih ((hp _ _ hexec).2 _ hrely)

/-- Every step of a run meets the contract. -/
theorem Run.guar (h : Run C p w t p' w') (hp : Prog.wp C φ p w) :
    ∀ e ∈ t, C.guar e.request e.before e.after := by
  induction h with
  | refl => exact fun _ he => absurd he List.not_mem_nil
  | step hexec hrely hrun ih =>
    obtain ⟨hguar, hp⟩ := hp _ _ hexec
    exact List.forall_mem_cons.mpr ⟨hguar, ih (hp _ hrely)⟩

/-- **Runs with what they have done.** The steps meet `G` wherever the run stops, and the program
ends with `φ`. -/
theorem Run.recorded {ψ : α → W × List (Step Q R W) → Prop} {past : List (Step Q R W)}
    (h : Run C p w t p' w') (hG : G past) (hp : Prog.wp (recorded C G) ψ p (w, past)) :
    G (past ++ t) ∧ Prog.wp (Prog.recorded C G) ψ p' (w', past ++ t) := by
  induction h generalizing past with
  | refl =>
    rw [List.append_nil]
    exact ⟨hG, hp⟩
  | @step q k r w w₁ w₂ w' t p hexec hrely hrun ih =>
    obtain ⟨hguar, hp⟩ := hp r (w₁, past ++ [⟨w, q, r, w₁⟩]) ⟨hexec, rfl⟩
    have hrest := ih hguar (hp (w₂, past ++ [⟨w, q, r, w₁⟩]) ⟨hrely, rfl⟩)
    rwa [List.append_assoc] at hrest

/-- What a program does with its steps, without them. -/
theorem wp_of_recorded (hG : ∀ t e, G (t ++ [e]) → C.guar e.request e.before e.after)
    {ψ : α → W × List (Step Q R W) → Prop} {past : List (Step Q R W)}
    (h : Prog.wp (recorded C G) ψ p (w, past)) : Prog.wp C (fun a w => ∃ t, ψ a (w, t)) p w := by
  induction p generalizing w past with
  | pure a => exact ⟨past, h⟩
  | step q k ih =>
    intro r w₁ hexec
    obtain ⟨hguar, hrest⟩ := h r (w₁, past ++ [⟨w, q, r, w₁⟩]) ⟨hexec, rfl⟩
    exact ⟨hG past _ hguar, fun w₂ hrely => ih r (hrest (w₂, _) ⟨hrely, rfl⟩)⟩

/-- The program on its own. -/
def eval (exec : (q : Q) → W → Option (W × R q)) : Prog Q R α → W → Option (W × α)
  | .pure a, w => some (w, a)
  | .step q k, w =>
    match exec q w with
    | none => none
    | some (w₁, r) => (k r).eval exec w₁

theorem run_of_eval {exec : (q : Q) → W → Option (W × R q)}
    (hexec : ∀ q w w' r, exec q w = some (w', r) → C.exec q w r w') (hrefl : ∀ w, C.rely w w)
    {a : α} (h : p.eval exec w = some (w', a)) : ∃ t, Run C p w t (.pure a) w' := by
  induction p generalizing w with
  | pure b =>
    cases h
    exact ⟨[], .refl _ _⟩
  | step q k ih =>
    unfold eval at h
    split at h
    · cases h
    · next w₁ r hr =>
      obtain ⟨t, ht⟩ := ih r h
      exact ⟨_, .step (hexec q w w₁ r hr) (hrefl w₁) ht⟩

end Prog

/-! ## Pools of threads -/

/-- A state of the system and the programs of the threads. -/
structure Pool (ι W Q : Type) (R : Q → Type) where
  world : W
  prog : ι → Prog Q R Unit

/-- A thread makes its next request and the environment chooses `x` for it, or something happens to
the system on its own. -/
inductive Pool.Event (ι X E : Type) where
  | run (i : ι) (x : X)
  | happen (e : E)

namespace Pool

variable {ι W Q X E : Type} {R : Q → Type} [DecidableEq ι]

/-- One step. `exec` is `none` for a request that has to wait. -/
def step (exec : ι → (q : Q) → X → W → Option (W × R q)) (env : E → W → W) (s : Pool ι W Q R) :
    Event ι X E → Pool ι W Q R
  | .run i x =>
    match s.prog i with
    | .pure _ => s
    | .step q k =>
      match exec i q x s.world with
      | none => s
      | some (w, r) => { world := w, prog := Function.update s.prog i (k r) }
  | .happen e => { s with world := env e s.world }

variable {exec : ι → (q : Q) → X → W → Option (W × R q)} {env : E → W → W}
  {C : ι → Contract Q R W} {Inv : W → Prop}

/-- The invariant holds, and the threads keep to their contracts from here on and end with
`post`. -/
def Sound (C : ι → Contract Q R W) (Inv : W → Prop) (post : ι → W → Prop)
    (s : Pool ι W Q R) : Prop :=
  Inv s.world ∧ ∀ i w, (C i).rely s.world w → (s.prog i).wp (C i) (fun _ => post i) w

/-- The contracts fit together: what a thread may do keeps the invariant and is what the others rely
on, and so is what happens on its own. -/
structure Fits (exec : ι → (q : Q) → X → W → Option (W × R q)) (env : E → W → W)
    (C : ι → Contract Q R W) (Inv : W → Prop) : Prop where
  refl : ∀ i w, (C i).rely w w
  trans : ∀ i w w₁ w₂, (C i).rely w w₁ → (C i).rely w₁ w₂ → (C i).rely w w₂
  exec : ∀ i q x w w' r, Inv w → exec i q x w = some (w', r) → (C i).exec q w r w' ∧
    ((C i).guar q w w' → Inv w' ∧ ∀ j, j ≠ i → (C j).rely w w')
  env : ∀ e w, Inv w → Inv (env e w) ∧ ∀ i, (C i).rely w (env e w)

variable {post : ι → W → Prop} {s : Pool ι W Q R}

/-- What a thread of its own makes of the world, the others can rely on. -/
theorem Sound.moved (h : s.Sound C Inv post) (hfits : Fits exec env C Inv) {i : ι} {q : Q} {x : X}
    {w : W} {r : R q} (hexec : exec i q x s.world = some (w, r)) (hguar : (C i).guar q s.world w)
    {p : Prog Q R Unit} (hp : ∀ w', (C i).rely w w' → p.wp (C i) (fun _ => post i) w') :
    Sound C Inv post { world := w, prog := Function.update s.prog i p } := by
  obtain ⟨hI', hrely⟩ := (hfits.exec i q x _ w r h.1 hexec).2 hguar
  refine ⟨hI', fun j w' hw' => ?_⟩
  dsimp only
  by_cases hj : j = i
  · subst hj
    rw [Function.update_self]
    exact hp w' hw'
  · rw [Function.update_of_ne hj]
    exact h.2 j w' (hfits.trans j _ _ _ (hrely j hj) hw')

/-- What a step can be. -/
inductive Stepped (exec : ι → (q : Q) → X → W → Option (W × R q)) (env : E → W → W)
    (s : Pool ι W Q R) : Pool ι W Q R → Prop where
  | idle : Stepped exec env s s
  | happen (e : E) : Stepped exec env s { s with world := env e s.world }
  | run {i : ι} {q : Q} {k : R q → Prog Q R Unit} {x : X} {w : W} {r : R q}
      (hprog : s.prog i = .step q k) (hexec : exec i q x s.world = some (w, r)) :
      Stepped exec env s { world := w, prog := Function.update s.prog i (k r) }

theorem step_cases (exec : ι → (q : Q) → X → W → Option (W × R q)) (env : E → W → W)
    (s : Pool ι W Q R) (e : Event ι X E) : Stepped exec env s (s.step exec env e) := by
  cases e with
  | happen e => exact .happen e
  | run i x =>
    unfold Pool.step
    dsimp only
    split
    · exact .idle
    · next q k hprog =>
      split
      · exact .idle
      · next w r hr => exact .run hprog hr

theorem Sound.step (h : s.Sound C Inv post) (hfits : Fits exec env C Inv) (e : Event ι X E) :
    (s.step exec env e).Sound C Inv post := by
  have hstep := step_cases exec env s e
  generalize s.step exec env e = s' at hstep ⊢
  cases hstep with
  | idle => exact h
  | happen e =>
    obtain ⟨hI', hrely⟩ := hfits.env e s.world h.1
    exact ⟨hI', fun i w hw => h.2 i w (hfits.trans i _ _ _ (hrely i) hw)⟩
  | @run i q k x w r hprog hexec =>
    have hi := h.2 i s.world (hfits.refl i _)
    rw [hprog] at hi
    obtain ⟨hmeets, hrest⟩ := hi r w (hfits.exec i q x _ w r h.1 hexec).1
    exact h.moved hfits hexec hmeets hrest

/-- **Programs that keep to their contracts.** When the contracts fit together, they do so in every
state of every run. -/
theorem sound (h : s.Sound C Inv post) (hfits : Fits exec env C Inv)
    (events : List (Event ι X E)) :
    AllStates (Pool.step exec env) (Sound C Inv post) s events :=
  AllStates.of_step (fun _ e h => Sound.step h hfits e) events h

/-! ## A program beside a pool -/

/-- The contract about a thread beside the threads of a pool, given the one about the world. -/
def beside (exec : ι → (q : Q) → X → W → Option (W × R q)) (env : E → W → W)
    (D : Contract Q R W) : Contract Q R (Pool ι W Q R) where
  exec q s r s' := D.exec q s.world r s'.world ∧ s'.prog = s.prog
  rely := Relation.ReflTransGen fun s s' => ∃ e, s' = s.step exec env e
  guar q s s' := D.guar q s.world s'.world

omit [DecidableEq ι] in
theorem Sound.mono (h : s.Sound C Inv post) {post' : ι → W → Prop}
    (hpost : ∀ i w, post i w → post' i w) : s.Sound C Inv post' :=
  ⟨h.1, fun i w hw => Prog.wp_mono (fun _ w => hpost i w) (h.2 i w hw)⟩

/-- The steps of a pool, for a thread that has nothing to do in there. -/
theorem Sound.rely (h : s.Sound C Inv post) (hfits : Fits exec env C Inv) {i : ι}
    (hi : s.prog i = .pure ()) {s' : Pool ι W Q R}
    (hrely : Relation.ReflTransGen (fun s s' => ∃ e : Event ι X E, s' = s.step exec env e) s s') :
    s'.Sound C Inv post ∧ s'.prog i = .pure () ∧ (C i).rely s.world s'.world := by
  induction hrely with
  | refl => exact ⟨h, hi, hfits.refl i _⟩
  | @tail s₁ s₂ _ hstep ih =>
    obtain ⟨e, rfl⟩ := hstep
    obtain ⟨h₁, hi₁, hrely⟩ := ih
    have h₂ := h₁.step hfits e
    have hstep := step_cases exec env s₁ e
    generalize s₁.step exec env e = s₂ at hstep h₂ ⊢
    cases hstep with
    | idle => exact ⟨h₁, hi₁, hrely⟩
    | happen e => exact ⟨h₂, hi₁, hfits.trans i _ _ _ hrely ((hfits.env e _ h₁.1).2 i)⟩
    | @run j q k x w r hprog hexec =>
      have hij : i ≠ j := by
        rintro rfl
        rw [hi₁] at hprog
        cases hprog
      have hj := h₁.2 j _ (hfits.refl j _)
      rw [hprog] at hj
      obtain ⟨hmay, hguar⟩ := hfits.exec j q x _ w r h₁.1 hexec
      exact ⟨h₂, (Function.update_of_ne hij _ _).trans hi₁,
        hfits.trans i _ _ _ hrely ((hguar (hj r w hmay).1).2 i hij)⟩

/-- **A thread beside a pool** whose contracts fit together. -/
theorem Sound.wp_beside {α : Type} {D : Contract Q R W} {i : ι} {φ : α → W → Prop}
    {p : Prog Q R α} (hfits : Fits exec env C Inv)
    (hexec : ∀ q w r w', D.exec q w r w' → ∃ x, exec i q x w = some (w', r))
    (hrely : ∀ w w', (C i).rely w w' → D.rely w w')
    (hguar : ∀ q w w', D.guar q w w' → (C i).guar q w w') (h : s.Sound C Inv fun _ _ => True)
    (hi : s.prog i = .pure ()) (hp : p.wp D φ s.world) :
    p.wp (beside exec env D) (fun a s => φ a s.world) s := by
  induction p generalizing s with
  | pure a => exact hp
  | step q k ih =>
    rintro r ⟨w, prog⟩ ⟨hq, hprog⟩
    dsimp only at hq hprog
    subst hprog
    obtain ⟨x, hx⟩ := hexec q _ r w hq
    obtain ⟨hmeets, hrest⟩ := hp r w hq
    refine ⟨hmeets, fun s₂ hs₂ => ?_⟩
    have hmoved := h.moved hfits hx (hguar q _ w hmeets) (p := .pure ()) fun _ _ => trivial
    have hsame : Function.update s.prog i (.pure ()) = s.prog := by
      rw [← hi]
      exact Function.update_eq_self i s.prog
    rw [hsame] at hmoved
    obtain ⟨h₂, hi₂, hw₂⟩ := hmoved.rely hfits hi hs₂
    exact ih r h₂ hi₂ (hrest _ (hrely _ _ hw₂))

theorem exists_run_beside {α : Type} {D : Contract Q R W}
    {run : (q : Q) → W → Option (W × R q)}
    (hrun : ∀ q w w' r, run q w = some (w', r) → D.exec q w r w') {p : Prog Q R α}
    {w : W} {a : α} (h : p.eval run s.world = some (w, a)) :
    ∃ t, Prog.Run (beside exec env D) p s t (.pure a) { s with world := w } := by
  induction p generalizing s with
  | pure b =>
    cases h
    exact ⟨[], .refl _ _⟩
  | step q k ih =>
    unfold Prog.eval at h
    split at h
    · cases h
    · next w₁ r hr =>
      have hstep : (beside exec env D).exec q s r { s with world := w₁ } :=
        ⟨hrun q _ w₁ r hr, rfl⟩
      obtain ⟨t, ht⟩ := ih r (s := { s with world := w₁ }) h
      exact ⟨_, .step hstep .refl ht⟩

/-- A thread that nobody interrupts. -/
theorem exists_foldl_of_eval {i : ι} {x : X} {p : Prog Q R Unit} {w : W} (hi : s.prog i = p)
    (h : p.eval (fun q => exec i q x) s.world = some (w, ())) :
    ∃ events : List (Event ι X E), events.foldl (Pool.step exec env) s =
      { world := w, prog := Function.update s.prog i (.pure ()) } := by
  induction p generalizing s with
  | pure a =>
    cases h
    refine ⟨[], ?_⟩
    rw [← hi, Function.update_eq_self]
    rfl
  | step q k ih =>
    unfold Prog.eval at h
    split at h
    · cases h
    · next w₁ r hr =>
      have hstep : s.step exec env (.run i x) =
          { world := w₁, prog := Function.update s.prog i (k r) } := by
        simp only [Pool.step, hi, hr]
      have hself : Function.update s.prog i (k r) i = k r := Function.update_self ..
      obtain ⟨events, hevents⟩ := ih r
        (s := { world := w₁, prog := Function.update s.prog i (k r) }) hself h
      refine ⟨.run i x :: events, ?_⟩
      rw [List.foldl_cons, hstep, hevents, Function.update_idem]

end Pool
end Infra
