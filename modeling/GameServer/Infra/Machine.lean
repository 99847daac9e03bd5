import GameServer.Infra.Prog

/-!
# Machines that call programs

A machine that steps on its own and in some states waits for the result of a program. The program
makes its requests as one thread of a pool. The other threads of the pool go on meanwhile, and so
does the machine, as far as it does not wait.

* `Machine.Rules`: what machine and world have in common, and what a program has to establish for
  the machine to go on
* `Served.sound`: then they have it in common in every state of every run
-/

namespace Infra

/-- A machine with steps `χ` of its own and calls `κ`, which are answered by `α`. -/
structure Machine (σ χ κ α Q : Type) (R : Q → Type) where
  next : χ → σ → σ
  /-- The call whose answer the machine waits for. -/
  waits : σ → Option κ
  prog : κ → Prog Q R α
  resume : α → σ → σ

/-- A machine beside a pool. -/
structure Served (σ α ι W Q : Type) (R : Q → Type) where
  machine : σ
  pool : Pool ι W Q R
  /-- What remains of the call that is in progress. -/
  call : Option (Prog Q R α)

/-- A step of the machine, of its call, or of the pool. -/
inductive Served.Event (χ ι X E : Type) where
  | machine (x : χ)
  | call (x : X)
  | pool (e : Pool.Event ι X E)

namespace Served

variable {σ χ κ α ι W Q X E : Type} {R : Q → Type} [DecidableEq ι]

/-- One step; the thread `i` makes the requests of the calls. A call begins, makes its next request
or returns. -/
def step (M : Machine σ χ κ α Q R) (i : ι)
    (exec : ι → (q : Q) → X → W → Option (W × R q)) (env : E → W → W) (s : Served σ α ι W Q R) :
    Event χ ι X E → Served σ α ι W Q R
  | .machine x => { s with machine := M.next x s.machine }
  | .pool e => { s with pool := s.pool.step exec env e }
  | .call x =>
    match s.call with
    | none => { s with call := (M.waits s.machine).map M.prog }
    | some (.pure a) => { s with machine := M.resume a s.machine, call := none }
    | some (.step q k) =>
      match exec i q x s.pool.world with
      | none => s
      | some (w, r) => { s with pool := { s.pool with world := w }, call := some (k r) }

/-- The call that the machine waits for begins. -/
theorem step_call {M : Machine σ χ κ α Q R} {i : ι}
    {exec : ι → (q : Q) → X → W → Option (W × R q)} {env : E → W → W} {s : Served σ α ι W Q R}
    (hnone : s.call.isNone) {c : κ} (hwaits : M.waits s.machine = some c) (x : X) :
    s.step M i exec env (.call x) = { s with call := some (M.prog c) } := by
  unfold step
  dsimp only
  rw [Option.isNone_iff_eq_none.mp hnone, hwaits]
  rfl

end Served

section

variable {σ χ κ α ι W Q X E : Type} {R : Q → Type}

/-- `J` is what machine and world have in common, `P` what the world is like between two calls, and
`K` what the answer to a call tells. -/
structure Machine.Rules (M : Machine σ χ κ α Q R) (C : Contract Q R W) (Inv : W → Prop)
    (J : σ → W → Prop) (P : W → Prop) (K : κ → α → W → Prop) : Prop where
  /-- The machine goes on waiting for the same call. -/
  waits : ∀ x m c w, J m w → M.waits m = some c → M.waits (M.next x m) = some c
  next : ∀ x m w, J m w → J (M.next x m) w
  rely : ∀ m w w', Inv w → C.rely w w' → J m w → J m w'
  request : ∀ m q w r w', Inv w → C.exec q w r w' → C.guar q w w' → J m w → J m w'
  prog : ∀ c, Prog.Triple C P (M.prog c) fun a w => K c a w ∧ P w
  resume : ∀ m c a w, M.waits m = some c → J m w → K c a w → J (M.resume a m) w

/-- The call that is in progress is the one that the machine waits for, and it will be answered as
it ought to be. -/
def Machine.InProgress (M : Machine σ χ κ α Q R) (C : Contract Q R W) (P : W → Prop)
    (K : κ → α → W → Prop) (m : σ) (w : W) : Option (Prog Q R α) → Prop
  | none => ∀ w', C.rely w w' → P w'
  | some p => ∃ c, M.waits m = some c ∧
      ∀ w', C.rely w w' → p.wp C (fun a w => K c a w ∧ P w) w'

/-- The invariant of the whole system. -/
structure Served.Sound (M : Machine σ χ κ α Q R) (i : ι) (C : ι → Contract Q R W)
    (Inv : W → Prop) (J : σ → W → Prop) (P : W → Prop) (K : κ → α → W → Prop)
    (s : Served σ α ι W Q R) : Prop where
  pool : s.pool.Sound C Inv fun _ _ => True
  /-- The thread of the machine has no program of its own. -/
  thread : s.pool.prog i = .pure ()
  common : J s.machine s.pool.world
  call : M.InProgress (C i) P K s.machine s.pool.world s.call

namespace Served

variable {M : Machine σ χ κ α Q R} {i : ι} {C : ι → Contract Q R W} {Inv : W → Prop}
  {J : σ → W → Prop} {P : W → Prop} {K : κ → α → W → Prop}
  {exec : ι → (q : Q) → X → W → Option (W × R q)} {env : E → W → W}
  {s : Served σ α ι W Q R}

theorem Sound.machine (h : s.Sound M i C Inv J P K) (hrules : M.Rules (C i) Inv J P K) (x : χ) :
    Sound M i C Inv J P K { s with machine := M.next x s.machine } where
  pool := h.pool
  thread := h.thread
  common := hrules.next x _ _ h.common
  call := by
    have hcall := h.call
    dsimp only
    cases hp : s.call with
    | none => rwa [hp] at hcall
    | some p =>
      rw [hp] at hcall
      obtain ⟨c, hwaits, hwp⟩ := hcall
      exact ⟨c, hrules.waits x _ c _ h.common hwaits, hwp⟩

variable [DecidableEq ι] (hfits : Pool.Fits exec env C Inv)

include hfits in
theorem Sound.others (h : s.Sound M i C Inv J P K) (hrules : M.Rules (C i) Inv J P K)
    (e : Pool.Event ι X E) : Sound M i C Inv J P K { s with pool := s.pool.step exec env e } := by
  obtain ⟨hpool, hthread, hrely⟩ := h.pool.rely hfits h.thread (.single ⟨e, rfl⟩)
  refine ⟨hpool, hthread, hrules.rely _ _ _ h.pool.1 hrely h.common, ?_⟩
  have hcall := h.call
  dsimp only
  cases hp : s.call with
  | none =>
    rw [hp] at hcall
    exact fun w hw => hcall w (hfits.trans i _ _ _ hrely hw)
  | some p =>
    rw [hp] at hcall
    obtain ⟨c, hwaits, hwp⟩ := hcall
    exact ⟨c, hwaits, fun w hw => hwp w (hfits.trans i _ _ _ hrely hw)⟩

include hfits in
/-- A request of the call that is in progress. -/
theorem Sound.request (h : s.Sound M i C Inv J P K) (hrules : M.Rules (C i) Inv J P K) {q : Q}
    {k : R q → Prog Q R α} {x : X} {w : W} {r : R q} (hcall : s.call = some (.step q k))
    (hexec : exec i q x s.pool.world = some (w, r)) :
    Sound M i C Inv J P K { s with pool := { s.pool with world := w }, call := some (k r) } := by
  have hprogress := h.call
  rw [hcall] at hprogress
  obtain ⟨c, hwaits, hwp⟩ := hprogress
  obtain ⟨hmay, -⟩ := hfits.exec i q x _ w r h.pool.1 hexec
  obtain ⟨hguar, hrest⟩ := hwp _ (hfits.refl i _) r w hmay
  have hmoved := h.pool.moved hfits hexec hguar (p := .pure ()) fun _ _ => trivial
  -- The thread has had no program and gets none.
  have hsame : Function.update s.pool.prog i (.pure ()) = s.pool.prog := by
    rw [← h.thread]
    exact Function.update_eq_self i s.pool.prog
  rw [hsame] at hmoved
  exact ⟨hmoved, h.thread, hrules.request _ q _ r w h.pool.1 hmay hguar h.common,
    c, hwaits, hrest⟩

include hfits in
theorem Sound.step (h : s.Sound M i C Inv J P K) (hrules : M.Rules (C i) Inv J P K)
    (e : Event χ ι X E) : (s.step M i exec env e).Sound M i C Inv J P K := by
  cases e with
  | machine x => exact h.machine hrules x
  | pool e => exact h.others hfits hrules e
  | call x =>
    have hcall := h.call
    unfold Served.step
    dsimp only
    split
    · next hnone =>
      refine ⟨h.pool, h.thread, h.common, ?_⟩
      rw [hnone] at hcall
      dsimp only
      cases hwaits : M.waits s.machine with
      | none => exact hcall
      | some c => exact ⟨c, hwaits, fun w hw => hrules.prog c w (hcall w hw)⟩
    · next a hreturned =>
      rw [hreturned] at hcall
      obtain ⟨c, hwaits, hwp⟩ := hcall
      obtain ⟨hanswer, -⟩ := hwp _ (hfits.refl i _)
      exact ⟨h.pool, h.thread, hrules.resume _ c a _ hwaits h.common hanswer,
        fun w hw => (hwp w hw).2⟩
    · next q k hstep =>
      split
      · exact h
      · next w r hexec => exact h.request hfits hrules hstep hexec

include hfits in
/-- **A machine that gets the answers it relies on.** -/
theorem sound (h : s.Sound M i C Inv J P K) (hrules : M.Rules (C i) Inv J P K)
    (events : List (Event χ ι X E)) :
    AllStates (Served.step M i exec env) (Sound M i C Inv J P K) s events :=
  AllStates.of_step (fun _ e h => h.step hfits hrules e) events h

end Served

end

end Infra
