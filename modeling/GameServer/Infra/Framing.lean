import Mathlib.Data.List.Basic

/-!
# Frames cut out of a byte stream

A stream parser sees the stream only through a buffer that grows by arbitrary chunks.
It looks at the head of the buffer and either waits, rejects, or cuts off one frame.

The two laws of `Parser` say that the answer about the head never changes once it is given:
bytes that arrive later are only appended to the remainder.
They are what makes the result independent of how the stream is cut into chunks
(`feed_eq_drain`).
-/

namespace Infra.Framing

variable {α β ε : Type*}

/-- What the head of the buffer is. -/
inductive Head (α β ε : Type*) where
  /-- Not a complete frame yet. -/
  | more
  /-- No continuation can make this a frame. -/
  | bad (e : ε)
  /-- One frame, and the buffer after it. -/
  | frame (a : α) (rest : List β)

/-- A head parser whose answers are stable under appending. -/
structure Parser (α β ε : Type*) where
  head : List β → Head α β ε
  head_nil : head [] = .more
  shrink : ∀ {b a rest}, head b = .frame a rest → rest.length < b.length
  frame_append : ∀ {b a rest} (x : List β), head b = .frame a rest →
    head (b ++ x) = .frame a (rest ++ x)
  bad_append : ∀ {b e} (x : List β), head b = .bad e → head (b ++ x) = .bad e

namespace Parser

variable (P : Parser α β ε)

/-- Cuts frames off the buffer until the head is not a frame.
Returns the frames, the remainder and the error the loop stopped at, if any. -/
def drain (b : List β) : List α × List β × Option ε :=
  match _h : P.head b with
  | .more => ([], b, none)
  | .bad e => ([], b, some e)
  | .frame a rest =>
    let r := drain rest
    (a :: r.1, r.2)
termination_by b.length
decreasing_by exact P.shrink (by assumption)

theorem drain_more {b : List β} (h : P.head b = .more) : P.drain b = ([], b, none) := by
  rw [drain]
  split <;> simp_all

theorem drain_bad {b : List β} {e : ε} (h : P.head b = .bad e) : P.drain b = ([], b, some e) := by
  rw [drain]
  split <;> simp_all

theorem drain_frame {b rest : List β} {a : α} (h : P.head b = .frame a rest) :
    P.drain b = (a :: (P.drain rest).1, (P.drain rest).2) := by
  rw [drain]
  split <;> simp_all

/-- The induction that follows the loop: frame after frame until the head is not a frame. -/
theorem drain_induction {motive : List β → Prop}
    (more : ∀ b, P.head b = .more → motive b)
    (bad : ∀ b e, P.head b = .bad e → motive b)
    (frame : ∀ b a rest, P.head b = .frame a rest → motive rest → motive b)
    (b : List β) : motive b := by
  induction hn : b.length using Nat.strongRecOn generalizing b with
  | _ n ih =>
    cases hb : P.head b with
    | more => exact more b hb
    | bad e => exact bad b e hb
    | frame a rest =>
      have hlt : rest.length < n := by rw [← hn]; exact P.shrink hb
      exact frame b a rest hb (ih rest.length hlt rest rfl)

/-- Draining a longer buffer: what was drained stays, and draining goes on from the remainder. -/
theorem drain_append (b x : List β) (h : (P.drain b).2.2 = none) :
    P.drain (b ++ x)
      = ((P.drain b).1 ++ (P.drain ((P.drain b).2.1 ++ x)).1,
          (P.drain ((P.drain b).2.1 ++ x)).2) := by
  induction b using P.drain_induction with
  | more b hb => simp [P.drain_more hb]
  | bad b e hb => simp [P.drain_bad hb] at h
  | frame b a rest hb ih =>
    rw [P.drain_frame hb] at h
    rw [P.drain_frame (P.frame_append x hb), P.drain_frame hb, ih h]
    simp

/-- The remainder holds no further frame. -/
theorem drain_rest (b : List β) (h : (P.drain b).2.2 = none) :
    P.drain (P.drain b).2.1 = ([], (P.drain b).2.1, none) := by
  induction b using P.drain_induction with
  | more b hb => simp [P.drain_more hb]
  | bad b e hb => simp [P.drain_bad hb] at h
  | frame b a rest hb ih =>
    rw [P.drain_frame hb] at h ⊢
    exact ih h

/-- An error met by draining a buffer is met again when more bytes follow. -/
theorem drain_append_bad (b x : List β) {e : ε} (h : (P.drain b).2.2 = some e) :
    P.drain (b ++ x) = ((P.drain b).1, (P.drain b).2.1 ++ x, some e) := by
  induction b using P.drain_induction with
  | more b hb => simp [P.drain_more hb] at h
  | bad b e' hb =>
    rw [P.drain_bad hb] at h ⊢
    rw [P.drain_bad (P.bad_append x hb)]
    simp_all
  | frame b a rest hb ih =>
    rw [P.drain_frame hb] at h
    rw [P.drain_frame (P.frame_append x hb), P.drain_frame hb, ih h]

/-! ## Chunks -/

/-- Appends the chunks one by one and drains after each one. Stops at the first error. -/
def feed (b : List β) : List (List β) → List α × List β × Option ε
  | [] => ([], b, none)
  | c :: cs =>
    let r := P.drain (b ++ c)
    match r.2.2 with
    | some e => (r.1, r.2.1, some e)
    | none =>
      let r' := feed r.2.1 cs
      (r.1 ++ r'.1, r'.2)

/--
**The way the stream is cut into chunks does not matter.**

`b` is what earlier chunks have left over, so it holds no complete frame.
-/
theorem feed_eq_drain : ∀ (cs : List (List β)) (b : List β),
    P.drain b = ([], b, none) → (P.drain (b ++ cs.flatten)).2.2 = none →
    P.feed b cs = P.drain (b ++ cs.flatten)
  | [], b, hb, _ => by simp [feed, hb]
  | c :: cs, b, hb, h => by
    rw [List.flatten_cons, ← List.append_assoc] at h ⊢
    cases he : (P.drain (b ++ c)).2.2 with
    | some e => rw [P.drain_append_bad (b ++ c) _ he] at h; simp at h
    | none =>
      rw [P.drain_append (b ++ c) _ he] at h ⊢
      have ih := feed_eq_drain cs (P.drain (b ++ c)).2.1 (P.drain_rest (b ++ c) he) h
      simp only [feed, he, ih]

/-! ## Writing frames -/

/-- Draining what a writer has written gives back the frames and leaves nothing. -/
theorem drain_flatMap {γ : Type*} (write : γ → List β) (frame : γ → α) : ∀ l : List γ,
    (∀ g ∈ l, ∀ x, P.head (write g ++ x) = .frame (frame g) x) →
    P.drain (l.flatMap write) = (l.map frame, [], none)
  | [], _ => P.drain_more P.head_nil
  | g :: l, h => by
    rw [List.flatMap_cons, P.drain_frame (h g List.mem_cons_self _),
      drain_flatMap write frame l (fun g' hg' => h g' (List.mem_cons_of_mem _ hg'))]
    rfl

/-! ## What was drained -/

/-- The head of what is left over is not a frame; it is incomplete or the error. -/
theorem head_rest (b : List β) :
    P.head (P.drain b).2.1 = match (P.drain b).2.2 with | none => .more | some e => .bad e := by
  induction b using P.drain_induction with
  | more b hb => rw [P.drain_more hb, hb]
  | bad b e hb => rw [P.drain_bad hb, hb]
  | frame b a rest hb ih => rwa [P.drain_frame hb]

/-- A reader that cuts off exactly what the writer has written gives back the whole buffer. -/
theorem drain_flatMap_append {write : α → List β}
    (hwrite : ∀ {b a rest}, P.head b = .frame a rest → write a ++ rest = b) (b : List β) :
    (P.drain b).1.flatMap write ++ (P.drain b).2.1 = b := by
  induction b using P.drain_induction with
  | more b hb => rw [P.drain_more hb]; rfl
  | bad b e hb => rw [P.drain_bad hb]; rfl
  | frame b a rest hb ih =>
    rw [P.drain_frame hb, List.flatMap_cons, List.append_assoc, ih]
    exact hwrite hb

theorem drain_forall {Q : α → Prop} (hQ : ∀ {b a rest}, P.head b = .frame a rest → Q a)
    (b : List β) : ∀ a ∈ (P.drain b).1, Q a := by
  induction b using P.drain_induction with
  | more b hb => rw [P.drain_more hb]; simp
  | bad b e hb => rw [P.drain_bad hb]; simp
  | frame b a rest hb ih =>
    rw [P.drain_frame hb]
    exact List.forall_mem_cons.mpr ⟨hQ hb, ih⟩

/-- Draining frames with anything behind them. -/
theorem drain_write_append {write : α → List β} {Q : α → Prop}
    (hread : ∀ a, Q a → ∀ x, P.head (write a ++ x) = .frame a x) : ∀ (l : List α),
    (∀ a ∈ l, Q a) → ∀ x : List β, P.drain (l.flatMap write ++ x) = (l ++ (P.drain x).1, (P.drain x).2)
  | [], _, _ => rfl
  | a :: l, hl, x => by
    rw [List.flatMap_cons, List.append_assoc, P.drain_frame (hread a (hl a List.mem_cons_self) _),
      drain_write_append hread l (fun a' ha' => hl a' (List.mem_cons_of_mem _ ha')) x]
    rfl

/-- **The frames that are drained are the longest list of frames at the head of the buffer.** -/
theorem flatMap_prefix_iff {write : α → List β} {Q : α → Prop}
    (hread : ∀ a, Q a → ∀ x, P.head (write a ++ x) = .frame a x)
    (hwrite : ∀ {b a rest}, P.head b = .frame a rest → write a ++ rest = b) {l : List α}
    (hl : ∀ a ∈ l, Q a) {b : List β} : l.flatMap write <+: b ↔ l <+: (P.drain b).1 := by
  constructor
  · rintro ⟨x, rfl⟩
    rw [P.drain_write_append hread l hl x]
    exact List.prefix_append l _
  · rintro ⟨l', hl'⟩
    refine ⟨l'.flatMap write ++ (P.drain b).2.1, ?_⟩
    rw [← List.append_assoc, ← List.flatMap_append, hl', P.drain_flatMap_append hwrite]

end Parser

end Infra.Framing
