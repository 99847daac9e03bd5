import GameServer.Game.GameState
import Mathlib.Data.Finset.Basic
import Mathlib.Data.List.Nodup

/-!
# MatchQueue

`src/match/match_queue.cpp`. The agreement of `queue_` with `in_queue_` is part of the type, and
each operation carries the proof that it keeps it.
-/

namespace Game

/-- The players waiting for a match, in order of arrival. -/
structure MatchQueue where
  queue : List PlayerId
  inQueue : Finset PlayerId
  queue_nodup : queue.Nodup
  zero_notMem : (0 : PlayerId) ∉ queue
  mem_inQueue : ∀ {p}, p ∈ inQueue ↔ p ∈ queue

namespace MatchQueue

/-- A queue without players. -/
def empty : MatchQueue where
  queue := []
  inQueue := ∅
  queue_nodup := List.nodup_nil
  zero_notMem := by simp
  mem_inQueue := by simp

/-- `Push`. -/
def push (q : MatchQueue) (playerId : PlayerId) : Bool × MatchQueue :=
  if h : playerId = 0 ∨ playerId ∈ q.inQueue then (false, q)
  else
    (true,
      { queue := q.queue ++ [playerId]
        inQueue := insert playerId q.inQueue
        queue_nodup := by
          have hq : playerId ∉ q.queue := fun hm => h (Or.inr (q.mem_inQueue.mpr hm))
          refine q.queue_nodup.append (List.nodup_singleton _) ?_
          rwa [List.disjoint_singleton]
        zero_notMem := by
          rw [List.mem_append, List.mem_singleton]
          rintro (hm | hm)
          · exact q.zero_notMem hm
          · exact h (Or.inl hm.symm)
        mem_inQueue := by
          intro p
          rw [Finset.mem_insert, List.mem_append, List.mem_singleton, q.mem_inQueue, or_comm] })

/-- `Remove`. -/
def remove (q : MatchQueue) (playerId : PlayerId) : Bool × MatchQueue :=
  if playerId ∉ q.inQueue then (false, q)
  else
    (true,
      { queue := q.queue.filter (· ≠ playerId)
        inQueue := q.inQueue.erase playerId
        queue_nodup := q.queue_nodup.filter _
        zero_notMem := fun hm => q.zero_notMem (List.mem_filter.mp hm).1
        mem_inQueue := by
          intro p
          rw [Finset.mem_erase, List.mem_filter, q.mem_inQueue, and_comm]
          simp })

/-- `Contains`. -/
def contains (q : MatchQueue) (playerId : PlayerId) : Bool :=
  decide (playerId ∈ q.inQueue)

/-- The loop of `TryPopN` takes the players off `in_queue_` one by one. -/
theorem mem_foldl_erase : ∀ (ps : List PlayerId) (m : Finset PlayerId) {p : PlayerId},
    p ∈ ps.foldl Finset.erase m ↔ p ∈ m ∧ p ∉ ps
  | [], _, _ => by simp
  | q :: ps, m, p => by
    rw [List.foldl_cons, mem_foldl_erase ps, Finset.mem_erase, List.mem_cons]
    tauto

/-- `TryPopN`. -/
def tryPopN (q : MatchQueue) (n : Nat) : List PlayerId × MatchQueue :=
  if q.queue.length < n then ([], q)
  else
    (q.queue.take n,
      { queue := q.queue.drop n
        inQueue := (q.queue.take n).foldl Finset.erase q.inQueue
        queue_nodup := q.queue_nodup.sublist (List.drop_sublist n _)
        zero_notMem := fun hm => q.zero_notMem (List.mem_of_mem_drop hm)
        mem_inQueue := by
          intro p
          have hnd := q.queue_nodup
          rw [← List.take_append_drop n q.queue, List.nodup_append] at hnd
          rw [mem_foldl_erase, q.mem_inQueue]
          constructor
          · rintro ⟨hm, hnot⟩
            rw [← List.take_append_drop n q.queue, List.mem_append] at hm
            exact hm.resolve_left hnot
          · intro hm
            exact ⟨List.mem_of_mem_drop hm, fun ht => hnd.2.2 p ht p hm rfl⟩ })

/-- `Size`. -/
def size (q : MatchQueue) : Nat :=
  q.queue.length

/-! ## What the operations do to the queue -/

theorem push_eq_true_iff {q : MatchQueue} {p : PlayerId} :
    (q.push p).1 = true ↔ p ≠ 0 ∧ p ∉ q.queue := by
  unfold push
  split
  · next h =>
    rw [q.mem_inQueue] at h
    simp only [Bool.false_eq_true, false_iff]
    tauto
  · next h =>
    rw [q.mem_inQueue] at h
    simp only [true_iff]
    tauto

theorem push_of_false {q : MatchQueue} {p : PlayerId} (h : (q.push p).1 = false) :
    (q.push p).2 = q := by
  unfold push at h ⊢
  split
  · rfl
  · next hn => rw [dif_neg hn] at h; simp at h

theorem queue_push {q : MatchQueue} {p : PlayerId} (h : (q.push p).1 = true) :
    (q.push p).2.queue = q.queue ++ [p] := by
  unfold push at h ⊢
  split
  · next hn => rw [dif_pos hn] at h; simp at h
  · rfl

theorem mem_queue_remove {q : MatchQueue} {p p' : PlayerId} :
    p' ∈ (q.remove p).2.queue ↔ p' ∈ q.queue ∧ p' ≠ p := by
  unfold remove
  split
  · next h =>
    rw [q.mem_inQueue] at h
    constructor
    · exact fun hm => ⟨hm, fun he => h (he ▸ hm)⟩
    · exact And.left
  · simp

theorem remove_eq_true_iff {q : MatchQueue} {p : PlayerId} :
    (q.remove p).1 = true ↔ p ∈ q.queue := by
  unfold remove
  split
  · next h => simpa [q.mem_inQueue] using h
  · next h => simpa [q.mem_inQueue] using h

theorem remove_of_false {q : MatchQueue} {p : PlayerId} (h : (q.remove p).1 = false) :
    (q.remove p).2 = q := by
  unfold remove at h ⊢
  split
  · rfl
  · next hn => rw [if_neg hn] at h; simp at h

theorem queue_remove {q : MatchQueue} {p : PlayerId} (h : (q.remove p).1 = true) :
    (q.remove p).2.queue = q.queue.filter (· ≠ p) := by
  unfold remove at h ⊢
  split
  · next hn => rw [if_pos hn] at h; simp at h
  · rfl

theorem contains_iff {q : MatchQueue} {p : PlayerId} : q.contains p = true ↔ p ∈ q.queue := by
  rw [contains, decide_eq_true_iff, q.mem_inQueue]

/-- **`TryPopN` splits the queue**, or returns nothing and leaves it alone. -/
theorem tryPopN_append (q : MatchQueue) (n : Nat) :
    (q.tryPopN n).1 ++ (q.tryPopN n).2.queue = q.queue := by
  unfold tryPopN
  split
  · rfl
  · exact List.take_append_drop n _

/-- A group that comes off the queue is its first `n` players. -/
theorem tryPopN_of_ne_nil {q : MatchQueue} {n : Nat} (h : (q.tryPopN n).1 ≠ []) :
    n ≤ q.queue.length ∧ (q.tryPopN n).1 = q.queue.take n ∧
      (q.tryPopN n).2.queue = q.queue.drop n := by
  unfold tryPopN at h ⊢
  split
  · next hlt => rw [if_pos hlt] at h; exact absurd rfl h
  · next hlt => exact ⟨not_lt.mp hlt, rfl, rfl⟩

/-- No group comes off a queue that is too short. -/
theorem length_lt_of_tryPopN_nil {q : MatchQueue} {n : Nat} (h : (q.tryPopN n).1 = []) :
    q.queue.length < n ∨ n = 0 := by
  by_contra hn
  rw [not_or, not_lt] at hn
  unfold tryPopN at h
  rw [if_neg (not_lt.mpr hn.1), List.take_eq_nil_iff] at h
  rcases h with h | h
  · exact hn.2 h
  · rw [h] at hn
    exact hn.2 (Nat.le_zero.mp hn.1)

theorem tryPopN_of_nil {q : MatchQueue} {n : Nat} (h : (q.tryPopN n).1 = []) :
    (q.tryPopN n).2.queue = q.queue := by
  have happ := q.tryPopN_append n
  rwa [h] at happ

end MatchQueue
end Game
