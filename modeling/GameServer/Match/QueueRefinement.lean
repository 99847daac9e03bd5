import GameServer.Infra.Run
import GameServer.Match.MatchQueue

/-!
# What MatchQueue is

`MatchQueue` with its two containers as the code has them, call by call, and the list that it
implements.

`MatchQueue.fields` forgets the proofs of a queue. The functions below act on the containers of a
queue as those of `MatchQueue` do (`call_fields`), so the two containers agree in every reachable
state.
-/

namespace Game

open Infra

/-- A call of a function of `MatchQueue`. -/
inductive QueueCall where
  | push (playerId : PlayerId)
  | remove (playerId : PlayerId)
  | contains (playerId : PlayerId)
  | size
  | popN (n : Nat)
  | tryPopN (n : Nat)

/-- What it returns. -/
inductive QueueResult where
  | flag (value : Bool)
  | count (value : Nat)
  | players (value : List PlayerId)

/-! ## The two containers -/

/-- `queue_` and `in_queue_`. -/
structure QueueFields where
  queue : List PlayerId := []
  inQueue : Finset PlayerId := ∅

namespace QueueFields

def push (f : QueueFields) (playerId : PlayerId) : Bool × QueueFields :=
  if playerId = 0 ∨ playerId ∈ f.inQueue then (false, f)
  else (true, { queue := f.queue ++ [playerId], inQueue := insert playerId f.inQueue })

def remove (f : QueueFields) (playerId : PlayerId) : Bool × QueueFields :=
  if playerId ∉ f.inQueue then (false, f)
  else (true, { queue := f.queue.filter (· ≠ playerId), inQueue := f.inQueue.erase playerId })

/-- The loop of `TryPopN`. `front` of an empty queue is undefined; the size has been tested. -/
def popLoop : Nat → List PlayerId → QueueFields → List PlayerId × QueueFields
  | 0, result, f => (result, f)
  | n + 1, result, f =>
    match f.queue with
    | [] => (result, f)
    | playerId :: queue =>
      popLoop n (result ++ [playerId]) { queue := queue, inQueue := f.inQueue.erase playerId }

def tryPopN (f : QueueFields) (n : Nat) : List PlayerId × QueueFields :=
  if f.queue.length < n then ([], f) else popLoop n [] f

/-- A call. -/
def call (f : QueueFields) : QueueCall → QueueResult × QueueFields
  | .push playerId => (.flag (f.push playerId).1, (f.push playerId).2)
  | .remove playerId => (.flag (f.remove playerId).1, (f.remove playerId).2)
  | .contains playerId => (.flag (playerId ∈ f.inQueue), f)
  | .size => (.count f.queue.length, f)
  | .popN n | .tryPopN n => (.players (f.tryPopN n).1, (f.tryPopN n).2)

/-- The containers agree. -/
structure Agree (f : QueueFields) : Prop where
  nodup : f.queue.Nodup
  zero : (0 : PlayerId) ∉ f.queue
  mem : ∀ p, p ∈ f.inQueue ↔ p ∈ f.queue

/-- The loop of `TryPopN` moves the first players of the queue to the result. -/
theorem popLoop_eq : ∀ (n : Nat) (result : List PlayerId) (f : QueueFields), n ≤ f.queue.length →
    popLoop n result f =
      (result ++ f.queue.take n,
        { queue := f.queue.drop n, inQueue := (f.queue.take n).foldl Finset.erase f.inQueue })
  | 0, result, f, _ => by simp [popLoop]
  | n + 1, result, ⟨[], _⟩, h => absurd h (Nat.not_succ_le_zero n)
  | n + 1, result, ⟨playerId :: queue, inQueue⟩, h => by
    rw [popLoop]
    dsimp only
    rw [popLoop_eq n _ _ (Nat.le_of_succ_le_succ h), List.take_succ_cons, List.drop_succ_cons,
      List.foldl_cons, List.append_assoc]
    rfl

end QueueFields

/-! ## The list -/

/-- What `MatchQueue` is for: players in order of arrival, each of them once. -/
abbrev WaitingList := List PlayerId

namespace WaitingList

/-- A call. -/
def call (l : WaitingList) : QueueCall → QueueResult × WaitingList
  | .push p => if p = 0 ∨ p ∈ l then (.flag false, l) else (.flag true, l ++ [p])
  | .remove p => (.flag (p ∈ l), l.erase p)
  | .contains p => (.flag (p ∈ l), l)
  | .size => (.count l.length, l)
  | .popN n | .tryPopN n =>
    if n ≤ l.length then (.players (l.take n), l.drop n) else (.players [], l)

end WaitingList

/-! ## Refinement -/

namespace MatchQueue

/-- The containers of a queue. -/
def fields (q : MatchQueue) : QueueFields where
  queue := q.queue
  inQueue := q.inQueue

theorem agree_fields (q : MatchQueue) : q.fields.Agree :=
  ⟨q.queue_nodup, q.zero_notMem, fun _ => q.mem_inQueue⟩

theorem push_fields (q : MatchQueue) (p : PlayerId) :
    q.fields.push p = ((q.push p).1, (q.push p).2.fields) := by
  unfold QueueFields.push push
  by_cases h : p = 0 ∨ p ∈ q.inQueue
  · rw [if_pos (by exact h), dif_pos h]
  · rw [if_neg (by exact h), dif_neg h]
    rfl

theorem remove_fields (q : MatchQueue) (p : PlayerId) :
    q.fields.remove p = ((q.remove p).1, (q.remove p).2.fields) := by
  unfold QueueFields.remove remove
  by_cases h : p ∉ q.inQueue
  · rw [if_pos (by exact h), if_pos h]
  · rw [if_neg (by exact h), if_neg h]
    rfl

theorem tryPopN_fields (q : MatchQueue) (n : Nat) :
    q.fields.tryPopN n = ((q.tryPopN n).1, (q.tryPopN n).2.fields) := by
  unfold QueueFields.tryPopN tryPopN
  by_cases h : q.queue.length < n
  · rw [if_pos (by exact h), if_pos h]
  · rw [if_neg (by exact h), if_neg h, QueueFields.popLoop_eq n [] q.fields (not_lt.mp h)]
    rfl

/-- The queue after a call. -/
def after (q : MatchQueue) : QueueCall → MatchQueue
  | .push playerId => (q.push playerId).2
  | .remove playerId => (q.remove playerId).2
  | .contains _ | .size => q
  | .popN n | .tryPopN n => (q.tryPopN n).2

theorem call_fields (q : MatchQueue) (c : QueueCall) :
    (q.fields.call c).2 = (q.after c).fields := by
  cases c with
  | push p => exact congrArg Prod.snd (q.push_fields p)
  | remove p => exact congrArg Prod.snd (q.remove_fields p)
  | contains p | size => rfl
  | popN n | tryPopN n => exact congrArg Prod.snd (q.tryPopN_fields n)

/-- **One call.** The containers and the list give the same answer and stay together. -/
theorem call_waitingList (q : MatchQueue) (c : QueueCall) :
    (q.fields.call c).1 = (WaitingList.call q.queue c).1 ∧
      (q.after c).queue = (WaitingList.call q.queue c).2 := by
  cases c with
  | push p =>
    unfold QueueFields.call WaitingList.call after
    dsimp only
    rw [q.push_fields p]
    cases hpush : (q.push p).1 with
    | false =>
      have hnot : p = 0 ∨ p ∈ q.queue := by
        by_contra hn
        rw [not_or] at hn
        rw [push_eq_true_iff.mpr hn] at hpush
        cases hpush
      rw [if_pos hnot, push_of_false hpush]
      exact ⟨rfl, rfl⟩
    | true =>
      obtain ⟨hzero, hmem⟩ := push_eq_true_iff.mp hpush
      rw [if_neg (not_or.mpr ⟨hzero, hmem⟩), queue_push hpush]
      exact ⟨rfl, rfl⟩
  | remove p =>
    unfold QueueFields.call WaitingList.call after
    dsimp only
    rw [q.remove_fields p]
    have hflag : (q.remove p).1 = decide (p ∈ q.queue) := by
      rw [Bool.eq_iff_iff, remove_eq_true_iff, decide_eq_true_iff]
    refine ⟨congrArg QueueResult.flag hflag, ?_⟩
    cases hremove : (q.remove p).1 with
    | false =>
      have hmem : p ∉ q.queue := fun h => by
        rw [remove_eq_true_iff.mpr h] at hremove
        cases hremove
      rw [remove_of_false hremove, List.erase_of_not_mem hmem]
    | true =>
      rw [queue_remove hremove, q.queue_nodup.erase_eq_filter]
      exact List.filter_congr fun x _ => decide_not
  | contains p =>
    refine ⟨congrArg QueueResult.flag ?_, rfl⟩
    exact decide_eq_decide.mpr q.mem_inQueue
  | size => exact ⟨rfl, rfl⟩
  | popN n | tryPopN n =>
    unfold QueueFields.call WaitingList.call after
    dsimp only
    rw [q.tryPopN_fields n]
    unfold tryPopN
    by_cases h : q.queue.length < n
    · rw [if_pos h, if_neg (not_le.mpr h)]
      exact ⟨rfl, rfl⟩
    · rw [if_neg h, if_pos (not_lt.mp h)]
      exact ⟨rfl, rfl⟩

/--
**MatchQueue refines a list.**

Any calls in any order. In every state `queue_` has no repetition and no 0 and `in_queue_` has the
same elements, and every call returns what it returns for the list.
-/
theorem refines_waitingList (calls : List QueueCall) :
    AllStates (fun f c => (QueueFields.call f c).2) QueueFields.Agree {} calls ∧
      answers QueueFields.call {} calls = answers WaitingList.call [] calls := by
  have hstep : ∀ (f : QueueFields) (c : QueueCall), (∃ q : MatchQueue, f = q.fields) →
      ∃ q : MatchQueue, (f.call c).2 = q.fields := by
    rintro _ c ⟨q, rfl⟩
    exact ⟨_, q.call_fields c⟩
  constructor
  · refine AllStates.imp ?_ calls (AllStates.of_step hstep calls ⟨empty, rfl⟩)
    rintro _ ⟨q, rfl⟩
    exact q.agree_fields
  · refine answers_eq (R := fun f l => ∃ q : MatchQueue, f = q.fields ∧ l = q.queue) ?_ calls
      ⟨empty, rfl, rfl⟩
    rintro _ _ c ⟨q, rfl, rfl⟩
    obtain ⟨hanswer, hqueue⟩ := q.call_waitingList c
    exact ⟨hanswer, _, q.call_fields c, hqueue.symm⟩

end MatchQueue
end Game
