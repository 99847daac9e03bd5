import GameServer.Infra.Fifo
import GameServer.Server.Places
import GameServer.Server.Threads
import Mathlib.Algebra.Group.Nat.Defs

/-!
# Forming rooms

Any number of `StartMatching` and `HandleCancelMatch` calls, interleaved. A history records what
happens to the queue and which rooms are opened; the invariant says that it is a fair history of
the queue and that every group that a call has popped becomes one room of that call.
-/

namespace Game

open Infra

variable {ι F : Type}

/-! ## The calls -/

/-- A thread in `HandleCancelMatch`. -/
inductive CancelPc where
  | start (session : SessionId) (requested : PlayerId)
  | remove (session : SessionId) (p : PlayerId)
  | setStatus (session : SessionId) (p : PlayerId)
  | setPlayerRoom (session : SessionId) (p : PlayerId)
  | setSessionRoom (session : SessionId)
  | reply (session : SessionId) (removed : Bool)
  | done
  deriving DecidableEq

/-- One step of `HandleCancelMatch`. -/
def CancelPc.next (s : Server F) : CancelPc → Server F × CancelPc
  | .start session requested => (s, .remove session (s.actingPlayer session requested))
  | .remove session p =>
    let (removed, queue) := s.matchQueue.remove p
    (s.withQueue queue, if removed then .setStatus session p else .reply session false)
  | .setStatus session p => (s.setPlayerStatus p .online, .setPlayerRoom session p)
  | .setPlayerRoom session p => (s.setPlayerRoomId p 0, .setSessionRoom session)
  | .setSessionRoom session => (s.setSessionRoomId session 0, .reply session true)
  | .reply session removed =>
    (s.send session (if removed then .matchCancelResponse 0 "cancelled"
      else .matchCancelResponse 2 "not matching"), .done)
  | .done => (s, .done)

/-- A call of `StartMatching`, which is over when there is no `MatchPc` left, or of
`HandleCancelMatch`. -/
inductive MatchCall where
  | start (pc : Option MatchPc)
  | cancel (pc : CancelPc)
  deriving DecidableEq

/-- What happens to the queue and to the rooms. -/
inductive MatchEvent where
  | push (p : PlayerId)
  | remove (p : PlayerId)
  | pop (players : List PlayerId)
  | create (roomId : RoomId) (players : List PlayerId)
  deriving DecidableEq

/-- The server with the history of its queue and its rooms, oldest first; each event comes with the
call that caused it. -/
structure Arena (ι F : Type) where
  server : Server F
  history : List (ι × MatchEvent) := []

/-- What the next step of a call is, if it is a successful operation of the queue or a new room. -/
def MatchCall.event (s : Server F) : MatchCall → Option MatchEvent
  | .start (some (.push p _)) => if (s.matchQueue.push p).1 then some (.push p) else none
  | .start (some .tryPop) =>
    let players := (s.matchQueue.tryPopN s.needCount).1
    if players = [] then none else some (.pop players)
  | .start (some (.createRoom players)) => some (.create s.nextRoomId players)
  | .cancel (.remove _ p) => if (s.matchQueue.remove p).1 then some (.remove p) else none
  | _ => none

/-- One step of a call. -/
def MatchCall.run (s : Server F) : MatchCall → Server F × MatchCall
  | .start (some pc) => let (s, pc) := pc.next s; (s, .start pc)
  | .start none => (s, .start none)
  | .cancel pc => let (s, pc) := pc.next s; (s, .cancel pc)

/-- One step of the call `i`, with the history. -/
def MatchCall.next (i : ι) (a : Arena ι F) (call : MatchCall) : Arena ι F × MatchCall :=
  ({ server := (call.run a.server).1
     history := a.history ++ ((call.event a.server).map (i, ·)).toList }, (call.run a.server).2)

/-- The calls of a run. -/
abbrev MatchCalls (ι F : Type) := Sys ι (Arena ι F) MatchCall

/-- One step of the call `i`. -/
abbrev MatchCalls.step [DecidableEq ι] (c : MatchCalls ι F) (i : ι) : MatchCalls ι F :=
  Sys.step (fun _ : Unit => MatchCall.next i) c (i, ())

/-- A call that has not begun. -/
def MatchCall.isStart : MatchCall → Bool
  | .start (some (.push _ _)) => true
  | .cancel (.start _ _) => true
  | _ => false

/-- A call that has returned. -/
def MatchCall.isDone : MatchCall → Bool
  | .start none => true
  | .cancel .done => true
  | _ => false

/-- The calls `calls` before the first step. -/
def MatchCalls.start (s : Server F) (calls : ι → MatchCall) : MatchCalls ι F :=
  { shared := { server := s }, threads := calls }

/-! ## What a step does -/

/-- A call that has a `TryPopN` ahead of it. -/
def MatchCall.popsAhead : MatchCall → Bool
  | .start (some (.push _ _)) | .start (some (.contains _ _)) => false
  | .start (some (.setStatus _ _ pushed)) | .start (some (.setPlayerRoom _ _ pushed))
  | .start (some (.setSessionRoom _ _ pushed)) | .start (some (.reply _ pushed)) => pushed
  | .start (some _) => true
  | .start none | .cancel _ => false

/-- The group that a call has popped and has not opened a room for. -/
def MatchCall.pending : MatchCall → Option (List PlayerId)
  | .start (some (.createRoom players)) => some players
  | _ => none

/-- What one step of a call does to the places, and what it leaves the call to do. -/
inductive MatchCall.Does (n : Nat) (w : Places) (call : MatchCall) :
    Option MatchEvent → Places → MatchCall → Prop where
  | quiet {call'} (hpending : call.pending = none) (hpending' : call'.pending = none)
      (hahead : call.popsAhead → call'.popsAhead) : Does n w call none w call'
  | push {call' queue} (p : PlayerId) (hp : p ∉ w.queue.queue)
      (hqueue : queue.queue = w.queue.queue ++ [p]) (hpending : call.pending = none)
      (hpending' : call'.pending = none) (hahead : call'.popsAhead) :
      Does n w call (some (.push p)) { w with queue := queue } call'
  | remove {call' queue} (p : PlayerId) (hp : p ∈ w.queue.queue)
      (hqueue : queue.queue = w.queue.queue.filter (· ≠ p)) (hpending : call.pending = none)
      (hpending' : call'.pending = none) (hahead : call.popsAhead = false) :
      Does n w call (some (.remove p)) { w with queue := queue } call'
  | pop {call' queue} (players : List PlayerId) (hne : players ≠ [])
      (hn : n ≤ w.queue.queue.length) (hplayers : players = w.queue.queue.take n)
      (hqueue : queue.queue = w.queue.queue.drop n) (hpending : call.pending = none)
      (hpending' : call'.pending = some players) (hahead : call'.popsAhead) :
      Does n w call (some (.pop players)) { w with queue := queue } call'
  | return {call' queue} (hn : w.queue.queue.length < n ∨ n = 0)
      (hqueue : queue.queue = w.queue.queue) (hpending : call.pending = none)
      (hpending' : call'.pending = none) : Does n w call none { w with queue := queue } call'
  | create {call'} (players : List PlayerId) (hpending : call.pending = some players)
      (hpending' : call'.pending = none) (hahead : call'.popsAhead) :
      Does n w call (some (.create w.nextRoomId players)) (w.form players w.queue) call'

section

variable {s : Server F}

/-- A step that has nothing to do with the queue and the rooms. -/
theorem MatchCall.Does.same {n : Nat} {w w' : Places} {call call' : MatchCall}
    (hw : w' = w) (hpending : call.pending = none) (hpending' : call'.pending = none)
    (hahead : call.popsAhead → call'.popsAhead) : Does n w call none w' call' := by
  subst hw
  exact .quiet hpending hpending' hahead

theorem MatchCall.does_start {pc : MatchPc}
    (hnd : ∀ players, (start (some pc)).pending = some players → players.Nodup) :
    Does s.needCount s.places (.start (some pc)) (event s (.start (some pc)))
      (pc.next s).1.places (.start (pc.next s).2) := by
  cases pc with
  | push p session =>
    simp only [event, MatchPc.next]
    by_cases hpush : (s.matchQueue.push p).1 = true
    · obtain ⟨hp0, hp⟩ := MatchQueue.push_eq_true_iff.mp hpush
      simp only [if_neg hp0, hpush, if_true]
      exact .push p hp (MatchQueue.queue_push hpush) rfl rfl rfl
    · have hpush' : (s.matchQueue.push p).1 = false := by simpa using hpush
      have hqueue := MatchQueue.push_of_false hpush'
      simp only [hpush', Bool.false_eq_true, if_false, hqueue]
      split
      · exact .same rfl rfl rfl id
      · exact .same rfl rfl rfl id
  | contains p session =>
    simp only [event, MatchPc.next]
    split <;> exact .same rfl rfl rfl id
  | setStatus p session pushed => exact .same rfl rfl rfl id
  | setPlayerRoom p session pushed => exact .same rfl rfl rfl id
  | setSessionRoom p session pushed =>
    exact .same (Server.places_setSessionRoomId s session 0) rfl rfl id
  | reply session pushed =>
    cases pushed with
    | true => exact .same rfl rfl rfl fun _ => rfl
    | false => exact .same rfl rfl rfl id
  | tryPop =>
    simp only [event, MatchPc.next]
    by_cases hnil : (s.matchQueue.tryPopN s.needCount).1 = []
    · simp only [hnil, if_true]
      exact .return (MatchQueue.length_lt_of_tryPopN_nil hnil) (MatchQueue.tryPopN_of_nil hnil)
        rfl rfl
    · obtain ⟨hn, hplayers, hqueue⟩ := MatchQueue.tryPopN_of_ne_nil hnil
      simp only [hnil, if_false]
      exact .pop _ hnil hn hplayers hqueue rfl rfl rfl
  | createRoom players =>
    have hplaces := s.places_createRoom (hnd players rfl)
    simp only [event, MatchPc.next, hplaces]
    exact .create players rfl rfl rfl
  | joinStatus roomId players todo => cases todo <;> exact .same rfl rfl rfl id
  | joinRoom roomId players p todo => exact .same rfl rfl rfl id
  | joinNotify roomId players p todo =>
    simp only [event, MatchPc.next]
    split <;> exact .same rfl rfl rfl id

theorem MatchCall.does_cancel (s : Server F) (pc : CancelPc) :
    Does s.needCount s.places (.cancel pc) (event s (.cancel pc)) (pc.next s).1.places
      (.cancel (pc.next s).2) := by
  cases pc with
  | remove session p =>
    simp only [event, CancelPc.next]
    by_cases hremove : (s.matchQueue.remove p).1 = true
    · simp only [hremove, if_true]
      exact .remove p (MatchQueue.remove_eq_true_iff.mp hremove) (MatchQueue.queue_remove hremove)
        rfl rfl rfl
    · have hremove' : (s.matchQueue.remove p).1 = false := by simpa using hremove
      simp only [hremove', Bool.false_eq_true, if_false, MatchQueue.remove_of_false hremove']
      exact .same rfl rfl rfl id
  | setSessionRoom session =>
    exact .same (Server.places_setSessionRoomId s session 0) rfl rfl id
  | _ => exact .same rfl rfl rfl id

/-- **What a step of a call does.** -/
theorem MatchCall.does_run {call : MatchCall}
    (hnd : ∀ players, call.pending = some players → players.Nodup) :
    Does s.needCount s.places call (call.event s) (call.run s).1.places (call.run s).2 := by
  cases call with
  | start pc =>
    cases pc with
    | none => exact .same rfl rfl rfl id
    | some pc => exact does_start hnd
  | cancel pc => exact does_cancel s pc

theorem MatchCall.roomPlayerCount_run (s : Server F) (call : MatchCall) :
    (call.run s).1.roomPlayerCount = s.roomPlayerCount := by
  cases call with
  | start pc =>
    cases pc with
    | none => rfl
    | some pc =>
      cases pc with
      | push p session =>
        simp only [run, MatchPc.next]
        split <;> rfl
      | createRoom players =>
        exact s.view_createRoom Server.roomPlayerCount (fun _ _ => rfl) (fun _ _ _ => rfl)
          (fun _ _ _ => rfl) players
      | reply session pushed => cases pushed <;> rfl
      | joinStatus roomId players todo => cases todo <;> rfl
      | joinNotify roomId players p todo =>
        simp only [run, MatchPc.next]
        split <;> rfl
      | _ => rfl
  | cancel pc => cases pc <;> rfl

end

/-! ## How long a call takes -/

/-- A bound on the steps that `StartMatching` has ahead of it when `waiting` players are in the
queue and no other call pushes: a round of the loop with `k` players takes `3 * k + 3`. -/
def MatchPc.fuel (waiting : Nat) : MatchPc → Nat
  | .push _ _ => 6 * waiting + 12
  | .contains _ _ => 6 * waiting + 6
  | .setStatus _ _ _ => 6 * waiting + 5
  | .setPlayerRoom _ _ _ => 6 * waiting + 4
  | .setSessionRoom _ _ _ => 6 * waiting + 3
  | .reply _ _ => 6 * waiting + 2
  | .tryPop => 6 * waiting + 1
  | .createRoom players => 6 * waiting + 3 * players.length + 3
  | .joinStatus _ _ todo => 6 * waiting + 3 * todo.length + 2
  | .joinRoom _ _ _ todo => 6 * waiting + 3 * todo.length + 4
  | .joinNotify _ _ _ todo => 6 * waiting + 3 * todo.length + 3

/-- The steps that `HandleCancelMatch` has ahead of it. -/
def CancelPc.fuel : CancelPc → Nat
  | .start _ _ => 6
  | .remove _ _ => 5
  | .setStatus _ _ => 4
  | .setPlayerRoom _ _ => 3
  | .setSessionRoom _ => 2
  | .reply _ _ => 1
  | .done => 0

/-- The same for a call. -/
def MatchCall.fuel (waiting : Nat) : MatchCall → Nat
  | .start (some pc) => pc.fuel waiting
  | .start none => 0
  | .cancel pc => pc.fuel

theorem MatchPc.fuel_next (s : Server F) (pc : MatchPc) :
    MatchCall.fuel (pc.next s).1.matchQueue.queue.length (.start (pc.next s).2) + 1 ≤
      pc.fuel s.matchQueue.queue.length := by
  cases pc with
  | push p session =>
    simp only [next]
    split
    · simp [MatchCall.fuel, fuel]
    · by_cases hpush : (s.matchQueue.push p).1 = true
      · simp only [hpush, if_true, MatchCall.fuel, fuel, Server.withQueue,
          MatchQueue.queue_push hpush, List.length_append, List.length_singleton]
        omega
      · have hpush' : (s.matchQueue.push p).1 = false := by simpa using hpush
        simp only [hpush', Bool.false_eq_true, if_false, MatchCall.fuel, fuel, Server.withQueue,
          MatchQueue.push_of_false hpush']
        omega
  | contains p session =>
    simp only [next]
    split <;> simp only [MatchCall.fuel, fuel] <;> omega
  | reply session pushed => cases pushed <;> simp [next, MatchCall.fuel, fuel, Server.send]
  | tryPop =>
    simp only [next]
    have hsplit := congrArg List.length (s.matchQueue.tryPopN_append s.needCount)
    rw [List.length_append] at hsplit
    by_cases hnil : (s.matchQueue.tryPopN s.needCount).1 = []
    · simp [hnil, MatchCall.fuel, fuel]
    · have hpos := List.length_pos_of_ne_nil hnil
      simp only [hnil, if_false, MatchCall.fuel, fuel, Server.withQueue]
      omega
  | createRoom players =>
    have hqueue : (s.createRoom players).2.matchQueue = s.matchQueue :=
      s.view_createRoom Server.matchQueue (fun _ _ => rfl) (fun _ _ _ => rfl) (fun _ _ _ => rfl)
        players
    simp only [next, MatchCall.fuel, fuel, hqueue]
    omega
  | joinStatus roomId players todo =>
    cases todo with
    | nil => simp [next, MatchCall.fuel, fuel]
    | cons p todo =>
      simp only [next, MatchCall.fuel, fuel, Server.setPlayerStatus, Server.updatePlayers,
        List.length_cons]
      omega
  | joinNotify roomId players p todo =>
    simp only [next]
    split <;> simp [MatchCall.fuel, fuel, Server.send]
  | _ => simp [next, MatchCall.fuel, fuel, Server.setPlayerStatus, Server.setPlayerRoomId,
      Server.setSessionRoomId, Server.updatePlayers, Server.updateSession]

theorem CancelPc.fuel_next (s : Server F) {pc : CancelPc} (hpc : pc ≠ .done) :
    (pc.next s).2.fuel + 1 ≤ pc.fuel := by
  cases pc with
  | done => exact absurd rfl hpc
  | remove session p =>
    simp only [next]
    split <;> simp [fuel]
  | _ => simp [next, fuel]

/-- A step of a call that has not returned uses up fuel. -/
theorem MatchCall.fuel_run (s : Server F) (call : MatchCall) :
    (call.run s).2.fuel (call.run s).1.matchQueue.queue.length ≤
      call.fuel s.matchQueue.queue.length - 1 := by
  cases call with
  | start pc =>
    cases pc with
    | none => exact Nat.le_refl 0
    | some pc => exact Nat.le_sub_one_of_lt (pc.fuel_next s)
  | cancel pc =>
    by_cases hpc : pc = .done
    · subst hpc
      exact Nat.le_refl 0
    · exact Nat.le_sub_one_of_lt (CancelPc.fuel_next s hpc)

theorem MatchCall.isDone_of_fuel {waiting : Nat} {call : MatchCall} (h : call.fuel waiting = 0) :
    call.isDone := by
  rcases call with (_ | pc) | pc
  · rfl
  · cases pc <;> simp [fuel, MatchPc.fuel] at h
  · cases pc <;> first | rfl | simp [fuel, CancelPc.fuel] at h

/-- A call that has not begun has popped nothing. -/
theorem MatchCall.idle_of_isStart {call : MatchCall} (h : call.isStart) :
    call.pending = none ∧ call.popsAhead = false := by
  rcases call with (_ | pc) | pc
  · cases h
  · cases pc <;> first | exact ⟨rfl, rfl⟩ | cases h
  · exact ⟨rfl, rfl⟩

/-- A call that has returned has nothing left to do. -/
theorem MatchCall.idle_of_isDone {call : MatchCall} (h : call.isDone) :
    call.pending = none ∧ call.popsAhead = false := by
  rcases call with (_ | pc) | pc
  · exact ⟨rfl, rfl⟩
  · cases h
  · exact ⟨rfl, rfl⟩

/-- Fewer players in the queue mean less work. -/
theorem MatchCall.fuel_mono {waiting waiting' : Nat} (h : waiting' ≤ waiting) (call : MatchCall) :
    call.fuel waiting' ≤ call.fuel waiting := by
  rcases call with (_ | pc) | pc
  · exact Nat.le_refl 0
  · cases pc <;> simp only [fuel, MatchPc.fuel] <;> omega
  · exact Nat.le_refl _

/-- Only a push makes the queue longer. -/
theorem MatchCall.Does.length_le {n : Nat} {w w' : Places} {call call' : MatchCall}
    {ev : Option MatchEvent} (h : Does n w call ev w' call')
    (hev : ∀ p, ev ≠ some (.push p)) : w'.queue.queue.length ≤ w.queue.queue.length := by
  cases h with
  | quiet => exact Nat.le_refl _
  | push p => exact absurd rfl (hev p)
  | remove p hp hqueue =>
    rw [hqueue]
    exact List.length_filter_le _ _
  | pop players hne hn hplayers hqueue =>
    rw [hqueue, List.length_drop]
    exact Nat.sub_le _ _
  | «return» hn hqueue => rw [hqueue]
  | create players => exact Nat.le_refl _

/-! ## The history -/

/-- The event as one of the queue. -/
def MatchEvent.queueEvent : MatchEvent → Option (FifoEvent PlayerId)
  | .push p => some (.push p)
  | .remove p => some (.remove p)
  | .pop players => some (.pop players)
  | .create _ _ => none

/-- The group that has left the queue. -/
def MatchEvent.popped : MatchEvent → Option (List PlayerId)
  | .pop players => some players
  | _ => none

/-- The new room with its players. -/
def MatchEvent.created : MatchEvent → Option (RoomId × List PlayerId)
  | .create roomId players => some (roomId, players)
  | _ => none

namespace MatchCalls

/-- What has happened to the queue. -/
def queueEvents (history : List (ι × MatchEvent)) : List (FifoEvent PlayerId) :=
  history.filterMap fun e => e.2.queueEvent

/-- The rooms that have been opened. -/
def rooms (history : List (ι × MatchEvent)) : List (RoomId × List PlayerId) :=
  history.filterMap fun e => e.2.created

variable [DecidableEq ι]

/-- The groups that the call `i` has popped. -/
def popsOf (history : List (ι × MatchEvent)) (i : ι) : List (List PlayerId) :=
  history.filterMap fun e => if e.1 = i then e.2.popped else none

/-- The players of the rooms that the call `i` has opened. -/
def roomsOf (history : List (ι × MatchEvent)) (i : ι) : List (List PlayerId) :=
  history.filterMap fun e => if e.1 = i then e.2.created.map Prod.snd else none

/-- **The invariant.** The history is a fair one of the queue, and every group that has been popped
is a room of its call or still in its hands. -/
structure Formed (n : Nat) (q₀ : List PlayerId) (w : Places) (history : List (ι × MatchEvent))
    (calls : ι → MatchCall) : Prop where
  fair : FifoEvent.Fair n q₀ (queueEvents history)
  queue : w.queue.queue = (queueEvents history).foldl FifoEvent.apply q₀
  rounds : ∀ i, popsOf history i = roomsOf history i ++ (calls i).pending.toList
  opened : ∀ r players, (r, players) ∈ rooms history →
    r < w.nextRoomId ∧ w.members r = players
  distinct : ((rooms history).map Prod.fst).Nodup

variable {n : Nat} {q₀ : List PlayerId} {w w' : Places} {history : List (ι × MatchEvent)}
  {calls calls' : ι → MatchCall} {i : ι} {call' : MatchCall} {ev : Option MatchEvent}

omit [DecidableEq ι] in
theorem mem_queueEvents {j : ι} {e : MatchEvent} {f : FifoEvent PlayerId} (he : e.queueEvent = some f)
    (h : (j, e) ∈ history) : f ∈ queueEvents history :=
  List.mem_filterMap.mpr ⟨(j, e), h, he⟩

/-- Every group that a call has popped has `n` different players. -/
theorem Formed.group (hq₀ : q₀.Nodup) (h : Formed n q₀ w history calls) {players : List PlayerId}
    (hpops : players ∈ popsOf history i) : players.length = n ∧ players.Nodup := by
  obtain ⟨⟨j, e⟩, hmem, he⟩ := List.mem_filterMap.mp hpops
  have hpop : e = .pop players := by
    split at he
    · cases e <;> simp_all [MatchEvent.popped]
    · cases he
  subst hpop
  exact FifoEvent.group_of_fair hq₀ h.fair (mem_queueEvents rfl hmem)

/-- A step that is no event and leaves the rooms alone. -/
theorem Formed.quiet (h : Formed n q₀ w history calls)
    (hth : ∀ j, calls' j = if j = i then call' else calls j) {queue : MatchQueue}
    (hqueue : queue.queue = w.queue.queue) (hpending : (calls i).pending = none)
    (hpending' : call'.pending = none) :
    Formed n q₀ { w with queue := queue } history calls' where
  fair := h.fair
  queue := hqueue.trans h.queue
  rounds j := by
    rw [h.rounds j, hth]
    split
    · next hj => rw [hj, hpending, hpending']
    · rfl
  opened := h.opened
  distinct := h.distinct

/-- An event of the queue other than a pop. -/
theorem Formed.queueEvent (h : Formed n q₀ w history calls)
    (hth : ∀ j, calls' j = if j = i then call' else calls j) {queue : MatchQueue}
    {e : MatchEvent} {f : FifoEvent PlayerId} (he : e.queueEvent = some f)
    (hallowed : FifoEvent.Allowed n w.queue.queue f)
    (hqueue : queue.queue = FifoEvent.apply w.queue.queue f) (hpending : (calls i).pending = none)
    (hpending' : call'.pending = e.popped) :
    Formed n q₀ { w with queue := queue } (history ++ [(i, e)]) calls' := by
  have hcreated : e.created = none := by cases e <;> first | rfl | cases he
  have hevents : queueEvents (history ++ [(i, e)]) = queueEvents history ++ [f] := by
    simp [queueEvents, he]
  have hrooms : rooms (history ++ [(i, e)]) = rooms history := by
    simp [rooms, hcreated]
  refine ⟨?_, ?_, fun j => ?_, ?_, ?_⟩
  · rw [hevents]
    exact allSteps_append.mpr ⟨h.fair, by rw [← h.queue]; exact hallowed, trivial⟩
  · rw [hevents, List.foldl_append, ← h.queue]
    exact hqueue
  · have hroomsOf : roomsOf (history ++ [(i, e)]) j = roomsOf history j := by
      simp [roomsOf, hcreated]
    have hpopsOf : popsOf (history ++ [(i, e)]) j =
        popsOf history j ++ (if i = j then e.popped else none).toList := by
      simp only [popsOf, List.filterMap_append, List.filterMap_cons, List.filterMap_nil]
      split <;> simp_all
    rw [hroomsOf, hpopsOf, h.rounds j, hth]
    by_cases hj : j = i
    · subst hj
      simp [hpending, hpending']
    · simp [hj, Ne.symm hj]
  · rw [hrooms]
    exact h.opened
  · rw [hrooms]
    exact h.distinct

/-- A room for a group. -/
theorem Formed.create (h : Formed n q₀ w history calls)
    (hth : ∀ j, calls' j = if j = i then call' else calls j) {players : List PlayerId}
    (hpending : (calls i).pending = some players) (hpending' : call'.pending = none) :
    Formed n q₀ (w.form players w.queue) (history ++ [(i, .create w.nextRoomId players)])
      calls' := by
  have hevents : queueEvents (history ++ [(i, .create w.nextRoomId players)]) =
      queueEvents history := by
    simp [queueEvents, MatchEvent.queueEvent]
  have hrooms : rooms (history ++ [(i, .create w.nextRoomId players)]) =
      rooms history ++ [(w.nextRoomId, players)] := by
    simp [rooms, MatchEvent.created]
  have hfresh : ∀ r ps, (r, ps) ∈ rooms history → r ≠ w.nextRoomId :=
    fun r ps hr => ne_of_lt (h.opened r ps hr).1
  refine ⟨?_, ?_, fun j => ?_, fun r ps hr => ?_, ?_⟩
  · rw [hevents]
    exact h.fair
  · rw [hevents]
    exact h.queue
  · have hpopsOf : popsOf (history ++ [(i, .create w.nextRoomId players)]) j =
        popsOf history j := by
      simp [popsOf, MatchEvent.popped]
    have hroomsOf : roomsOf (history ++ [(i, .create w.nextRoomId players)]) j =
        roomsOf history j ++ (if i = j then some players else none).toList := by
      simp only [roomsOf, List.filterMap_append, List.filterMap_cons, List.filterMap_nil]
      split <;> simp_all [MatchEvent.created]
    rw [hpopsOf, hroomsOf, h.rounds j, hth]
    by_cases hj : j = i
    · subst hj
      simp [hpending, hpending']
    · simp [hj, Ne.symm hj]
  · rw [hrooms, List.mem_append, List.mem_singleton] at hr
    rcases hr with hr | hr
    · obtain ⟨hlt, hmembers⟩ := h.opened r ps hr
      refine ⟨lt_trans hlt (Int.lt_succ _), ?_⟩
      rw [Places.members_form_of_ne (hfresh r ps hr)]
      exact hmembers
    · obtain ⟨rfl, rfl⟩ := Prod.mk.inj hr
      exact ⟨Int.lt_succ _, Places.members_form_self ..⟩
  · rw [hrooms, List.map_append, List.nodup_append]
    refine ⟨h.distinct, List.nodup_singleton _, fun r hr r' hr' => ?_⟩
    obtain ⟨⟨r, ps⟩, hmem, rfl⟩ := List.mem_map.mp hr
    rw [List.map_singleton, List.mem_singleton] at hr'
    rw [hr']
    exact hfresh r ps hmem

theorem Formed.step (h : Formed n q₀ w history calls)
    (hth : ∀ j, calls' j = if j = i then call' else calls j)
    (hdoes : MatchCall.Does n w (calls i) ev w' call') :
    Formed n q₀ w' (history ++ (ev.map (i, ·)).toList) calls' := by
  cases hdoes with
  | quiet hpending hpending' =>
    rw [Option.map_none, Option.toList_none, List.append_nil]
    exact h.quiet hth rfl hpending hpending'
  | «return» hn hqueue hpending hpending' =>
    rw [Option.map_none, Option.toList_none, List.append_nil]
    exact h.quiet hth hqueue hpending hpending'
  | push p hp hqueue hpending hpending' =>
    exact h.queueEvent hth rfl hp hqueue hpending hpending'
  | remove p hp hqueue hpending hpending' =>
    exact h.queueEvent hth rfl hp hqueue hpending hpending'
  | pop players hne hn hplayers hqueue hpending hpending' =>
    refine h.queueEvent hth rfl ⟨hne, hn, hplayers⟩ ?_ hpending hpending'
    rw [hqueue, FifoEvent.apply, hplayers, List.length_take, Nat.min_eq_left hn]
  | create players hpending hpending' => exact h.create hth hpending hpending'

/-- A group in the hands of a call has no repetitions. -/
theorem Formed.nodup_pending (hq₀ : q₀.Nodup) (h : Formed n q₀ w history calls)
    {players : List PlayerId} (hpending : (calls i).pending = some players) : players.Nodup := by
  have hpops : players ∈ popsOf history i := by
    rw [h.rounds i, hpending]
    exact List.mem_append_right _ (List.mem_singleton.mpr rfl)
  exact (h.group hq₀ hpops).2

/-! ## Who is left over -/

/-- When there are enough players in the queue, some call has a `TryPopN` ahead of it. -/
def Covered (n : Nat) (w : Places) (calls : ι → MatchCall) : Prop :=
  n ≤ w.queue.queue.length → ∃ j, (calls j).popsAhead

theorem Covered.step (hn : 1 ≤ n) (h : Covered n w calls)
    (hth : ∀ j, calls' j = if j = i then call' else calls j)
    (hdoes : MatchCall.Does n w (calls i) ev w' call') : Covered n w' calls' := by
  have hself : call'.popsAhead → ∃ j, (calls' j).popsAhead :=
    fun h => ⟨i, by rw [hth, if_pos rfl]; exact h⟩
  have hkeep : ((calls i).popsAhead → call'.popsAhead) →
      (∃ j, (calls j).popsAhead) → ∃ j, (calls' j).popsAhead := by
    rintro hmove ⟨j, hj⟩
    by_cases hji : j = i
    · exact hself (hmove (hji ▸ hj))
    · exact ⟨j, by rw [hth, if_neg hji]; exact hj⟩
  cases hdoes with
  | quiet _ _ hahead => exact fun hlen => hkeep hahead (h hlen)
  | push p hp hqueue _ _ hahead => exact fun _ => hself hahead
  | remove p hp hqueue _ _ hahead =>
    intro hlen
    rw [hqueue] at hlen
    exact hkeep (fun h => absurd h (by simp [hahead]))
      (h (hlen.trans (List.length_filter_le _ _)))
  | pop players _ _ _ _ _ _ hahead => exact fun _ => hself hahead
  | «return» hshort hqueue =>
    intro hlen
    rw [hqueue] at hlen
    omega
  | create players _ _ hahead => exact fun _ => hself hahead

/-! ## Runs -/

/-- The invariant of the calls. -/
structure Forming (n : Nat) (q₀ : List PlayerId) (c : MatchCalls ι F) : Prop where
  count : c.shared.server.needCount = n
  formed : Formed n q₀ c.shared.server.places c.shared.history c.threads

variable {c : MatchCalls ι F}

/-- What one step does to the calls. -/
theorem Forming.does (hq₀ : q₀.Nodup) (h : Forming n q₀ c) (i : ι) :
    ∃ call', (∀ j, (c.step i).threads j = if j = i then call' else c.threads j) ∧
      MatchCall.Does n c.shared.server.places (c.threads i)
        ((c.threads i).event c.shared.server) (c.step i).shared.server.places call' := by
  have hdoes := MatchCall.does_run (s := c.shared.server)
    fun players (hpending : (c.threads i).pending = some players) =>
      h.formed.nodup_pending hq₀ hpending
  rw [h.count] at hdoes
  exact ⟨_, (Sys.step_of_next (c := c) (x := ()) rfl).2, hdoes⟩

/-- **One step of one call.** -/
theorem Forming.step (hq₀ : q₀.Nodup) (h : Forming n q₀ c) : Forming n q₀ (c.step i) := by
  obtain ⟨call', hth, hdoes⟩ := h.does hq₀ i
  refine ⟨?_, h.formed.step hth hdoes⟩
  rw [← h.count, Server.needCount, Server.needCount]
  exact congrArg (fun n : Int => (n % 2 ^ 64).toNat) (MatchCall.roomPlayerCount_run _ _)

/-- Nobody but the call `i` pushes. -/
def NoOtherPush (i : ι) (c : MatchCalls ι F) (j : ι) : Prop :=
  j ≠ i → ∀ p, (c.threads j).event c.shared.server ≠ some (.push p)

/-- The steps that the call `i` may still take. -/
def fuel (c : MatchCalls ι F) (i : ι) : Nat :=
  (c.threads i).fuel c.shared.server.matchQueue.queue.length

/-- **The loop of `TryCreateRoom` ends.** -/
theorem Forming.terminates (hq₀ : q₀.Nodup) : ∀ (es : List ι) {c : MatchCalls ι F},
    Forming n q₀ c → AllSteps MatchCalls.step (NoOtherPush i) c es → c.fuel i ≤ es.count i →
      ((es.foldl MatchCalls.step c).threads i).isDone
  | [], _, _, _, hfuel => MatchCall.isDone_of_fuel (Nat.le_zero.mp hfuel)
  | j :: es, c, h, ⟨hpush, hrest⟩, hfuel => by
    refine terminates hq₀ es (h.step hq₀) hrest ?_
    by_cases hj : j = i
    · -- the call itself uses up fuel
      subst hj
      rw [List.count_cons_self] at hfuel
      have hrun := MatchCall.fuel_run c.shared.server (c.threads j)
      have hmoved : (MatchCalls.step c j).threads j =
          ((c.threads j).run c.shared.server).2 := Sys.step_threads_self (e := (j, ()))
      rw [fuel, hmoved]
      exact hrun.trans (Nat.sub_le_of_le_add hfuel)
    · -- another call leaves it alone and does not make the queue longer
      rw [List.count_cons_of_ne hj] at hfuel
      obtain ⟨call', hth, hdoes⟩ := h.does hq₀ j
      rw [fuel, hth, if_neg (Ne.symm hj)]
      exact (MatchCall.fuel_mono (hdoes.length_le (hpush hj)) _).trans hfuel

/-! ## No rooms for a count that is not positive -/

/-- `max_size()` of the `std::deque<int64_t>` in `MatchQueue`: `queue_` cannot become longer. -/
def maxSize : Nat := (2 ^ 63 - 1) / 8

/-- The queue fits into its container. -/
def Fits (c : MatchCalls ι F) : Prop :=
  c.shared.server.matchQueue.queue.length ≤ maxSize

/-- No group has been popped. -/
structure Roomless (history : List (ι × MatchEvent)) (calls : ι → MatchCall) : Prop where
  rooms : rooms history = []
  pending : ∀ j, (calls j).pending = none

theorem Roomless.step (hn : n = 0 ∨ w.queue.queue.length < n) (h : Roomless history calls)
    (hth : ∀ j, calls' j = if j = i then call' else calls j)
    (hdoes : MatchCall.Does n w (calls i) ev w' call') :
    Roomless (history ++ (ev.map (i, ·)).toList) calls' := by
  have hpending : call'.pending = none → ∀ j, (calls' j).pending = none := by
    intro hcall j
    rw [hth]
    split
    · exact hcall
    · exact h.pending j
  cases hdoes with
  | quiet _ hpending' => exact ⟨by simpa using h.rooms, hpending hpending'⟩
  | push p _ _ _ hpending' =>
    exact ⟨by simpa [MatchCalls.rooms, MatchEvent.created] using h.rooms, hpending hpending'⟩
  | remove p _ _ _ hpending' =>
    exact ⟨by simpa [MatchCalls.rooms, MatchEvent.created] using h.rooms, hpending hpending'⟩
  | pop players hne hlen hplayers =>
    rcases hn with hn | hn
    · rw [hn, List.take_zero] at hplayers
      exact absurd hplayers hne
    · exact absurd hlen (not_le.mpr hn)
  | «return» _ _ _ hpending' => exact ⟨by simpa using h.rooms, hpending hpending'⟩
  | create players hpending' => exact absurd (hpending'.symm.trans (h.pending i)) (by simp)

/-- The count that `static_cast<size_t>` makes of an `int` that is not positive. -/
theorem needCount_of_nonpos {s : Server F} (hint : -2 ^ 31 ≤ s.roomPlayerCount)
    (hn : s.roomPlayerCount ≤ 0) : s.needCount = 0 ∨ maxSize < s.needCount := by
  unfold Server.needCount maxSize
  omega

theorem needCount_of_pos {s : Server F} (hint : s.roomPlayerCount < 2 ^ 31)
    (hn : 1 ≤ s.roomPlayerCount) : s.needCount = s.roomPlayerCount.toNat := by
  unfold Server.needCount
  omega

/-! ## The guarantee -/

/-- What holds of the rooms and of the queue when the configured count is `n`. -/
structure FormsRooms (n : Nat) (q₀ : List PlayerId) (c : MatchCalls ι F) : Prop where
  /-- A room has `n` different players. -/
  group : ∀ r players, (r, players) ∈ rooms c.shared.history → players.length = n ∧
    players.Nodup ∧ (c.shared.server.roomHeap r).playerIds.Perm players
  /-- No room is opened twice. -/
  distinct : ((rooms c.shared.history).map Prod.fst).Nodup
  /-- Groups come off the head of the queue, in order of arrival. -/
  fair : FifoEvent.Fair n q₀ (queueEvents c.shared.history)
  /-- The groups of a call become its rooms, one by one. -/
  rounds : ∀ i, popsOf c.shared.history i =
    roomsOf c.shared.history i ++ (c.threads i).pending.toList
  /-- A player who was pushed is still in the queue, or has been removed, or has left in a group. -/
  fate : ∀ past p later, queueEvents c.shared.history = past ++ .push p :: later →
    (later.find? (FifoEvent.about p) = none ∧ p ∈ c.shared.server.matchQueue.queue) ∨
      later.find? (FifoEvent.about p) = some (.remove p) ∨
      ∃ players, later.find? (FifoEvent.about p) = some (.pop players) ∧ p ∈ players
  /-- When all calls have returned, no group is in the hands of a call and too few players for
  another room are left. -/
  leftover : (∀ i, (c.threads i).isDone) → (∀ i, (c.threads i).pending = none) ∧
    (q₀.length < n → c.shared.server.matchQueue.queue.length < n)

/-- A room is that of a group which its call has popped. -/
theorem Formed.mem_popsOf (h : Formed n q₀ w history calls) {r : RoomId}
    {players : List PlayerId} (hr : (r, players) ∈ rooms history) :
    ∃ j, players ∈ popsOf history j := by
  obtain ⟨⟨j, e⟩, hmem, he⟩ := List.mem_filterMap.mp hr
  refine ⟨j, ?_⟩
  rw [h.rounds j]
  refine List.mem_append_left _ (List.mem_filterMap.mpr ⟨(j, e), hmem, ?_⟩)
  rw [if_pos rfl, he]
  rfl

theorem Forming.formsRooms (hq₀ : q₀.Nodup) (h : Forming n q₀ c)
    (hcovered : q₀.length < n → Covered n c.shared.server.places c.threads) :
    FormsRooms n q₀ c where
  group r players hr := by
    obtain ⟨j, hpops⟩ := h.formed.mem_popsOf hr
    obtain ⟨hlen, hnd⟩ := h.formed.group hq₀ hpops
    have hmembers : (c.shared.server.roomHeap r).playerIds = players :=
      (h.formed.opened r players hr).2
    exact ⟨hlen, hnd, by rw [hmembers]⟩
  distinct := h.formed.distinct
  fair := h.formed.fair
  rounds := h.formed.rounds
  fate past p later hhistory := by
    have hqueue : c.shared.server.matchQueue.queue =
        (queueEvents c.shared.history).foldl FifoEvent.apply q₀ := h.formed.queue
    have hfair := h.formed.fair
    rw [hhistory] at hfair hqueue
    rw [hqueue]
    exact FifoEvent.fate_of_push hfair
  leftover hdone := by
    refine ⟨fun i => (MatchCall.idle_of_isDone (hdone i)).1, fun hshort => ?_⟩
    by_contra hlen
    obtain ⟨j, hj⟩ := hcovered hshort (not_lt.mp hlen)
    exact absurd hj (by simp [(MatchCall.idle_of_isDone (hdone j)).2])

theorem forming_start {s : Server F} {calls : ι → MatchCall} (hcalls : ∀ i, (calls i).isStart) :
    Forming s.needCount s.matchQueue.queue (start s calls) where
  count := rfl
  formed :=
    { fair := trivial
      queue := rfl
      rounds := fun i => by
        rw [start, (MatchCall.idle_of_isStart (hcalls i)).1]
        rfl
      opened := fun _ _ hr => absurd hr List.not_mem_nil
      distinct := List.nodup_nil }

/-- The invariant in every state of a run, with the cover as well if the count is positive. -/
theorem forming_run {s : Server F} {calls : ι → MatchCall} (es : List ι)
    (hcalls : ∀ i, (calls i).isStart) :
    Forming s.needCount s.matchQueue.queue (es.foldl step (start s calls)) ∧
      (1 ≤ s.needCount → s.matchQueue.queue.length < s.needCount →
        Covered s.needCount (es.foldl step (start s calls)).shared.server.places
          (es.foldl step (start s calls)).threads) := by
  have hq₀ := s.matchQueue.queue_nodup
  refine ⟨last_of_stable (fun _ _ h => h.step hq₀) es (forming_start hcalls), fun hn hshort => ?_⟩
  have hstep : ∀ (c : MatchCalls ι F) i, (Forming s.needCount s.matchQueue.queue c ∧
      Covered s.needCount c.shared.server.places c.threads) →
      Forming s.needCount s.matchQueue.queue (c.step i) ∧
        Covered s.needCount (c.step i).shared.server.places (c.step i).threads := by
    rintro c i ⟨h, hcovered⟩
    obtain ⟨call', hth, hdoes⟩ := h.does hq₀ i
    exact ⟨h.step hq₀, hcovered.step hn hth hdoes⟩
  exact (last_of_stable hstep es ⟨forming_start hcalls,
    fun hlen => absurd hlen (not_le.mpr hshort)⟩).2

/-- Without a positive count there is no room in any state of a run. -/
theorem roomless_run {s : Server F} {calls : ι → MatchCall} (es : List ι)
    (hcalls : ∀ i, (calls i).isStart) (hn : s.needCount = 0 ∨ maxSize < s.needCount)
    (hfits : AllSteps step (fun c _ => Fits c) (start s calls) es) :
    rooms (es.foldl step (start s calls)).shared.history = [] := by
  have hq₀ := s.matchQueue.queue_nodup
  have hstep : ∀ (c : MatchCalls ι F) i, (Forming s.needCount s.matchQueue.queue c ∧
      Roomless c.shared.history c.threads) → Fits c →
      Forming s.needCount s.matchQueue.queue (c.step i) ∧
        Roomless (c.step i).shared.history (c.step i).threads := by
    rintro c i ⟨h, hroomless⟩ hfit
    obtain ⟨call', hth, hdoes⟩ := h.does hq₀ i
    exact ⟨h.step hq₀, hroomless.step (hn.imp_right (lt_of_le_of_lt hfit)) hth hdoes⟩
  have hstart : Roomless (start s calls).shared.history (start s calls).threads :=
    ⟨rfl, fun j => (MatchCall.idle_of_isStart (hcalls j)).1⟩
  exact (AllStates.last es
    (AllStates.of_allSteps hstep es ⟨forming_start hcalls, hstart⟩ hfits)).2.rooms

/--
**Room formation loses and duplicates nobody.**

Any calls of `StartMatching` and `HandleCancelMatch`, for any configured count. A call returns after
finitely many steps of its own unless other calls keep pushing. If the count is positive, the rooms
are the groups at the head of the queue and nobody gets lost; if it is not, there are no rooms.
-/
theorem rooms_formed (s : Server F) (calls : ι → MatchCall) (es : List ι)
    (hcalls : ∀ i, (calls i).isStart)
    (hint : -2 ^ 31 ≤ s.roomPlayerCount ∧ s.roomPlayerCount < 2 ^ 31) :
    (∀ i es', AllSteps step (NoOtherPush i) (es.foldl step (start s calls)) es' →
      (es.foldl step (start s calls)).fuel i ≤ es'.count i →
      ((es'.foldl step (es.foldl step (start s calls))).threads i).isDone) ∧
    (1 ≤ s.roomPlayerCount → FormsRooms s.roomPlayerCount.toNat s.matchQueue.queue
      (es.foldl step (start s calls))) ∧
    (s.roomPlayerCount ≤ 0 → AllSteps step (fun c _ => Fits c) (start s calls) es →
      rooms (es.foldl step (start s calls)).shared.history = []) := by
  have hq₀ := s.matchQueue.queue_nodup
  obtain ⟨hforming, hcovered⟩ := forming_run (s := s) es hcalls
  refine ⟨fun i es' => hforming.terminates hq₀ es', fun hn => ?_, fun hn => ?_⟩
  · have hcount := needCount_of_pos hint.2 hn
    rw [← hcount]
    exact hforming.formsRooms hq₀ (hcovered (by omega))
  · exact roomless_run es hcalls (needCount_of_nonpos hint.1 hn)

/-- Players 7 and 8 ask for a match, 7 cancels too late. -/
def threeCalls : Fin 3 → MatchCall
  | 0 => .start (some (.push 7 1))
  | 1 => .start (some (.push 8 2))
  | 2 => .cancel (.start 1 7)

theorem rooms_formed_witness :
    let es : List (Fin 3) := List.replicate 6 0 ++ List.replicate 15 1 ++ List.replicate 6 2
    let c := es.foldl step (start ({} : Server Unit) threeCalls)
    FormsRooms 2 [] c ∧ rooms c.shared.history = [(1000, [7, 8])] ∧ ∀ i, (c.threads i).isDone :=
  ⟨(rooms_formed ({} : Server Unit) threeCalls _ (by decide) (by decide)).2.1 (by decide),
    by decide, by decide⟩

end MatchCalls
end Game
