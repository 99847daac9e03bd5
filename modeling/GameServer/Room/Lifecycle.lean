import GameServer.Infra.Run
import GameServer.Room.Room

/-!
# Life of a room

All operations that write the state of a room, its players or their ready flags, called in any
order. `Room.Lawful` says what one call may do, `Room.lifecycle` what a whole run does.
-/

namespace Game

open Infra

/-- A call of an operation of `Room`. -/
inductive RoomCall where
  | addPlayer (playerId : PlayerId)
  | removePlayer (playerId : PlayerId)
  | setReady (playerId : PlayerId) (ready : Bool)
  | setReadyAndTryStart (playerId : PlayerId) (ready : Bool)
  | startGame
  | setSettlement
  | close
  | onPlayerDisconnect (playerId : PlayerId)
  | onPlayerReconnect (playerId : PlayerId)

/-- The call is one of `SetReadyAndTryStart`. -/
def RoomCall.triesStart : RoomCall → Bool
  | .setReadyAndTryStart _ _ => true
  | _ => false

namespace Room

/-- The room after a call. -/
def apply (room : Room) : RoomCall → Room
  | .addPlayer playerId => room.addPlayer playerId
  | .removePlayer playerId => room.removePlayer playerId
  | .setReady playerId ready => room.setReady playerId ready
  | .setReadyAndTryStart playerId ready =>
    match room.setReadyAndTryStart playerId ready with
    | some (_, room) => room
    | none => room
  | .startGame => room.startGame
  | .setSettlement => room.setSettlement
  | .close => room.close
  | .onPlayerDisconnect playerId => room.onPlayerDisconnect playerId
  | .onPlayerReconnect playerId => room.onPlayerReconnect playerId

/-- The call is one of `SetReadyAndTryStart` and returns true. -/
def starts (room : Room) : RoomCall → Bool
  | .setReadyAndTryStart playerId ready =>
    match room.setReadyAndTryStart playerId ready with
    | some (started, _) => started
    | none => false
  | _ => false

/-- How many calls of a run return true from `SetReadyAndTryStart`. -/
def startCount (room : Room) : List RoomCall → Nat
  | [] => 0
  | call :: calls => (room.starts call).toNat + (room.apply call).startCount calls

/-- The ready flag of a player; a player who is not in the room is not ready. -/
def isReady (room : Room) (playerId : PlayerId) : Bool :=
  (room.players.get playerId).any RoomPlayer.ready

/-- Everybody in `room'` was in `room`, with the same ready flag. -/
def Frozen (room room' : Room) : Prop :=
  ∀ p ∈ room'.playerIds, p ∈ room.playerIds ∧ room'.isReady p = room.isReady p

/-- What one call may do. -/
structure Lawful (room : Room) (call : RoomCall) : Prop where
  /-- The state never moves backwards. -/
  forward : room.state.toInt32 ≤ (room.apply call).state.toInt32
  playing : room.state ≠ .playing → (room.apply call).state = .playing →
    room.state = .waiting ∧ (room.apply call).playerIds ≠ [] ∧
      ∀ p ∈ (room.apply call).playerIds, (room.apply call).isReady p = true
  settlement : room.state ≠ .settlement → (room.apply call).state = .settlement →
    room.state = .playing
  frozen : room.state ≠ .waiting → room.Frozen (room.apply call)
  /-- `SetReadyAndTryStart` returns true for the step from Waiting to Playing and for no other. -/
  starts : room.starts call = true ↔
    call.triesStart = true ∧ room.state = .waiting ∧ (room.apply call).state = .playing

/-! ## One call -/

theorem allReady_iff {room : Room} :
    room.allReady = true ↔
      room.playerIds ≠ [] ∧ ∀ p ∈ room.playerIds, room.isReady p = true := by
  unfold allReady isReady
  rw [decide_eq_true_iff, List.all_eq_true]

theorem Frozen.refl (room : Room) : room.Frozen room :=
  fun _ hp => ⟨hp, rfl⟩

theorem Frozen.trans {room₁ room₂ room₃ : Room} (h₁ : room₁.Frozen room₂)
    (h₂ : room₂.Frozen room₃) : room₁.Frozen room₃ := by
  intro p hp
  obtain ⟨hp₂, hready₂⟩ := h₂ p hp
  obtain ⟨hp₁, hready₁⟩ := h₁ p hp₂
  exact ⟨hp₁, hready₂.trans hready₁⟩

/-- A setter that leaves the ready flags alone. -/
theorem frozen_modify (room : Room) (p : PlayerId) {f : RoomPlayer → RoomPlayer}
    (hf : ∀ player, (f player).ready = player.ready) :
    room.Frozen { room with players := room.players.modify p f } := by
  intro q hq
  refine ⟨hq, ?_⟩
  unfold isReady
  rw [UMap.get_modify]
  split
  · next hqp =>
    subst hqp
    cases room.players.get q with
    | none => rfl
    | some player => exact hf player
  · rfl

theorem frozen_removePlayer (room : Room) (p : PlayerId) : room.Frozen (room.removePlayer p) := by
  intro q hq
  obtain ⟨hq, hne⟩ := List.mem_filter.mp hq
  refine ⟨hq, ?_⟩
  rw [decide_eq_true_iff] at hne
  unfold isReady removePlayer
  rw [UMap.get_erase_of_ne hne]

/-- A call that leaves the state alone and, outside Waiting, everybody as they are. -/
theorem Lawful.of_state_eq {room : Room} {call : RoomCall} (hcall : call.triesStart = false)
    (hstate : (room.apply call).state = room.state)
    (hfrozen : room.state ≠ .waiting → room.Frozen (room.apply call)) : room.Lawful call where
  forward := Int.le_of_eq (congrArg RoomState.toInt32 hstate.symm)
  playing hne heq := absurd (hstate.symm.trans heq) hne
  settlement hne heq := absurd (hstate.symm.trans heq) hne
  frozen := hfrozen
  starts := by
    have hstarts : room.starts call = false := by
      cases call with
      | setReadyAndTryStart p ready => simp [RoomCall.triesStart] at hcall
      | _ => rfl
    simp [hstarts, hcall]

theorem state_addPlayer (room : Room) (p : PlayerId) : (room.addPlayer p).state = room.state := by
  unfold addPlayer
  split <;> rfl

theorem state_setReady (room : Room) (p : PlayerId) (ready : Bool) :
    (room.setReady p ready).state = room.state := by
  unfold setReady
  split
  · rfl
  · next h => exact (not_not.mp fun hw => h (Or.inr hw)).symm

theorem lawful_startGame (room : Room) : room.Lawful .startGame := by
  by_cases h : room.allReady = true ∧ room.state = .waiting
  · have happly : room.apply .startGame = { room with state := .playing } := if_pos h
    obtain ⟨hready, hwait⟩ := h
    constructor
    · rw [happly, hwait]
      exact Int.le.intro_sub 2 rfl
    · intro _ _
      rw [happly]
      exact ⟨hwait, allReady_iff.mp hready⟩
    · intro _ heq
      rw [happly] at heq
      cases heq
    · exact fun hne => absurd hwait hne
    · simp [starts, RoomCall.triesStart]
  · have happly : room.apply .startGame = room := if_neg h
    refine Lawful.of_state_eq rfl (by rw [happly]) fun _ => ?_
    rw [happly]
    exact Frozen.refl room

theorem lawful_setSettlement (room : Room) : room.Lawful .setSettlement := by
  by_cases h : room.state = .playing
  · have happly : room.apply .setSettlement = { room with state := .settlement } := if_pos h
    constructor
    · rw [happly, h]
      exact Int.le.intro_sub 1 rfl
    · intro hne
      exact absurd h hne
    · exact fun _ _ => h
    · intro _
      rw [happly]
      exact Frozen.refl room
    · simp [starts, RoomCall.triesStart]
  · have happly : room.apply .setSettlement = room := if_neg h
    refine Lawful.of_state_eq rfl (by rw [happly]) fun _ => ?_
    rw [happly]
    exact Frozen.refl room

theorem lawful_close (room : Room) : room.Lawful .close where
  forward := by
    show room.state.toInt32 ≤ 4
    cases room.state <;> decide
  playing _ heq := nomatch heq
  settlement _ heq := nomatch heq
  frozen _ := Frozen.refl room
  starts := by simp [starts, RoomCall.triesStart]

/-- A request that is not ignored finds the room Waiting; the room starts exactly when everybody is
ready after it. -/
theorem setReadyAndTryStart_cases {room room' : Room} {p : PlayerId} {ready started : Bool}
    (h : room.setReadyAndTryStart p ready = some (started, room')) :
    room.state = .waiting ∧ room'.state = (if started then .playing else .waiting) ∧
      (started = true → room'.playerIds ≠ [] ∧
        ∀ q ∈ room'.playerIds, room'.isReady q = true) := by
  refine ⟨(state_setReadyAndTryStart h).1, (state_setReadyAndTryStart h).2, ?_⟩
  unfold setReadyAndTryStart at h
  split at h
  · simp at h
  · dsimp only at h
    split at h
    · next hready =>
      cases h
      exact fun _ => allReady_iff.mp hready
    · cases h
      simp

theorem lawful_setReadyAndTryStart (room : Room) (p : PlayerId) (ready : Bool) :
    room.Lawful (.setReadyAndTryStart p ready) := by
  cases hcall : room.setReadyAndTryStart p ready with
  | none =>
    have happly : room.apply (.setReadyAndTryStart p ready) = room := by rw [apply, hcall]
    have hstarts : room.starts (.setReadyAndTryStart p ready) = false := by rw [starts, hcall]
    constructor
    · exact Int.le_of_eq (congrArg (·.state.toInt32) happly.symm)
    · intro hne heq
      exact absurd (happly ▸ heq) hne
    · intro hne heq
      exact absurd (happly ▸ heq) hne
    · intro _
      rw [happly]
      exact Frozen.refl room
    · rw [happly, hstarts]
      constructor
      · simp
      · rintro ⟨-, hwait, hplaying⟩
        exact absurd (hwait.symm.trans hplaying) (by decide)
  | some result =>
    obtain ⟨started, room'⟩ := result
    have happly : room.apply (.setReadyAndTryStart p ready) = room' := by rw [apply, hcall]
    have hstarts : room.starts (.setReadyAndTryStart p ready) = started := by rw [starts, hcall]
    obtain ⟨hwait, hstate, hready⟩ := setReadyAndTryStart_cases hcall
    constructor
    · rw [happly, hwait, hstate]
      cases started <;> decide
    · intro _ heq
      rw [happly] at heq ⊢
      cases started with
      | true => exact ⟨hwait, hready rfl⟩
      | false => exact absurd (hstate.symm.trans heq) (by decide)
    · intro _ heq
      rw [happly, hstate] at heq
      cases started <;> exact absurd heq (by decide)
    · exact fun hne => absurd hwait hne
    · rw [happly, hstarts, hstate]
      cases started <;> simp [hwait, RoomCall.triesStart]

/-- **Every call is lawful.** -/
theorem lawful (room : Room) (call : RoomCall) : room.Lawful call := by
  cases call with
  | addPlayer p =>
    refine Lawful.of_state_eq rfl (state_addPlayer room p) fun hne => ?_
    rw [apply, addPlayer, if_pos hne]
    exact Frozen.refl room
  | removePlayer p => exact Lawful.of_state_eq rfl rfl fun _ => frozen_removePlayer room p
  | setReady p ready =>
    refine Lawful.of_state_eq rfl (state_setReady room p ready) fun hne => ?_
    rw [apply, setReady, if_pos (Or.inr hne)]
    exact Frozen.refl room
  | setReadyAndTryStart p ready => exact lawful_setReadyAndTryStart room p ready
  | startGame => exact lawful_startGame room
  | setSettlement => exact lawful_setSettlement room
  | close => exact lawful_close room
  | onPlayerDisconnect p =>
    exact Lawful.of_state_eq rfl rfl fun _ => frozen_modify room p fun _ => rfl
  | onPlayerReconnect p =>
    exact Lawful.of_state_eq rfl rfl fun _ => frozen_modify room p fun _ => rfl

/-! ## A run of calls -/

theorem forward_run : ∀ (calls : List RoomCall) (room : Room),
    room.state.toInt32 ≤ (calls.foldl apply room).state.toInt32
  | [], _ => Int.le_refl _
  | call :: calls, room => Int.le_trans (lawful room call).forward (forward_run calls _)

/-- What has left Waiting does not come back. -/
theorem Lawful.left_waiting {room : Room} {call : RoomCall} (h : room.Lawful call)
    (hleft : room.state ≠ .waiting) : (room.apply call).state ≠ .waiting := by
  intro hwait
  have hforward := h.forward
  rw [hwait] at hforward
  cases hstate : room.state <;> simp_all [RoomState.toInt32]

theorem frozen_run : ∀ (calls : List RoomCall) {room : Room}, room.state ≠ .waiting →
    room.Frozen (calls.foldl apply room)
  | [], room, _ => Frozen.refl room
  | call :: calls, room, hleft =>
    ((lawful room call).frozen hleft).trans
      (frozen_run calls ((lawful room call).left_waiting hleft))

/-- A room that has left Waiting is not started any more. -/
theorem startCount_of_left : ∀ (calls : List RoomCall) {room : Room}, room.state ≠ .waiting →
    room.startCount calls = 0
  | [], _, _ => rfl
  | call :: calls, room, hleft => by
    have hstarts : room.starts call = false := by
      by_contra h
      exact hleft ((lawful room call).starts.mp (by simpa using h)).2.1
    rw [startCount, hstarts, startCount_of_left calls ((lawful room call).left_waiting hleft)]
    rfl

theorem startCount_le_one : ∀ (calls : List RoomCall) (room : Room), room.startCount calls ≤ 1
  | [], _ => Nat.zero_le 1
  | call :: calls, room => by
    rw [startCount]
    cases hstarts : room.starts call with
    | true =>
      have hplaying := ((lawful room call).starts.mp hstarts).2.2
      rw [startCount_of_left calls (by rw [hplaying]; decide)]
      exact Nat.le_refl 1
    | false =>
      rw [Bool.toNat_false, Nat.zero_add]
      exact startCount_le_one calls _

/--
**The life of a room.**

Any calls in any order, from any room. Each call is lawful, the state at the end is not before the
state at the beginning, a room that has left Waiting keeps its players and their flags, and
`SetReadyAndTryStart` returns true at most once.
-/
theorem lifecycle (room : Room) (calls : List RoomCall) :
    AllSteps apply Lawful room calls ∧
    room.state.toInt32 ≤ (calls.foldl apply room).state.toInt32 ∧
    (room.state ≠ .waiting → room.Frozen (calls.foldl apply room)) ∧
    room.startCount calls ≤ 1 := by
  have hall : ∀ (calls : List RoomCall) (room : Room), AllSteps apply Lawful room calls := by
    intro calls
    induction calls with
    | nil => exact fun _ => trivial
    | cons call calls ih => exact fun room => ⟨lawful room call, ih _⟩
  exact ⟨hall calls room, forward_run calls room, frozen_run calls, startCount_le_one calls room⟩

end Room
end Game
