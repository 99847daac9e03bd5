import GameServer.Game.InputEffect
import GameServer.Infra.Run
import Mathlib.Algebra.Order.Group.Unbundled.Abs
import Mathlib.Algebra.Order.Ring.Rat
import Mathlib.Tactic.Linarith

/-!
# Coordinates that are no numbers

The moves of an input are taken from the packet as they are. `ApplyInput` clamps them, and that is
the only check. `std::clamp` compares, and every comparison with NaN is false, so NaN passes.

## What follows

* A sum with NaN is NaN: the coordinate of the shooter is NaN from then on, until the end of the
  battle (`lost_changes`).
* The distance to this player is NaN, and no shot is in range (`outOfReach_iff`).
* As long as the moves of all inputs that are applied are numbers, none of this happens.
-/

namespace Game

open Infra Relation

/-! ## One coordinate -/

/-- The new coordinate of a player at `x` whose input says `v`. -/
def shift (x v : Coord) : Coord :=
  Axis.add x (Axis.mul (Axis.clamp v (Axis.neg Axis.maxAxis) Axis.maxAxis) Axis.moveScale)

/-- `std::clamp` lets NaN through. -/
theorem clamp_nan (lo hi : Coord) : Axis.clamp none lo hi = none := by
  cases hi <;> rfl

/-- `std::clamp` of a number. -/
theorem clamp_number (v : ℚ) : ∃ c : ℚ, |c| ≤ 1 ∧
    Axis.clamp (some v) (Axis.neg Axis.maxAxis) Axis.maxAxis = (some c : Coord) := by
  have hdef : Axis.clamp (some v) (Axis.neg Axis.maxAxis) Axis.maxAxis =
      (if decide (v < -1) = true then some (-1) else if decide (1 < v) = true then some 1
        else some v : Coord) := rfl
  rw [hdef]
  simp only [decide_eq_true_eq]
  split
  · exact ⟨-1, by norm_num, rfl⟩
  · next hlow =>
    split
    · exact ⟨1, by norm_num, rfl⟩
    · next hhigh => exact ⟨v, abs_le.mpr ⟨not_lt.mp hlow, not_lt.mp hhigh⟩, rfl⟩

/-- Numbers stay numbers, and the step is bounded. -/
theorem shift_number (x v : ℚ) : ∃ x' : ℚ, shift (some x) (some v) = some x' ∧ |x' - x| ≤ 3 / 5 := by
  obtain ⟨c, hc, hclamp⟩ := clamp_number v
  refine ⟨x + c * (3 / 5), ?_, ?_⟩
  · rw [shift, hclamp]
    rfl
  · obtain ⟨hlow, hhigh⟩ := abs_le.mp hc
    rw [add_sub_cancel_left, abs_le]
    constructor <;> linarith

theorem shift_isSome {x v : Coord} :
    (shift x v).isSome = true ↔ x.isSome = true ∧ v.isSome = true := by
  cases x with
  | none => exact iff_of_false (by simp [shift, Axis.add]) (by simp)
  | some x =>
    cases v with
    | none =>
      rw [shift, clamp_nan]
      exact iff_of_false (by simp [Axis.add, Axis.mul]) (by simp)
    | some v =>
      obtain ⟨x', hx', -⟩ := shift_number x v
      rw [hx']
      exact iff_of_true rfl ⟨rfl, rfl⟩

/-! ## One player -/

namespace EntityState

/-- Both coordinates are numbers. -/
def Placed (e : EntityState Coord) : Prop :=
  e.x.isSome = true ∧ e.y.isSome = true

/-- There is no place from which a shot reaches this player. -/
def OutOfReach (e : EntityState Coord) : Prop :=
  ∀ x y : Coord, Axis.withinFire (Axis.sub e.x x) (Axis.sub e.y y) = false

/-- **Exactly the players without a place** are out of reach. -/
theorem outOfReach_iff {e : EntityState Coord} : e.OutOfReach ↔ ¬ e.Placed := by
  constructor
  · rintro hout ⟨hx, hy⟩
    obtain ⟨x, hx⟩ := Option.isSome_iff_exists.mp hx
    obtain ⟨y, hy⟩ := Option.isSome_iff_exists.mp hy
    -- A shot from the same place.
    have hclose := hout e.x e.y
    rw [hx, hy] at hclose
    have hhit : Axis.withinFire (Axis.sub (some x) (some x)) (Axis.sub (some y) (some y) : Coord) =
        decide ((x - x) * (x - x) + (y - y) * (y - y) ≤ 64) := rfl
    rw [hhit, sub_self, sub_self] at hclose
    norm_num at hclose
  · intro hlost x y
    rw [Placed, not_and_or, Option.not_isSome_iff_eq_none, Option.not_isSome_iff_eq_none] at hlost
    rcases hlost with hx | hy
    · rw [hx]
      rfl
    · rw [hy]
      show (Option.map₂ _ (Axis.sub e.x x) none).getD false = false
      rw [Option.map₂_none_right]
      rfl

theorem placed_move {input : InputCommand Coord} {e : EntityState Coord} :
    (GameRoom.move input e).Placed ↔
      e.Placed ∧ input.moveX.isSome = true ∧ input.moveY.isSome = true := by
  show (shift e.x input.moveX).isSome = true ∧ (shift e.y input.moveY).isSome = true ↔ _
  rw [shift_isSome, shift_isSome, Placed]
  tauto

theorem placed_damage {e : EntityState Coord} : (GameRoom.damage e).Placed ↔ e.Placed := by
  unfold GameRoom.damage
  dsimp only
  split <;> exact Iff.rfl

/-- **A place that is lost is lost for good.** -/
theorem placed_of_change {e e' : EntityState Coord} (hc : ReflTransGen Change e e')
    (h : e'.Placed) : e.Placed := by
  induction hc with
  | refl => exact h
  | tail _ hchange ih =>
    apply ih
    cases hchange with
    | move input _ => exact (placed_move.mp h).1
    | damage _ => exact placed_damage.mp h
    | eliminate _ => exact h

end EntityState

/-! ## All players -/

/-- Every player has a place. -/
def GameState.AllPlaced (s : GameState Coord) : Prop :=
  ∀ p e, s.players.get p = some e → e.Placed

/-- The moves of an input are numbers. -/
def InputCommand.Numeric (input : InputCommand Coord) : Prop :=
  input.moveX.isSome = true ∧ input.moveY.isSome = true

namespace GameRoom

/-- An input moves its player from one place to another, by at most 0.6 on each axis. -/
def MovesAtMost (s : GameState Coord) (input : InputCommand Coord) : Prop :=
  ∀ e e', s.players.get input.playerId = some e →
    (applyInput s input).players.get input.playerId = some e' →
    ∃ x y x' y' : ℚ, e.x = some x ∧ e.y = some y ∧ e'.x = some x' ∧ e'.y = some y' ∧
      |x' - x| ≤ 3 / 5 ∧ |y' - y| ≤ 3 / 5

/-- `G` of every input that a section applies, in the state to which it is applied. An ended battle
applies none, and the inputs of dead or unknown players are skipped. -/
def OnInputs (G : GameState Coord → InputCommand Coord → Prop) (g : GameRoom Coord) :
    Section Coord → Prop
  | .advance inputs => g.gameOver = false →
      AllSteps applyInput (fun s input => s.aliveAt input.playerId = true → G s input)
        { g.state with frameId := g.state.frameId + 1 } inputs
  | _ => True

/-- Somebody has no place any more. -/
def SomebodyLost (s : GameState Coord) : Prop :=
  ∃ p e, s.players.get p = some e ∧ ¬ e.Placed

variable {s s' : GameState Coord} {g : GameRoom Coord} {input : InputCommand Coord}

/-- The entity of a live player. -/
theorem exists_of_aliveAt {p : PlayerId} (h : s.aliveAt p = true) :
    ∃ e, s.players.get p = some e := by
  unfold GameState.aliveAt at h
  cases he : s.players.get p with
  | none => simp [he] at h
  | some e => exact ⟨e, rfl⟩

theorem allPlaced_applyInput (h : s.AllPlaced)
    (hinput : s.aliveAt input.playerId = true → input.Numeric) : (applyInput s input).AllPlaced := by
  cases halive : s.aliveAt input.playerId with
  | false =>
    have hskip : applyInput s input = s := if_pos halive
    rw [hskip]
    exact h
  | true =>
    obtain ⟨e, he⟩ := exists_of_aliveAt halive
    have hshooter : (applyInput s input).players.get input.playerId = some (move input e) := by
      rw [get_applyInput_self halive, he, Option.map_some]
    intro p e' he'
    by_cases hp : p = input.playerId
    · rw [hp, hshooter] at he'
      cases he'
      exact EntityState.placed_move.mpr ⟨h _ e he, hinput halive⟩
    · rw [get_applyInput_of_ne hshooter halive hp, Option.map_eq_some_iff] at he'
      obtain ⟨e₀, he₀, rfl⟩ := he'
      split
      · exact EntityState.placed_damage.mpr (h p e₀ he₀)
      · exact h p e₀ he₀

/-- The step is as long as it should be exactly if the moves are numbers. -/
theorem movesAtMost_iff (h : s.AllPlaced) (halive : s.aliveAt input.playerId = true) :
    MovesAtMost s input ↔ input.Numeric := by
  obtain ⟨e, he⟩ := exists_of_aliveAt halive
  have hself : (applyInput s input).players.get input.playerId = some (move input e) := by
    rw [get_applyInput_self halive, he, Option.map_some]
  constructor
  · intro hmoves
    obtain ⟨x, y, x', y', -, -, hx', hy', -⟩ := hmoves e (move input e) he hself
    have hplaced : (move input e).Placed := by
      rw [EntityState.Placed, hx', hy']
      exact ⟨rfl, rfl⟩
    exact (EntityState.placed_move.mp hplaced).2
  · rintro ⟨hmx, hmy⟩ e₀ e' he₀ he'
    rw [he] at he₀
    rw [hself] at he'
    cases he₀
    cases he'
    obtain ⟨hx, hy⟩ := h _ e he
    obtain ⟨x, hx⟩ := Option.isSome_iff_exists.mp hx
    obtain ⟨y, hy⟩ := Option.isSome_iff_exists.mp hy
    obtain ⟨u, hu⟩ := Option.isSome_iff_exists.mp hmx
    obtain ⟨v, hv⟩ := Option.isSome_iff_exists.mp hmy
    obtain ⟨x', hx', hdx⟩ := shift_number x u
    obtain ⟨y', hy', hdy⟩ := shift_number y v
    refine ⟨x, y, x', y', hx, hy, ?_, ?_, hdx, hdy⟩
    · show shift e.x input.moveX = some x'
      rw [hx, hu, hx']
    · show shift e.y input.moveY = some y'
      rw [hy, hv, hy']

/-- Whoever has lost the place has lost it for good. -/
theorem lost_changes (hc : s.Changes s') {p : PlayerId} {e : EntityState Coord}
    (he : s.players.get p = some e) (hlost : ¬ e.Placed) :
    ∃ e', s'.players.get p = some e' ∧ ¬ e'.Placed := by
  have hp := hc p
  rw [he] at hp
  cases he' : s'.players.get p with
  | none => rw [he'] at hp; cases hp
  | some e' =>
    rw [he'] at hp
    cases hp with
    | some hchange => exact ⟨e', rfl, fun h => hlost (EntityState.placed_of_change hchange h)⟩

theorem somebodyLost_changes (hc : s.Changes s') (h : SomebodyLost s) : SomebodyLost s' := by
  obtain ⟨p, e, he, hlost⟩ := h
  obtain ⟨e', he', hlost'⟩ := lost_changes hc he hlost
  exact ⟨p, e', he', hlost'⟩

/-- An input whose moves are no numbers costs its player the place. -/
theorem somebodyLost_applyInput
    (hinput : ¬ (s.aliveAt input.playerId = true → input.Numeric)) :
    SomebodyLost (applyInput s input) := by
  obtain ⟨halive, hnan⟩ := Classical.not_imp.mp hinput
  obtain ⟨e, he⟩ := exists_of_aliveAt halive
  refine ⟨input.playerId, move input e, ?_, fun h => hnan (EntityState.placed_move.mp h).2⟩
  rw [get_applyInput_self halive, he, Option.map_some]

/-! ## One section -/

/-- **A section** keeps the places if the inputs that it applies are numeric, and somebody loses the
place if not. -/
theorem places_exec (h : g.state.AllPlaced) (sec : Section Coord) :
    (OnInputs (fun _ input => input.Numeric) g sec ∧ (g.exec sec).state.AllPlaced) ∨
    (¬ OnInputs (fun _ input => input.Numeric) g sec ∧ SomebodyLost (g.exec sec).state) := by
  cases sec with
  | handleInput input => exact Or.inl ⟨trivial, h⟩
  | popAll => exact Or.inl ⟨trivial, h⟩
  | eliminatePlayer p =>
    refine Or.inl ⟨trivial, fun q e he => ?_⟩
    rw [exec, eliminatePlayer] at he
    split at he
    · exact h q e he
    · split at he
      · exact h q e he
      · rw [checkGameOver_state] at he
        dsimp only at he
        rw [UMap.get_modify] at he
        split at he
        · obtain ⟨e₀, he₀, rfl⟩ := Option.map_eq_some_iff.mp he
          exact h p e₀ he₀
        · exact h q e he
  | advance inputs =>
    cases hover : g.gameOver with
    | true =>
      refine Or.inl ⟨fun hrunning => ?_, ?_⟩
      · rw [hover] at hrunning
        cases hrunning
      · rw [(exec_over hover _).1]
        exact h
    | false =>
      have hstate : (g.exec (.advance inputs)).state =
          inputs.foldl applyInput { g.state with frameId := g.state.frameId + 1 } := by
        rw [exec, advance, if_neg (by simp [hover]), checkGameOver_state]
      have hframe : GameState.AllPlaced { g.state with frameId := g.state.frameId + 1 } := h
      rw [hstate]
      -- Over the batch: the places are kept, or lost with one input and lost from then on.
      rcases last_of_guard (I := GameState.AllPlaced) (B := SomebodyLost)
          (G := fun s input => s.aliveAt input.playerId = true → input.Numeric)
          (fun _ _ => allPlaced_applyInput) (fun _ _ _ => somebodyLost_applyInput)
          (fun s input => somebodyLost_changes (changes_applyInput s input)) inputs hframe with
        ⟨hall, hplaced⟩ | ⟨hnot, hlost⟩
      · exact Or.inl ⟨fun _ => hall, hplaced⟩
      · exact Or.inr ⟨fun hinputs => hnot (hinputs hover), hlost⟩

/-- The steps of a section are as long as they should be exactly if its inputs are numeric. -/
theorem onInputs_movesAtMost_iff (h : g.state.AllPlaced) (sec : Section Coord) :
    OnInputs MovesAtMost g sec ↔ OnInputs (fun _ input => input.Numeric) g sec := by
  cases sec with
  | handleInput input => exact Iff.rfl
  | popAll => exact Iff.rfl
  | eliminatePlayer p => exact Iff.rfl
  | advance inputs =>
    have hframe : GameState.AllPlaced { g.state with frameId := g.state.frameId + 1 } := h
    refine imp_congr_right fun _ => allSteps_iff_allSteps (I := GameState.AllPlaced) ?_ ?_ inputs
      hframe
    · intro s input hs
      exact imp_congr_right fun halive => movesAtMost_iff hs halive
    · intro s input hs hmoves
      exact allPlaced_applyInput hs fun halive => (movesAtMost_iff hs halive).mp (hmoves halive)

/-! ## A battle -/

theorem allPlaced_spawn (ids : List PlayerId) (x : ℚ)
    {players : UMap PlayerId (EntityState Coord)}
    (h : ∀ p e, players.get p = some e → e.Placed) :
    ∀ p e, (spawn (some x) players ids).get p = some e → e.Placed := by
  induction ids generalizing x players with
  | nil => exact h
  | cons id ids ih =>
    refine ih (x + 5) fun p e he => ?_
    rw [UMap.get_insert] at he
    split at he
    · cases he
      exact ⟨rfl, rfl⟩
    · exact h p e he

theorem allPlaced_start (g : GameRoom Coord) (ids : List PlayerId) :
    (g.start ids).state.AllPlaced :=
  allPlaced_spawn ids 0 fun _ _ h => by cases h

/-- Everybody always has a place and can be reached, and no step is too long. -/
structure KeepsPlaces (g : GameRoom Coord) (sections : List (Section Coord)) : Prop where
  placed : AllStates exec (fun g => g.state.AllPlaced) g sections
  moves : AllSteps exec (OnInputs MovesAtMost) g sections
  inReach : AllStates exec
    (fun g => ∀ p e, g.state.players.get p = some e → ¬ e.OutOfReach) g sections

/--
**Coordinates.**

Any earlier use of the `GameRoom` object, `Start` with any players, then any sequence of critical
sections. All is well exactly if the moves of all inputs that are applied are numbers; otherwise
there is a player whom no shot reaches any more, whatever happens then.
-/
theorem keepsPlaces_iff (g : GameRoom Coord) (ids : List PlayerId)
    (sections : List (Section Coord)) :
    (KeepsPlaces (g.start ids) sections ↔
      AllSteps exec (OnInputs fun _ input => input.Numeric) (g.start ids) sections) ∧
    (¬ AllSteps exec (OnInputs fun _ input => input.Numeric) (g.start ids) sections →
      ∃ p, ∀ later, ∃ e, (((g.start ids).run sections).run later).state.players.get p = some e ∧
        e.OutOfReach) := by
  have hstart := allPlaced_start g ids
  have hstep : ∀ (g : GameRoom Coord) sec, g.state.AllPlaced →
      OnInputs (fun _ input => input.Numeric) g sec → (g.exec sec).state.AllPlaced := by
    intro g sec h hnumeric
    rcases places_exec h sec with ⟨-, hplaced⟩ | ⟨hnot, -⟩
    · exact hplaced
    · exact absurd hnumeric hnot
  have hbad : ∀ (g : GameRoom Coord) sec, g.state.AllPlaced →
      ¬ OnInputs (fun _ input => input.Numeric) g sec → SomebodyLost (g.exec sec).state := by
    intro g sec h hnot
    rcases places_exec h sec with ⟨hnumeric, -⟩ | ⟨-, hlost⟩
    · exact absurd hnumeric hnot
    · exact hlost
  -- While all are in their places, an input moves a player a step exactly if it is a number.
  have hmoves : AllSteps exec (OnInputs MovesAtMost) (g.start ids) sections ↔
      AllSteps exec (OnInputs fun _ input => input.Numeric) (g.start ids) sections :=
    allSteps_iff_allSteps (I := fun g : GameRoom Coord => g.state.AllPlaced)
      (fun _ sec h => onInputs_movesAtMost_iff h sec)
      (fun g sec h hm => hstep g sec h ((onInputs_movesAtMost_iff h sec).mp hm)) sections hstart
  refine ⟨⟨fun h => hmoves.mp h.moves, fun hall => ?_⟩, fun hnot => ?_⟩
  · have hplaced : AllStates exec (fun g => g.state.AllPlaced) (g.start ids) sections :=
      AllStates.of_allSteps (I := fun g : GameRoom Coord => g.state.AllPlaced) hstep sections
        hstart hall
    refine ⟨hplaced, hmoves.mpr hall, hplaced.imp (fun g h p e he hout => ?_) sections⟩
    exact EntityState.outOfReach_iff.mp hout (h p e he)
  · have hlost : SomebodyLost ((g.start ids).run sections).state := by
      rcases last_of_guard (I := fun g : GameRoom Coord => g.state.AllPlaced)
          (B := fun g : GameRoom Coord => SomebodyLost g.state) hstep hbad
          (fun g sec => somebodyLost_changes (changes_exec g sec)) sections hstart with
        ⟨hall, -⟩ | ⟨-, hlost⟩
      · exact absurd hall hnot
      · exact hlost
    -- Who is lost once stays lost.
    obtain ⟨p, e, he, hlost⟩ := hlost
    refine ⟨p, fun later => ?_⟩
    obtain ⟨e', he', hlost'⟩ := lost_changes (changes_run later _) he hlost
    exact ⟨e', he', EntityState.outOfReach_iff.mpr hlost'⟩

/-- One packet whose `move_x` is NaN, and one tick. -/
theorem keepsPlaces_counterexample :
    let poison : InputCommand Coord := { playerId := 1, moveX := none, moveY := some 0 }
    ¬ KeepsPlaces (({ roomId := 1000 } : GameRoom Coord).start [1, 2])
      [.handleInput poison, .popAll, .advance [poison]] := by
  intro poison h
  obtain ⟨-, -, -, hplaced⟩ := h.placed
  have hx : (((({ roomId := 1000 } : GameRoom Coord).start [1, 2]).run
      [.handleInput poison, .popAll, .advance [poison]]).state.players.get 1).map (·.x) =
        some none := by
    decide +kernel
  obtain ⟨e, he, hnan⟩ := Option.map_eq_some_iff.mp hx
  have hnumber := (hplaced 1 e he).1
  rw [hnan] at hnumber
  cases hnumber

end GameRoom
end Game
