import GameServer.Game.InputEffect

/-!
# Inputs and the ticks that take them

Inputs wait in the buffer until a tick takes them all. Which tick takes an input depends on when its
packet arrives.

A tick applies its batch to the end, and looks only then whether the battle is over. If the battle is
decided in the middle of a batch, the rest of the batch is applied all the same; spread over more
ticks, it would not be.

## Why the result is the same

Once one player is left, an input of anybody else is skipped, and an input of this player finds
nobody to hit. So all that such inputs do is to move the winner (`onlyMoved_applyInputs`).
-/

namespace Game

open Infra

variable {F : Type} [Axis F]

/-- The same players, `w` perhaps at another place. -/
structure OnlyMoved (w : PlayerId) (s s' : GameState F) : Prop where
  keys : s'.players.keys = s.players.keys
  others : ∀ p, p ≠ w → s'.players.get p = s.players.get p
  lives : (s'.players.get w).map (fun e => (e.hp, e.alive)) =
    (s.players.get w).map fun e => (e.hp, e.alive)

namespace OnlyMoved

variable {w : PlayerId} {s s' s'' : GameState F}

omit [Axis F] in
theorem refl (w : PlayerId) (s : GameState F) : OnlyMoved w s s :=
  ⟨rfl, fun _ _ => rfl, rfl⟩

omit [Axis F] in
theorem symm (h : OnlyMoved w s s') : OnlyMoved w s' s :=
  ⟨h.keys.symm, fun p hp => (h.others p hp).symm, h.lives.symm⟩

omit [Axis F] in
theorem trans (h : OnlyMoved w s s') (h' : OnlyMoved w s' s'') : OnlyMoved w s s'' :=
  ⟨h'.keys.trans h.keys, fun p hp => (h'.others p hp).trans (h.others p hp),
    h'.lives.trans h.lives⟩

omit [Axis F] in
theorem get_lives (h : OnlyMoved w s s') (p : PlayerId) :
    (s'.players.get p).map (fun e => (e.hp, e.alive)) =
      (s.players.get p).map fun e => (e.hp, e.alive) := by
  by_cases hp : p = w
  · subst hp
    exact h.lives
  · rw [h.others p hp]

omit [Axis F] in
theorem aliveIds (h : OnlyMoved w s s') : s'.aliveIds = s.aliveIds := by
  have halive : s'.aliveAt = s.aliveAt := by
    funext p
    have hp := h.get_lives p
    unfold GameState.aliveAt
    cases hs : s.players.get p with
    | none =>
      rw [hs, Option.map_none, Option.map_eq_none_iff] at hp
      rw [hp]
    | some e =>
      rw [hs, Option.map_some, Option.map_eq_some_iff] at hp
      obtain ⟨e', hs', heq⟩ := hp
      rw [hs']
      exact congrArg Prod.snd heq
  rw [GameState.aliveIds, GameState.aliveIds, h.keys, halive]

end OnlyMoved

/-- What is seen of a battle after its ticks, next to another battle `g`. -/
structure SameOutcome (g g' : GameRoom F) : Prop where
  gameOver : g'.gameOver = g.gameOver
  winnerId : g'.winnerId = g.winnerId
  /-- Everybody has the same hit points, and the same are alive. -/
  lives : ∀ p, (g'.state.players.get p).map (fun e => (e.hp, e.alive)) =
    (g.state.players.get p).map fun e => (e.hp, e.alive)
  /-- Everybody is at the same place, the winner of an ended battle apart. -/
  places : ∀ p, (g.gameOver = true → p ≠ g.winnerId) →
    g'.state.players.get p = g.state.players.get p

namespace GameRoom

/-- Successive ticks; the inputs of a batch have arrived when its tick begins. -/
def playTicks (g : GameRoom F) (batches : List (List (InputCommand F))) : GameRoom F :=
  batches.foldl (fun g batch => (batch.foldl handleInput g).tick) g

/-! ## Inputs after the decision -/

/-- **An input when one player is left** moves this player, if anybody. -/
theorem onlyMoved_applyInput {w : PlayerId} {s : GameState F} (hone : s.aliveIds = [w])
    (input : InputCommand F) : OnlyMoved w s (applyInput s input) := by
  have hdead : ∀ p, p ≠ w → s.aliveAt p = false := by
    intro p hp
    rw [← Bool.not_eq_true, ← GameState.mem_aliveIds, hone, List.mem_singleton]
    exact hp
  by_cases hsender : input.playerId = w
  · have halive : s.aliveAt input.playerId = true := by
      rw [hsender, ← GameState.mem_aliveIds, hone]
      exact List.mem_singleton_self w
    refine ⟨keys_applyInput s input, fun p hp => ?_, ?_⟩
    · -- Nobody else is alive, so nobody else is hit.
      rw [← hsender] at hp
      cases hshooter : (applyInput s input).players.get input.playerId with
      | none =>
        rw [get_applyInput_self halive, Option.map_eq_none_iff] at hshooter
        simp [GameState.aliveAt, hshooter] at halive
      | some shooter =>
        rw [get_applyInput_of_ne hshooter halive hp]
        cases he : s.players.get p with
        | none => rfl
        | some e =>
          have hlife := hdead p (hsender ▸ hp)
          rw [GameState.aliveAt_eq he] at hlife
          simp [Struck, hlife]
    · subst hsender
      rw [get_applyInput_self halive, Option.map_map]
      rfl
  · have hskip : applyInput s input = s := if_pos (hdead input.playerId hsender)
    rw [hskip]
    exact .refl w s

theorem onlyMoved_applyInputs {w : PlayerId} (inputs : List (InputCommand F)) {s : GameState F}
    (hone : s.aliveIds = [w]) : OnlyMoved w s (inputs.foldl applyInput s) := by
  induction inputs generalizing s with
  | nil => exact .refl w s
  | cons input inputs ih =>
    have hinput := onlyMoved_applyInput hone input
    exact hinput.trans (ih (hinput.aliveIds.trans hone))

/-! ## The frame number -/

/-- What an input does to the players does not depend on the number of the frame. -/
theorem players_applyInput {s s' : GameState F} (h : s'.players = s.players)
    (input : InputCommand F) : (applyInput s' input).players = (applyInput s input).players := by
  have halive : s'.aliveAt input.playerId = s.aliveAt input.playerId := by
    unfold GameState.aliveAt
    rw [h]
  unfold applyInput
  rw [halive]
  split
  · exact h
  · dsimp only
    rw [h]
    split <;> rfl

theorem players_applyInputs (inputs : List (InputCommand F)) {s s' : GameState F}
    (h : s'.players = s.players) :
    (inputs.foldl applyInput s').players = (inputs.foldl applyInput s).players := by
  induction inputs generalizing s s' with
  | nil => exact h
  | cons input inputs ih => exact ih (players_applyInput h input)

omit [Axis F] in
theorem aliveIds_congr {s s' : GameState F} (h : s'.players = s.players) :
    s'.aliveIds = s.aliveIds := by
  unfold GameState.aliveIds GameState.aliveAt
  rw [h]

/-! ## The outcome of a sequence of inputs -/

/-- `g` is what a battle has become, when its inputs one after the other make its state into `s`. -/
structure Outcome (s : GameState F) (g : GameRoom F) : Prop where
  decided : ∀ w, s.aliveIds = [w] → g.gameOver = true ∧ g.winnerId = w ∧ OnlyMoved w s g.state
  undecided : 2 ≤ s.aliveIds.length →
    g.gameOver = false ∧ g.winnerId = 0 ∧ g.state.players = s.players

omit [Axis F] in
theorem outcome_settled {g : GameRoom F} (h : Settled g) : Outcome g.state g := by
  cases hover : g.gameOver with
  | true =>
    have hone := h.ended hover
    refine ⟨fun w hw => ?_, fun htwo => ?_⟩
    · rw [hone, List.singleton_inj] at hw
      subst hw
      exact ⟨hover, rfl, .refl _ _⟩
    · rw [hone] at htwo
      simp at htwo
  | false =>
    obtain ⟨htwo, hzero⟩ := h.running hover
    refine ⟨fun w hw => ?_, fun _ => ⟨hover, hzero, rfl⟩⟩
    rw [hw] at htwo
    simp at htwo

omit [Axis F] in
/-- The number of the frame is no part of the outcome. -/
theorem Outcome.congr {s s' : GameState F} {g : GameRoom F} (h : s'.players = s.players)
    (ho : Outcome s g) : Outcome s' g := by
  have hids := aliveIds_congr h
  refine ⟨fun w hw => ?_, fun htwo => ?_⟩
  · obtain ⟨hover, hwinner, hkeys, hothers, hlives⟩ := ho.decided w (hids ▸ hw)
    refine ⟨hover, hwinner, ?_, ?_, ?_⟩ <;> rw [h]
    · exact hkeys
    · exact hothers
    · exact hlives
  · obtain ⟨hover, hzero, hplayers⟩ := ho.undecided (hids ▸ htwo)
    exact ⟨hover, hzero, hplayers.trans h.symm⟩

omit [Axis F] in
/-- Nor is the place of the winner. -/
theorem Outcome.moved {w : PlayerId} {s s' : GameState F} {g : GameRoom F}
    (hone : s.aliveIds = [w]) (h : OnlyMoved w s s') (ho : Outcome s g) : Outcome s' g := by
  have hone' : s'.aliveIds = [w] := h.aliveIds.trans hone
  refine ⟨fun w' hw' => ?_, fun htwo => ?_⟩
  · rw [hone', List.singleton_inj] at hw'
    subst hw'
    obtain ⟨hover, hwinner, hmoved⟩ := ho.decided w hone
    exact ⟨hover, hwinner, h.symm.trans hmoved⟩
  · rw [hone'] at htwo
    simp at htwo

omit [Axis F] in
theorem inputBuffer_handleInputs (batch : List (InputCommand F)) (g : GameRoom F) :
    batch.foldl handleInput g = { g with inputBuffer := g.inputBuffer ++ batch } := by
  induction batch generalizing g with
  | nil => simp
  | cons input batch ih =>
    rw [List.foldl_cons, ih]
    show ({ g with inputBuffer := (g.inputBuffer ++ [input]) ++ batch } : GameRoom F) = _
    rw [List.append_assoc]
    rfl

/-- A settled battle is settled after a tick, and the buffer is empty. -/
theorem settled_tick {g : GameRoom F} (h : Settled g) :
    Settled g.tick ∧ g.tick.inputBuffer = [] := by
  have hsettled : Settled g.tick := by
    rw [tick_eq_run]
    exact settled_run _ h
  refine ⟨hsettled, ?_⟩
  show (g.popAll.2.advance g.inputBuffer).inputBuffer = []
  rw [advance]
  split
  · rfl
  · rw [checkGameOver_eq]
    split <;> rfl

/-- The players after a tick of a running battle. -/
theorem players_tick {g : GameRoom F} (hover : g.gameOver = false) :
    g.tick.state.players = (g.inputBuffer.foldl applyInput g.state).players := by
  show (g.popAll.2.advance g.inputBuffer).state.players = _
  rw [advance, if_neg (by simp [popAll, hover]), checkGameOver_state]
  exact players_applyInputs g.inputBuffer rfl

/-- **Ticks**: the outcome is that of the inputs one after the other. -/
theorem outcome_playTicks (batches : List (List (InputCommand F))) {g : GameRoom F}
    (h : Settled g) (hwait : g.inputBuffer = [] ∨ batches ≠ []) :
    Outcome ((g.inputBuffer ++ batches.flatten).foldl applyInput g.state)
      (g.playTicks batches) := by
  -- The invariant is `Settled`; after the first tick nothing waits any more.
  induction batches generalizing g with
  | nil =>
    have hbuffer : g.inputBuffer = [] := by simpa using hwait
    rw [hbuffer]
    exact outcome_settled h
  | cons batch batches ih =>
    have hpushed := inputBuffer_handleInputs batch g
    have hsettled : Settled (batch.foldl handleInput g) := by
      rw [hpushed]
      exact ⟨h.ended, h.running⟩
    obtain ⟨hnext, hbuffer⟩ := settled_tick hsettled
    have hrest := ih hnext (Or.inl hbuffer)
    rw [hbuffer, List.nil_append] at hrest
    rw [List.flatten_cons, ← List.append_assoc, List.foldl_append]
    show Outcome _ ((batch.foldl handleInput g).tick.playTicks batches)
    cases hover : g.gameOver with
    | false =>
      have hplayers := players_tick (g := batch.foldl handleInput g) (by rw [hpushed]; exact hover)
      refine hrest.congr (players_applyInputs _ ?_)
      rw [hplayers, hpushed]
    | true =>
      -- The tick does nothing, and the inputs only move the winner.
      have hone := h.ended hover
      have hstate : (batch.foldl handleInput g).tick.state = g.state := by
        have hover' : (batch.foldl handleInput g).gameOver = true := by rw [hpushed]; exact hover
        rw [tick_eq_run, (run_over _ hover').1, hpushed]
      rw [hstate] at hrest
      have hafter := onlyMoved_applyInputs (g.inputBuffer ++ batch) hone
      refine hrest.moved (w := g.winnerId) ?_ ?_
      · exact (onlyMoved_applyInputs _ hone).aliveIds.trans hone
      · exact (onlyMoved_applyInputs _ hone).symm.trans
          (hafter.trans (onlyMoved_applyInputs _ (hafter.aliveIds.trans hone)))

omit [Axis F] in
/-- Two outcomes of the same inputs. -/
theorem Outcome.same {s : GameState F} {g g' : GameRoom F} (hsome : s.aliveIds ≠ [])
    (h : Outcome s g) (h' : Outcome s g') : SameOutcome g g' := by
  have hpos := List.length_pos_iff.mpr hsome
  rcases Nat.lt_or_ge s.aliveIds.length 2 with hlt | htwo
  · obtain ⟨w, hw⟩ : ∃ w, s.aliveIds = [w] := List.length_eq_one_iff.mp (by omega)
    obtain ⟨hover, hwinner, hmoved⟩ := h.decided w hw
    obtain ⟨hover', hwinner', hmoved'⟩ := h'.decided w hw
    have hboth : OnlyMoved w g.state g'.state := hmoved.symm.trans hmoved'
    refine ⟨hover'.trans hover.symm, hwinner'.trans hwinner.symm, hboth.get_lives, fun p hp => ?_⟩
    exact hboth.others p (hwinner ▸ hp hover)
  · obtain ⟨hover, hzero, hplayers⟩ := h.undecided htwo
    obtain ⟨hover', hzero', hplayers'⟩ := h'.undecided htwo
    have hsame : g'.state.players = g.state.players := hplayers'.trans hplayers.symm
    refine ⟨hover'.trans hover.symm, hzero'.trans hzero.symm, fun p => ?_, fun p _ => ?_⟩
    · rw [hsame]
    · rw [hsame]

/--
**The ticks do not matter.**

Any earlier use of the `GameRoom` object, `Start` with at least two distinct players, then one
sequence of inputs, spread over ticks in two ways. Inputs that wait from before the start come first;
if there are any, at least one tick takes them.
-/
theorem ticks_do_not_matter (g : GameRoom F) (ids : List PlayerId) (hnd : ids.Nodup)
    (hlen : 2 ≤ ids.length) (batches batches' : List (List (InputCommand F)))
    (hsequence : batches.flatten = batches'.flatten)
    (hwait : g.inputBuffer ≠ [] → batches ≠ [] ∧ batches' ≠ []) :
    SameOutcome ((g.start ids).playTicks batches) ((g.start ids).playTicks batches') := by
  have hsettled : Settled (g.start ids) := settled_start g hnd hlen
  have hsome : (g.start ids).state.aliveIds ≠ [] := by
    intro hnil
    have htwo := (hsettled.running rfl).1
    rw [hnil] at htwo
    simp at htwo
  have hwait' : ∀ bs : List (List (InputCommand F)), (g.inputBuffer ≠ [] → bs ≠ []) →
      (g.start ids).inputBuffer = [] ∨ bs ≠ [] := by
    intro bs hbs
    by_cases hbuffer : g.inputBuffer = []
    · exact Or.inl hbuffer
    · exact Or.inr (hbs hbuffer)
  have h := outcome_playTicks batches hsettled (hwait' batches fun hw => (hwait hw).1)
  have h' := outcome_playTicks batches' hsettled (hwait' batches' fun hw => (hwait hw).2)
  rw [← hsequence] at h'
  exact h.same (aliveIds_applyInputs _ _ hsome) h'

/-- Two inputs in one tick, and in two ticks with an empty one between them. -/
theorem ticks_do_not_matter_two :
    let shot : InputCommand Coord := { playerId := 1, moveX := some 1, moveY := some 0, fire := true }
    SameOutcome ((({ roomId := 1000 } : GameRoom Coord).start [1, 2]).playTicks [[shot, shot]])
      ((({ roomId := 1000 } : GameRoom Coord).start [1, 2]).playTicks [[shot], [], [shot]]) := by
  intro shot
  exact ticks_do_not_matter { roomId := 1000 } [1, 2] (by decide) (by decide) _ _ rfl nofun

end GameRoom
end Game
