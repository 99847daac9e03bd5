import GameServer.Game.UniqueWinner
import Mathlib.Logic.Relation

/-!
# Combat

Hit points, lives and positions of the players of a battle.

## The argument

* `Change` says what one step of the code can do to a player: only a player who is alive changes.
* Every critical section is a sequence of such steps for every player (`changes_exec`), so what a
  `Change` keeps, a run keeps.
* An input of a dead player is skipped, and the dead stay dead. So the inputs of a dead player can
  be left out of a run (`run_withoutInputs`).
-/

namespace Game

open Infra Relation

variable {F : Type} [Axis F]

/-! ## One player -/

/-- What one step of the code does to a player. -/
inductive Change : EntityState F → EntityState F → Prop where
  | move {e : EntityState F} (input : InputCommand F) (h : e.alive = true) :
    Change e (GameRoom.move input e)
  | damage {e : EntityState F} (h : e.alive = true) : Change e (GameRoom.damage e)
  | eliminate {e : EntityState F} (h : e.alive = true) : Change e { e with hp := 0, alive := false }

/-- What is true of the entity under the key `p` at all times. -/
structure EntityState.Sound (p : PlayerId) (e : EntityState F) : Prop where
  playerId : e.playerId = p
  ten : 10 ∣ e.hp
  nonneg : 0 ≤ e.hp
  le : e.hp ≤ 100
  alive : e.alive = true ↔ 0 < e.hp

/-- What is true of an entity and the same entity later on. -/
structure EntityState.Earlier (e e' : EntityState F) : Prop where
  hp : e'.hp ≤ e.hp
  dead : e.alive = false → e' = e

namespace EntityState

omit [Axis F] in
theorem Sound.ofDead {p : PlayerId} {e : EntityState F} (h : e.playerId = p) :
    { e with hp := 0, alive := false }.Sound p where
  playerId := h
  ten := Int.dvd_zero 10
  nonneg := Int.le_refl 0
  le := Int.le.intro_sub 100 rfl
  alive := by simp

theorem Sound.change {p : PlayerId} {e e' : EntityState F} (h : e.Sound p) (hc : Change e e') :
    e'.Sound p := by
  obtain ⟨hid, hten, hnonneg, hle, halive⟩ := h
  cases hc with
  | move input _ => exact ⟨hid, hten, hnonneg, hle, halive⟩
  | damage h =>
    have hpos : 0 < e.hp := halive.mp h
    obtain ⟨k, hk⟩ := hten
    unfold GameRoom.damage
    dsimp only
    split
    · exact .ofDead hid
    · next hmore =>
      refine ⟨hid, ⟨k - 1, ?_⟩, ?_, ?_, iff_of_true h ?_⟩
      all_goals
        dsimp only
        omega
  | eliminate _ => exact .ofDead hid

omit [Axis F] in
theorem Earlier.refl (e : EntityState F) : e.Earlier e :=
  ⟨Int.le_refl _, fun _ => rfl⟩

theorem Earlier.change {p : PlayerId} {e e' : EntityState F} (h : e.Sound p) (hc : Change e e') :
    e.Earlier e' := by
  have hdead : e.alive = true → e.alive = false → e' = e := by
    intro h h'
    rw [h] at h'
    cases h'
  cases hc with
  | move input halive => exact ⟨Int.le_refl _, hdead halive⟩
  | damage halive =>
    refine ⟨?_, hdead halive⟩
    have hnonneg := h.nonneg
    unfold GameRoom.damage
    dsimp only
    split
    · exact hnonneg
    · show e.hp - 10 ≤ e.hp
      omega
  | eliminate halive => exact ⟨h.nonneg, hdead halive⟩

omit [Axis F] in
theorem Earlier.trans {e e' e'' : EntityState F} (h : e.Earlier e') (h' : e'.Earlier e'') :
    e.Earlier e'' where
  hp := Int.le_trans h'.hp h.hp
  dead hd := by
    have he := h.dead hd
    subst he
    exact h'.dead hd

/-- Any number of changes. -/
theorem sound_changes {p : PlayerId} {e e' : EntityState F} (h : e.Sound p)
    (hc : ReflTransGen Change e e') : e'.Sound p ∧ e.Earlier e' := by
  induction hc with
  | refl => exact ⟨h, .refl e⟩
  | tail _ hc ih => exact ⟨ih.1.change hc, ih.2.trans (.change ih.1 hc)⟩

end EntityState

/-! ## All players -/

/-- The players of `s` and what has become of them in `s'`. -/
def GameState.Changes (s s' : GameState F) : Prop :=
  ∀ p, Option.Rel (ReflTransGen Change) (s.players.get p) (s'.players.get p)

namespace GameState

theorem Changes.refl (s : GameState F) : s.Changes s := by
  intro p
  cases s.players.get p with
  | none => exact .none
  | some e => exact .some .refl

theorem Changes.trans {s s' s'' : GameState F} (h : s.Changes s') (h' : s'.Changes s'') :
    s.Changes s'' := by
  intro p
  have hp := h p
  have hp' := h' p
  generalize s.players.get p = a, s'.players.get p = b, s''.players.get p = c at hp hp'
  cases hp with
  | none => exact hp'
  | some he =>
    cases hp' with
    | some he' => exact .some (he.trans he')

/-- A change of one player who is alive. -/
theorem changes_modify (s : GameState F) (p : PlayerId) {f : EntityState F → EntityState F}
    (hf : ∀ e, s.players.get p = some e → ReflTransGen Change e (f e)) :
    s.Changes { s with players := s.players.modify p f } := by
  intro q
  dsimp only
  rw [UMap.get_modify]
  split
  · next hqp =>
    subst hqp
    cases hq : s.players.get q with
    | none => exact .none
    | some e => exact .some (hf e hq)
  · exact Changes.refl s q

omit [Axis F] in
theorem aliveAt_eq {s : GameState F} {p : PlayerId} {e : EntityState F}
    (h : s.players.get p = some e) : s.aliveAt p = e.alive := by
  rw [aliveAt, h]

end GameState

namespace GameRoom

open GameState

theorem changes_shoot (shooterId : PlayerId) (s : GameState F) (targetId : PlayerId) :
    s.Changes { s with players := shoot shooterId s.players targetId } := by
  unfold shoot
  split
  · next shooter target _ htarget =>
    split
    · exact .refl s
    · next halive =>
      split
      · refine changes_modify s targetId fun e he => ?_
        rw [htarget] at he
        cases he
        exact .single (.damage (by simpa using fun h => halive (Or.inr h)))
      · exact .refl s
  · exact .refl s

theorem changes_shootAll (shooterId : PlayerId) : ∀ (targets : List PlayerId) (s : GameState F),
    s.Changes { s with players := targets.foldl (shoot shooterId) s.players }
  | [], s => .refl s
  | t :: targets, s =>
    (changes_shoot shooterId s t).trans
      (changes_shootAll shooterId targets { s with players := shoot shooterId s.players t })

theorem changes_applyInput (s : GameState F) (input : InputCommand F) :
    s.Changes (applyInput s input) := by
  unfold applyInput
  split
  · exact .refl s
  · next halive =>
    have hmove : s.Changes
        { s with players := s.players.modify input.playerId (move input) } := by
      refine changes_modify s _ fun e he => .single (.move input ?_)
      rw [aliveAt_eq he, Bool.not_eq_false] at halive
      exact halive
    split
    · exact hmove
    · exact hmove.trans (changes_shootAll input.playerId _ _)

theorem changes_applyInputs : ∀ (inputs : List (InputCommand F)) (s : GameState F),
    s.Changes (inputs.foldl applyInput s)
  | [], s => .refl s
  | input :: inputs, s => (changes_applyInput s input).trans (changes_applyInputs inputs _)

/-- **One critical section** changes the players step by step. -/
theorem changes_exec (g : GameRoom F) (sec : Section F) : g.state.Changes (g.exec sec).state := by
  cases sec with
  | handleInput input => exact .refl g.state
  | popAll => exact .refl g.state
  | advance inputs =>
    rw [exec, advance]
    split
    · exact .refl g.state
    · rw [checkGameOver_state]
      exact changes_applyInputs inputs { g.state with frameId := g.state.frameId + 1 }
  | eliminatePlayer p =>
    rw [exec, eliminatePlayer]
    split
    · exact .refl g.state
    · split
      · exact .refl g.state
      · next halive =>
        rw [checkGameOver_state]
        refine changes_modify g.state p fun e he => .single (.eliminate ?_)
        rw [aliveAt_eq he, Bool.not_eq_false] at halive
        exact halive

theorem changes_run : ∀ (sections : List (Section F)) (g : GameRoom F),
    g.state.Changes (g.run sections).state
  | [], g => .refl g.state
  | sec :: sections, g => (changes_exec g sec).trans (changes_run sections (g.exec sec))

/-- The entities of a battle that has just started. -/
theorem sound_spawn : ∀ (ids : List PlayerId) (x : F) {players : UMap PlayerId (EntityState F)},
    (∀ p e, players.get p = some e → e.Sound p) →
    ∀ p e, (spawn x players ids).get p = some e → e.Sound p
  | [], _, _, h => h
  | id :: ids, x, players, h => by
    refine sound_spawn ids (Axis.add x Axis.spawnGap) fun p e he => ?_
    rw [UMap.get_insert] at he
    split at he
    · next hp =>
      cases he
      exact ⟨hp.symm, ⟨10, rfl⟩, Int.le.intro_sub 100 rfl, Int.le_refl 100, by simp⟩
    · exact h p e he

/-- Every entity of a battle is sound at all times. -/
theorem sound_run (g : GameRoom F) (ids : List PlayerId) (sections : List (Section F)) {p : PlayerId}
    {e : EntityState F} (he : ((g.start ids).run sections).state.players.get p = some e) :
    e.Sound p := by
  have hsound : ∀ p e, (g.start ids).state.players.get p = some e → e.Sound p :=
    sound_spawn ids Axis.zero fun _ _ h => by cases h
  have hp := changes_run sections (g.start ids) p
  rw [he] at hp
  cases hs : (g.start ids).state.players.get p with
  | none => rw [hs] at hp; cases hp
  | some e₀ =>
    rw [hs] at hp
    cases hp with
    | some hee => exact (EntityState.sound_changes (hsound p e₀ hs) hee).1

/-! ## The inputs of a dead player -/

/-- The same sections without the inputs of `p`. -/
def withoutInputs (p : PlayerId) : List (Section F) → List (Section F)
  | [] => []
  | .handleInput input :: sections =>
    if input.playerId = p then withoutInputs p sections
    else .handleInput input :: withoutInputs p sections
  | .advance inputs :: sections =>
    .advance (inputs.filter (·.playerId ≠ p)) :: withoutInputs p sections
  | sec :: sections => sec :: withoutInputs p sections

/-- The same battle, the inputs that wait apart. -/
structure SameBattle (g g' : GameRoom F) : Prop where
  state : g.state = g'.state
  gameOver : g.gameOver = g'.gameOver
  winnerId : g.winnerId = g'.winnerId

/-- The dead stay dead. -/
theorem dead_of_changes {s s' : GameState F} (hc : s.Changes s')
    (hsound : ∀ p e, s.players.get p = some e → e.Sound p) {p : PlayerId}
    (hdead : s.aliveAt p = false) : s'.aliveAt p = false := by
  have hp := hc p
  unfold GameState.aliveAt at hdead ⊢
  cases hs : s.players.get p with
  | none =>
    rw [hs] at hp
    cases hs' : s'.players.get p with
    | none => rfl
    | some e' => rw [hs'] at hp; cases hp
  | some e =>
    rw [hs] at hp hdead
    cases hs' : s'.players.get p with
    | none => rfl
    | some e' =>
      rw [hs'] at hp
      cases hp with
      | some hee =>
        rw [(EntityState.sound_changes (hsound p e hs) hee).2.dead hdead]
        exact hdead

theorem sound_of_changes {s s' : GameState F} (hc : s.Changes s')
    (hsound : ∀ p e, s.players.get p = some e → e.Sound p) :
    ∀ p e, s'.players.get p = some e → e.Sound p := by
  intro p e' he'
  have hp := hc p
  rw [he'] at hp
  cases hs : s.players.get p with
  | none => rw [hs] at hp; cases hp
  | some e =>
    rw [hs] at hp
    cases hp with
    | some hee => exact (EntityState.sound_changes (hsound p e hs) hee).1

/-- A batch without the inputs of a dead player. -/
theorem applyInputs_filter {p : PlayerId} : ∀ (inputs : List (InputCommand F)) {s : GameState F},
    (∀ p e, s.players.get p = some e → e.Sound p) → s.aliveAt p = false →
    inputs.foldl applyInput s = (inputs.filter (·.playerId ≠ p)).foldl applyInput s
  | [], _, _, _ => rfl
  | input :: inputs, s, hsound, hdead => by
    have hc := changes_applyInput s input
    rw [List.foldl_cons]
    by_cases hp : input.playerId = p
    · have hskip : applyInput s input = s := by rw [applyInput, if_pos (hp ▸ hdead)]
      rw [List.filter_cons_of_neg (by simpa using hp), hskip]
      exact applyInputs_filter inputs hsound hdead
    · rw [List.filter_cons_of_pos (by simpa using hp), List.foldl_cons]
      exact applyInputs_filter inputs (sound_of_changes hc hsound) (dead_of_changes hc hsound hdead)

omit [Axis F] in
theorem SameBattle.checkGameOver {g g' : GameRoom F} (h : SameBattle g g') :
    SameBattle g.checkGameOver g'.checkGameOver := by
  unfold GameRoom.checkGameOver
  rw [h.state]
  dsimp only
  split
  · exact ⟨rfl, rfl, rfl⟩
  · exact h

/-- A section of the same battle with and without the inputs of a dead player. -/
theorem SameBattle.exec {g g' : GameRoom F} (h : SameBattle g g')
    (hsound : ∀ p e, g.state.players.get p = some e → e.Sound p) {p : PlayerId}
    (hdead : g.state.aliveAt p = false) (inputs : List (InputCommand F)) :
    SameBattle (g.advance inputs) (g'.advance (inputs.filter (·.playerId ≠ p))) := by
  unfold advance
  rw [← h.gameOver]
  split
  · exact h
  · refine SameBattle.checkGameOver ⟨?_, rfl, h.winnerId⟩
    dsimp only
    rw [← h.state]
    exact applyInputs_filter inputs hsound hdead

omit [Axis F] in
theorem SameBattle.eliminatePlayer {g g' : GameRoom F} (h : SameBattle g g') (p : PlayerId) :
    SameBattle (g.eliminatePlayer p) (g'.eliminatePlayer p) := by
  unfold GameRoom.eliminatePlayer
  rw [← h.gameOver, ← h.state]
  split
  · exact h
  · split
    · exact h
    · exact SameBattle.checkGameOver ⟨rfl, rfl, h.winnerId⟩

theorem run_withoutInputs {p : PlayerId} : ∀ (sections : List (Section F)) {g g' : GameRoom F},
    SameBattle g g' → (∀ p e, g.state.players.get p = some e → e.Sound p) →
    g.state.aliveAt p = false → SameBattle (g.run sections) (g'.run (withoutInputs p sections))
  | [], _, _, h, _, _ => h
  | sec :: sections, g, g', h, hsound, hdead => by
    have hc := changes_exec g sec
    have hnext : ∀ g', SameBattle (g.exec sec) g' →
        SameBattle (g.run (sec :: sections)) (g'.run (withoutInputs p sections)) := fun _ h' =>
      run_withoutInputs sections h' (sound_of_changes hc hsound) (dead_of_changes hc hsound hdead)
    cases sec with
    | handleInput input =>
      rw [withoutInputs]
      split
      · exact hnext _ ⟨h.state, h.gameOver, h.winnerId⟩
      · exact hnext (g'.handleInput input) ⟨h.state, h.gameOver, h.winnerId⟩
    | popAll => exact hnext g'.popAll.2 ⟨h.state, h.gameOver, h.winnerId⟩
    | advance inputs => exact hnext _ (h.exec hsound hdead inputs)
    | eliminatePlayer q => exact hnext _ (h.eliminatePlayer q)

/-! ## The result -/

/--
**Combat.**

Any earlier use of the `GameRoom` object, `Start` with any players, then any sequence of
critical sections of `HandleInput`, `Tick` and `EliminatePlayer`. The players stay the same; every
entity is sound; later on nobody has more hit points, and the dead are as they were; and leaving out
the inputs of a dead player changes nothing.
-/
theorem combat (g : GameRoom F) (ids : List PlayerId) (sections : List (Section F)) :
    let r := (g.start ids).run sections
    (∀ p, (r.state.players.get p).isSome ↔ p ∈ ids) ∧
    (∀ p e, r.state.players.get p = some e → e.Sound p) ∧
    (∀ later p e, r.state.players.get p = some e →
      ∃ e', (r.run later).state.players.get p = some e' ∧ e.Earlier e') ∧
    (∀ later p, r.state.aliveAt p = false →
      SameBattle (r.run later) (r.run (withoutInputs p later))) := by
  intro r
  have hsound : ∀ p e, r.state.players.get p = some e → e.Sound p :=
    fun _ _ => sound_run g ids sections
  refine ⟨fun p => ?_, hsound, fun later p e he => ?_, fun later p hdead => ?_⟩
  · rw [← UMap.mem_keys, keys_run]
    exact (mem_keys_spawn ids _ _).trans (or_iff_left (by simp))
  · have hp := changes_run later r p
    rw [he] at hp
    cases he' : (r.run later).state.players.get p with
    | none => rw [he'] at hp; cases hp
    | some e' =>
      rw [he'] at hp
      cases hp with
      | some hee => exact ⟨e', rfl, (EntityState.sound_changes (hsound p e he) hee).2⟩
  · exact run_withoutInputs later ⟨rfl, rfl, rfl⟩ hsound hdead

end GameRoom
end Game
