import GameServer.Game.GameRoom
import Mathlib.Data.List.Perm.Subperm

/-!
# Unique winner

A battle of at least two players always has somebody alive, and it is over exactly when one
player is left.

## The argument

* A shooter survives its own shot, so an input leaves somebody alive
  (`aliveIds_applyInput`), whatever the batch did before.
* Outside a batch, a battle that is not over has at least two live players, so one surrender
  leaves at least one (`Settled`).
* A battle that is over is frozen: every critical section tests `game_over_` first (`exec_over`).
-/

namespace Game

open Infra

variable {F : Type} [Axis F]

namespace GameRoom

/-! ## Who is alive after an input -/

omit [Axis F] in
/-- Modifying an entry changes whether its player is alive and no other. -/
theorem aliveAt_modify_of_ne {s : GameState F} {p q : PlayerId} (h : q ≠ p)
    (f : EntityState F → EntityState F) :
    GameState.aliveAt { s with players := s.players.modify p f } q = s.aliveAt q := by
  simp [GameState.aliveAt, h]

/-- Moving changes nobody's life. -/
theorem aliveAt_move (s : GameState F) (input : InputCommand F) (p q : PlayerId) :
    GameState.aliveAt { s with players := s.players.modify p (move input) } q = s.aliveAt q := by
  by_cases h : q = p
  · subst h
    unfold GameState.aliveAt
    rw [UMap.get_modify_self]
    cases s.players.get q <;> rfl
  · exact aliveAt_modify_of_ne h _

@[simp] theorem keys_shoot (shooterId : PlayerId) (players : UMap PlayerId (EntityState F))
    (targetId : PlayerId) : (shoot shooterId players targetId).keys = players.keys := by
  unfold shoot
  split
  · split
    · rfl
    · split <;> rfl
  · rfl

/-- **A shot never changes the shooter.** -/
theorem get_shoot_self (shooterId : PlayerId) (players : UMap PlayerId (EntityState F))
    (targetId : PlayerId) :
    (shoot shooterId players targetId).get shooterId = players.get shooterId := by
  unfold shoot
  split
  · split
    · rfl
    · next h =>
      split
      · exact UMap.get_modify_of_ne (fun he => h (Or.inl he.symm)) _ _
      · rfl
  · rfl

theorem keys_shootAll (shooterId : PlayerId) : ∀ (targets : List PlayerId)
    (players : UMap PlayerId (EntityState F)),
    (targets.foldl (shoot shooterId) players).keys = players.keys
  | [], _ => rfl
  | t :: targets, players => by
    rw [List.foldl_cons, keys_shootAll shooterId targets, keys_shoot]

theorem get_shootAll_self (shooterId : PlayerId) : ∀ (targets : List PlayerId)
    (players : UMap PlayerId (EntityState F)),
    (targets.foldl (shoot shooterId) players).get shooterId = players.get shooterId
  | [], _ => rfl
  | t :: targets, players => by
    rw [List.foldl_cons, get_shootAll_self shooterId targets, get_shoot_self]

@[simp] theorem keys_applyInput (s : GameState F) (input : InputCommand F) :
    (applyInput s input).players.keys = s.players.keys := by
  unfold applyInput
  split
  · rfl
  · split
    · rfl
    · exact keys_shootAll _ _ _

/-- The player who acts is alive afterwards if it was before. -/
theorem aliveAt_applyInput_self (s : GameState F) (input : InputCommand F)
    (h : s.aliveAt input.playerId = true) :
    (applyInput s input).aliveAt input.playerId = true := by
  have hmove := (aliveAt_move s input input.playerId input.playerId).trans h
  unfold applyInput
  rw [if_neg (by simp [h])]
  split
  · exact hmove
  · unfold GameState.aliveAt at hmove ⊢
    rw [get_shootAll_self]
    exact hmove

/-- **An input leaves somebody alive.** Only a live player acts, and it survives. -/
theorem aliveIds_applyInput {s : GameState F} (h : s.aliveIds ≠ []) (input : InputCommand F) :
    (applyInput s input).aliveIds ≠ [] := by
  cases ha : s.aliveAt input.playerId with
  | false =>
    have hs : applyInput s input = s := by rw [applyInput, if_pos ha]
    rw [hs]
    exact h
  | true =>
    exact List.ne_nil_of_mem (GameState.mem_aliveIds.mpr (aliveAt_applyInput_self s input ha))

/-- A whole batch of inputs leaves somebody alive. -/
theorem aliveIds_applyInputs : ∀ (inputs : List (InputCommand F)) (s : GameState F),
    s.aliveIds ≠ [] → (inputs.foldl applyInput s).aliveIds ≠ []
  | [], _, h => h
  | input :: inputs, s, h =>
    aliveIds_applyInputs inputs (applyInput s input) (aliveIds_applyInput h input)

/-! ## CheckGameOver -/

/-- The loop of `CheckGameOver` over any enumeration: a count and the last live player. -/
theorem foldl_alive (alive : PlayerId → Bool) : ∀ (keys : List PlayerId) (n : Nat) (p : PlayerId),
    keys.foldl (fun (acc : Nat × PlayerId) k => if alive k then (acc.1 + 1, k) else acc) (n, p)
      = (n + (keys.filter alive).length, (keys.filter alive).getLastD p)
  | [], _, _ => rfl
  | k :: keys, n, p => by
    rw [List.foldl_cons]
    cases hk : alive k with
    | false => simp [foldl_alive alive keys n p, hk]
    | true =>
      simp only [if_true, foldl_alive alive keys (n + 1) k, List.filter_cons_of_pos hk,
        List.length_cons, List.getLastD_cons]
      rw [Nat.add_assoc, Nat.add_comm 1]

omit [Axis F] in
/-- `CheckGameOver` in terms of the live players. -/
theorem checkGameOver_eq (g : GameRoom F) :
    g.checkGameOver = if g.state.aliveIds.length ≤ 1 ∧ g.state.players.keys ≠ [] then
        { g with gameOver := true, winnerId := g.state.aliveIds.getLastD 0 }
      else g := by
  unfold checkGameOver
  rw [foldl_alive]
  simp only [Nat.zero_add]
  rfl

omit [Axis F] in
@[simp] theorem checkGameOver_state (g : GameRoom F) : g.checkGameOver.state = g.state := by
  rw [checkGameOver_eq]
  split <;> rfl

/-! ## The invariant -/

/-- A battle between two critical sections: over with one player left, or not over with more. -/
structure Settled (g : GameRoom F) : Prop where
  ended : g.gameOver = true → g.state.aliveIds = [g.winnerId]
  running : g.gameOver = false → 2 ≤ g.state.aliveIds.length ∧ g.winnerId = 0

omit [Axis F] in
/-- Checking settles a battle in which somebody is alive. -/
theorem settled_checkGameOver {g : GameRoom F} (hover : g.gameOver = false)
    (hwinner : g.winnerId = 0) (halive : g.state.aliveIds ≠ []) : Settled g.checkGameOver := by
  have hkeys : g.state.players.keys ≠ [] := by
    intro hk
    exact halive (by rw [GameState.aliveIds, hk]; rfl)
  rw [checkGameOver_eq]
  by_cases h : g.state.aliveIds.length ≤ 1
  · rw [if_pos ⟨h, hkeys⟩]
    obtain ⟨p, hp⟩ : ∃ p, g.state.aliveIds = [p] := by
      have hpos := List.length_pos_iff.mpr halive
      exact List.length_eq_one_iff.mp (by omega)
    constructor
    · intro _
      show g.state.aliveIds = [g.state.aliveIds.getLastD 0]
      rw [hp]
      rfl
    · intro hf
      simp at hf
  · rw [if_neg (fun hc => h hc.1)]
    constructor
    · intro ht
      rw [hover] at ht
      simp at ht
    · intro _
      exact ⟨by omega, hwinner⟩

/-- An ended battle does not change any more. -/
theorem exec_over {g : GameRoom F} (h : g.gameOver = true) (sec : Section F) :
    (g.exec sec).state = g.state ∧ (g.exec sec).gameOver = true ∧
      (g.exec sec).winnerId = g.winnerId := by
  cases sec with
  | handleInput input => exact ⟨rfl, h, rfl⟩
  | popAll => exact ⟨rfl, h, rfl⟩
  | advance inputs =>
    rw [exec, advance, if_pos h]
    exact ⟨rfl, h, rfl⟩
  | eliminatePlayer p =>
    rw [exec, eliminatePlayer, if_pos h]
    exact ⟨rfl, h, rfl⟩

omit [Axis F] in
/-- A surrender leaves the other live players alive. -/
theorem aliveIds_eliminate {g : GameRoom F} (h : 2 ≤ g.state.aliveIds.length) (p : PlayerId) :
    GameState.aliveIds { g.state with
      players := g.state.players.modify p fun e => { e with hp := 0, alive := false } } ≠ [] := by
  obtain ⟨q, hq, hqp⟩ : ∃ q ∈ g.state.aliveIds, q ≠ p := by
    by_contra hall
    push Not at hall
    have hrep := List.eq_replicate_of_mem hall
    have hnd := g.state.aliveIds_nodup
    rw [hrep, List.nodup_replicate] at hnd
    omega
  refine List.ne_nil_of_mem (a := q) (GameState.mem_aliveIds.mpr ?_)
  rw [aliveAt_modify_of_ne hqp]
  exact GameState.mem_aliveIds.mp hq

/-- **One critical section keeps the battle settled.** -/
theorem settled_exec {g : GameRoom F} (h : Settled g) (sec : Section F) : Settled (g.exec sec) := by
  cases hover : g.gameOver with
  | true =>
    obtain ⟨hs, ho, hw⟩ := exec_over hover sec
    constructor
    · intro _
      rw [hs, hw]
      exact h.ended hover
    · intro hf
      rw [ho] at hf
      simp at hf
  | false =>
    obtain ⟨htwo, hzero⟩ := h.running hover
    have hsome : g.state.aliveIds ≠ [] := by
      intro hnil
      rw [hnil] at htwo
      simp at htwo
    cases sec with
    | handleInput input => exact ⟨h.ended, h.running⟩
    | popAll => exact ⟨h.ended, h.running⟩
    | advance inputs =>
      rw [exec, advance, if_neg (by simp [hover])]
      exact settled_checkGameOver hover hzero (aliveIds_applyInputs inputs _ hsome)
    | eliminatePlayer p =>
      rw [exec, eliminatePlayer, if_neg (by simp [hover])]
      split
      · exact h
      · exact settled_checkGameOver hover hzero (aliveIds_eliminate htwo p)

theorem settled_run : ∀ (sections : List (Section F)) {g : GameRoom F},
    Settled g → Settled (g.run sections)
  | [], _, h => h
  | sec :: sections, _, h => settled_run sections (settled_exec h sec)

/-! ## Start -/

/-- Spawning adds exactly the listed players, all alive. -/
theorem get_spawn : ∀ (ids : List PlayerId) (x : F) (players : UMap PlayerId (EntityState F))
    (p : PlayerId),
    (∀ e, players.get p = some e → e.alive = true) → (p ∈ ids ∨ p ∈ players.keys) →
    ∃ e, (spawn x players ids).get p = some e ∧ e.alive = true
  | [], x, players, p, halive, hmem => by
    have hp : p ∈ players.keys := by simpa using hmem
    obtain ⟨e, he⟩ := Option.isSome_iff_exists.mp (players.mem_keys.mp hp)
    exact ⟨e, he, halive e he⟩
  | id :: ids, x, players, p, halive, hmem => by
    refine get_spawn ids _ _ p ?_ ?_
    · intro e he
      rw [UMap.get_insert] at he
      split at he
      · rw [← Option.some.inj he]
      · exact halive e he
    · rw [UMap.mem_keys_insert]
      rcases hmem with hmem | hmem
      · rcases List.mem_cons.mp hmem with rfl | hmem
        · exact Or.inr (Or.inl rfl)
        · exact Or.inl hmem
      · exact Or.inr (Or.inr hmem)

theorem mem_keys_spawn : ∀ (ids : List PlayerId) (x : F) (players : UMap PlayerId (EntityState F))
    {p : PlayerId}, p ∈ (spawn x players ids).keys ↔ p ∈ ids ∨ p ∈ players.keys
  | [], _, _, _ => by simp [spawn]
  | id :: ids, x, players, p => by
    rw [spawn, mem_keys_spawn ids, UMap.mem_keys_insert, List.mem_cons]
    tauto

/-- Everybody is alive at the start. -/
theorem aliveIds_start (g : GameRoom F) (ids : List PlayerId) :
    (g.start ids).state.aliveIds = (g.start ids).state.players.keys := by
  rw [GameState.aliveIds, List.filter_eq_self]
  intro p hp
  have hid : p ∈ ids := by simpa using (mem_keys_spawn ids (Axis.zero : F) UMap.empty).mp hp
  obtain ⟨e, he, ha⟩ := get_spawn ids (Axis.zero : F) UMap.empty p (by simp) (Or.inl hid)
  rw [GameState.aliveAt, show (g.start ids).state.players.get p = some e from he]
  exact ha

/-- A battle that starts with two entities or more is settled. -/
theorem settled_start_of_keys (g : GameRoom F) {ids : List PlayerId}
    (hkeys : 2 ≤ (g.start ids).state.players.keys.length) : Settled (g.start ids) := by
  constructor
  · intro h
    simp [start] at h
  · intro _
    rw [aliveIds_start]
    exact ⟨hkeys, rfl⟩

/-- A battle started with two players or more is settled. -/
theorem settled_start (g : GameRoom F) {ids : List PlayerId} (hnd : ids.Nodup)
    (hlen : 2 ≤ ids.length) : Settled (g.start ids) := by
  apply settled_start_of_keys
  have hsub : ids ⊆ (g.start ids).state.players.keys := by
    intro p hp
    exact (mem_keys_spawn ids (Axis.zero : F) UMap.empty).mpr (Or.inl hp)
  exact Nat.le_trans hlen (hnd.subperm hsub).length_le

/-! ## Who takes part -/

theorem keys_applyInputs : ∀ (inputs : List (InputCommand F)) (s : GameState F),
    (inputs.foldl applyInput s).players.keys = s.players.keys
  | [], _ => rfl
  | input :: inputs, s => by
    rw [List.foldl_cons, keys_applyInputs inputs, keys_applyInput]

/-- No critical section adds or removes an entity. -/
theorem keys_exec (g : GameRoom F) (sec : Section F) :
    (g.exec sec).state.players.keys = g.state.players.keys := by
  cases sec with
  | handleInput input => rfl
  | popAll => rfl
  | advance inputs =>
    rw [exec, advance]
    split
    · rfl
    · rw [checkGameOver_state, keys_applyInputs]
  | eliminatePlayer p =>
    rw [exec, eliminatePlayer]
    split
    · rfl
    · split
      · rfl
      · rw [checkGameOver_state, UMap.keys_modify]

theorem keys_run : ∀ (sections : List (Section F)) (g : GameRoom F),
    (g.run sections).state.players.keys = g.state.players.keys
  | [], _ => rfl
  | sec :: sections, g => by
    rw [run, List.foldl_cons, ← keys_exec g sec]
    exact keys_run sections _

/-- Whoever is alive in a battle was started with it. -/
theorem mem_of_aliveAt_run {g : GameRoom F} {ids : List PlayerId} {sections : List (Section F)}
    {p : PlayerId} (h : ((g.start ids).run sections).state.aliveAt p = true) : p ∈ ids := by
  have hkeys : p ∈ ((g.start ids).run sections).state.players.keys :=
    (List.mem_filter.mp (GameState.mem_aliveIds.mpr h)).1
  rw [keys_run] at hkeys
  rcases (mem_keys_spawn ids _ _).mp hkeys with hp | hp
  · exact hp
  · simp at hp

/-- An ended battle stays as it is, whatever is called on it. -/
theorem run_over : ∀ (later : List (Section F)) {g : GameRoom F}, g.gameOver = true →
    (g.run later).state = g.state ∧ (g.run later).gameOver = true ∧
      (g.run later).winnerId = g.winnerId
  | [], _, h => ⟨rfl, h, rfl⟩
  | sec :: later, g, h => by
    obtain ⟨hs, ho, hw⟩ := exec_over h sec
    obtain ⟨hs', ho', hw'⟩ := run_over later ho
    exact ⟨hs'.trans hs, ho', hw'.trans hw⟩

/-! ## The result -/

/-- A player is the only one alive. -/
def OnlyAlive (g : GameRoom F) (p : PlayerId) : Prop :=
  g.state.aliveAt p = true ∧ ∀ q, g.state.aliveAt q = true → q = p

omit [Axis F] in
/-- What a settled battle looks like from outside. -/
theorem Settled.outcome {g : GameRoom F} (h : Settled g) :
    (∃ p, g.state.aliveAt p = true) ∧
    (g.gameOver = true ↔ ∃ p, OnlyAlive g p) ∧
    (g.gameOver = false → g.winnerId = 0) ∧
    (g.gameOver = true → OnlyAlive g g.winnerId) := by
  cases hover : g.gameOver with
  | true =>
    have hids := h.ended hover
    have honly : OnlyAlive g g.winnerId := by
      constructor
      · rw [← GameState.mem_aliveIds, hids]
        exact List.mem_singleton_self _
      · intro q hq
        rw [← GameState.mem_aliveIds, hids] at hq
        exact List.mem_singleton.mp hq
    exact ⟨⟨_, honly.1⟩, ⟨fun _ => ⟨_, honly⟩, fun _ => rfl⟩, by simp, fun _ => honly⟩
  | false =>
    obtain ⟨htwo, hzero⟩ := h.running hover
    obtain ⟨a, b, rest, hids⟩ : ∃ a b rest, g.state.aliveIds = a :: b :: rest := by
      match hids : g.state.aliveIds, htwo with
      | a :: b :: rest, _ => exact ⟨a, b, rest, rfl⟩
    have ha : g.state.aliveAt a = true := by
      rw [← GameState.mem_aliveIds, hids]
      simp
    have hb : g.state.aliveAt b = true := by
      rw [← GameState.mem_aliveIds, hids]
      simp
    have hab : a ≠ b := by
      have hnd := g.state.aliveIds_nodup
      rw [hids] at hnd
      intro he
      simp [he] at hnd
    refine ⟨⟨a, ha⟩, ⟨by simp, ?_⟩, fun _ => hzero, by simp⟩
    rintro ⟨p, -, hp⟩
    exact absurd ((hp a ha).trans (hp b hb).symm) hab

/--
**Unique winner.**

Any earlier use of the `GameRoom` object, `Start` with at least two distinct non-zero ids, then
any sequence of critical sections of `HandleInput`, `Tick` and `EliminatePlayer`.
-/
theorem unique_winner (g : GameRoom F) (ids : List PlayerId) (hnd : ids.Nodup)
    (hzero : (0 : PlayerId) ∉ ids) (hlen : 2 ≤ ids.length) (sections : List (Section F)) :
    let r := (g.start ids).run sections
    (∃ p, r.state.aliveAt p = true) ∧
    (r.gameOver = true ↔ ∃ p, OnlyAlive r p) ∧
    (r.gameOver = false → r.winnerId = 0) ∧
    (r.gameOver = true → OnlyAlive r r.winnerId ∧ r.winnerId ≠ 0) ∧
    (r.gameOver = true → ∀ later, (r.run later).state = r.state ∧
      (r.run later).gameOver = true ∧ (r.run later).winnerId = r.winnerId) := by
  intro r
  have hsettled : Settled r := settled_run sections (settled_start g hnd hlen)
  obtain ⟨halive, hiff, hrunning, hover⟩ := hsettled.outcome
  refine ⟨halive, hiff, hrunning, fun h => ⟨hover h, ?_⟩, fun h later => run_over later h⟩
  intro hw
  have hmem : r.winnerId ∈ ids := mem_of_aliveAt_run (hover h).1
  rw [hw] at hmem
  exact hzero hmem

/-- Two players and a surrender. -/
theorem unique_winner_surrender :
    let r := (({ roomId := 1000 } : GameRoom Coord).start [1, 2]).run [.eliminatePlayer 1]
    r.gameOver = true ∧ OnlyAlive r r.winnerId ∧ r.winnerId ≠ 0 := by
  intro r
  have h := unique_winner (F := Coord) { roomId := 1000 } [1, 2] (by decide) (by decide) (by decide)
    [.eliminatePlayer 1]
  have hover : r.gameOver = true := rfl
  exact ⟨hover, h.2.2.2.1 hover⟩

end GameRoom
end Game
