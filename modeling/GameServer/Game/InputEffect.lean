import GameServer.Game.Combat

/-!
# What an input does

`ApplyInput` changes the map of the players while it walks it, and reads the entry of the shooter in
every round. The order of the walk is that of an `unordered_map`, which nothing specifies.

## Why the order does not matter

* A shot changes its target and nobody else, and never the shooter. So each round finds the shooter
  and its own target as they were before the walk (`get_shootAll`).
* Every key comes up once, so what a walk does to a player is said without the walk (`shotAt`).
* `CheckGameOver` keeps the last live player that it comes across, and uses it if there is no other.
-/

namespace Game

open Infra

variable {F : Type} [Axis F]

/-- The shot of `shooter` hits a live player in range. -/
def Struck (shooter target : EntityState F) : Prop :=
  target.alive = true ∧
    Axis.withinFire (Axis.sub target.x shooter.x) (Axis.sub target.y shooter.y) = true

instance (shooter target : EntityState F) : Decidable (Struck shooter target) :=
  inferInstanceAs (Decidable (_ ∧ _))

/-- What an input of a live player makes of a battle. -/
structure InputEffect (input : InputCommand F) (s s' : GameState F) : Prop where
  frameId : s'.frameId = s.frameId
  /-- The shooter moves, and that is all. -/
  shooter : ∀ e, s.players.get input.playerId = some e →
    s'.players.get input.playerId = some { e with
      x := Axis.add e.x (Axis.mul
        (Axis.clamp input.moveX (Axis.neg Axis.maxAxis) Axis.maxAxis) Axis.moveScale)
      y := Axis.add e.y (Axis.mul
        (Axis.clamp input.moveY (Axis.neg Axis.maxAxis) Axis.maxAxis) Axis.moveScale) }
  /-- Whoever is hit from where the shooter is now loses hit points, and dies if none are left. -/
  struck : ∀ q e shooter, q ≠ input.playerId → s.players.get q = some e →
    s'.players.get input.playerId = some shooter → input.fire = true → Struck shooter e →
    s'.players.get q = some { e with
      hp := e.hp - min 10 e.hp
      alive := decide (e.hp - min 10 e.hp ≠ 0) }
  /-- Nobody else changes. -/
  others : ∀ q, q ≠ input.playerId →
    (input.fire = true → ∀ e shooter, s.players.get q = some e →
      s'.players.get input.playerId = some shooter → ¬ Struck shooter e) →
    s'.players.get q = s.players.get q

/-- The same entities, in any order. -/
structure SameEntities (s s' : GameState F) : Prop where
  frameId : s'.frameId = s.frameId
  get : s'.players.get = s.players.get

/-- The same battle, the entities in any order. -/
structure SameUpToOrder (g g' : GameRoom F) : Prop where
  roomId : g'.roomId = g.roomId
  state : SameEntities g.state g'.state
  inputBuffer : g'.inputBuffer = g.inputBuffer
  gameOver : g'.gameOver = g.gameOver
  winnerId : g'.winnerId = g.winnerId

namespace GameRoom

/-! ## One walk -/

/-- The entity under `targetId` after a shot at it. -/
def shotAt (shooterId : PlayerId) (players : UMap PlayerId (EntityState F)) (targetId : PlayerId) :
    Option (EntityState F) :=
  match players.get shooterId with
  | none => players.get targetId
  | some shooter =>
    (players.get targetId).map fun target =>
      if targetId ≠ shooterId ∧ Struck shooter target then damage target else target

/-- **One round of the walk** is about its target only. -/
theorem get_shoot (shooterId : PlayerId) (players : UMap PlayerId (EntityState F))
    (targetId q : PlayerId) : (shoot shooterId players targetId).get q =
      if q = targetId then shotAt shooterId players targetId else players.get q := by
  unfold shoot shotAt
  cases hshooter : players.get shooterId with
  | none =>
    dsimp only
    split
    · next hq => rw [hq]
    · rfl
  | some shooter =>
    cases htarget : players.get targetId with
    | none =>
      dsimp only
      split
      · next hq => rw [hq, htarget]; rfl
      · rfl
    | some target =>
      dsimp only
      by_cases hstruck : targetId ≠ shooterId ∧ Struck shooter target
      · have hself : ¬ (targetId = shooterId ∨ target.alive = false) := by
          simp [hstruck.1, hstruck.2.1]
        rw [if_neg hself, if_pos hstruck.2.2, UMap.get_modify, htarget]
        simp [hstruck]
      · have hround : (if targetId = shooterId ∨ target.alive = false then players
            else if Axis.withinFire (Axis.sub target.x shooter.x) (Axis.sub target.y shooter.y) = true
            then players.modify targetId damage else players) = players := by
          split
          · rfl
          · next hself =>
            rw [not_or, Bool.not_eq_false] at hself
            exact if_neg fun hrange => hstruck ⟨hself.1, hself.2, hrange⟩
        rw [hround]
        split
        · next hq => simp [hq, htarget, hstruck]
        · rfl

/-- **The walk**, in any order without repetitions. -/
theorem get_shootAll (shooterId : PlayerId) {targets : List PlayerId} (hnd : targets.Nodup)
    (players : UMap PlayerId (EntityState F)) (q : PlayerId) :
    (targets.foldl (shoot shooterId) players).get q =
      if q ∈ targets then shotAt shooterId players q else players.get q := by
  induction targets generalizing players with
  | nil => simp
  | cons t targets ih =>
    rw [List.nodup_cons] at hnd
    rw [List.foldl_cons, ih hnd.2, get_shoot]
    by_cases hqt : q = t
    · subst hqt
      simp [hnd.1]
    · -- The round of `t` has changed neither the shooter nor `q`.
      have hsame : shotAt shooterId (shoot shooterId players t) q = shotAt shooterId players q := by
        unfold shotAt
        rw [get_shoot_self, get_shoot, if_neg hqt]
      simp [hqt, hsame]

/-- The walk over all keys. -/
theorem get_shootKeys (shooterId : PlayerId) (players : UMap PlayerId (EntityState F))
    (q : PlayerId) : (players.keys.foldl (shoot shooterId) players).get q =
      shotAt shooterId players q := by
  rw [get_shootAll shooterId players.keys_nodup]
  split
  · rfl
  · next hq =>
    have hnone := UMap.get_eq_none_iff.mpr hq
    unfold shotAt
    rw [hnone]
    split <;> rfl

/-! ## One input -/

theorem get_applyInput_self {s : GameState F} {input : InputCommand F}
    (halive : s.aliveAt input.playerId = true) :
    (applyInput s input).players.get input.playerId =
      (s.players.get input.playerId).map (move input) := by
  unfold applyInput
  rw [if_neg (by simp [halive])]
  split
  · exact UMap.get_modify_self ..
  · dsimp only
    rw [get_shootAll_self, UMap.get_modify_self]

/-- What becomes of a player other than the one who acts. -/
theorem get_applyInput_of_ne {s : GameState F} {input : InputCommand F} {shooter : EntityState F}
    (hshooter : (applyInput s input).players.get input.playerId = some shooter)
    (halive : s.aliveAt input.playerId = true) {q : PlayerId} (hq : q ≠ input.playerId) :
    (applyInput s input).players.get q = (s.players.get q).map fun e =>
      if input.fire = true ∧ Struck shooter e then damage e else e := by
  rw [get_applyInput_self halive] at hshooter
  unfold applyInput
  rw [if_neg (by simp [halive])]
  cases hfire : input.fire with
  | false =>
    rw [if_pos rfl]
    dsimp only
    rw [UMap.get_modify_of_ne hq]
    simp
  | true =>
    rw [if_neg (by simp)]
    dsimp only
    rw [get_shootKeys, shotAt, UMap.get_modify_self, hshooter, UMap.get_modify_of_ne hq]
    simp [hq]

omit [Axis F] in
/-- A hit of a sound entity. -/
theorem damage_eq {p : PlayerId} {e : EntityState F} (h : e.Sound p) (halive : e.alive = true) :
    damage e = { e with hp := e.hp - min 10 e.hp, alive := decide (e.hp - min 10 e.hp ≠ 0) } := by
  have hpos : 0 < e.hp := h.alive.mp halive
  obtain ⟨k, hk⟩ := h.ten
  have hmin : min 10 e.hp = 10 := by omega
  unfold damage
  rw [hmin]
  dsimp only
  split
  · next hzero =>
    have hlast : e.hp - 10 = 0 := by omega
    simp [hlast]
  · next hmore =>
    have hleft : e.hp - 10 ≠ 0 := by omega
    simp [hleft, halive]

/-- **The effect of an input**, when the entities are sound. -/
theorem inputEffect {s : GameState F} (hsound : ∀ p e, s.players.get p = some e → e.Sound p)
    {input : InputCommand F} (halive : s.aliveAt input.playerId = true) :
    InputEffect input s (applyInput s input) where
  frameId := by
    unfold applyInput
    split
    · rfl
    · split <;> rfl
  shooter e he := by
    rw [get_applyInput_self halive, he]
    rfl
  struck q e shooter hq he hshooter hfire hstruck := by
    rw [get_applyInput_of_ne hshooter halive hq, he, Option.map_some, if_pos ⟨hfire, hstruck⟩,
      damage_eq (hsound q e he) hstruck.1]
  others q hq hmissed := by
    cases hshooter : (applyInput s input).players.get input.playerId with
    | none =>
      -- The one who acts is there.
      rw [get_applyInput_self halive, Option.map_eq_none_iff] at hshooter
      simp [GameState.aliveAt, hshooter] at halive
    | some shooter =>
      rw [get_applyInput_of_ne hshooter halive hq]
      cases he : s.players.get q with
      | none => rfl
      | some e =>
        rw [Option.map_some, if_neg]
        rintro ⟨hfire, hstruck⟩
        exact hmissed hfire e shooter he hshooter hstruck

/-! ## Any order -/

omit [Axis F] in
theorem aliveAt_same {s s' : GameState F} (h : SameEntities s s') : s'.aliveAt = s.aliveAt := by
  funext p
  rw [GameState.aliveAt, GameState.aliveAt, h.get]

omit [Axis F] in
theorem keys_same {s s' : GameState F} (h : SameEntities s s') :
    s'.players.keys.Perm s.players.keys := by
  refine (List.perm_ext_iff_of_nodup s'.players.keys_nodup s.players.keys_nodup).mpr fun p => ?_
  rw [UMap.mem_keys, UMap.mem_keys, h.get]

theorem shotAt_same {players players' : UMap PlayerId (EntityState F)}
    (h : players'.get = players.get) (shooterId q : PlayerId) :
    shotAt shooterId players' q = shotAt shooterId players q := by
  unfold shotAt
  rw [h]

theorem sameEntities_applyInput {s s' : GameState F} (h : SameEntities s s')
    (input : InputCommand F) :
    SameEntities (GameRoom.applyInput s input) (GameRoom.applyInput s' input) := by
  have hmoved : (s'.players.modify input.playerId (move input)).get =
      (s.players.modify input.playerId (move input)).get := by
    funext q
    rw [UMap.get_modify, UMap.get_modify, h.get]
  unfold GameRoom.applyInput
  rw [aliveAt_same h]
  split
  · exact h
  · split
    · exact ⟨h.frameId, hmoved⟩
    · refine ⟨h.frameId, ?_⟩
      funext q
      dsimp only
      rw [get_shootKeys, get_shootKeys, shotAt_same hmoved]

theorem sameEntities_applyInputs : ∀ (inputs : List (InputCommand F)) {s s' : GameState F},
    SameEntities s s' →
      SameEntities (inputs.foldl GameRoom.applyInput s) (inputs.foldl GameRoom.applyInput s')
  | [], _, _, h => h
  | input :: inputs, _, _, h => sameEntities_applyInputs inputs (sameEntities_applyInput h input)

omit [Axis F] in
/-- **`CheckGameOver`** finds the same winner in every order. -/
theorem sameUpToOrder_checkGameOver {g g' : GameRoom F} (h : SameUpToOrder g g') :
    SameUpToOrder g.checkGameOver g'.checkGameOver := by
  have hkeys := keys_same h.state
  have halive : g'.state.aliveIds.Perm g.state.aliveIds := by
    unfold GameState.aliveIds
    rw [aliveAt_same h.state]
    exact hkeys.filter _
  have hempty : g'.state.players.keys ≠ [] ↔ g.state.players.keys ≠ [] := by
    rw [← List.length_pos_iff, ← List.length_pos_iff, hkeys.length_eq]
  rw [checkGameOver_eq, checkGameOver_eq]
  simp only [halive.length_eq, hempty]
  split
  · next hone =>
    refine ⟨h.roomId, h.state, h.inputBuffer, rfl, ?_⟩
    -- At most one player is alive, and a list of at most one has one order.
    have heq : g'.state.aliveIds = g.state.aliveIds := by
      rcases Nat.le_one_iff_eq_zero_or_eq_one.mp hone.1 with hzero | hsingle
      · rw [List.length_eq_zero_iff] at hzero
        rw [hzero] at halive ⊢
        exact halive.eq_nil
      · obtain ⟨p, hp⟩ := List.length_eq_one_iff.mp hsingle
        rw [hp] at halive ⊢
        exact halive.eq_singleton
    show g'.state.aliveIds.getLastD 0 = g.state.aliveIds.getLastD 0
    rw [heq]
  · exact h

/-- **Every critical section** does the same in every order. -/
theorem sameUpToOrder_exec {g g' : GameRoom F} (h : SameUpToOrder g g') (sec : Section F) :
    SameUpToOrder (g.exec sec) (g'.exec sec) := by
  obtain ⟨hroom, hstate, hbuffer, hover, hwinner⟩ := id h
  cases sec with
  | handleInput input =>
    refine ⟨hroom, hstate, ?_, hover, hwinner⟩
    show g'.inputBuffer ++ [input] = g.inputBuffer ++ [input]
    rw [hbuffer]
  | popAll => exact ⟨hroom, hstate, rfl, hover, hwinner⟩
  | advance inputs =>
    rw [GameRoom.exec, GameRoom.exec, advance, advance, hover]
    split
    · exact h
    · have hframe : SameEntities { g.state with frameId := g.state.frameId + 1 }
          { g'.state with frameId := g'.state.frameId + 1 } := by
        refine ⟨?_, hstate.get⟩
        show g'.state.frameId + 1 = g.state.frameId + 1
        rw [hstate.frameId]
      exact sameUpToOrder_checkGameOver
        ⟨hroom, sameEntities_applyInputs inputs hframe, hbuffer, rfl, hwinner⟩
  | eliminatePlayer p =>
    rw [GameRoom.exec, GameRoom.exec, eliminatePlayer, eliminatePlayer, hover, aliveAt_same hstate]
    split
    · exact h
    · split
      · exact h
      · refine sameUpToOrder_checkGameOver ⟨hroom, ⟨hstate.frameId, ?_⟩, hbuffer, rfl, hwinner⟩
        funext q
        dsimp only
        rw [UMap.get_modify, UMap.get_modify, hstate.get]

/-- A whole `Tick`. -/
theorem sameUpToOrder_tick {g g' : GameRoom F} (h : SameUpToOrder g g') :
    SameUpToOrder g.tick g'.tick := by
  rw [tick_eq_run, tick_eq_run, h.inputBuffer]
  exact sameUpToOrder_exec (sameUpToOrder_exec h .popAll) (.advance g.inputBuffer)

/--
**The effect of an input, in any order.**

Any earlier use of the `GameRoom` object, `Start` with any players, then any sequence of critical
sections. However the entities are enumerated, an input of a live player has the same effect, and so
has a whole `Tick`.
-/
theorem applyInput_any_order (g : GameRoom F) (ids : List PlayerId) (sections : List (Section F)) :
    let r := (g.start ids).run sections
    (∀ s input, SameEntities r.state s → s.aliveAt input.playerId = true →
      InputEffect input r.state (applyInput s input)) ∧
    ∀ g', SameUpToOrder r g' → SameUpToOrder r.tick g'.tick := by
  intro r
  refine ⟨fun s input hs halive => ?_, fun g' h => sameUpToOrder_tick h⟩
  rw [aliveAt_same hs] at halive
  have heffect : InputEffect input r.state (applyInput r.state input) :=
    inputEffect (fun p e he => sound_run g ids sections he) halive
  obtain ⟨hframe, hget⟩ := sameEntities_applyInput hs input
  obtain ⟨hframeId, hshooter, hstruck, hothers⟩ := heffect
  refine ⟨hframe.trans hframeId, ?_, ?_, ?_⟩
  · rw [hget]
    exact hshooter
  · rw [hget]
    exact hstruck
  · rw [hget]
    exact hothers

end GameRoom
end Game
