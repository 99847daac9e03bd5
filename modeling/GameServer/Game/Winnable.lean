import GameServer.Game.UniqueWinner

/-!
# Battles whose result can be settled

`SettleBattle` rejects a result whose winner or one of whose losers is not a positive id. A battle
of players with positive ids ends with such a result if somebody is alive whenever it goes on. No
size is assumed: a battle of one player may be running with nobody to fight.
-/

namespace Game

open Infra

/-- The checks with which `SettlementService::SettleBattle` begins, with all repositories set. -/
def settleBattleAccepts (battleId : Int) (roomId : RoomId) (winnerId : PlayerId)
    (losers : List PlayerId) : Bool :=
  if battleId ≤ 0 ∨ roomId ≤ 0 ∨ winnerId ≤ 0 then false
  else losers.all fun playerId => ¬ (playerId ≤ 0 ∨ playerId = winnerId)

theorem settleBattleAccepts_iff {battleId : Int} {roomId : RoomId} {winnerId : PlayerId}
    {losers : List PlayerId} : settleBattleAccepts battleId roomId winnerId losers = true ↔
      0 < battleId ∧ 0 < roomId ∧ 0 < winnerId ∧ ∀ p ∈ losers, 0 < p ∧ p ≠ winnerId := by
  unfold settleBattleAccepts
  split
  · next h =>
    simp only [Bool.false_eq_true, false_iff]
    rintro ⟨hb, hr, hw, -⟩
    rcases h with h | h | h
    · exact Int.not_lt.mpr h hb
    · exact Int.not_lt.mpr h hr
    · exact Int.not_lt.mpr h hw
  · next h =>
    rw [not_or, not_or, Int.not_le, Int.not_le, Int.not_le] at h
    simp [h]

variable {F : Type} [Axis F]

namespace GameRoom

/-- The players have positive ids, and somebody is alive; when the battle is over, it is the
winner alone. -/
structure Winnable (g : GameRoom F) : Prop where
  positive : ∀ p ∈ g.state.players.keys, 0 < p
  ended : g.gameOver = true → g.state.aliveIds = [g.winnerId]
  alive : g.gameOver = false → g.state.players.keys ≠ [] → g.state.aliveIds ≠ []

/-- The same without the ids. -/
structure Lively (g : GameRoom F) : Prop where
  ended : g.gameOver = true → g.state.aliveIds = [g.winnerId]
  alive : g.gameOver = false → g.state.players.keys ≠ [] → g.state.aliveIds ≠ []

/-- The live players other than `p`. -/
def others (g : GameRoom F) (p : PlayerId) : List PlayerId :=
  g.state.aliveIds.filter (· ≠ p)

/-- A surrender does not hit the only live player, and it does not end the battle while somebody is
`reading` its result. -/
def SafeSurrender (g : GameRoom F) (p : PlayerId) (reading : Prop) : Prop :=
  g.gameOver = false → g.state.aliveAt p = true →
    g.others p ≠ [] ∧ (reading → 2 ≤ (g.others p).length)

instance (g : GameRoom F) (p : PlayerId) (reading : Prop) [Decidable reading] :
    Decidable (g.SafeSurrender p reading) :=
  inferInstanceAs (Decidable (_ → _ → _))

/-- The surrender of `p` leaves one other player alive in a battle that goes on, who wins it. -/
def Decides (g : GameRoom F) (p : PlayerId) : Prop :=
  g.gameOver = false ∧ g.state.aliveAt p = true ∧ (g.others p).length = 1

instance (g : GameRoom F) (p : PlayerId) : Decidable (g.Decides p) :=
  inferInstanceAs (Decidable (_ ∧ _))

variable {g : GameRoom F}

omit [Axis F] in
theorem Winnable.lively (h : g.Winnable) : g.Lively :=
  ⟨h.ended, h.alive⟩

omit [Axis F] in
theorem Winnable.winner_pos (h : g.Winnable) (hover : g.gameOver = true) : 0 < g.winnerId := by
  have hmem : g.winnerId ∈ g.state.aliveIds := (h.ended hover).symm ▸ List.mem_singleton_self _
  exact h.positive _ (List.mem_filter.mp hmem).1

omit [Axis F] in
/-- Whoever is in the battle and did not win can be settled as a loser. -/
theorem Winnable.accepts (h : g.Winnable) (hover : g.gameOver = true) {battleId : Int}
    {roomId : RoomId} (hb : 0 < battleId) (hr : 0 < roomId) : settleBattleAccepts battleId roomId
      g.winnerId (g.state.players.keys.filter (· ≠ g.winnerId)) = true := by
  refine settleBattleAccepts_iff.mpr ⟨hb, hr, h.winner_pos hover, fun p hp => ?_⟩
  obtain ⟨hp, hne⟩ := List.mem_filter.mp hp
  exact ⟨h.positive p hp, by simpa using hne⟩

omit [Axis F] in
theorem lively_checkGameOver (hover : g.gameOver = false)
    (halive : g.state.players.keys ≠ [] → g.state.aliveIds ≠ []) : g.checkGameOver.Lively := by
  rw [checkGameOver_eq]
  split
  · next h =>
    obtain ⟨p, hp⟩ : ∃ p, g.state.aliveIds = [p] := by
      have := List.length_pos_iff.mpr (halive h.2)
      exact List.length_eq_one_iff.mp (by omega)
    refine ⟨fun _ => ?_, nofun⟩
    show g.state.aliveIds = [g.state.aliveIds.getLastD 0]
    rw [hp]
    rfl
  · refine ⟨fun h => ?_, fun _ => halive⟩
    rw [hover] at h
    cases h

omit [Axis F] in
/-- Who is alive after a surrender. -/
theorem aliveIds_surrender (g : GameRoom F) (p : PlayerId) : GameState.aliveIds { g.state with
    players := g.state.players.modify p fun e => { e with hp := 0, alive := false } } =
      g.others p := by
  unfold GameState.aliveIds others GameState.aliveIds
  rw [UMap.keys_modify, List.filter_filter]
  refine List.filter_congr fun q _ => ?_
  by_cases hq : q = p
  · subst hq
    unfold GameState.aliveAt
    rw [UMap.get_modify_self]
    cases g.state.players.get q <;> simp
  · rw [aliveAt_modify_of_ne hq]
    simp [hq]

/-- **A critical section keeps the battle lively**, if a surrender is safe. -/
theorem Lively.exec (h : g.Lively) (sec : Section F)
    (hsafe : ∀ p, sec = .eliminatePlayer p → g.SafeSurrender p False) : (g.exec sec).Lively := by
  cases hover : g.gameOver with
  | true =>
    obtain ⟨hs, ho, hw⟩ := exec_over hover sec
    refine ⟨fun _ => ?_, fun hf => ?_⟩
    · rw [hs, hw]
      exact h.ended hover
    · rw [ho] at hf
      cases hf
  | false =>
    cases sec with
    | handleInput input => exact ⟨h.ended, h.alive⟩
    | popAll => exact ⟨h.ended, h.alive⟩
    | advance inputs =>
      rw [GameRoom.exec, advance, if_neg (by simp [hover])]
      refine lively_checkGameOver hover fun hkeys => ?_
      simp only [keys_applyInputs] at hkeys
      exact aliveIds_applyInputs inputs _ (h.alive hover hkeys)
    | eliminatePlayer p =>
      rw [GameRoom.exec, eliminatePlayer, if_neg (by simp [hover])]
      split
      · exact h
      · next halive =>
        refine lively_checkGameOver hover fun _ => ?_
        rw [aliveIds_surrender]
        exact (hsafe p rfl hover (by simpa using halive)).1

/-- A critical section keeps the battle winnable, if a surrender is safe. -/
theorem Winnable.exec (h : g.Winnable) (sec : Section F)
    (hsafe : ∀ p, sec = .eliminatePlayer p → g.SafeSurrender p False) :
    (g.exec sec).Winnable := by
  have hlively := h.lively.exec sec hsafe
  refine ⟨?_, hlively.ended, hlively.alive⟩
  rw [keys_exec]
  exact h.positive

/-- A safe surrender while the result is read does not end the battle. -/
theorem gameOver_surrender {p : PlayerId} {reading : Prop} (hsafe : g.SafeSurrender p reading)
    (hreading : reading) (hover : g.gameOver = false) :
    (g.exec (.eliminatePlayer p)).gameOver = false := by
  rw [exec, eliminatePlayer, if_neg (by simp [hover])]
  split
  · exact hover
  · next halive =>
    have htwo := (hsafe hover (by simpa using halive)).2 hreading
    rw [checkGameOver_eq, if_neg]
    · exact hover
    · rw [aliveIds_surrender]
      omega

omit [Axis F] in
/-- A surrender that does not decide the battle leaves the winner alone. -/
theorem winnerId_surrender {p : PlayerId} (hzero : g.gameOver = false → g.winnerId = 0)
    (hp : ¬ g.Decides p) : (g.eliminatePlayer p).winnerId = g.winnerId := by
  cases hover : g.gameOver with
  | true => rw [eliminatePlayer, if_pos hover]
  | false =>
    rw [eliminatePlayer, if_neg (by simp [hover])]
    split
    · rfl
    · next halive =>
      rw [checkGameOver_eq]
      dsimp only
      rw [aliveIds_surrender]
      split
      · next hfew =>
        -- Nobody is left, and nobody has won.
        have hne : (g.others p).length ≠ 1 := fun h => hp ⟨hover, by simpa using halive, h⟩
        have hnil : g.others p = [] := List.length_eq_zero_iff.mp (by omega)
        rw [hnil, hzero hover]
        rfl
      · rfl

omit [Axis F] in
theorem checkGameOver_of_running (h : g.checkGameOver.gameOver = false) : g.checkGameOver = g := by
  rw [checkGameOver_eq] at h ⊢
  split at h
  · cases h
  · next hmany => exact if_neg hmany

/-- Nobody has won a battle that goes on. -/
theorem winnerId_exec (hzero : g.gameOver = false → g.winnerId = 0) (sec : Section F)
    (hover : (g.exec sec).gameOver = false) : (g.exec sec).winnerId = 0 := by
  have hg : g.gameOver = false := by
    cases h : g.gameOver with
    | false => rfl
    | true => exact (exec_over h sec).2.1.symm.trans hover
  cases sec with
  | handleInput input => exact hzero hg
  | popAll => exact hzero hg
  | advance inputs =>
    rw [exec, advance, if_neg (by simp [hg])] at hover ⊢
    rw [checkGameOver_of_running hover]
    exact hzero hg
  | eliminatePlayer p =>
    rw [exec, eliminatePlayer, if_neg (by simp [hg])] at hover ⊢
    split at hover
    · next h =>
      rw [if_pos h]
      exact hzero hg
    · next h =>
      rw [if_neg h, checkGameOver_of_running hover]
      exact hzero hg

theorem winnerId_run : ∀ (sections : List (Section F)) {g : GameRoom F},
    (g.gameOver = false → g.winnerId = 0) → (g.run sections).gameOver = false →
    (g.run sections).winnerId = 0
  | [], _, hzero => hzero
  | sec :: sections, _, hzero => winnerId_run sections (winnerId_exec hzero sec)

/-- A battle starts lively. -/
theorem lively_start (g : GameRoom F) (ids : List PlayerId) : (g.start ids).Lively where
  ended h := by cases h
  alive _ hkeys := by
    rw [aliveIds_start]
    exact hkeys

/-- A battle of players with positive ids starts winnable. -/
theorem winnable_start (g : GameRoom F) {ids : List PlayerId}
    (hpos : ∀ p ∈ ids, 0 < p) : (g.start ids).Winnable where
  positive p hp := by
    rcases (mem_keys_spawn ids _ _).mp hp with hp | hp
    · exact hpos p hp
    · cases hp
  ended := (lively_start g ids).ended
  alive := (lively_start g ids).alive

end GameRoom
end Game
