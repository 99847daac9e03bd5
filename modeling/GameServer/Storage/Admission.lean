import GameServer.Storage.SettleBattle

/-!
# Which settlements are admitted

`SettleBattle` builds its results from a `std::set` of players. `ApplySettlement` sorts the results
that it is given and checks them in one pass. Both come down to `ValidResults`, which has nothing to
do with the order of the results.
-/

namespace Game

open Infra BattleRepository SettlementService

variable {battle : Battle} {results : List BattlePlayerResult}

/-- Results that say what they should are determined by their players. -/
theorem battleResults_map (h : ∀ x ∈ results, Expected battle x) :
    battleResults battle (results.map (·.playerId)) = results := by
  rw [battleResults, List.map_map]
  refine (List.map_congr_left fun x hx => ?_).trans (List.map_id' results)
  obtain ⟨hbattle, hresult, hdelta⟩ := h x hx
  obtain ⟨b, p, result, delta⟩ := x
  dsimp only at hbattle hresult hdelta
  subst hbattle hresult hdelta
  rfl

/-- Valid results are those of the call with the winner's opponents, in some order. -/
theorem ValidResults.exists_losers (h : ValidResults battle results) : ∃ losers,
    settleBattleAccepts battle.battleId battle.roomId battle.winnerId losers = true ∧
      results.Perm (battleResults battle (participants battle.winnerId losers)) := by
  refine ⟨(results.map (·.playerId)).filter (· ≠ battle.winnerId), ?_, ?_⟩
  · refine settleBattleAccepts_iff.mpr ⟨h.battleId, h.roomId, h.winner_pos, fun p hp => ?_⟩
    obtain ⟨hmem, hne⟩ := List.mem_filter.mp hp
    obtain ⟨x, hx, rfl⟩ := List.mem_map.mp hmem
    exact ⟨h.positive x hx, of_decide_eq_true hne⟩
  · have hplayers : (results.map (·.playerId)).Perm (participants battle.winnerId
        ((results.map (·.playerId)).filter (· ≠ battle.winnerId))) := by
      refine (List.perm_ext_iff_of_nodup h.nodup nodup_participants).mpr fun p => ?_
      rw [mem_participants, List.mem_cons, List.mem_filter, decide_eq_true_iff]
      by_cases hp : p = battle.winnerId
      · rw [hp]
        exact iff_of_true h.winner (Or.inl rfl)
      · exact ⟨fun hmem => Or.inr ⟨hmem, hp⟩, fun hor => (hor.resolve_left hp).1⟩
    have hperm : (battleResults battle (results.map (·.playerId))).Perm
        (battleResults battle (participants battle.winnerId
          ((results.map (·.playerId)).filter (· ≠ battle.winnerId)))) := hplayers.map _
    rwa [battleResults_map h.each] at hperm

/-- **The builder and the checks agree.** The checks let through the results that `SettleBattle`
builds for this battle, in any order, and nothing else. -/
theorem admits_iff_built (battle : Battle) (results : List BattlePlayerResult) :
    (Admits battle results ↔ ∃ losers,
      settleBattleAccepts battle.battleId battle.roomId battle.winnerId losers = true ∧
        results.Perm (battleResults battle (participants battle.winnerId losers))) ∧
    ∀ losers, settleBattleAccepts battle.battleId battle.roomId battle.winnerId losers = true →
      Admits battle (battleResults battle (participants battle.winnerId losers)) := by
  refine ⟨⟨fun h => (admits_iff_valid.mp h).exists_losers, ?_⟩, fun losers => admits_battleResults⟩
  rintro ⟨losers, haccepts, hperm⟩
  have hvalid := admits_iff_valid.mp (admits_battleResults haccepts)
  exact admits_iff_valid.mpr (hvalid.perm hperm.symm)

end Game
