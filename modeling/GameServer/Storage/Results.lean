import GameServer.Storage.Settling
import Mathlib.Data.List.Sort

/-!
# The results of a settlement

Which results `ApplySettlement` accepts (`checks_iff_valid`), that those of `SettleBattle` are among
them, and when they are the ones that have been saved (`sameResults_iff`).
-/

namespace Game

open Infra BattleRepository SettlementService

variable {db : Db} {battle : Battle} {results ordered : List BattlePlayerResult}

/-! ## The checks of `ApplySettlement` -/

/-- The result is one that `ApplySettlement` expects for the player. -/
def Expected (battle : Battle) (x : BattlePlayerResult) : Prop :=
  x.battleId = battle.battleId ∧ x.result = expectedResult battle x.playerId ∧
    x.scoreDelta = expectedDelta battle x.playerId

theorem countWinners_eq_some {n : Nat} : ∀ {results : List BattlePlayerResult} {k : Nat}
    {previous : PlayerId}, countWinners battle results k previous = some n ↔
      List.IsChain (· < ·) (previous :: results.map (·.playerId)) ∧
        (∀ x ∈ results, Expected battle x) ∧
          n = k + results.countP (·.playerId = battle.winnerId)
  | [], k, previous => by simp [countWinners, eq_comm]
  | x :: results, k, previous => by
    rw [countWinners, List.map_cons, List.isChain_cons_cons, List.forall_mem_cons, List.countP_cons]
    split
    · next h =>
      refine iff_of_false nofun ?_
      rintro ⟨⟨hlt, -⟩, ⟨⟨hbattle, hresult, hdelta⟩, -⟩, -⟩
      rcases h with h | h | h | h
      · exact h hbattle
      · exact Int.not_lt.mpr h hlt
      · exact h hresult
      · exact h hdelta
    · next h =>
      rw [not_or, not_or, not_or, not_not, Int.not_le, not_not, not_not] at h
      obtain ⟨hbattle, hlt, hresult, hdelta⟩ := h
      have hx : Expected battle x := ⟨hbattle, hresult, hdelta⟩
      rw [countWinners_eq_some]
      simp only [hlt, hx, true_and, decide_eq_true_eq, Nat.add_assoc,
        Nat.add_comm (List.countP _ results)]

/-- **What `ApplySettlement` accepts.** -/
theorem checkResults_iff : checkResults battle results = true ↔
    List.IsChain (· < ·) (0 :: results.map (·.playerId)) ∧ (∀ x ∈ results, Expected battle x) ∧
      results.countP (·.playerId = battle.winnerId) = 1 := by
  rw [checkResults, decide_eq_true_iff, countWinners_eq_some, Nat.zero_add, eq_comm (a := 1)]

theorem validResults_of_check (hbattle : 0 < battle.battleId) (hroom : 0 < battle.roomId)
    (h : checkResults battle results = true) : ValidResults battle results := by
  obtain ⟨hchain, heach, hcount⟩ := checkResults_iff.mp h
  obtain ⟨hpos, hsorted⟩ := List.pairwise_cons.mp (List.isChain_iff_pairwise.mp hchain)
  refine ⟨hbattle, hroom, hsorted.imp fun h => Int.ne_of_lt h, ?_,
    fun x hx => hpos _ (List.mem_map_of_mem hx), heach⟩
  obtain ⟨x, hx, hwinner⟩ := List.countP_pos_iff.mp (hcount ▸ Nat.zero_lt_one)
  exact of_decide_eq_true hwinner ▸ List.mem_map_of_mem hx

theorem ValidResults.perm (h : ValidResults battle results) (hperm : results.Perm ordered) :
    ValidResults battle ordered where
  battleId := h.battleId
  roomId := h.roomId
  nodup := (hperm.map _).nodup_iff.mp h.nodup
  winner := (hperm.map _).mem_iff.mp h.winner
  positive x hx := h.positive x (hperm.mem_iff.mpr hx)
  each x hx := h.each x (hperm.mem_iff.mpr hx)

theorem ValidResults.ne_nil (h : ValidResults battle results) : results ≠ [] := by
  rintro rfl
  exact List.not_mem_nil h.winner

/-- One pass over sorted results. -/
theorem ValidResults.check (h : ValidResults battle ordered)
    (hsorted : ordered.Pairwise fun a b => a.playerId ≤ b.playerId) :
    checkResults battle ordered = true := by
  refine checkResults_iff.mpr ⟨List.isChain_iff_pairwise.mpr (List.pairwise_cons.mpr ⟨?_, ?_⟩),
    h.each, ?_⟩
  · intro p hp
    obtain ⟨x, hx, rfl⟩ := List.mem_map.mp hp
    exact h.positive x hx
  · -- Sorted, and without repetitions, is strictly increasing.
    exact ((List.pairwise_map.mpr hsorted).and h.nodup).imp fun hlt =>
      lt_of_le_of_ne hlt.1 hlt.2
  · have hcount := List.count_eq_one_of_mem h.nodup h.winner
    rw [List.count, List.countP_map] at hcount
    rw [← hcount]
    refine List.countP_congr fun x _ => ?_
    simp

theorem sorted_mergeSort_results (results : List BattlePlayerResult) :
    (results.mergeSort fun a b => a.playerId ≤ b.playerId).Pairwise
      fun a b => a.playerId ≤ b.playerId := by
  refine (List.pairwise_mergeSort (fun a b c hab hbc => ?_) (fun a b => ?_) results).imp
    of_decide_eq_true
  · exact decide_eq_true (le_trans (of_decide_eq_true hab) (of_decide_eq_true hbc))
  · rw [Bool.or_eq_true, decide_eq_true_iff, decide_eq_true_iff]
    exact le_total a.playerId b.playerId

/-- The checks, whatever the order in which `std::sort` leaves results with the same player. -/
theorem checks_iff_valid (hperm : ordered.Perm results)
    (hsorted : ordered.Pairwise fun a b => a.playerId ≤ b.playerId) :
    (0 < battle.battleId ∧ 0 < battle.roomId ∧ 0 < battle.winnerId ∧ results ≠ []) ∧
      checkResults battle ordered = true ↔ ValidResults battle results := by
  constructor
  · rintro ⟨⟨hbattle, hroom, -, -⟩, hcheck⟩
    exact (validResults_of_check hbattle hroom hcheck).perm hperm
  · intro h
    exact ⟨⟨h.battleId, h.roomId, h.winner_pos, h.ne_nil⟩, (h.perm hperm.symm).check hsorted⟩

/-! ## The results that `SettleBattle` puts together -/

section

variable {winnerId p : PlayerId} {losers : List PlayerId}

theorem mem_participants : p ∈ participants winnerId losers ↔ p ∈ winnerId :: losers := by
  rw [participants, List.mem_mergeSort, List.mem_dedup]

theorem nodup_participants : (participants winnerId losers).Nodup :=
  (List.mergeSort_perm ..).nodup_iff.mpr (List.nodup_dedup _)

theorem sorted_mergeSort {l : List PlayerId} (h : l.Nodup) :
    (l.mergeSort fun a b => a ≤ b).Pairwise (· < ·) := by
  have hle : (l.mergeSort fun a b => a ≤ b).Pairwise (· ≤ ·) := List.pairwise_mergeSort' (· ≤ ·) l
  exact (hle.and ((List.mergeSort_perm ..).nodup_iff.mpr h)).imp fun h => lt_of_le_of_ne h.1 h.2

theorem sorted_participants : (participants winnerId losers).Pairwise (· < ·) :=
  sorted_mergeSort (List.nodup_dedup _)

end

theorem map_battleResults (battle : Battle) (players : List PlayerId) :
    (battleResults battle players).map (·.playerId) = players := by
  rw [battleResults, List.map_map]
  exact List.map_id players

/-- The participants come in order. -/
theorem mergeSort_battleResults (battle : Battle) (winnerId : PlayerId) (losers : List PlayerId) :
    ((battleResults battle (participants winnerId losers)).mergeSort
      fun a b => a.playerId ≤ b.playerId) =
      battleResults battle (participants winnerId losers) := by
  refine List.mergeSort_of_pairwise (List.pairwise_map.mpr ?_)
  exact sorted_participants.imp fun h => decide_eq_true (Int.le_of_lt h)

/-- The results of a call with acceptable arguments are valid. -/
theorem validResults_battleResults {losers : List PlayerId}
    (h : settleBattleAccepts battle.battleId battle.roomId battle.winnerId losers = true) :
    ValidResults battle (battleResults battle (participants battle.winnerId losers)) := by
  obtain ⟨hbattle, hroom, hwinner, hlosers⟩ := settleBattleAccepts_iff.mp h
  refine ⟨hbattle, hroom, ?_, ?_, fun x hx => ?_, fun x hx => ?_⟩
  · rw [map_battleResults]
    exact nodup_participants
  · rw [map_battleResults]
    exact mem_participants.mpr List.mem_cons_self
  · obtain ⟨p, hp, rfl⟩ := List.mem_map.mp hx
    rcases List.mem_cons.mp (mem_participants.mp hp) with rfl | hp
    · exact hwinner
    · exact (hlosers p hp).1
  · obtain ⟨p, -, rfl⟩ := List.mem_map.mp hx
    exact ⟨rfl, rfl, rfl⟩

/-! ## Results that have been saved -/

/-- The row of a player in a settled battle. -/
def resultRow (winnerId playerId : PlayerId) : ResultRow where
  playerId := playerId
  result := if playerId = winnerId then "WIN" else "LOSE"
  scoreDelta := if playerId = winnerId then 20 else -10

theorem map_resultRow_injective (winnerId : PlayerId) :
    Function.Injective (List.map (resultRow winnerId)) :=
  List.map_injective_iff.mpr fun _ _ h => congrArg ResultRow.playerId h

/-- The rows of a settled battle are determined by its players. -/
theorem Db.WhollySettled.rows {b : BattleId} (h : db.WhollySettled b) :
    db (.results b) = (db.participants b).map (resultRow (db.winner b)) := by
  rw [Db.participants, List.map_map]
  refine (List.map_id' _).symm.trans (List.map_congr_left fun x hx => ?_)
  obtain ⟨hresult, hdelta⟩ := h.results x hx
  obtain ⟨p, result, delta⟩ := x
  exact congrArg₂ (ResultRow.mk p) hresult hdelta

/-- **The same results** are the results of the same players. -/
theorem sameResults_iff {losers : List PlayerId} (h : db.WhollySettled battle.battleId)
    (hwinner : db.winner battle.battleId = battle.winnerId) :
    sameResults ((db (.results battle.battleId)).mergeSort fun a b => a.playerId ≤ b.playerId)
        (battleResults battle (participants battle.winnerId losers)) = true ↔
      ∀ p, p ∈ battle.winnerId :: losers ↔ p ∈ db.participants battle.battleId := by
  have hsaved : ((db (.results battle.battleId)).mergeSort fun a b => a.playerId ≤ b.playerId) =
      ((db.participants battle.battleId).mergeSort fun a b => a ≤ b).map
        (resultRow battle.winnerId) := by
    rw [h.rows, hwinner]
    exact (List.map_mergeSort (f := resultRow battle.winnerId) fun _ _ _ _ => rfl).symm
  have hgiven : ((battleResults battle (participants battle.winnerId losers)).map fun result =>
      (⟨result.playerId, result.result, result.scoreDelta⟩ : ResultRow)) =
        (participants battle.winnerId losers).map (resultRow battle.winnerId) := by
    rw [battleResults, List.map_map]
    rfl
  rw [sameResults, decide_eq_true_iff, hsaved, hgiven, (map_resultRow_injective _).eq_iff]
  constructor
  · intro heq p
    rw [← mem_participants, ← heq, List.mem_mergeSort]
  · intro hmem
    -- Both lists are sorted and without repetitions, so the members determine them.
    refine (sorted_mergeSort h.nodup).eq_of_mem_iff sorted_participants fun p => ?_
    rw [List.mem_mergeSort, mem_participants, hmem]

end Game
