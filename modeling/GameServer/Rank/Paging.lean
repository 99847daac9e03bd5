import GameServer.Rank.RankService

/-!
# Pages of the leaderboard

The leaderboard is what `rank:score` holds, highest score first, with the position of each row. A
page is a window of it. `GetTopN` returns the page that a request asks for unless the sum of offset
and limit overflows.
-/

namespace Game

open Infra

/-- A row of the leaderboard. `rank` counts from 1. -/
structure BoardRow where
  playerId : Int64
  score : Int32
  rank : Int

/-- What an entry says. -/
def RankEntry.row (entry : RankEntry) : BoardRow where
  playerId := entry.playerId
  score := entry.score
  rank := entry.rank.toInt

/-- The entry that stands for a row. -/
def BoardRow.entry (row : BoardRow) : RankEntry where
  playerId := row.playerId
  name := "player_" ++ stdToString row.playerId
  score := row.score
  rank := Int32.ofInt row.rank

/-- Rows of the set with their positions, the first at position `first`. -/
def rankFrom (first : Int) : List (RankMember × Int32) → List BoardRow
  | [] => []
  | row :: rows => ⟨row.1.id, row.2, first⟩ :: rankFrom (first + 1) rows

/-- The whole leaderboard. -/
def leaderboard (scores : RankScores) : List BoardRow :=
  rankFrom 1 scores.entries.reverse

/-- The rows after the first `offset`, at most `limit` of them. -/
def page (scores : RankScores) (offset limit : Int) : List BoardRow :=
  ((leaderboard scores).drop (max offset 0).toNat).take (max limit 0).toNat

/-- The last index that a request asks for is computed without an overflow. -/
def NoOverflow (offset limit : Int) : Prop :=
  limit ≤ 0 ∨ max offset 0 + limit ≤ 2 ^ 31 - 1

instance (offset limit : Int) : Decidable (NoOverflow offset limit) :=
  instDecidableOr

/-! ## Arithmetic -/

theorem exactInt32_eq {n : Int} (hlo : -2 ^ 31 ≤ n) (hhi : n ≤ 2 ^ 31 - 1) :
    ∃ k, exactInt32 n = some k ∧ k.toInt = n :=
  ⟨Int32.ofInt n, if_pos ⟨hlo, hhi⟩, Int32.toInt_ofInt_of_le hlo (by omega)⟩

theorem exactInt32_eq_none {n : Int} (h : 2 ^ 31 - 1 < n) : exactInt32 n = none :=
  if_neg fun hrange => by omega

theorem toInt_ofNat_index {i : Nat} (h : (i : Int) ≤ 2 ^ 31 - 1) : (Int32.ofNat i).toInt = i :=
  Int32.toInt_ofNat_of_lt (by omega)

/-- The offset as `GetTopN` uses it. -/
theorem toInt_offset (offset : Int32) :
    (if offset < 0 then 0 else offset).toInt = max offset.toInt 0 := by
  split
  · next h =>
    rw [Int32.lt_iff_toInt_lt] at h
    rw [max_eq_right (by simpa using h.le)]
    rfl
  · next h =>
    rw [Int32.lt_iff_toInt_lt, not_lt] at h
    exact (max_eq_left (by simpa using h)).symm

/-! ## Rows with their positions -/

theorem length_rankFrom : ∀ (rows : List (RankMember × Int32)) (first : Int),
    (rankFrom first rows).length = rows.length
  | [], _ => rfl
  | _ :: rows, first => congrArg (· + 1) (length_rankFrom rows (first + 1))

theorem drop_rankFrom : ∀ (n : Nat) (rows : List (RankMember × Int32)) (first : Int),
    (rankFrom first rows).drop n = rankFrom (first + n) (rows.drop n)
  | 0, rows, first => by rw [List.drop_zero, List.drop_zero, Int.natCast_zero, Int.add_zero]
  | n + 1, [], first => by rw [List.drop_nil, rankFrom, List.drop_nil, rankFrom]
  | n + 1, _ :: rows, first => by
    rw [rankFrom, List.drop_succ_cons, drop_rankFrom n, List.drop_succ_cons]
    congr 1
    omega

theorem take_rankFrom : ∀ (n : Nat) (rows : List (RankMember × Int32)) (first : Int),
    (rankFrom first rows).take n = rankFrom first (rows.take n)
  | 0, rows, first => by rw [List.take_zero, List.take_zero, rankFrom]
  | n + 1, [], first => by rw [rankFrom, List.take_nil, List.take_nil, rankFrom]
  | n + 1, _ :: rows, first => by
    rw [rankFrom, List.take_succ_cons, take_rankFrom n, List.take_succ_cons, rankFrom]

/-- The row that an entry stands for is the one it was made from. -/
theorem row_entry {row : BoardRow} (hlo : -2 ^ 31 ≤ row.rank) (hhi : row.rank ≤ 2 ^ 31 - 1) :
    row.entry.row = row := by
  unfold BoardRow.entry RankEntry.row
  rw [Int32.toInt_ofInt_of_le hlo (by omega)]

theorem rows_entries : ∀ (rows : List (RankMember × Int32)) (first : Int), -2 ^ 31 ≤ first →
    first + rows.length ≤ 2 ^ 31 →
    ((rankFrom first rows).map BoardRow.entry).map RankEntry.row = rankFrom first rows
  | [], _, _, _ => rfl
  | row :: rows, first, hlo, hhi => by
    rw [List.length_cons] at hhi
    rw [rankFrom, List.map_cons, List.map_cons, row_entry hlo (by dsimp only; omega),
      rows_entries rows (first + 1) (by omega) (by omega)]

/-! ## The loop -/

/-- The loop reads rows of the set as the rows that follow position `offset + i`. -/
theorem readEntries_eq (offset : Int32) (hoffset : 0 ≤ offset.toInt) :
    ∀ (rows : List (RankMember × Int32)) (i : Nat), offset.toInt + i + rows.length ≤ 2 ^ 31 - 1 →
    RankService.readEntries offset i (rows.map fun row => (row.1.text, row.2)) =
      some ((rankFrom (offset.toInt + i + 1) rows).map BoardRow.entry)
  | [], _, _ => rfl
  | (member, score) :: rows, i, h => by
    rw [List.length_cons] at h
    have hi : (Int32.ofNat i).toInt = i := toInt_ofNat_index (by omega)
    obtain ⟨position, hposition, hpos⟩ :=
      exactInt32_eq (n := offset.toInt + (Int32.ofNat i).toInt) (by omega) (by omega)
    have hrank : exactInt32 (position.toInt + 1) = some (Int32.ofInt (offset.toInt + i + 1)) := by
      rw [hpos, hi]
      exact if_pos ⟨by omega, by omega⟩
    have hrest := readEntries_eq offset hoffset rows (i + 1) (by push_cast; omega)
    have hnext : offset.toInt + (i + 1 : Nat) + 1 = offset.toInt + i + 1 + 1 := by
      omega
    rw [hnext] at hrest
    rw [List.map_cons, RankService.readEntries, hposition]
    simp only [Option.bind_eq_bind, Option.bind_some, hrank, hrest]
    rw [rankFrom, List.map_cons, BoardRow.entry]
    dsimp only [RankMember.text]
    rw [strtoll_stdToString]
    rfl

/-- The rows that a request without an overflow reads. -/
theorem zRevRange_eq (scores : RankScores) {start stop : Int32} (hstart : 0 ≤ start.toInt)
    (hstop : start.toInt ≤ stop.toInt) :
    (RedisClient.mk (some scores)).zRevRange start stop =
      ((scores.entries.reverse.drop start.toInt.toNat).take
        (stop.toInt + 1 - start.toInt).toNat).map fun row => (row.1.text, row.2) := by
  unfold RedisClient.zRevRange
  dsimp only
  rw [indexRange_of_nonneg _ hstart (by omega)]

/-- **GetTopN returns the page.** -/
theorem getTopN_eq (scores : RankScores) {offset limit : Int32}
    (h : NoOverflow offset.toInt limit.toInt) :
    RankService.getTopN (some ⟨some scores⟩) offset limit =
      some ((page scores offset.toInt limit.toInt).map BoardRow.entry) := by
  unfold RankService.getTopN
  dsimp only
  split
  · next hlimit =>
    rw [Int32.le_iff_toInt_le] at hlimit
    have hzero : (max limit.toInt 0).toNat = 0 := by
      rw [max_eq_right (by simpa using hlimit)]
      rfl
    rw [page, hzero, List.take_zero]
    rfl
  · next hlimit =>
    rw [Int32.le_iff_toInt_le, not_le] at hlimit
    replace hlimit : 0 < limit.toInt := by simpa using hlimit
    have hrange := h.resolve_left (by omega)
    have hoffset := toInt_offset offset
    generalize (if offset < 0 then 0 else offset) = start at hoffset ⊢
    rw [← hoffset] at hrange
    have hstart : 0 ≤ start.toInt := by
      rw [hoffset]
      exact le_max_right _ _
    obtain ⟨sum, hsum, hsum'⟩ := exactInt32_eq (n := start.toInt + limit.toInt) (by omega) hrange
    obtain ⟨stop, hstop, hstop'⟩ := exactInt32_eq (n := sum.toInt - 1) (by omega) (by omega)
    have hcount : (stop.toInt + 1 - start.toInt).toNat = limit.toInt.toNat := by omega
    simp only [hsum, hstop, Option.bind_eq_bind, Option.bind_some]
    rw [zRevRange_eq scores hstart (by omega), hcount, readEntries_eq start hstart]
    · rw [page, leaderboard, drop_rankFrom, take_rankFrom, ← hoffset,
        max_eq_left (a := limit.toInt) (by omega), Int.toNat_of_nonneg hstart]
      congr 3
      omega
    · have hlength := List.length_take_le limit.toInt.toNat
        (scores.entries.reverse.drop start.toInt.toNat)
      omega

/-- With an overflow `GetTopN` has no result. -/
theorem getTopN_eq_none (scores : RankScores) {offset limit : Int32}
    (h : ¬ NoOverflow offset.toInt limit.toInt) :
    RankService.getTopN (some ⟨some scores⟩) offset limit = none := by
  unfold NoOverflow at h
  rw [not_or, not_le, not_le] at h
  unfold RankService.getTopN
  dsimp only
  have hlimit : ¬ limit ≤ 0 := by
    rw [Int32.le_iff_toInt_le, not_le]
    exact h.1
  rw [if_neg hlimit, exactInt32_eq_none]
  · rfl
  · rw [toInt_offset]
    exact h.2

/-- The entries of a page say what the page says. -/
theorem rows_page (scores : RankScores) {offset limit : Int} (h : NoOverflow offset limit) :
    ((page scores offset limit).map BoardRow.entry).map RankEntry.row =
      page scores offset limit := by
  have hlength : ((leaderboard scores).drop (max offset 0).toNat |>.take
      (max limit 0).toNat).length ≤ (max limit 0).toNat := List.length_take_le _ _
  unfold page leaderboard at *
  rw [drop_rankFrom, take_rankFrom] at hlength ⊢
  rw [length_rankFrom] at hlength
  rcases h with hlimit | hrange
  · have hzero : (max limit 0).toNat = 0 := by omega
    rw [hzero, List.take_zero]
    rfl
  · by_cases hlimit : limit ≤ 0
    · have hzero : (max limit 0).toNat = 0 := by omega
      rw [hzero, List.take_zero]
      rfl
    · exact rows_entries _ _ (by omega) (by omega)

/-! ## Consecutive pages -/

/-- One `GetTopN` after the other, each for the rows that follow the page before. -/
def readPages (redis : Option RedisClient) : Int32 → List Int32 → Option (List RankEntry)
  | _, [] => some []
  | offset, limit :: limits => do
    let entries ← RankService.getTopN redis offset limit
    let rest ← readPages redis (offset + limit) limits
    return entries ++ rest

/-- The number of rows that a list of requests asks for. -/
def total : List Int32 → Int
  | [] => 0
  | limit :: limits => limit.toInt + total limits

theorem total_nonneg : ∀ {limits : List Int32}, (∀ limit ∈ limits, 0 ≤ limit.toInt) →
    0 ≤ total limits
  | [], _ => le_rfl
  | limit :: limits, h => by
    have hrest := total_nonneg fun l hl => h l (List.mem_cons_of_mem _ hl)
    have hfirst := h limit List.mem_cons_self
    rw [total]
    omega

theorem readPages_eq (scores : RankScores) : ∀ (limits : List Int32) (offset : Int32),
    0 ≤ offset.toInt → (∀ limit ∈ limits, 0 ≤ limit.toInt) →
    offset.toInt + total limits ≤ 2 ^ 31 - 1 →
    readPages (some ⟨some scores⟩) offset limits =
      some ((page scores offset.toInt (total limits)).map BoardRow.entry)
  | [], offset, _, _, _ => by
    rw [page, show (max (total []) 0).toNat = 0 from rfl, List.take_zero]
    rfl
  | limit :: limits, offset, hoffset, hlimits, hrange => by
    have hlimit := hlimits limit List.mem_cons_self
    have hrest : ∀ l ∈ limits, 0 ≤ l.toInt := fun l hl => hlimits l (List.mem_cons_of_mem _ hl)
    have htotal : total (limit :: limits) = limit.toInt + total limits := rfl
    have hpos := total_nonneg hrest
    have hnext : (offset + limit).toInt = offset.toInt + limit.toInt := by
      rw [Int32.toInt_add, Int.bmod_eq_of_le (by omega) (by omega)]
    have hpage : RankService.getTopN (some ⟨some scores⟩) offset limit = _ :=
      getTopN_eq scores (Or.inr (by omega))
    have hpages := readPages_eq scores limits (offset + limit) (by omega) hrest (by omega)
    rw [readPages]
    simp only [hpage, hpages, Option.bind_eq_bind, Option.bind_some]
    unfold page
    rw [hnext, htotal, show (max (offset.toInt + limit.toInt) 0).toNat =
      (max offset.toInt 0).toNat + (max limit.toInt 0).toNat by omega,
      show (max (limit.toInt + total limits) 0).toNat =
        (max limit.toInt 0).toNat + (max (total limits) 0).toNat by omega,
      ← window_append, List.map_append]
    rfl

/-- A page that starts at the top and is long enough is the whole leaderboard. -/
theorem page_whole (scores : RankScores) {limit : Int}
    (h : (leaderboard scores).length ≤ limit) : page scores 0 limit = leaderboard scores := by
  unfold page
  rw [show (max (0 : Int) 0).toNat = 0 from rfl, List.drop_zero, List.take_of_length_le (by omega)]

/--
**Leaderboard paging.**

`GetTopN` has a result, and it is the page that was asked for, if and only if the sum of offset and
limit does not overflow; and pages one after the other are the whole leaderboard.
-/
theorem paging (scores : RankScores) :
    (∀ offset limit : Int32,
      (∃ entries, RankService.getTopN (some ⟨some scores⟩) offset limit = some entries ∧
        entries.map RankEntry.row = page scores offset.toInt limit.toInt) ↔
      NoOverflow offset.toInt limit.toInt) ∧
    ∀ limits : List Int32, (∀ limit ∈ limits, 0 ≤ limit.toInt) → total limits ≤ 2 ^ 31 - 1 →
      (leaderboard scores).length ≤ total limits →
      ∃ entries, readPages (some ⟨some scores⟩) 0 limits = some entries ∧
        entries.map RankEntry.row = leaderboard scores := by
  constructor
  · intro offset limit
    constructor
    · rintro ⟨entries, hentries, -⟩
      by_contra h
      rw [getTopN_eq_none scores h] at hentries
      cases hentries
    · intro h
      exact ⟨_, getTopN_eq scores h, rows_page scores h⟩
  · intro limits hlimits hrange hlength
    refine ⟨_, readPages_eq scores limits 0 le_rfl hlimits (by simpa using hrange), ?_⟩
    rw [rows_page scores (Or.inr (by simpa using hrange))]
    exact page_whole scores hlength

/-- An offset of 1 and the largest limit. -/
theorem paging_counterexample :
    ¬ ∀ (scores : RankScores) (offset limit : Int32), ∃ entries,
      RankService.getTopN (some ⟨some scores⟩) offset limit = some entries ∧
        entries.map RankEntry.row = page scores offset.toInt limit.toInt := by
  intro h
  obtain ⟨entries, hentries, -⟩ := h SortedSet.empty 1 Int32.maxValue
  rw [getTopN_eq_none SortedSet.empty (by decide)] at hentries
  cases hentries

end Game
