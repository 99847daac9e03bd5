import GameServer.Net.CodecRoundtrip
import GameServer.Rank.Paging

/-!
# The size of a RankResponse

Nothing between `HandleRankRequest` and `Codec::Encode` looks at the size of the response, and
`Encode` throws when the body is too large. The size is that of the rows of the page in the wire
format of protobuf, which has at least the name of every row in it.
-/

namespace Game

open Infra

/-! ## Sizes in the wire format -/

/-- Bytes of a varint: seven bits each. -/
def varintSize (n : Nat) : Nat :=
  if n < 2 ^ 7 then 1 else varintSize (n / 2 ^ 7) + 1
termination_by n

/-- Bytes of an integer field with a one-byte tag; a zero is left out. -/
def intFieldSize (n : UInt64) : Nat :=
  if n = 0 then 0 else varintSize n.toNat + 1

/-- Bytes of a field of `n` bytes with a one-byte tag. -/
def bytesFieldSize (n : Nat) : Nat :=
  varintSize n + n + 1

/-- Bytes of a `RankItem`. An `int32` is extended to 64 bits with its sign. -/
def RankEntry.itemSize (entry : RankEntry) : Nat :=
  intFieldSize entry.playerId.toUInt64 +
    (if entry.name = "" then 0 else bytesFieldSize entry.name.utf8ByteSize) +
    intFieldSize entry.score.toInt64.toUInt64 + intFieldSize entry.rank.toInt64.toUInt64

/-- Bytes of a `RankResponse`. -/
def responseSize (entries : List RankEntry) : Nat :=
  (entries.map fun entry => bytesFieldSize entry.itemSize).sum

/-- Bytes that a row of the leaderboard takes in a response. -/
def BoardRow.size (row : BoardRow) : Nat :=
  bytesFieldSize row.entry.itemSize

theorem responseSize_entries (rows : List BoardRow) :
    responseSize (rows.map BoardRow.entry) = (rows.map BoardRow.size).sum := by
  rw [responseSize, List.map_map]
  rfl

/-- What is used of `SerializeToString` of a `RankResponse`: what it writes has the size of the
wire format, and it does not fail below two gigabytes. -/
structure WritesResponse (serialize : List RankEntry → Option Buffer) : Prop where
  size : ∀ entries body, serialize entries = some body → body.length = responseSize entries
  succeeds : ∀ entries, responseSize entries < 2 ^ 31 → serialize entries ≠ none

/-! ## Names are in the response -/

theorem utf8ByteSize_name (row : BoardRow) : 8 ≤ row.entry.name.utf8ByteSize := by
  have htext : (stdToString row.playerId).utf8ByteSize ≠ 0 := by
    rw [ne_eq, String.utf8ByteSize_eq_zero_iff]
    exact stdToString_ne_empty row.playerId
  show 8 ≤ ("player_" ++ stdToString row.playerId).utf8ByteSize
  rw [String.utf8ByteSize_append, show "player_".utf8ByteSize = 7 from rfl]
  omega

/-- A row takes at least the bytes of its name. -/
theorem le_size (row : BoardRow) : 8 ≤ row.size := by
  have hname := utf8ByteSize_name row
  have hne : row.entry.name ≠ "" := by
    intro hempty
    rw [hempty] at hname
    exact absurd hname (by decide)
  unfold BoardRow.size RankEntry.itemSize
  rw [if_neg hne]
  unfold bytesFieldSize
  omega

/-! ## What a request leads to -/

/-- There is a response, it fits into a packet, and `Encode` takes the packet. -/
def RankService.Answers (serialize : List RankEntry → Option Buffer) (redis : Option RedisClient)
    (offset limit : Int32) : Prop :=
  ∃ entries body packet out, getTopN redis offset limit = some entries ∧
    serialize entries = some body ∧
    body.length ≤ (kMaxPacketLength - kPacketMetaSize).toNat ∧
    handleRankRequest serialize redis (some (offset, limit)) = some (some packet) ∧
    Codec.encode packet = .ok out

/--
**The size of a response.**

A request gets a response that `Encode` takes if and only if `GetTopN` does not overflow and the
rows of the page take at most `kMaxPacketLength - kPacketMetaSize` bytes.
-/
theorem answers_iff {serialize : List RankEntry → Option Buffer} (h : WritesResponse serialize)
    (scores : RankScores) (offset limit : Int32) :
    RankService.Answers serialize (some ⟨some scores⟩) offset limit ↔
      NoOverflow offset.toInt limit.toInt ∧
        ((page scores offset.toInt limit.toInt).map BoardRow.size).sum ≤ 2 ^ 20 - 8 := by
  have hmax : (kMaxPacketLength - kPacketMetaSize).toNat = 2 ^ 20 - 8 := by decide
  unfold RankService.Answers
  rw [hmax, ← responseSize_entries]
  constructor
  · rintro ⟨entries, body, packet, out, hentries, hbody, hsize, -, -⟩
    by_cases hrange : NoOverflow offset.toInt limit.toInt
    · rw [getTopN_eq scores hrange] at hentries
      cases hentries
      rw [h.size _ body hbody] at hsize
      exact ⟨hrange, hsize⟩
    · rw [getTopN_eq_none scores hrange] at hentries
      cases hentries
  · rintro ⟨hrange, hsize⟩
    have hentries := getTopN_eq scores hrange
    generalize (page scores offset.toInt limit.toInt).map BoardRow.entry = entries at hentries hsize
    obtain ⟨body, hbody⟩ := Option.ne_none_iff_exists'.mp (h.succeeds entries (by omega))
    rw [← h.size entries body hbody] at hsize
    let packet := protoBuild RankService.msgRankResp (some body)
    have hpacket : RankService.handleRankRequest serialize (some ⟨some scores⟩)
        (some (offset, limit)) = some (some packet) := by
      unfold RankService.handleRankRequest
      simp only [hentries, hbody, Option.bind_eq_bind, Option.bind_some]
      rfl
    have hfits : Codec.Fits packet := by
      unfold Codec.Fits
      rw [hmax]
      exact hsize
    exact ⟨entries, body, packet, _, hentries, hbody, hsize, hpacket, Codec.encode_eq hfits⟩

/-! ## The wire format -/

def wireVarint (n : Nat) : Buffer :=
  if n < 2 ^ 7 then [UInt8.ofNat n] else UInt8.ofNat (n % 2 ^ 7 + 2 ^ 7) :: wireVarint (n / 2 ^ 7)
termination_by n

def wireInt (tag : UInt8) (n : UInt64) : Buffer :=
  if n = 0 then [] else tag :: wireVarint n.toNat

def wireBytes (tag : UInt8) (bytes : Buffer) : Buffer :=
  tag :: (wireVarint bytes.length ++ bytes)

/-- A `RankItem`. -/
def RankEntry.wire (entry : RankEntry) : Buffer :=
  wireInt 0x08 entry.playerId.toUInt64 ++
    (if entry.name = "" then [] else wireBytes 0x12 entry.name.toByteArray.data.toList) ++
    wireInt 0x18 entry.score.toInt64.toUInt64 ++ wireInt 0x20 entry.rank.toInt64.toUInt64

/-- A `RankResponse`, whatever its size. -/
def wireResponse (entries : List RankEntry) : Option Buffer :=
  some (entries.flatMap fun entry => wireBytes 0x0A entry.wire)

theorem length_wireVarint (n : Nat) : (wireVarint n).length = varintSize n := by
  fun_induction varintSize n with
  | case1 n h =>
    rw [wireVarint, if_pos h]
    rfl
  | case2 n h ih => rw [wireVarint, if_neg h, List.length_cons, ih]

theorem length_wireInt (tag : UInt8) (n : UInt64) : (wireInt tag n).length = intFieldSize n := by
  unfold wireInt intFieldSize
  split
  · rfl
  · rw [List.length_cons, length_wireVarint]

theorem length_wireBytes (tag : UInt8) (bytes : Buffer) :
    (wireBytes tag bytes).length = bytesFieldSize bytes.length := by
  unfold wireBytes bytesFieldSize
  rw [List.length_cons, List.length_append, length_wireVarint]

theorem length_wire (entry : RankEntry) : entry.wire.length = entry.itemSize := by
  unfold RankEntry.wire RankEntry.itemSize
  rw [List.length_append, List.length_append, List.length_append, length_wireInt, length_wireInt,
    length_wireInt]
  split
  · rfl
  · rw [length_wireBytes]
    rfl

theorem writesResponse_wireResponse : WritesResponse wireResponse where
  size := by
    rintro entries body ⟨⟩
    rw [List.length_flatMap, responseSize]
    congr 1
    refine List.map_congr_left fun entry _ => ?_
    rw [length_wireBytes, length_wire]
  succeeds _ _ := Option.some_ne_none _

/-! ## A large leaderboard -/

/-- `n` players with the same score. -/
def crowd (n : Nat) : RankScores :=
  ((List.range n).map fun i => RankMember.mk (Int64.ofNat i)).foldr
    (fun member scores => scores.add member 1000) SortedSet.empty

theorem length_leaderboard_crowd {n : Nat} (hn : n ≤ 2 ^ 63) :
    (leaderboard (crowd n)).length = n := by
  have hnd : ((List.range n).map fun i => RankMember.mk (Int64.ofNat i)).Nodup := by
    refine List.nodup_range.map_on fun i hi j hj hij => ?_
    have hid : (Int64.ofNat i).toInt = (Int64.ofNat j).toInt :=
      congrArg (fun member => member.id.toInt) hij
    rw [List.mem_range] at hi hj
    rw [Int64.toInt_ofNat_of_lt (by omega), Int64.toInt_ofNat_of_lt (by omega)] at hid
    exact Int.ofNat_inj.mp hid
  have hlength := (SortedSet.length_addAll (1000 : Int32) _ hnd).1
  rw [List.length_map, List.length_range] at hlength
  rw [leaderboard, length_rankFrom, List.length_reverse]
  exact hlength

/-- Eight bytes a row. -/
theorem le_sum_size : ∀ rows : List BoardRow, 8 * rows.length ≤ (rows.map BoardRow.size).sum
  | [] => le_rfl
  | row :: rows => by
    have hrow := le_size row
    have hrows := le_sum_size rows
    rw [List.length_cons, List.map_cons, List.sum_cons]
    omega

/-- A request for all rows of a leaderboard with too many of them. -/
theorem not_answers {serialize : List RankEntry → Option Buffer} (h : WritesResponse serialize)
    {scores : RankScores} {limit : Int32} (hmany : 2 ^ 20 - 8 < 8 * (leaderboard scores).length)
    (hall : (leaderboard scores).length ≤ limit.toInt) :
    ¬ RankService.Answers serialize (some ⟨some scores⟩) 0 limit := by
  rintro ⟨entries, body, packet, out, hentries, hbody, hsize, -⟩
  have hlimit := limit.toInt_lt
  have hrange : NoOverflow (0 : Int32).toInt limit.toInt := by
    right
    show max (0 : Int) 0 + limit.toInt ≤ 2 ^ 31 - 1
    omega
  have hmax : (kMaxPacketLength - kPacketMetaSize).toNat = 2 ^ 20 - 8 := by decide
  have hrows := le_sum_size (leaderboard scores)
  rw [getTopN_eq scores hrange, show (0 : Int32).toInt = 0 from rfl, page_whole scores hall]
    at hentries
  cases hentries
  rw [hmax, h.size _ body hbody, responseSize_entries] at hsize
  omega

/-- Three players are on the leaderboard. -/
theorem answers_witness :
    RankService.Answers wireResponse (some ⟨some (crowd 3)⟩) 0 100 ↔
      NoOverflow (0 : Int32).toInt (100 : Int32).toInt ∧
        ((page (crowd 3) (0 : Int32).toInt (100 : Int32).toInt).map BoardRow.size).sum ≤
          2 ^ 20 - 8 :=
  answers_iff writesResponse_wireResponse (crowd 3) 0 100

/-- 131072 players are on the leaderboard, and a request is for all of them. -/
theorem answers_counterexample :
    ¬ ∀ serialize, WritesResponse serialize → ∀ (scores : RankScores) (offset limit : Int32),
      RankService.Answers serialize (some ⟨some scores⟩) offset limit := by
  intro h
  have hlength := length_leaderboard_crowd (n := 131072) (by omega)
  refine not_answers writesResponse_wireResponse ?_ ?_
    (h wireResponse writesResponse_wireResponse (crowd 131072) 0 131072)
  · rw [hlength]
    decide
  · rw [hlength]
    decide

end Game
