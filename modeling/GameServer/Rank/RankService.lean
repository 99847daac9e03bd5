import GameServer.Infra.SortedSet
import GameServer.Net.Codec
import Mathlib.Data.List.TakeWhile
import Mathlib.Data.String.Basic

/-!
# RankService

The reading half of `src/rank/rank_service.cpp`, with `RedisClient::ZRevRange` of
`src/storage/redis_client.cpp` and `ProtoHelper::Build` of `src/protocol/proto_helper.cpp`.

The members of `rank:score` are player ids in decimal, which Redis compares as texts. What
protobuf makes of a `RankResponse` is a parameter of the handler.
-/

namespace Game

open Infra

/-! ## Numbers and texts -/

/-- `isspace` in the C locale. -/
def isSpace (c : Char) : Bool :=
  c = ' ' ∨ (9 ≤ c.toNat ∧ c.toNat ≤ 13)

/-- The nearest `int64_t`. -/
def clampInt64 (n : Int) : Int64 :=
  Int64.ofInt (max (-2 ^ 63) (min n (2 ^ 63 - 1)))

/-- The number that the digits in front stand for. -/
def leadingNat (text : List Char) : Nat :=
  Nat.ofDigitChars 10 (text.takeWhile Char.isDigit) 0

/-- An optional sign and digits. -/
def leadingInt : List Char → Int
  | '-' :: rest => -leadingNat rest
  | '+' :: rest => leadingNat rest
  | text => leadingNat text

/-- `std::strtoll` with base 10 and no end pointer. -/
def strtoll (text : String) : Int64 :=
  clampInt64 (leadingInt (text.toList.dropWhile isSpace))

/-- `std::to_string` of an `int64_t`. -/
def stdToString (n : Int64) : String :=
  toString n.toInt

theorem clampInt64_toInt (n : Int64) : clampInt64 n.toInt = n := by
  have hlo := n.le_toInt
  have hhi := n.toInt_lt
  unfold clampInt64
  rw [min_eq_left (by omega), max_eq_right (by omega), Int64.ofInt_toInt]

theorem leadingNat_toDigits (n : Nat) : leadingNat (Nat.toDigits 10 n) = n := by
  have hdigits : (Nat.toDigits 10 n).takeWhile Char.isDigit = Nat.toDigits 10 n :=
    List.takeWhile_eq_self_iff.mpr fun _ hc =>
      Nat.isDigit_of_mem_toDigits (by decide) (by decide) hc
  rw [leadingNat, hdigits, Nat.ofDigitChars_ten_toDigits]

/-- A text that starts with a digit has neither spaces nor a sign in front. -/
theorem leadingInt_of_isDigit {c : Char} (hc : c.isDigit) (rest : List Char) :
    leadingInt ((c :: rest).dropWhile isSpace) = leadingNat (c :: rest) := by
  have hrange : 48 ≤ c.toNat ∧ c.toNat ≤ 57 := by
    simpa [Char.isDigit, UInt32.le_iff_toNat_le] using hc
  have hne : ∀ d : Char, d.toNat < 48 → c ≠ d := by
    rintro d hd rfl
    omega
  have hspace : isSpace c = false := by
    refine decide_eq_false ?_
    rintro (hblank | hcontrol)
    · exact hne ' ' (by decide) hblank
    · omega
  rw [List.dropWhile_cons, hspace]
  unfold leadingInt
  split
  · next h => exact (hne '-' (by decide) (List.cons.inj h).1).elim
  · next h => exact (hne '+' (by decide) (List.cons.inj h).1).elim
  · rfl

/-- **A number that was written is read back.** -/
theorem strtoll_stdToString (n : Int64) : strtoll (stdToString n) = n := by
  have hread : leadingInt ((stdToString n).toList.dropWhile isSpace) = n.toInt := by
    unfold stdToString
    rw [Int.toString_eq_repr, Int.repr_eq_if]
    split
    · next hn =>
      rw [Nat.toList_repr]
      cases hdigits : Nat.toDigits 10 n.toInt.toNat with
      | nil => exact (Nat.toDigits_ne_nil hdigits).elim
      | cons c rest =>
        have hc : c.isDigit := Nat.isDigit_of_mem_toDigits (by decide) (by decide)
          (hdigits ▸ List.mem_cons_self)
        rw [leadingInt_of_isDigit hc, ← hdigits, leadingNat_toDigits, Int.toNat_of_nonneg hn]
    · next hn =>
      rw [String.toList_append, Nat.toList_repr]
      show -(leadingNat (Nat.toDigits 10 (-n.toInt).toNat) : Int) = n.toInt
      rw [leadingNat_toDigits]
      omega
  rw [strtoll, hread, clampInt64_toInt]

theorem stdToString_ne_empty (n : Int64) : stdToString n ≠ "" := by
  unfold stdToString
  rw [Int.toString_eq_repr, Int.repr_eq_if]
  split
  · exact Nat.repr_ne_empty
  · intro h
    have hlist := congrArg String.toList h
    rw [String.toList_append] at hlist
    exact List.cons_ne_nil _ _ hlist

/-! ## The sorted set -/

instance int32LinearOrder : LinearOrder Int32 where
  le_refl := Int32.le_refl
  le_trans _ _ _ := Int32.le_trans
  le_antisymm _ _ := Int32.le_antisymm
  le_total := Int32.le_total
  lt_iff_le_not_ge _ _ := by rw [Int32.not_le, and_iff_right_of_imp Int32.le_of_lt]
  toDecidableLE := inferInstance

/-- A member of `rank:score`. -/
structure RankMember where
  id : Int64

namespace RankMember

def text (member : RankMember) : String :=
  stdToString member.id

theorem text_injective : Function.Injective text := by
  intro a b h
  have hid := congrArg strtoll h
  rw [text, text, strtoll_stdToString, strtoll_stdToString] at hid
  cases a
  cases b
  exact congrArg mk hid

instance : LinearOrder RankMember :=
  LinearOrder.lift' text text_injective

end RankMember

/-- What `rank:score` holds. -/
abbrev RankScores := SortedSet RankMember Int32

/-- `RedisClient`; `rankScore` is `none` when a command gets no array as its reply. -/
structure RedisClient where
  rankScore : Option RankScores

/-- `RedisClient::ZRevRange` of `rank:score`: members as texts, highest score first. -/
def RedisClient.zRevRange (redis : RedisClient) (start stop : Int32) : List (String × Int32) :=
  match redis.rankScore with
  | none => []
  | some scores =>
    (indexRange scores.entries.reverse start.toInt stop.toInt).map fun row => (row.1.text, row.2)

/-! ## Requests -/

/-- A signed result; there is none for an overflow, which is undefined behaviour. -/
def exactInt32 (n : Int) : Option Int32 :=
  if -2 ^ 31 ≤ n ∧ n ≤ 2 ^ 31 - 1 then some (Int32.ofInt n) else none

structure RankEntry where
  playerId : Int64
  name : String
  score : Int32
  rank : Int32

namespace RankService

/-- The loop of `GetTopN` from item `i` on. -/
def readEntries (offset : Int32) : Nat → List (String × Int32) → Option (List RankEntry)
  | _, [] => some []
  | i, (member, score) :: items => do
    let position ← exactInt32 (offset.toInt + (Int32.ofNat i).toInt)
    let rank ← exactInt32 (position.toInt + 1)
    let entries ← readEntries offset (i + 1) items
    return { playerId := strtoll member, name := "player_" ++ member, score, rank } :: entries

/-- `GetTopN`; `redis` is `redis_`. -/
def getTopN (redis : Option RedisClient) (offset limit : Int32) : Option (List RankEntry) :=
  match redis with
  | none => some []
  | some redis =>
    if limit ≤ 0 then some []
    else
      let offset := if offset < 0 then 0 else offset
      do
        let sum ← exactInt32 (offset.toInt + limit.toInt)
        let stop ← exactInt32 (sum.toInt - 1)
        readEntries offset 0 (redis.zRevRange offset stop)

/-- `MSG_RANK_RESP`. -/
def msgRankResp : UInt32 := 5002

end RankService

/-- `ProtoHelper::Build`, for what `SerializeToString` makes of the message. The body stays empty
when that fails. -/
def protoBuild (msgId : UInt32) (serialized : Option Buffer) : Packet :=
  let body := serialized.getD []
  { msgId := msgId
    body := body
    length := UInt32.ofNat (kPacketMetaSize.toNat + body.length) }

/-- `HandleRankRequest`: the packet that is handed to `TcpConnection::Send`, if any. `request` is
`none` when the body does not parse. -/
def RankService.handleRankRequest (serialize : List RankEntry → Option Buffer)
    (redis : Option RedisClient) (request : Option (Int32 × Int32)) : Option (Option Packet) :=
  match request with
  | none => some none
  | some (offset, limit) => do
    let entries ← getTopN redis offset limit
    return some (protoBuild msgRankResp (serialize entries))

end Game
