import GameServer.Infra.Wire

/-!
# Base 128

The runtime library as its encoding is documented. A varint has seven bits of the number in each
byte, the low ones first, and the eighth bit says that more bytes follow.
-/

namespace Infra.Wire.Base128

/-! ## Varints -/

def writeNat (n : Nat) : Bytes :=
  if n < 2 ^ 7 then [UInt8.ofNat n] else UInt8.ofNat (n % 2 ^ 7 + 2 ^ 7) :: writeNat (n / 2 ^ 7)
termination_by n

/-- A varint of at most this many bytes. -/
def readNat : Nat → Bytes → Option (Nat × Bytes)
  | 0, _ | _, [] => none
  | bytes + 1, byte :: b =>
    if byte.toNat < 2 ^ 7 then some (byte.toNat, b)
    else (readNat bytes b).map fun (n, b) => (byte.toNat % 2 ^ 7 + 2 ^ 7 * n, b)

theorem readNat_write {bytes : Nat} (n : Nat) (h : n < 2 ^ (7 * (bytes + 1))) (x : Bytes) :
    readNat (bytes + 1) (writeNat n ++ x) = some (n, x) := by
  induction n using writeNat.induct generalizing bytes with
  | case1 n hn =>
    have hbyte : (UInt8.ofNat n).toNat = n := by
      rw [UInt8.toNat_ofNat']
      omega
    rw [writeNat, if_pos hn]
    show readNat (bytes + 1) (UInt8.ofNat n :: x) = _
    rw [readNat, hbyte, if_pos hn]
  | case2 n hn ih =>
    have hbyte : (UInt8.ofNat (n % 2 ^ 7 + 2 ^ 7)).toNat = n % 2 ^ 7 + 2 ^ 7 := by
      rw [UInt8.toNat_ofNat']
      omega
    cases bytes with
    | zero => exact absurd h hn
    | succ bytes =>
      have hlt : n / 2 ^ 7 < 2 ^ (7 * (bytes + 1)) := by
        rw [Nat.div_lt_iff_lt_mul (by omega), ← Nat.pow_add]
        exact h
      rw [writeNat, if_neg hn, List.cons_append, readNat, hbyte, if_neg (by omega), ih hlt]
      dsimp only [Option.map_some]
      congr 2
      omega

theorem readNat_lt : ∀ {bytes : Nat} {b rest : Bytes} {n : Nat},
    readNat bytes b = some (n, rest) → rest.length < b.length
  | 0, _, _, _, h => by cases h
  | _ + 1, [], _, _, h => by cases h
  | bytes + 1, byte :: b, rest, n, h => by
    rw [readNat] at h
    split at h
    · cases h
      exact Nat.lt_succ_self _
    · obtain ⟨⟨n', rest'⟩, hread, heq⟩ := Option.map_eq_some_iff.mp h
      cases heq
      exact Nat.lt_succ_of_lt (readNat_lt hread)

/-- What is read, as a word. -/
theorem readNat_map_lt {α : Type} {bytes : Nat} {b rest : Bytes} {f : Nat → α} {a : α}
    (h : (readNat bytes b).map (fun x => (f x.1, x.2)) = some (a, rest)) :
    rest.length < b.length := by
  obtain ⟨⟨n, rest'⟩, hread, heq⟩ := Option.map_eq_some_iff.mp h
  cases heq
  exact readNat_lt hread

theorem length_writeNat_small {n : Nat} (h : n < 2 ^ 7) : (writeNat n).length = 1 := by
  rw [writeNat, if_pos h]
  rfl

/-! ## Fixed width -/

def writeFixed32 (v : UInt32) : Bytes :=
  [UInt8.ofNat v.toNat, UInt8.ofNat (v.toNat / 2 ^ 8), UInt8.ofNat (v.toNat / 2 ^ 16),
    UInt8.ofNat (v.toNat / 2 ^ 24)]

def readFixed32 : Bytes → Option (UInt32 × Bytes)
  | b0 :: b1 :: b2 :: b3 :: b =>
    some (UInt32.ofNat (b0.toNat + 2 ^ 8 * b1.toNat + 2 ^ 16 * b2.toNat + 2 ^ 24 * b3.toNat), b)
  | _ => none

theorem readFixed32_write (v : UInt32) (x : Bytes) :
    readFixed32 (writeFixed32 v ++ x) = some (v, x) := by
  have hv := v.toNat_lt
  have hbytes : v.toNat % 2 ^ 8 + 2 ^ 8 * (v.toNat / 2 ^ 8 % 2 ^ 8) +
      2 ^ 16 * (v.toNat / 2 ^ 16 % 2 ^ 8) + 2 ^ 24 * (v.toNat / 2 ^ 24 % 2 ^ 8) = v.toNat := by
    omega
  unfold writeFixed32
  show some (UInt32.ofNat _, x) = _
  simp only [UInt8.toNat_ofNat']
  rw [hbytes, UInt32.ofNat_toNat]

theorem readFixed32_le {b rest : Bytes} {v : UInt32} (h : readFixed32 b = some (v, rest)) :
    rest.length ≤ b.length := by
  unfold readFixed32 at h
  split at h
  · cases h
    simp only [List.length_cons]
    omega
  · cases h

/-! ## The library -/

def readSize (b : Bytes) : Option (Nat × Bytes) :=
  (readNat 5 b).filter fun x => x.1 < 2 ^ 31 - 16

theorem readSize_le {b rest : Bytes} {n : Nat} (h : readSize b = some (n, rest)) :
    rest.length ≤ b.length :=
  Nat.le_of_lt (readNat_lt (Option.filter_eq_some_iff.mp h).1)

/-- Skips `n` bytes. -/
def skip (n : Nat) (b : Bytes) : Option Bytes :=
  if n ≤ b.length then some (b.drop n) else none

theorem skip_le {n : Nat} {b rest : Bytes} (h : skip n b = some rest) :
    rest.length ≤ b.length := by
  unfold skip at h
  split at h
  · cases h
    rw [List.length_drop]
    omega
  · cases h

/-- By the wire type of the tag; groups are rejected. -/
def skipField (tag : UInt32) (b : Bytes) : Option Bytes :=
  if tag >>> 3 = 0 then none
  else if tag &&& 7 = 0 then (readNat 10 b).map (·.2)
  else if tag &&& 7 = 1 then skip 8 b
  else if tag &&& 7 = 2 then (readSize b).bind fun x => skip x.1 x.2
  else if tag &&& 7 = 5 then skip 4 b
  else none

theorem skipField_le {tag : UInt32} {b rest : Bytes} (h : skipField tag b = some rest) :
    rest.length ≤ b.length := by
  unfold skipField at h
  split at h
  · cases h
  · split at h
    · obtain ⟨⟨n, rest'⟩, hread, rfl⟩ := Option.map_eq_some_iff.mp h
      exact Nat.le_of_lt (readNat_lt hread)
    · split at h
      · exact skip_le h
      · split at h
        · obtain ⟨⟨n, rest'⟩, hsize, hskip⟩ := Option.bind_eq_some_iff.mp h
          exact Nat.le_trans (skip_le hskip) (readSize_le hsize)
        · split at h
          · exact skip_le h
          · cases h

/-- The library. -/
def lib : Lib where
  writeVarint v := writeNat v.toNat
  varintSize v := (writeNat v.toNat).length
  writeFixed32 := writeFixed32
  readTag b := (readNat 5 b).map fun x => (UInt32.ofNat x.1, x.2)
  readVarint b := (readNat 10 b).map fun x => (UInt64.ofNat x.1, x.2)
  readFixed32 := readFixed32
  readSize := readSize
  skipField := skipField
  length_writeVarint _ := rfl
  length_writeFixed32 _ := rfl
  varintSize_small _ h := length_writeNat_small (UInt64.lt_iff_toNat_lt.mp h)
  readTag_write tag x := by
    have htag := tag.toNat_lt
    rw [UInt32.toNat_toUInt64, readNat_write _ (by omega), Option.map_some, UInt32.ofNat_toNat]
  readVarint_write v x := by
    have hv := v.toNat_lt
    rw [readNat_write _ (by omega), Option.map_some, UInt64.ofNat_toNat]
  readFixed32_write := readFixed32_write
  readSize_write n hn x := by
    have hsize : (UInt64.ofNat n).toNat = n := by
      rw [UInt64.toNat_ofNat']
      omega
    rw [readSize, hsize, readNat_write n (by omega), Option.filter_some, if_pos (decide_eq_true hn)]
  readTag_lt := readNat_map_lt
  readVarint_lt := readNat_map_lt
  readFixed32_le := readFixed32_le
  readSize_le := readSize_le
  skipField_le := skipField_le

/-- The number 300, as in the documentation of the encoding. -/
example : lib.readVarint [0xAC, 0x02] = some (300, []) := by decide

end Infra.Wire.Base128
