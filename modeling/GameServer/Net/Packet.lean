import Mathlib.Data.Nat.Bitwise

/-!
# Packet

`src/net/packet.h` and `src/net/packet.cpp`: the packet of the wire protocol and the
big-endian 32-bit numbers of its header.

`char` buffers and `std::string` bodies are lists of `UInt8`.
-/

namespace Game

/-- TCP byte buffer. -/
abbrev Buffer := List UInt8

/-- Size of the whole header: `length`, `msg_id` and `seq`. -/
def kPacketHeaderSize : UInt32 := 12

/-- Size of what `length` counts besides the body: `msg_id` and `seq`. -/
def kPacketMetaSize : UInt32 := 8

/-- Largest accepted `length`. -/
def kMaxPacketLength : UInt32 := 1024 * 1024

/-- A decoded packet. `length` does not count the length field itself. -/
structure Packet where
  length : UInt32 := kPacketMetaSize
  msgId : UInt32 := 0
  seq : UInt32 := 0
  body : Buffer := []
deriving DecidableEq, Repr

/-- Reads a `uint32` from the first four bytes. Callers guard the size. -/
def readUint32BE : Buffer → UInt32
  | p0 :: p1 :: p2 :: p3 :: _ =>
    (p0.toUInt32 <<< 24) ||| (p1.toUInt32 <<< 16) ||| (p2.toUInt32 <<< 8) ||| p3.toUInt32
  | _ => 0

/-- Appends a `uint32`, most significant byte first. -/
def appendUint32BE (out : Buffer) (value : UInt32) : Buffer :=
  out ++ [((value >>> 24) &&& 0xFF).toUInt8, ((value >>> 16) &&& 0xFF).toUInt8,
    ((value >>> 8) &&& 0xFF).toUInt8, (value &&& 0xFF).toUInt8]

/-! ## Big-endian numbers -/

/-- A shifted number and a number below the shift do not overlap, so `|` adds them. -/
theorem shiftLeft_or_eq {a b k : Nat} (h : b < 2 ^ k) : a <<< k ||| b = a * 2 ^ k + b := by
  rw [← Nat.shiftLeft_add_eq_or_of_lt h, Nat.shiftLeft_eq]

/-- What `readUint32BE` reads, as a number. -/
theorem toNat_readUint32BE (p0 p1 p2 p3 : UInt8) (rest : Buffer) :
    (readUint32BE (p0 :: p1 :: p2 :: p3 :: rest)).toNat
      = p0.toNat * 2 ^ 24 + (p1.toNat * 2 ^ 16 + (p2.toNat * 2 ^ 8 + p3.toNat)) := by
  have h0 := p0.toNat_lt
  have h1 := p1.toNat_lt
  have h2 := p2.toNat_lt
  have h3 := p3.toNat_lt
  have m0 : p0.toNat <<< 24 % 2 ^ 32 = p0.toNat <<< 24 := by
    rw [Nat.shiftLeft_eq]; omega
  have m1 : p1.toNat <<< 16 % 2 ^ 32 = p1.toNat <<< 16 := by
    rw [Nat.shiftLeft_eq]; omega
  have m2 : p2.toNat <<< 8 % 2 ^ 32 = p2.toNat <<< 8 := by
    rw [Nat.shiftLeft_eq]; omega
  simp only [readUint32BE, UInt32.toNat_or, UInt32.toNat_shiftLeft, UInt8.toNat_toUInt32,
    show UInt32.toNat 24 % 32 = 24 from rfl, show UInt32.toNat 16 % 32 = 16 from rfl,
    show UInt32.toNat 8 % 32 = 8 from rfl, m0, m1, m2, Nat.or_assoc]
  rw [shiftLeft_or_eq (a := p2.toNat) (by omega), shiftLeft_or_eq (a := p1.toNat) (by omega),
    shiftLeft_or_eq (by omega)]

/-- One byte of a number, as `appendUint32BE` takes it. -/
theorem toNat_byte (v k : UInt32) (hk : k.toNat < 32) :
    ((v >>> k &&& 0xFF).toUInt8).toNat = v.toNat / 2 ^ k.toNat % 2 ^ 8 := by
  simp only [UInt32.toNat_toUInt8, UInt32.toNat_and, UInt32.toNat_shiftRight, Nat.mod_eq_of_lt hk,
    Nat.shiftRight_eq_div_pow]
  rw [show (255 : UInt32).toNat = 2 ^ 8 - 1 from rfl, Nat.and_two_pow_sub_one_eq_mod, Nat.mod_mod]

theorem toNat_byte_zero (v : UInt32) : ((v &&& 0xFF).toUInt8).toNat = v.toNat % 2 ^ 8 := by
  have h := toNat_byte v 0 (by decide)
  rw [show v >>> 0 = v from by simp] at h
  simpa using h

@[simp] theorem length_appendUint32BE (out : Buffer) (v : UInt32) :
    (appendUint32BE out v).length = out.length + 4 := by
  simp [appendUint32BE]

theorem appendUint32BE_eq (out : Buffer) (v : UInt32) :
    appendUint32BE out v = out ++ appendUint32BE [] v := by
  simp [appendUint32BE]

/-- **A number that was appended is read back**, whatever follows it. -/
@[simp] theorem readUint32BE_appendUint32BE (v : UInt32) (rest : Buffer) :
    readUint32BE (appendUint32BE [] v ++ rest) = v := by
  have hv := v.toNat_lt
  apply UInt32.toNat_inj.mp
  simp only [appendUint32BE, List.nil_append, List.cons_append]
  rw [toNat_readUint32BE, toNat_byte v 24 (by decide), toNat_byte v 16 (by decide),
    toNat_byte v 8 (by decide), toNat_byte_zero]
  simp only [UInt32.reduceToNat]
  omega

/-- Only the first four bytes are read. -/
theorem readUint32BE_append {b : Buffer} (h : 4 ≤ b.length) (x : Buffer) :
    readUint32BE (b ++ x) = readUint32BE b := by
  match b, h with
  | _ :: _ :: _ :: _ :: _, _ => rfl

end Game
