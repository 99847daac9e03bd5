import GameServer.Infra.Wire

/-!
# Kinds of fields

One constructor for each kind of field that the generator has code for. Each of them comes with the
proofs that its part of the parser reads what its part of the writer writes.
-/

namespace Infra.Wire

variable {L : Lib} {M N α : Type}

/-! ## Tags -/

/-- The number of a field and the tag with which it is written, one byte long. -/
structure FieldTag where
  number : UInt32
  tag : UInt32
  number_eq : tag >>> 3 = number := by decide
  small : tag < 128 := by decide

namespace FieldTag

/-- The `case` accepts this tag only. -/
def accepts (t : FieldTag) (read : Reader M) (low : UInt8) : Option (Reader M) :=
  if low = t.tag.toUInt8 then some read else none

theorem accepts_self (t : FieldTag) (read : Reader M) :
    t.accepts read t.tag.toUInt8 = some read :=
  if_pos rfl

theorem accepts_eq_some {t : FieldTag} {read read' : Reader M} {low : UInt8}
    (h : t.accepts read low = some read') : read' = read := by
  unfold accepts at h
  split at h
  · exact (Option.some.inj h).symm
  · cases h

theorem varintSize_tag (L : Lib) (t : FieldTag) : L.varintSize t.tag.toUInt64 = 1 := by
  refine L.varintSize_small _ ?_
  have h := t.small
  rw [UInt32.lt_iff_toNat_lt] at h
  rw [UInt64.lt_iff_toNat_lt, UInt32.toNat_toUInt64]
  exact h

theorem length_tag (L : Lib) (t : FieldTag) (b : Bytes) :
    (L.writeVarint t.tag.toUInt64 ++ b).length = 1 + b.length := by
  rw [List.length_append, L.length_writeVarint, t.varintSize_tag]

theorem isRecord (t : FieldTag) {readers : UInt8 → Option (Reader M)} {read : Reader M}
    (hread : readers t.tag.toUInt8 = some read) {payload : Bytes} {m m' : M}
    (h : ∀ x, read (payload ++ x) m = some (m', x)) :
    IsRecord L t.number readers (L.writeVarint t.tag.toUInt64 ++ payload) m m' :=
  ⟨t.tag, payload, read, rfl, t.number_eq, hread, h⟩

end FieldTag

/-! ## The places of fields -/

/-- Where a message keeps a field. -/
structure Lens (M α : Type) where
  get : M → α
  set : α → M → M
  set_get : ∀ m, set (get m) m = m := by intros; rfl
  get_set : ∀ a m, get (set a m) = a := by intros; rfl
  set_set : ∀ a b m, set a (set b m) = set a m := by intros; rfl

/-- More elements of a repeated field. -/
def Lens.addAll (place : Lens M (List α)) (as : List α) (m : M) : M :=
  place.set (place.get m ++ as) m

/-- One more element. -/
def Lens.add (place : Lens M (List α)) (a : α) (m : M) : M :=
  place.set (place.get m ++ [a]) m

/-! ## Scalars -/

/-- A field whose value fits into a payload of its own, and is left out when it is the default. -/
structure Scalar (L : Lib) (α : Type) where
  write : α → Bytes
  size : α → Nat
  read : Bytes → Option (α × Bytes)
  default : α
  isDefault : α → Bool
  eq_default : ∀ {a}, isDefault a = true → a = default
  length_write : ∀ a, (write a).length = size a
  read_write : ∀ a, size a < maxSize → ∀ x, read (write a ++ x) = some (a, x)
  read_le : ∀ {b a rest}, read b = some (a, rest) → rest.length ≤ b.length

/-- A singular field of a scalar type. -/
def Field.scalar (t : FieldTag) (kind : Scalar L α) (place : Lens M α) : Field L M where
  number := t.number
  readers := t.accepts fun b m => (kind.read b).map fun (a, b) => (place.set a m, b)
  write m :=
    if kind.isDefault (place.get m) then []
    else L.writeVarint t.tag.toUInt64 ++ kind.write (place.get m)
  size m := if kind.isDefault (place.get m) then 0 else 1 + kind.size (place.get m)
  merge m into :=
    if kind.isDefault (place.get m) then into else place.set (place.get m) into
  readers_le := by
    intro low read b m m' rest hread h
    rw [FieldTag.accepts_eq_some hread] at h
    obtain ⟨⟨a, rest'⟩, hvalue, heq⟩ := Option.map_eq_some_iff.mp h
    cases heq
    exact kind.read_le hvalue
  length_write m := by
    split
    · rfl
    · rw [t.length_tag, kind.length_write]
  records m into h := by
    split
    · exact .nil into
    · next hdefault =>
      rw [if_neg hdefault] at h
      refine .single (t.isRecord (t.accepts_self _) fun x => ?_)
      rw [kind.read_write _ (by omega)]
      rfl

/-- What a scalar becomes when another one is merged into it. -/
def Scalar.merge (kind : Scalar L α) (a into : α) : α :=
  if kind.isDefault a then into else a

@[simp] theorem Scalar.merge_default (kind : Scalar L α) (a : α) :
    kind.merge a kind.default = a := by
  unfold merge
  split
  · next h => exact (kind.eq_default h).symm
  · rfl

@[simp] theorem Field.merge_scalar (t : FieldTag) (kind : Scalar L α) (place : Lens M α)
    (m into : M) : (Field.scalar t kind place).merge m into =
      place.set (kind.merge (place.get m) (place.get into)) into := by
  unfold Field.scalar Scalar.merge
  dsimp only
  split
  · exact (place.set_get into).symm
  · rfl

/-- The payload is a varint, the value 0 is the default. -/
def Scalar.varint (L : Lib) (encode : α → UInt64) (decode : UInt64 → α)
    (h : ∀ a, decode (encode a) = a) : Scalar L α where
  write a := L.writeVarint (encode a)
  size a := L.varintSize (encode a)
  read b := (L.readVarint b).map fun (v, b) => (decode v, b)
  default := decode 0
  isDefault a := encode a = 0
  eq_default := by
    intro a ha
    rw [← of_decide_eq_true ha, h]
  length_write a := L.length_writeVarint _
  read_write a _ x := by
    rw [L.readVarint_write]
    exact congrArg (fun a => some (a, x)) (h a)
  read_le := by
    intro b a rest hread
    obtain ⟨⟨v, rest'⟩, hread, heq⟩ := Option.map_eq_some_iff.mp hread
    cases heq
    exact Nat.le_of_lt (L.readVarint_lt hread)

def Scalar.int64 (L : Lib) : Scalar L Int64 :=
  .varint L Int64.toUInt64 UInt64.toInt64 fun _ => rfl

/-- It is extended to 64 bits with its sign, and cut off on the way back. -/
def Scalar.int32 (L : Lib) : Scalar L Int32 :=
  .varint L (·.toInt64.toUInt64) (·.toInt64.toInt32) fun n => by
    rw [Int64.toInt64_toUInt64, Int32.toInt32_toInt64]

def Scalar.bool (L : Lib) : Scalar L Bool :=
  .varint L (fun b => if b then 1 else 0) (· ≠ 0) (by decide)

/-- The bits of a `float`. The two zeros of the format are one value here, the positive one. -/
structure FloatWord where
  bits : UInt32
  not_negative_zero : bits ≠ 0x80000000
deriving DecidableEq

namespace FloatWord

def zero : FloatWord := ⟨0, by decide⟩

def ofBits (bits : UInt32) : FloatWord :=
  if h : bits = 0x80000000 then zero else ⟨bits, h⟩

theorem ofBits_bits (w : FloatWord) : ofBits w.bits = w :=
  dif_neg w.not_negative_zero

end FloatWord

/-- Little-endian, in four bytes. -/
def Scalar.float (L : Lib) : Scalar L FloatWord where
  write w := L.writeFixed32 w.bits
  size _ := 4
  read b := (L.readFixed32 b).map fun (v, b) => (.ofBits v, b)
  default := .zero
  isDefault w := w = .zero
  eq_default := of_decide_eq_true
  length_write w := L.length_writeFixed32 _
  read_write w _ x := by
    rw [L.readFixed32_write]
    exact congrArg (fun w => some (w, x)) w.ofBits_bits
  read_le := by
    intro b w rest hread
    obtain ⟨⟨v, rest'⟩, hread, heq⟩ := Option.map_eq_some_iff.mp hread
    cases heq
    exact L.readFixed32_le hread

/-- The bytes of a string. -/
def utf8 (s : String) : Bytes :=
  s.toByteArray.data.toList

/-- `VerifyUTF8`, with the string. -/
def ofUtf8? (b : Bytes) : Option String :=
  String.fromUTF8? ⟨b.toArray⟩

theorem ofUtf8_utf8 (s : String) : ofUtf8? (utf8 s) = some s := by
  unfold ofUtf8? utf8 String.fromUTF8?
  rw [Array.toArray_toList, dif_pos s.isValidUTF8]
  rfl

/-- The length, and the bytes of the text; other bytes than UTF-8 are refused. -/
def Scalar.string (L : Lib) : Scalar L String where
  write s := L.writeVarint (UInt64.ofNat (utf8 s).length) ++ utf8 s
  size s := L.varintSize (UInt64.ofNat (utf8 s).length) + (utf8 s).length
  read b := do
    let (bytes, b) ← L.readBytes b
    return (← ofUtf8? bytes, b)
  default := ""
  isDefault s := s = ""
  eq_default := of_decide_eq_true
  length_write s := by rw [List.length_append, L.length_writeVarint]
  read_write s hsize x := by
    have hlt : (utf8 s).length < maxSize := by omega
    rw [List.append_assoc, L.readBytes_write hlt]
    dsimp only [Option.bind_eq_bind, Option.bind_some]
    rw [ofUtf8_utf8]
    rfl
  read_le := by
    intro b s rest hread
    obtain ⟨⟨bytes, rest'⟩, hbytes, h⟩ := Option.bind_eq_some_iff.mp hread
    obtain ⟨s', -, heq⟩ := Option.bind_eq_some_iff.mp h
    cases heq
    exact L.readBytes_le hbytes

section

variable (L)

@[simp] theorem Scalar.merge_int64 (n : Int64) : (int64 L).merge n 0 = n :=
  (int64 L).merge_default n

@[simp] theorem Scalar.merge_int32 (n : Int32) : (int32 L).merge n 0 = n :=
  (int32 L).merge_default n

@[simp] theorem Scalar.merge_bool (b : Bool) : (bool L).merge b false = b :=
  (bool L).merge_default b

@[simp] theorem Scalar.merge_float (w : FloatWord) : (float L).merge w .zero = w :=
  (float L).merge_default w

@[simp] theorem Scalar.merge_string (s : String) : (string L).merge s "" = s :=
  (string L).merge_default s

end

/-! ## Messages -/

/-- A message inside a message, read into the one that is there. -/
def Field.message (t : FieldTag) (sub : Format L N) (place : Lens M (Option N)) :
    Field L M where
  number := t.number
  readers := t.accepts fun b m => do
    let (bytes, b) ← L.readBytes b
    let n ← sub.internalParse bytes ((place.get m).getD sub.empty)
    return (place.set (some n) m, b)
  write m :=
    match place.get m with
    | none => []
    | some n => L.writeVarint t.tag.toUInt64 ++
        (L.writeVarint (UInt64.ofNat (sub.byteSize n)) ++ sub.serialize n)
  size m :=
    match place.get m with
    | none => 0
    | some n => 1 + (L.varintSize (UInt64.ofNat (sub.byteSize n)) + sub.byteSize n)
  merge m into :=
    match place.get m with
    | none => into
    | some n => place.set (some (sub.mergeFrom n ((place.get into).getD sub.empty))) into
  readers_le := by
    intro low read b m m' rest hread h
    rw [FieldTag.accepts_eq_some hread] at h
    obtain ⟨⟨bytes, rest'⟩, hbytes, h⟩ := Option.bind_eq_some_iff.mp h
    obtain ⟨n, -, heq⟩ := Option.bind_eq_some_iff.mp h
    cases heq
    exact L.readBytes_le hbytes
  length_write m := by
    cases place.get m with
    | none => rfl
    | some n =>
      dsimp only
      rw [t.length_tag, List.length_append, L.length_writeVarint, Format.length_serialize]
  records m into h := by
    cases hget : place.get m with
    | none => exact .nil into
    | some n =>
      rw [hget] at h
      dsimp only at h ⊢
      have hlt : sub.byteSize n < maxSize := by omega
      refine .single (t.isRecord (t.accepts_self _) fun x => ?_)
      rw [← Format.length_serialize] at hlt ⊢
      rw [List.append_assoc, L.readBytes_write hlt]
      rw [Format.length_serialize] at hlt
      dsimp only [Option.bind_eq_bind, Option.bind_some]
      have hparse := Format.internalParse_serialize hlt [] ((place.get into).getD sub.empty)
      rw [List.append_nil, Format.internalParse_nil] at hparse
      rw [hparse]
      rfl

@[simp] theorem Field.merge_message (t : FieldTag) (sub : Format L N) (place : Lens M (Option N))
    {m into : M} (h : place.get into = none) :
    (Field.message t sub place).merge m into = place.set (place.get m) into := by
  have hset := place.set_get into
  rw [h] at hset
  unfold Field.message
  dsimp only
  rw [h]
  cases place.get m with
  | none => exact hset.symm
  | some n => exact congrArg (fun n => place.set (some n) into) (sub.merge_empty n)

/-- Records of one repeated field, one for each element. -/
theorem Records.flatMap {number : UInt32} {readers : UInt8 → Option (Reader M)} {write : α → Bytes}
    (add : α → M → M) {as : List α}
    (h : ∀ a ∈ as, ∀ m, IsRecord L number readers (write a) m (add a m)) (m : M) :
    Records L number readers (as.flatMap write) m (as.foldl (fun m a => add a m) m) := by
  induction as generalizing m with
  | nil => exact .nil m
  | cons a as ih =>
    exact .cons (h a List.mem_cons_self m)
      (ih (fun a ha => h a (List.mem_cons_of_mem _ ha)) (add a m))

/-- Any number of messages, each in a record of its own. -/
def Field.repeatedMessage (t : FieldTag) (sub : Format L N) (place : Lens M (List N)) :
    Field L M where
  number := t.number
  readers := t.accepts fun b m => do
    let (bytes, b) ← L.readBytes b
    let n ← sub.internalParse bytes sub.empty
    return (place.add n m, b)
  write m := (place.get m).flatMap fun n => L.writeVarint t.tag.toUInt64 ++
    (L.writeVarint (UInt64.ofNat (sub.byteSize n)) ++ sub.serialize n)
  size m := ((place.get m).map fun n =>
    1 + (L.varintSize (UInt64.ofNat (sub.byteSize n)) + sub.byteSize n)).sum
  merge m into := (place.get m).foldl (fun into n => place.add n into) into
  readers_le := by
    intro low read b m m' rest hread h
    rw [FieldTag.accepts_eq_some hread] at h
    obtain ⟨⟨bytes, rest'⟩, hbytes, h⟩ := Option.bind_eq_some_iff.mp h
    obtain ⟨n, -, heq⟩ := Option.bind_eq_some_iff.mp h
    cases heq
    exact L.readBytes_le hbytes
  length_write m := by
    rw [List.length_flatMap]
    refine congrArg List.sum (List.map_congr_left fun n _ => ?_)
    rw [t.length_tag, List.length_append, L.length_writeVarint, Format.length_serialize]
  records m into h := by
    refine .flatMap place.add
      (fun n hn into => t.isRecord (t.accepts_self _) fun x => ?_) into
    have hle := List.single_le_sum (fun _ _ => Nat.zero_le _) _ (List.mem_map_of_mem
      (f := fun n => 1 + (L.varintSize (UInt64.ofNat (sub.byteSize n)) + sub.byteSize n)) hn)
    have hlt : sub.byteSize n < maxSize := by omega
    rw [← Format.length_serialize] at hlt ⊢
    rw [List.append_assoc, L.readBytes_write hlt]
    rw [Format.length_serialize] at hlt
    dsimp only [Option.bind_eq_bind, Option.bind_some]
    rw [show sub.internalParse (sub.serialize n) sub.empty = some n from Format.parse_serialize hlt]
    rfl

@[simp] theorem Field.merge_repeatedMessage (t : FieldTag) (sub : Format L N)
    (place : Lens M (List N)) (m into : M) : (Field.repeatedMessage t sub place).merge m into =
      place.set (place.get into ++ place.get m) into := by
  show (place.get m).foldl (fun into n => place.add n into) into = _
  induction place.get m generalizing into with
  | nil => rw [List.append_nil, place.set_get, List.foldl_nil]
  | cons n ns ih =>
    rw [List.foldl_cons, ih]
    unfold Lens.add
    rw [place.set_set, place.get_set, List.append_assoc]
    rfl

/-! ## Packed integers -/

namespace Lib

theorem varintSize_ne_zero (L : Lib) (v : UInt64) : L.varintSize v ≠ 0 := by
  rw [← L.length_writeVarint]
  intro h
  have hlt := L.readVarint_lt (L.readVarint_write v [])
  rw [List.length_append, h] at hlt
  exact Nat.not_lt_zero _ hlt

/-- Varints up to the end of the bytes. -/
def readVarints (L : Lib) (b : Bytes) : Option (List UInt64) :=
  if b = [] then some []
  else
    match _h : L.readVarint b with
    | none => none
    | some (v, rest) => (L.readVarints rest).map (v :: ·)
termination_by b.length
decreasing_by exact L.readVarint_lt (by assumption)

theorem readVarints_write (L : Lib) (vs : List UInt64) :
    L.readVarints (vs.flatMap L.writeVarint) = some vs := by
  induction vs with
  | nil => rw [List.flatMap_nil, readVarints, if_pos rfl]
  | cons v vs ih =>
    have hread := L.readVarint_write v (vs.flatMap L.writeVarint)
    have hne : L.writeVarint v ++ vs.flatMap L.writeVarint ≠ [] := fun hnil => by
      have hlt := L.readVarint_lt hread
      rw [hnil] at hlt
      exact Nat.not_lt_zero _ hlt
    rw [List.flatMap_cons, readVarints, if_neg hne]
    split
    · next hnone => rw [hread] at hnone; cases hnone
    · next hsome =>
      rw [hread] at hsome
      cases hsome
      rw [ih]
      rfl

end Lib

/-- Any number of `int64`, all of them in one record; one at a time is read as well. -/
def Field.packedInt64 (t single : FieldTag) (place : Lens M (List Int64)) : Field L M where
  number := t.number
  readers low :=
    if low = t.tag.toUInt8 then some fun b m => do
      let (bytes, b) ← L.readBytes b
      let values ← L.readVarints bytes
      return (place.addAll (values.map UInt64.toInt64) m, b)
    else single.accepts
      (fun b m => (L.readVarint b).map fun (v, b) => (place.add v.toInt64 m, b)) low
  write m :=
    let size := ((place.get m).map fun n => L.varintSize n.toUInt64).sum
    if size = 0 then []
    else L.writeVarint t.tag.toUInt64 ++ (L.writeVarint (UInt64.ofNat size) ++
      (place.get m).flatMap fun n => L.writeVarint n.toUInt64)
  size m :=
    let size := ((place.get m).map fun n => L.varintSize n.toUInt64).sum
    if size = 0 then 0 else 1 + (L.varintSize (UInt64.ofNat size) + size)
  merge m into :=
    if ((place.get m).map fun n => L.varintSize n.toUInt64).sum = 0 then into
    else place.addAll (place.get m) into
  readers_le := by
    intro low read b m m' rest hread h
    split at hread
    · cases hread
      obtain ⟨⟨bytes, rest'⟩, hbytes, h⟩ := Option.bind_eq_some_iff.mp h
      obtain ⟨values, -, heq⟩ := Option.bind_eq_some_iff.mp h
      cases heq
      exact L.readBytes_le hbytes
    · rw [FieldTag.accepts_eq_some hread] at h
      obtain ⟨⟨v, rest'⟩, hvalue, heq⟩ := Option.map_eq_some_iff.mp h
      cases heq
      exact Nat.le_of_lt (L.readVarint_lt hvalue)
  length_write m := by
    dsimp only
    split
    · rfl
    · rw [t.length_tag, List.length_append, L.length_writeVarint, List.length_flatMap]
      simp only [L.length_writeVarint]
  records m into h := by
    dsimp only at h ⊢
    split
    · exact .nil into
    · next hsize =>
      rw [if_neg hsize] at h
      refine .single (t.isRecord (if_pos rfl) fun x => ?_)
      have hbytes : ((place.get m).flatMap fun n => L.writeVarint n.toUInt64).length =
          ((place.get m).map fun n => L.varintSize n.toUInt64).sum := by
        rw [List.length_flatMap]
        simp only [L.length_writeVarint]
      rw [← hbytes, List.append_assoc, L.readBytes_write (by omega)]
      dsimp only [Option.bind_eq_bind, Option.bind_some]
      have hread := L.readVarints_write ((place.get m).map Int64.toUInt64)
      rw [List.flatMap_map] at hread
      rw [hread, Option.bind_some, List.map_map]
      exact congrArg (fun values => some (place.addAll values into, x)) (List.map_id _)

@[simp] theorem Field.merge_packedInt64 (t single : FieldTag) (place : Lens M (List Int64))
    (m into : M) : (Field.packedInt64 (L := L) t single place).merge m into =
      place.set (place.get into ++ place.get m) into := by
  show (if ((place.get m).map fun n => L.varintSize n.toUInt64).sum = 0 then into
    else place.addAll (place.get m) into) = _
  split
  · next hsize =>
    -- Every element takes a byte, so there is none.
    have hnil : place.get m = [] := by
      refine List.eq_nil_iff_forall_not_mem.mpr fun n hn => L.varintSize_ne_zero n.toUInt64 ?_
      have hle := List.single_le_sum (fun _ _ => Nat.zero_le _) _
        (List.mem_map_of_mem (f := fun n : Int64 => L.varintSize n.toUInt64) hn)
      omega
    rw [hnil, List.append_nil, place.set_get]
  · rfl

end Infra.Wire
