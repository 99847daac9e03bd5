import Mathlib

/-!
# Messages made of tagged fields

A message is written as a sequence of records, each a tag and a payload. A generated parser reads
one tag after the other and goes on from each as its `case` for the field says; other fields are
skipped. A generated writer leaves out the fields that have their default value.

* `Lib`: what the generated code calls, with what is documented of it
* `Field`: the `case` of one field and its part in the writer, which fit together
* `Format.parse_serialize`: what has been written is merged into what is there
* `Format.internalParse_unknown`: a field that the parser does not know makes no difference
-/

namespace Infra.Wire

abbrev Bytes := List UInt8

/-! ## The runtime library -/

/-- The routines that generated code calls. -/
structure Lib where
  writeVarint : UInt64 → Bytes
  varintSize : UInt64 → Nat
  writeFixed32 : UInt32 → Bytes
  readTag : Bytes → Option (UInt32 × Bytes)
  readVarint : Bytes → Option (UInt64 × Bytes)
  readFixed32 : Bytes → Option (UInt32 × Bytes)
  /-- The size in front of bytes. -/
  readSize : Bytes → Option (Nat × Bytes)
  /-- Skips the payload of an unknown field with this tag. -/
  skipField : UInt32 → Bytes → Option Bytes
  length_writeVarint : ∀ v, (writeVarint v).length = varintSize v
  length_writeFixed32 : ∀ v, (writeFixed32 v).length = 4
  varintSize_small : ∀ v, v < 128 → varintSize v = 1
  readTag_write : ∀ (tag : UInt32) x, readTag (writeVarint tag.toUInt64 ++ x) = some (tag, x)
  readVarint_write : ∀ v x, readVarint (writeVarint v ++ x) = some (v, x)
  readFixed32_write : ∀ v x, readFixed32 (writeFixed32 v ++ x) = some (v, x)
  readSize_write : ∀ n < 2 ^ 31 - 16, ∀ x,
    readSize (writeVarint (UInt64.ofNat n) ++ x) = some (n, x)
  readTag_lt : ∀ {b tag rest}, readTag b = some (tag, rest) → rest.length < b.length
  readVarint_lt : ∀ {b v rest}, readVarint b = some (v, rest) → rest.length < b.length
  readFixed32_le : ∀ {b v rest}, readFixed32 b = some (v, rest) → rest.length ≤ b.length
  readSize_le : ∀ {b n rest}, readSize b = some (n, rest) → rest.length ≤ b.length
  skipField_le : ∀ {tag b rest}, skipField tag b = some rest → rest.length ≤ b.length

/-- The bytes that a size in front of bytes can announce. -/
abbrev maxSize : Nat := 2 ^ 31 - 16

/-- How a parser goes on after a tag: the message with the field, and what is left to read. -/
abbrev Reader (M : Type) := Bytes → M → Option (M × Bytes)

variable {L : Lib} {M N : Type}

namespace Lib

/-- Bytes behind their size. -/
def readBytes (L : Lib) (b : Bytes) : Option (Bytes × Bytes) := do
  let (n, b) ← L.readSize b
  if n ≤ b.length then some (b.take n, b.drop n) else none

theorem readBytes_write {b : Bytes} (h : b.length < maxSize) (x : Bytes) :
    L.readBytes (L.writeVarint (UInt64.ofNat b.length) ++ (b ++ x)) = some (b, x) := by
  unfold readBytes
  rw [L.readSize_write _ h]
  dsimp only [Option.bind_eq_bind, Option.bind_some]
  rw [if_pos (by rw [List.length_append]; omega), List.take_left, List.drop_left]

theorem readBytes_le {b bytes rest : Bytes} (h : L.readBytes b = some (bytes, rest)) :
    rest.length ≤ b.length := by
  unfold readBytes at h
  obtain ⟨⟨n, b'⟩, hsize, h⟩ := Option.bind_eq_some_iff.mp h
  have hle := L.readSize_le hsize
  dsimp only at h
  split at h
  · cases h
    rw [List.length_drop]
    omega
  · cases h

end Lib

/-! ## Fields -/

/-- A record with this tag, which `read` takes from `m` to `m'`. -/
structure IsRecord (L : Lib) (number : UInt32) (readers : UInt8 → Option (Reader M)) (b : Bytes)
    (m m' : M) : Prop where
  record : ∃ (tag : UInt32) (payload : Bytes) (read : Reader M),
    b = L.writeVarint tag.toUInt64 ++ payload ∧ tag >>> 3 = number ∧
    readers tag.toUInt8 = some read ∧ ∀ x, read (payload ++ x) m = some (m', x)

/-- Records one after the other. -/
inductive Records (L : Lib) (number : UInt32) (readers : UInt8 → Option (Reader M)) :
    Bytes → M → M → Prop where
  | nil (m : M) : Records L number readers [] m m
  | cons {b bs : Bytes} {m m' m'' : M} (h : IsRecord L number readers b m m')
      (hs : Records L number readers bs m' m'') : Records L number readers (b ++ bs) m m''

theorem Records.single {number : UInt32} {readers : UInt8 → Option (Reader M)} {b : Bytes}
    {m m' : M} (h : IsRecord L number readers b m m') : Records L number readers b m m' := by
  have hs := Records.cons h (.nil m')
  rwa [List.append_nil] at hs

/-- A field of a message, in the parser and in the writer. -/
structure Field (L : Lib) (M : Type) where
  /-- The number in the `case`. -/
  number : UInt32
  /-- The tags that the `case` accepts, by their low byte. -/
  readers : UInt8 → Option (Reader M)
  write : M → Bytes
  /-- The part of the field in `ByteSizeLong`. -/
  size : M → Nat
  /-- The part of the field in `MergeFrom`: the first message is the one merged from. -/
  merge : M → M → M
  readers_le : ∀ {t read b m m' rest}, readers t = some read → read b m = some (m', rest) →
    rest.length ≤ b.length
  length_write : ∀ m, (write m).length = size m
  records : ∀ m into, size m < maxSize →
    Records L number readers (write m) into (merge m into)

/-- The fields of a message. -/
structure Format (L : Lib) (M : Type) where
  fields : List (Field L M)
  /-- The message after `Clear`. -/
  empty : M
  numbers : (fields.map Field.number).Nodup
  /-- No part of a message is lost. -/
  merge_empty : ∀ m, fields.foldl (fun into f => f.merge m into) empty = m

namespace Format

variable (fmt : Format L M)

/-- `_InternalSerialize` -/
def serialize (m : M) : Bytes :=
  fmt.fields.flatMap (·.write m)

/-- `ByteSizeLong` -/
def byteSize (m : M) : Nat :=
  (fmt.fields.map (·.size m)).sum

/-- `SerializeToString`, which fails for two gigabytes and more. -/
def serializeToString (m : M) : Option Bytes :=
  if fmt.byteSize m < 2 ^ 31 then some (fmt.serialize m) else none

/-- `MergeFrom` -/
def mergeFrom (m into : M) : M :=
  fmt.fields.foldl (fun into f => f.merge m into) into

/-- The `case` for a tag. -/
def reader (tag : UInt32) : Option (Reader M) :=
  (fmt.fields.find? (·.number = tag >>> 3)).bind (·.readers tag.toUInt8)

/-- One round of the loop of `_InternalParse`. -/
def step (b : Bytes) (m : M) : Option (M × Bytes) := do
  let (tag, b) ← L.readTag b
  match fmt.reader tag with
  | some read => read b m
  | none =>
    -- The loop ends here, and then the callers find that it has not come to the end.
    if tag &&& 7 = 4 ∨ tag = 0 then none
    else (L.skipField tag b).map (m, ·)

theorem step_lt {b rest : Bytes} {m m' : M} (h : fmt.step b m = some (m', rest)) :
    rest.length < b.length := by
  unfold step at h
  obtain ⟨⟨tag, b'⟩, htag, h⟩ := Option.bind_eq_some_iff.mp h
  have hlt := L.readTag_lt htag
  dsimp only at h
  split at h
  · next read hread =>
    obtain ⟨f, -, hread⟩ := Option.bind_eq_some_iff.mp hread
    exact Nat.lt_of_le_of_lt (f.readers_le hread h) hlt
  · split at h
    · cases h
    · obtain ⟨rest', hskip, heq⟩ := Option.map_eq_some_iff.mp h
      cases heq
      exact Nat.lt_of_le_of_lt (L.skipField_le hskip) hlt

/-- `_InternalParse`, up to the end of the bytes. -/
def internalParse (b : Bytes) (m : M) : Option M :=
  if b = [] then some m
  else
    match _h : fmt.step b m with
    | none => none
    | some (m', rest) => internalParse rest m'
termination_by b.length
decreasing_by exact fmt.step_lt (by assumption)

/-- `ParseFromString` -/
def parse (b : Bytes) : Option M :=
  fmt.internalParse b fmt.empty

variable {fmt}

theorem internalParse_nil (m : M) : fmt.internalParse [] m = some m := by
  rw [internalParse, if_pos rfl]

theorem internalParse_step {b rest : Bytes} {m m' : M} (h : fmt.step b m = some (m', rest)) :
    fmt.internalParse b m = fmt.internalParse rest m' := by
  have hne : b ≠ [] := fun hb => by
    have hlt := fmt.step_lt h
    rw [hb] at hlt
    exact Nat.not_lt_zero _ hlt
  rw [internalParse, if_neg hne]
  split
  · next hnone => rw [h] at hnone; cases hnone
  · next hsome => rw [h] at hsome; cases hsome; rfl

/-! ## What has been written is read -/

theorem reader_eq {f : Field L M} (hf : f ∈ fmt.fields) {tag : UInt32}
    (htag : tag >>> 3 = f.number) : fmt.reader tag = f.readers tag.toUInt8 := by
  have hfind : fmt.fields.find? (·.number = tag >>> 3) = some f := by
    have hsome : (fmt.fields.find? (·.number = tag >>> 3)).isSome :=
      List.find?_isSome.mpr ⟨f, hf, decide_eq_true htag.symm⟩
    obtain ⟨g, hg⟩ := Option.isSome_iff_exists.mp hsome
    have hnumber : g.number = f.number :=
      (of_decide_eq_true
        (List.find?_some (p := fun f : Field L M => decide (f.number = _)) hg)).trans htag
    rw [hg, List.inj_on_of_nodup_map fmt.numbers (List.mem_of_find?_eq_some hg) hf hnumber]
  rw [reader, hfind, Option.bind_some]

theorem internalParse_records {f : Field L M} (hf : f ∈ fmt.fields) {b : Bytes} {m m' : M}
    (h : Records L f.number f.readers b m m') (x : Bytes) :
    fmt.internalParse (b ++ x) m = fmt.internalParse x m' := by
  induction h with
  | nil m => rfl
  | cons h _ ih =>
    obtain ⟨tag, payload, read, rfl, htag, hread, hpayload⟩ := h.record
    rw [List.append_assoc, List.append_assoc, ← ih]
    refine internalParse_step ?_
    rw [step, L.readTag_write]
    dsimp only [Option.bind_eq_bind, Option.bind_some]
    rw [reader_eq hf htag, hread]
    exact hpayload _

theorem length_serialize (m : M) : (fmt.serialize m).length = fmt.byteSize m := by
  rw [serialize, List.length_flatMap, byteSize]
  exact congrArg List.sum (List.map_congr_left fun f _ => f.length_write m)

theorem size_le_byteSize {f : Field L M} (hf : f ∈ fmt.fields) (m : M) :
    f.size m ≤ fmt.byteSize m :=
  List.single_le_sum (fun _ _ => Nat.zero_le _) _ (List.mem_map_of_mem hf)

/-- **What is written is merged into what is there**, whatever comes behind it. -/
theorem internalParse_serialize {m : M} (h : fmt.byteSize m < maxSize) (x : Bytes) (into : M) :
    fmt.internalParse (fmt.serialize m ++ x) into =
      fmt.internalParse x (fmt.mergeFrom m into) := by
  have hfields : ∀ fields : List (Field L M), fields ⊆ fmt.fields → ∀ into,
      fmt.internalParse (fields.flatMap (·.write m) ++ x) into =
        fmt.internalParse x (fields.foldl (fun into f => f.merge m into) into) := by
    intro fields
    induction fields with
    | nil => exact fun _ _ => rfl
    | cons f fields ih =>
      intro hsub into
      obtain ⟨hf, hsub⟩ := List.cons_subset.mp hsub
      rw [List.flatMap_cons, List.append_assoc, internalParse_records hf
        (f.records m into (Nat.lt_of_le_of_lt (size_le_byteSize hf m) h)), ih hsub]
      rfl
  exact hfields fmt.fields (List.Subset.refl _) into

/-- **Round trip.** -/
theorem parse_serialize {m : M} (h : fmt.byteSize m < maxSize) :
    fmt.parse (fmt.serialize m) = some m := by
  have hparse := internalParse_serialize h [] fmt.empty
  rw [List.append_nil, internalParse_nil] at hparse
  rw [parse, hparse]
  exact congrArg some (fmt.merge_empty m)

/-- A record of a field that the parser does not know. -/
structure Unknown (fmt : Format L M) (b : Bytes) : Prop where
  skipped : ∃ (tag : UInt32) (payload : Bytes),
    b = L.writeVarint tag.toUInt64 ++ payload ∧ fmt.reader tag = none ∧
    tag &&& 7 ≠ 4 ∧ tag ≠ 0 ∧ ∀ x, L.skipField tag (payload ++ x) = some x

/-- **An unknown field makes no difference.** -/
theorem internalParse_unknown {b : Bytes} (h : fmt.Unknown b) (x : Bytes) (m : M) :
    fmt.internalParse (b ++ x) m = fmt.internalParse x m := by
  obtain ⟨tag, payload, rfl, hreader, hgroup, hzero, hskip⟩ := h.skipped
  refine internalParse_step ?_
  rw [step, List.append_assoc, L.readTag_write]
  dsimp only [Option.bind_eq_bind, Option.bind_some]
  rw [hreader]
  dsimp only
  rw [if_neg (not_or.mpr ⟨hgroup, hzero⟩), hskip]
  rfl

/-- A message with unknown fields behind it. -/
theorem parse_serialize_unknown {m : M} (h : (fmt.serialize m).length < maxSize)
    {extra : List Bytes} (hextra : ∀ b ∈ extra, fmt.Unknown b) :
    fmt.parse (fmt.serialize m ++ extra.flatten) = some m := by
  have hskip : ∀ m, fmt.internalParse extra.flatten m = some m := by
    induction extra with
    | nil => exact internalParse_nil
    | cons b extra ih =>
      intro m
      rw [List.flatten_cons, internalParse_unknown (hextra b List.mem_cons_self)]
      exact ih (fun b hb => hextra b (List.mem_cons_of_mem _ hb)) m
  rw [length_serialize] at h
  rw [parse, internalParse_serialize h, hskip]
  exact congrArg some (fmt.merge_empty m)

end Format

end Infra.Wire
