import GameServer.Infra.Framing
import GameServer.Net.Codec

/-!
# Round trip of the codec

What `Encode` writes, `Decode` reads back, however TCP cuts the stream.

## Two steps

* `Decode` is `Parser.drain` for the head parser `frameHead`, which looks at one frame only
  (`decodeLoop_eq_drain`). The laws of the parser are facts about one frame.
* Draining after every chunk is draining the whole stream (`Parser.feed_eq_drain`).
-/

namespace Game

open Infra.Framing

/-! ## Sizes -/

theorem kPacketHeaderSize_toNat : kPacketHeaderSize.toNat = 12 := rfl

theorem kPacketMetaSize_toNat : kPacketMetaSize.toNat = 8 := rfl

theorem kMaxPacketLength_toNat : kMaxPacketLength.toNat = 1048576 := by decide

theorem maxBody_toNat : (kMaxPacketLength - kPacketMetaSize).toNat = 1048568 := by decide

namespace Codec

/-- Whether `Decode` accepts a length field. -/
def ValidLength (length : UInt32) : Prop := kPacketMetaSize ≤ length ∧ length ≤ kMaxPacketLength

theorem validLength_iff {length : UInt32} :
    ValidLength length ↔ 8 ≤ length.toNat ∧ length.toNat ≤ 1048576 := by
  rw [ValidLength, UInt32.le_iff_toNat_le, UInt32.le_iff_toNat_le, kPacketMetaSize_toNat,
    kMaxPacketLength_toNat]

theorem not_validLength_iff {length : UInt32} :
    ¬ ValidLength length ↔ length < kPacketMetaSize ∨ kMaxPacketLength < length := by
  rw [ValidLength, not_and_or, UInt32.not_le, UInt32.not_le]

instance (length : UInt32) : Decidable (ValidLength length) := instDecidableAnd

/-! ## One frame -/

/-- The frame at the head of a buffer that holds all of it. -/
def frameAt (buffer : Buffer) : Packet :=
  { length := readUint32BE buffer
    msgId := readUint32BE (buffer.drop 4)
    seq := readUint32BE (buffer.drop 8)
    body := (buffer.drop 12).take (readUint32BE buffer - 8).toNat }

/-- The head of the buffer, as one round of the loop of `Decode` sees it. -/
def frameHead (buffer : Buffer) : Head Packet UInt8 String :=
  if buffer.length < 12 then .more
  else if ¬ ValidLength (readUint32BE buffer) then .bad "invalid packet length"
  else if buffer.length < (readUint32BE buffer).toNat + 4 then .more
  else .frame (frameAt buffer) (buffer.drop (4 + (readUint32BE buffer).toNat))

theorem frameHead_eq_frame {b : Buffer} {p : Packet} {rest : Buffer}
    (h : frameHead b = .frame p rest) :
    12 ≤ b.length ∧ ValidLength (readUint32BE b) ∧ (readUint32BE b).toNat + 4 ≤ b.length ∧
      p = frameAt b ∧ rest = b.drop (4 + (readUint32BE b).toNat) := by
  unfold frameHead at h
  split at h
  · simp at h
  · next h12 =>
    split at h
    · simp at h
    · next hv =>
      split at h
      · simp at h
      · next hlen =>
        obtain ⟨rfl, rfl⟩ := Head.frame.inj h
        exact ⟨by omega, not_not.mp hv, by omega, rfl, rfl⟩

theorem frameHead_eq_bad {b : Buffer} {e : String} (h : frameHead b = .bad e) :
    12 ≤ b.length ∧ ¬ ValidLength (readUint32BE b) ∧ e = "invalid packet length" := by
  unfold frameHead at h
  split at h
  · simp at h
  · next h12 =>
    split at h
    · next hv => exact ⟨by omega, hv, (Head.bad.inj h).symm⟩
    · split at h <;> simp at h

/-- The length of the body, as the subtraction in `uint32` computes it. -/
theorem bodySize_eq {length : UInt32} (h : ValidLength length) :
    (length - 8).toNat = length.toNat - 8 := by
  have h8 : (8 : UInt32) ≤ length := h.1
  rw [UInt32.toNat_sub_of_le _ _ h8]
  rfl

theorem frameAt_append {b : Buffer} (h12 : 12 ≤ b.length) (hv : ValidLength (readUint32BE b))
    (hlen : (readUint32BE b).toNat + 4 ≤ b.length) (x : Buffer) :
    frameAt (b ++ x) = frameAt b := by
  have hbody : (readUint32BE b - 8).toNat ≤ (b.drop 12).length := by
    rw [bodySize_eq hv, List.length_drop]
    omega
  unfold frameAt
  rw [readUint32BE_append (by omega),
    List.drop_append_of_le_length (by omega), readUint32BE_append (by rw [List.length_drop]; omega),
    List.drop_append_of_le_length (by omega), readUint32BE_append (by rw [List.length_drop]; omega),
    List.drop_append_of_le_length (by omega), List.take_append_of_le_length hbody]

/-- The head parser of the protocol. Its answers do not change when more bytes arrive. -/
def frames : Parser Packet UInt8 String where
  head := frameHead
  head_nil := rfl
  shrink := by
    intro b p rest h
    obtain ⟨h12, -, -, -, rfl⟩ := frameHead_eq_frame h
    rw [List.length_drop]
    omega
  frame_append := by
    intro b p rest x h
    obtain ⟨h12, hv, hlen, rfl, rfl⟩ := frameHead_eq_frame h
    have hread := readUint32BE_append (b := b) (by omega) x
    unfold frameHead
    rw [if_neg (by rw [List.length_append]; omega), hread, if_neg (not_not.mpr hv),
      if_neg (by rw [List.length_append]; omega), frameAt_append h12 hv hlen,
      List.drop_append_of_le_length (by omega)]
  bad_append := by
    intro b e x h
    obtain ⟨h12, hv, rfl⟩ := frameHead_eq_bad h
    unfold frameHead
    rw [if_neg (by rw [List.length_append]; omega), readUint32BE_append (by omega), if_pos hv]

/-! ## `Decode` is draining -/

/-- What `Decode` returns for the outcome of draining: an error loses the packets. -/
def outcome (packets : List Packet) :
    List Packet × Buffer × Option String → Except String (List Packet) × Buffer
  | (ps, rest, none) => (.ok (packets ++ ps), rest)
  | (_, rest, some e) => (.error e, rest)

theorem decodeLoop_eq_drain (packets : List Packet) (buffer : Buffer) :
    decodeLoop packets buffer = outcome packets (frames.drain buffer) := by
  induction buffer using frames.drain_induction generalizing packets with
  | more b hb =>
    rw [frames.drain_more hb, outcome, List.append_nil, decodeLoop]
    have hb' : frameHead b = .more := hb
    unfold frameHead at hb'
    split at hb'
    · next h12 => rw [if_neg (by rw [kPacketHeaderSize_toNat]; omega)]
    · next h12 =>
      rw [if_pos (by rw [kPacketHeaderSize_toNat]; omega)]
      split at hb'
      · simp at hb'
      · next hv =>
        rw [if_neg (mt not_validLength_iff.mpr hv)]
        split at hb'
        · next hlen => rw [if_pos hlen]
        · simp at hb'
  | bad b e hb =>
    obtain ⟨h12, hv, rfl⟩ := frameHead_eq_bad hb
    rw [frames.drain_bad hb, outcome, decodeLoop,
      if_pos (by rw [kPacketHeaderSize_toNat]; omega), if_pos (not_validLength_iff.mp hv)]
  | frame b p rest hb ih =>
    obtain ⟨h12, hv, hlen, rfl, rfl⟩ := frameHead_eq_frame hb
    rw [frames.drain_frame hb, decodeLoop,
      if_pos (by rw [kPacketHeaderSize_toNat]; omega),
      if_neg (mt not_validLength_iff.mpr (not_not.mpr hv)), if_neg (by omega), ih]
    obtain ⟨ps, rest, e⟩ := frames.drain (b.drop (4 + (readUint32BE b).toNat))
    cases e <;> simp [outcome, frameAt]

theorem decode_eq_drain (buffer : Buffer) :
    decode buffer = outcome [] (frames.drain buffer) := decodeLoop_eq_drain [] buffer

/-! ## Writing a frame -/

/-- The packet as it comes back: `length` is the one `Encode` has computed. -/
def sealed (p : Packet) : Packet :=
  { p with length := UInt32.ofNat (kPacketMetaSize.toNat + p.body.length) }

/-- The bytes of a packet whose body is not too large. -/
def bytes (p : Packet) : Buffer :=
  appendUint32BE (appendUint32BE (appendUint32BE [] (sealed p).length) p.msgId) p.seq ++ p.body

/-- What `Encode` accepts. -/
def Fits (p : Packet) : Prop := p.body.length ≤ (kMaxPacketLength - kPacketMetaSize).toNat

theorem encode_eq {p : Packet} (h : Fits p) : encode p = .ok (bytes p) := by
  unfold Fits at h
  rw [encode, if_neg (by omega)]
  rfl

theorem encodeAll_eq : ∀ l : List Packet, (∀ p ∈ l, Fits p) →
    encodeAll l = .ok (l.flatMap bytes)
  | [], _ => rfl
  | p :: l, h => by
    rw [encodeAll, encode_eq (h p List.mem_cons_self),
      encodeAll_eq l (fun q hq => h q (List.mem_cons_of_mem _ hq))]
    rfl

theorem sealed_length_toNat {p : Packet} (h : Fits p) :
    (sealed p).length.toNat = 8 + p.body.length := by
  unfold Fits at h
  rw [maxBody_toNat] at h
  show (UInt32.ofNat (8 + p.body.length)).toNat = _
  rw [UInt32.toNat_ofNat']
  exact Nat.mod_eq_of_lt (by omega)

/-- The four parts of the frame, one after the other. -/
theorem bytes_append (p : Packet) (x : Buffer) :
    bytes p ++ x = appendUint32BE [] (sealed p).length
      ++ (appendUint32BE [] p.msgId ++ (appendUint32BE [] p.seq ++ (p.body ++ x))) := by
  rw [bytes, appendUint32BE_eq (appendUint32BE _ _) p.seq, appendUint32BE_eq _ p.msgId]
  simp only [List.append_assoc]

/-- Skipping one number of the header. -/
theorem drop_appendUint32BE (v : UInt32) (n : Nat) (x : Buffer) :
    (appendUint32BE [] v ++ x).drop (4 + n) = x.drop n := by
  rw [← List.drop_drop]
  rfl

theorem frameHead_bytes {p : Packet} (h : Fits p) (x : Buffer) :
    frameHead (bytes p ++ x) = .frame (sealed p) x := by
  have hlen := sealed_length_toNat h
  have hv : ValidLength (sealed p).length := by
    unfold Fits at h
    rw [maxBody_toNat] at h
    rw [validLength_iff]
    omega
  have hread : readUint32BE (bytes p ++ x) = (sealed p).length := by
    rw [bytes_append, readUint32BE_appendUint32BE]
  have hsize : (bytes p ++ x).length = 12 + p.body.length + x.length := by
    simp only [bytes_append, List.length_append, length_appendUint32BE, List.length_nil]
    omega
  have hframe : frameAt (bytes p ++ x) = sealed p := by
    have hmsg : readUint32BE ((bytes p ++ x).drop 4) = p.msgId := by
      rw [bytes_append, drop_appendUint32BE _ 0, List.drop_zero, readUint32BE_appendUint32BE]
    have hseq : readUint32BE ((bytes p ++ x).drop 8) = p.seq := by
      rw [bytes_append, drop_appendUint32BE _ 4, drop_appendUint32BE _ 0, List.drop_zero,
        readUint32BE_appendUint32BE]
    have hbody : ((bytes p ++ x).drop 12).take ((sealed p).length - 8).toNat = p.body := by
      rw [bytes_append, drop_appendUint32BE _ 8, drop_appendUint32BE _ 4, drop_appendUint32BE _ 0,
        List.drop_zero, bodySize_eq hv, hlen, Nat.add_sub_cancel_left, List.take_left]
    unfold frameAt
    rw [hread, hmsg, hseq, hbody]
    rfl
  have hrest : (bytes p ++ x).drop (4 + (sealed p).length.toNat) = x := by
    rw [hlen, bytes_append, drop_appendUint32BE, show 8 + p.body.length = 4 + (4 + p.body.length) by
      omega, drop_appendUint32BE, drop_appendUint32BE, List.drop_left]
  unfold frameHead
  rw [if_neg (by omega), hread, if_neg (not_not.mpr hv), if_neg (by omega), hframe, hrest]

/-- Draining the encodings of a list of packets. -/
theorem drain_bytes (l : List Packet) (h : ∀ p ∈ l, Fits p) :
    frames.drain (l.flatMap bytes) = (l.map sealed, [], none) :=
  frames.drain_flatMap bytes sealed l (fun p hp x => frameHead_bytes (h p hp) x)

end Codec

/-! ## Reading by chunks -/

namespace ReadSide

open Codec

/-- Reading all chunks is feeding them to the parser, as long as no frame is malformed. -/
theorem readChunks_eq_feed : ∀ (chunks : List Buffer) (c : ReadSide), c.closed = false →
    (frames.feed c.readBuffer chunks).2.2 = none →
    c.readChunks chunks
      = { readBuffer := (frames.feed c.readBuffer chunks).2.1
          delivered := c.delivered ++ (frames.feed c.readBuffer chunks).1
          closed := false }
  | [], c, hc, _ => by simp [readChunks, Parser.feed, ← hc]
  | chunk :: chunks, c, hc, h => by
    have hread : c.readChunks (chunk :: chunks) = (c.onRead chunk).readChunks chunks := rfl
    rw [hread, onRead, if_neg (by simp [hc]), decode_eq_drain]
    simp only [Parser.feed] at h ⊢
    rcases hd : frames.drain (c.readBuffer ++ chunk) with ⟨ps, rest, e⟩
    rw [hd] at h
    cases e with
    | some e => simp at h
    | none =>
      simp only [outcome, List.nil_append] at h ⊢
      rw [readChunks_eq_feed chunks
        { c with readBuffer := rest, delivered := c.delivered ++ ps } hc h, List.append_assoc]

/--
**Round trip under any segmentation.**

The outputs of `Encode` for packets it accepts are concatenated and cut into chunks in any way.
Reading the chunks one by one never throws, delivers exactly the packets in order
(`length` being the size of the rest of the frame) and leaves the buffer empty.
-/
theorem readChunks_encodeAll (packets : List Packet)
    (hfit : ∀ p ∈ packets, p.body.length ≤ (kMaxPacketLength - kPacketMetaSize).toNat) :
    ∃ stream, encodeAll packets = .ok stream ∧
      ∀ chunks : List Buffer, chunks.flatten = stream →
        ReadSide.readChunks {} chunks
          = { readBuffer := []
              delivered := packets.map fun p =>
                { length := UInt32.ofNat (kPacketMetaSize.toNat + p.body.length)
                  msgId := p.msgId, seq := p.seq, body := p.body }
              closed := false } := by
  refine ⟨packets.flatMap bytes, encodeAll_eq packets hfit, ?_⟩
  intro chunks hchunks
  have hdrain : frames.drain chunks.flatten = (packets.map sealed, [], none) := by
    rw [hchunks]
    exact drain_bytes packets hfit
  have hfeed : frames.feed [] chunks = (packets.map sealed, [], none) := by
    have h := frames.feed_eq_drain chunks [] (frames.drain_more frames.head_nil)
    rw [List.nil_append, hdrain] at h
    exact h rfl
  have h := readChunks_eq_feed chunks {} rfl
  rw [hfeed] at h
  rw [h rfl]
  rfl

/-- Two packets, cut inside the first length field, inside the first body and between them. -/
theorem readChunks_two_packets :
    ReadSide.readChunks {} [[0, 0], [0, 10, 0, 0, 3, 233, 0, 0, 0, 7, 1], [], [2],
        [0, 0, 0, 8, 0, 0, 3, 235, 0, 0, 0, 0]]
      = { readBuffer := []
          delivered := [{ length := 10, msgId := 1001, seq := 7, body := [1, 2] },
            { length := 8, msgId := 1003 }]
          closed := false } := by
  obtain ⟨stream, hstream, h⟩ := readChunks_encodeAll
    [{ msgId := 1001, seq := 7, body := [1, 2] }, { msgId := 1003 }] (by decide)
  have hbytes : encodeAll [{ msgId := 1001, seq := 7, body := [1, 2] }, { msgId := 1003 }]
      = .ok [0, 0, 0, 10, 0, 0, 3, 233, 0, 0, 0, 7, 1, 2, 0, 0, 0, 8, 0, 0, 3, 235, 0, 0, 0, 0] := by
    decide
  exact h _ (Except.ok.inj (hbytes.symm.trans hstream))

end ReadSide
end Game
