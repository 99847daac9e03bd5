import GameServer.Net.CodecRoundtrip

/-!
# Decoding arbitrary bytes

The converse of the round trip. What `Decode` has erased from the buffer is what `Encode` writes
for the packets it returns, and what it leaves is less than one frame.
-/

namespace Game

open Infra.Framing

/-- A number that was read is written back. -/
theorem appendUint32BE_readUint32BE {b : Buffer} (h : 4 ≤ b.length) :
    appendUint32BE [] (readUint32BE b) = b.take 4 := by
  match b, h with
  | p0 :: p1 :: p2 :: p3 :: rest, _ =>
    have h0 := p0.toNat_lt
    have h1 := p1.toNat_lt
    have h2 := p2.toNat_lt
    have h3 := p3.toNat_lt
    have hread := toNat_readUint32BE p0 p1 p2 p3 rest
    rw [appendUint32BE, List.nil_append]
    congr 1
    · rw [← UInt8.toNat_inj, toNat_byte _ 24 (by decide), hread, show UInt32.toNat 24 = 24 from rfl]
      omega
    congr 1
    · rw [← UInt8.toNat_inj, toNat_byte _ 16 (by decide), hread, show UInt32.toNat 16 = 16 from rfl]
      omega
    congr 1
    · rw [← UInt8.toNat_inj, toNat_byte _ 8 (by decide), hread, show UInt32.toNat 8 = 8 from rfl]
      omega
    congr 1
    · rw [← UInt8.toNat_inj, toNat_byte_zero, hread]
      omega

namespace Codec

/-- A packet as `Decode` returns it. -/
def Received (p : Packet) : Prop :=
  Fits p ∧ p.length.toNat = kPacketMetaSize.toNat + p.body.length

theorem sealed_eq {p : Packet} (h : Received p) : sealed p = p := by
  have hlength : (sealed p).length = p.length := by
    rw [← UInt32.toNat_inj, sealed_length_toNat h.1, h.2, kPacketMetaSize_toNat]
  exact congrArg (fun length => { p with length := length }) hlength

/-- A received packet at the head of the buffer is the next frame. -/
theorem frames_head_bytes (p : Packet) (h : Received p) (x : Buffer) :
    frames.head (bytes p ++ x) = .frame p x := by
  have hhead := frameHead_bytes h.1 x
  rwa [sealed_eq h] at hhead

theorem received_frame {b : Buffer} {p : Packet} {rest : Buffer}
    (h : frames.head b = .frame p rest) : Received p := by
  obtain ⟨h12, hv, hlen, rfl, rfl⟩ := frameHead_eq_frame h
  have hbounds := validLength_iff.mp hv
  have hbody : (frameAt b).body.length = (readUint32BE b).toNat - 8 := by
    rw [frameAt, List.length_take, List.length_drop, bodySize_eq hv]
    omega
  refine ⟨?_, ?_⟩
  · rw [Fits, hbody, maxBody_toNat]
    omega
  · rw [hbody, kPacketMetaSize_toNat]
    show (readUint32BE b).toNat = _
    omega

/-- **One frame.** What is cut off is what `Encode` writes. -/
theorem bytes_frame {b : Buffer} {p : Packet} {rest : Buffer}
    (h : frames.head b = .frame p rest) : bytes p ++ rest = b := by
  have hreceived := received_frame h
  obtain ⟨h12, hv, hlen, rfl, rfl⟩ := frameHead_eq_frame h
  have hmsg : readUint32BE (b.drop 4) = (frameAt b).msgId := rfl
  have hseq : readUint32BE (b.drop 8) = (frameAt b).seq := rfl
  have hbounds := validLength_iff.mp hv
  have hrest : b.drop (4 + (readUint32BE b).toNat) =
      (b.drop 12).drop ((readUint32BE b) - 8).toNat := by
    rw [List.drop_drop, bodySize_eq hv]
    congr 1
    omega
  rw [bytes_append, sealed_eq hreceived, ← hmsg, ← hseq, hrest]
  show appendUint32BE [] (readUint32BE b) ++ (_ ++ (_ ++ (List.take _ _ ++ _))) = b
  rw [List.take_append_drop, appendUint32BE_readUint32BE (by omega),
    appendUint32BE_readUint32BE (by rw [List.length_drop]; omega),
    appendUint32BE_readUint32BE (by rw [List.length_drop]; omega)]
  rw [show b.drop 12 = (b.drop 8).drop 4 by rw [List.drop_drop], List.take_append_drop,
    show b.drop 8 = (b.drop 4).drop 4 by rw [List.drop_drop], List.take_append_drop,
    List.take_append_drop]

/-- What is left over is incomplete: too short for a header, or for its frame. -/
theorem frames_head_more {b : Buffer} (h : frames.head b = .more) :
    b.length < 12 ∨
      (ValidLength (readUint32BE b) ∧ b.length < (readUint32BE b).toNat + 4) := by
  have h' : frameHead b = .more := h
  unfold frameHead at h'
  split at h'
  · next hshort => exact Or.inl hshort
  · split at h'
    · cases h'
    · next hv =>
      split at h'
      · next hlen => exact Or.inr ⟨not_not.mp hv, hlen⟩
      · cases h'

theorem decode_eq_ok {buffer rest : Buffer} {packets : List Packet} :
    decode buffer = (.ok packets, rest) ↔ frames.drain buffer = (packets, rest, none) := by
  rw [decode_eq_drain]
  obtain ⟨ps, rest', e⟩ := frames.drain buffer
  cases e <;> simp [outcome]

/--
**What `Decode` consumes is what it returns.**

When `Decode` does not throw, the outputs of `Encode` for the returned packets and then the
remaining buffer are the original buffer; the length of every packet fits its body and is in range;
the remaining buffer is short, and either too short for a header or the beginning of one frame; and
decoding it again does nothing.
-/
theorem decode_consumes (buffer rest : Buffer) (packets : List Packet)
    (h : decode buffer = (.ok packets, rest)) :
    (∃ consumed, encodeAll packets = .ok consumed ∧ consumed ++ rest = buffer) ∧
    (∀ p ∈ packets, p.length.toNat = 8 + p.body.length ∧ kPacketMetaSize ≤ p.length ∧
      p.length ≤ kMaxPacketLength) ∧
    rest.length < kMaxPacketLength.toNat + 4 ∧
    (rest.length < 12 ∨
      (kPacketMetaSize ≤ readUint32BE rest ∧ readUint32BE rest ≤ kMaxPacketLength ∧
        rest.length < (readUint32BE rest).toNat + 4)) ∧
    decode rest = (.ok [], rest) := by
  have hdrain := decode_eq_ok.mp h
  have hreceived := frames.drain_forall received_frame buffer
  have happend := frames.drain_flatMap_append bytes_frame buffer
  have hhead := frames.head_rest buffer
  rw [hdrain] at hreceived happend hhead
  dsimp only at hreceived happend hhead
  have hmore := frames_head_more hhead
  refine ⟨⟨_, encodeAll_eq packets fun p hp => (hreceived p hp).1, happend⟩, fun p hp => ?_, ?_, ?_,
    decode_eq_ok.mpr (frames.drain_more hhead)⟩
  · obtain ⟨hfits, hlength⟩ := hreceived p hp
    have hv : ValidLength p.length := by
      rw [Fits, maxBody_toNat] at hfits
      rw [kPacketMetaSize_toNat] at hlength
      exact validLength_iff.mpr (by omega)
    exact ⟨hlength, hv⟩
  · rw [kMaxPacketLength_toNat]
    rcases hmore with hshort | ⟨hv, hlen⟩
    · omega
    · have hbounds := validLength_iff.mp hv
      omega
  · exact hmore.imp_right fun ⟨hv, hlen⟩ => ⟨hv.1, hv.2, hlen⟩

/-- One frame and the first bytes of another. -/
theorem decode_consumes_frame :
    decode [0, 0, 0, 9, 0, 0, 3, 233, 0, 0, 0, 7, 1, 0, 0]
        = (.ok [{ length := 9, msgId := 1001, seq := 7, body := [1] }], [0, 0]) ∧
      ∃ consumed, encodeAll [{ length := 9, msgId := 1001, seq := 7, body := [1] }] = .ok consumed ∧
        consumed ++ [0, 0] = [0, 0, 0, 9, 0, 0, 3, 233, 0, 0, 0, 7, 1, 0, 0] := by
  have h : decode [0, 0, 0, 9, 0, 0, 3, 233, 0, 0, 0, 7, 1, 0, 0]
      = (.ok [{ length := 9, msgId := 1001, seq := 7, body := [1] }], [0, 0]) := by
    rw [decode, decodeLoop, if_pos (by decide), if_neg (by decide), if_neg (by decide), decodeLoop,
      if_neg (by decide)]
    rfl
  exact ⟨h, (decode_consumes _ _ _ h).1⟩

end Codec
end Game
