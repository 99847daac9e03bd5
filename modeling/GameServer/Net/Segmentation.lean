import GameServer.Net.CodecInverse

/-!
# Malformed frames

`Decode` collects the packets of one read and throws when it comes to an invalid length. What it has
collected until then is lost, though it is no longer in the buffer either. So a malformed frame
swallows the requests before it that were completed by the same read, and no others.
-/

namespace Game

open Infra.Framing Codec

/-- The stream consists of these packets. -/
def WellFormed (packets : List Packet) (stream : Buffer) : Prop :=
  encodeAll packets = .ok stream ∧
    ∀ p ∈ packets, p.length.toNat = kPacketMetaSize.toNat + p.body.length

/-- The complete frames of the longest well-formed prefix of the stream. -/
structure LongestWellFormed (stream : Buffer) (packets : List Packet) : Prop where
  isPrefix : ∃ bytes, WellFormed packets bytes ∧ bytes <+: stream
  longest : ∀ packets' bytes, WellFormed packets' bytes → bytes <+: stream → packets' <+: packets

/-- The read brings the end of a complete frame and, right behind the complete frames, a whole header
with an invalid length. `before` are the earlier reads. -/
def SwallowingRead (before : List Buffer) (chunk : Buffer) : Prop :=
  ∃ packets bytes malformed, WellFormed packets bytes ∧
    before.flatten ++ chunk = bytes ++ malformed ∧
    kPacketHeaderSize.toNat ≤ malformed.length ∧
    (readUint32BE malformed < kPacketMetaSize ∨ kMaxPacketLength < readUint32BE malformed) ∧
    before.flatten.length < bytes.length

/-! ## Well-formed prefixes -/

theorem encode_eq_ok {p : Packet} {out : Buffer} : encode p = .ok out ↔ Fits p ∧ bytes p = out := by
  constructor
  · intro h
    have hfits : Fits p := by
      by_contra hn
      rw [encode, if_pos (not_le.mp hn)] at h
      cases h
    rw [encode_eq hfits] at h
    exact ⟨hfits, Except.ok.inj h⟩
  · rintro ⟨hfits, rfl⟩
    exact encode_eq hfits

theorem fits_of_encodeAll : ∀ {l : List Packet} {out : Buffer}, encodeAll l = .ok out →
    ∀ p ∈ l, Fits p
  | [], _, _ => fun _ hp => (List.not_mem_nil hp).elim
  | p :: l, out, h => by
    rw [encodeAll] at h
    cases hp : encode p with
    | error e => rw [hp] at h; cases h
    | ok bytes =>
      cases hl : encodeAll l with
      | error e => rw [hp, hl] at h; cases h
      | ok rest =>
        intro q hq
        rcases List.mem_cons.mp hq with rfl | hq
        · exact (encode_eq_ok.mp hp).1
        · exact fits_of_encodeAll hl q hq

theorem wellFormed_iff {packets : List Packet} {stream : Buffer} :
    WellFormed packets stream ↔ (∀ p ∈ packets, Received p) ∧ packets.flatMap bytes = stream := by
  constructor
  · rintro ⟨hencode, hlength⟩
    have hfits := fits_of_encodeAll hencode
    rw [encodeAll_eq packets hfits] at hencode
    exact ⟨fun p hp => ⟨hfits p hp, hlength p hp⟩, Except.ok.inj hencode⟩
  · rintro ⟨hreceived, rfl⟩
    exact ⟨encodeAll_eq packets fun p hp => (hreceived p hp).1, fun p hp => (hreceived p hp).2⟩

/-- Draining well-formed frames with anything behind them. -/
theorem drain_wellFormed {packets : List Packet} {stream : Buffer}
    (h : WellFormed packets stream) (x : Buffer) :
    frames.drain (stream ++ x) = (packets ++ (frames.drain x).1, (frames.drain x).2) := by
  obtain ⟨hreceived, rfl⟩ := wellFormed_iff.mp h
  exact frames.drain_write_append frames_head_bytes packets hreceived x

theorem wellFormed_drain (stream : Buffer) :
    WellFormed (frames.drain stream).1 ((frames.drain stream).1.flatMap bytes) :=
  wellFormed_iff.mpr ⟨frames.drain_forall received_frame stream, rfl⟩

/-- The longest well-formed prefix is what draining finds. -/
theorem longestWellFormed_iff {stream : Buffer} {packets : List Packet} :
    LongestWellFormed stream packets ↔ packets = (frames.drain stream).1 := by
  have hextends : ∀ {packets' : List Packet} {bytes' : Buffer}, WellFormed packets' bytes' →
      (bytes' <+: stream ↔ packets' <+: (frames.drain stream).1) := by
    intro packets' bytes' h
    obtain ⟨hreceived, rfl⟩ := wellFormed_iff.mp h
    exact frames.flatMap_prefix_iff frames_head_bytes bytes_frame hreceived
  constructor
  · rintro ⟨⟨bytes', hwf, hbytes⟩, hlongest⟩
    have hle := (hextends hwf).mp hbytes
    have hge := hlongest _ _ (wellFormed_drain stream)
      ((hextends (wellFormed_drain stream)).mpr (List.prefix_refl _))
    exact hle.eq_of_length_le hge.length_le
  · rintro rfl
    exact ⟨⟨_, wellFormed_drain stream,
      (hextends (wellFormed_drain stream)).mpr (List.prefix_refl _)⟩,
      fun packets' bytes' hwf hbytes => (hextends hwf).mp hbytes⟩

/-! ## Reads -/

/-- A read swallows packets exactly when it meets an error and some frame was not complete before. -/
theorem swallowingRead_iff {before : List Buffer} {chunk : Buffer} :
    SwallowingRead before chunk ↔
      (frames.drain (before.flatten ++ chunk)).2.2 ≠ none ∧
        before.flatten.length <
          ((frames.drain (before.flatten ++ chunk)).1.flatMap bytes).length := by
  constructor
  · rintro ⟨packets, bytes', malformed, hwf, heq, h12, hbad, hlt⟩
    have hhead : frames.head malformed = .bad "invalid packet length" := by
      show frameHead malformed = _
      rw [frameHead, if_neg (by rw [kPacketHeaderSize_toNat] at h12; omega),
        if_pos (not_validLength_iff.mpr hbad)]
    rw [heq, drain_wellFormed hwf, frames.drain_bad hhead, List.append_nil,
      (wellFormed_iff.mp hwf).2]
    exact ⟨nofun, hlt⟩
  · rintro ⟨herror, hlt⟩
    obtain ⟨e, he⟩ := Option.ne_none_iff_exists'.mp herror
    have hhead := frames.head_rest (before.flatten ++ chunk)
    rw [he] at hhead
    obtain ⟨h12, hbad, -⟩ := frameHead_eq_bad hhead
    exact ⟨_, _, _, wellFormed_drain _, (frames.drain_flatMap_append bytes_frame _).symm, h12,
      not_validLength_iff.mp hbad, hlt⟩

namespace ReadSide

theorem readChunks_closed : ∀ (chunks : List Buffer) {c : ReadSide}, c.closed = true →
    c.readChunks chunks = c
  | [], _, _ => rfl
  | chunk :: chunks, c, hc => by
    have hread : c.onRead chunk = c := by rw [onRead, if_pos hc]
    show (c.onRead chunk).readChunks chunks = c
    rw [hread]
    exact readChunks_closed chunks hc

/-- As long as no header is malformed, everything complete has been delivered. -/
theorem readChunks_good {chunks : List Buffer}
    (h : (frames.drain chunks.flatten).2.2 = none) :
    readChunks {} chunks = { readBuffer := (frames.drain chunks.flatten).2.1
                             delivered := (frames.drain chunks.flatten).1
                             closed := false } := by
  have hfeed := frames.feed_eq_drain chunks [] (frames.drain_more frames.head_nil) h
  rw [List.nil_append] at hfeed
  have hread := readChunks_eq_feed chunks {} rfl (by rw [hfeed]; exact h)
  rw [hfeed] at hread
  exact hread

/-- The read that completes a malformed header closes the connection. Nothing else is delivered. -/
theorem readChunks_bad {before after : List Buffer} {chunk : Buffer}
    (hbefore : (frames.drain before.flatten).2.2 = none)
    (hbad : (frames.drain (before.flatten ++ chunk)).2.2 ≠ none) :
    (readChunks {} (before ++ chunk :: after)).delivered = (frames.drain before.flatten).1 := by
  have hsplit : readChunks {} (before ++ chunk :: after) =
      ((readChunks {} before).onRead chunk).readChunks after := by
    rw [readChunks, List.foldl_append]
    rfl
  have happend := frames.drain_append before.flatten chunk hbefore
  rw [hsplit, readChunks_good hbefore]
  generalize frames.drain before.flatten = w at happend
  obtain ⟨e, he⟩ := Option.ne_none_iff_exists'.mp hbad
  rw [happend] at he
  unfold onRead
  rw [if_neg (by simp), decode_eq_drain]
  dsimp only at he ⊢
  generalize frames.drain (w.2.1 ++ chunk) = w' at he
  obtain ⟨ps, rest, e'⟩ := w'
  obtain rfl : e' = some e := he
  rw [outcome]
  exact congrArg ReadSide.delivered (readChunks_closed after rfl)

/-- The first read after which a header is malformed. -/
theorem exists_bad_read : ∀ (after before : List Buffer),
    (frames.drain before.flatten).2.2 = none →
    (frames.drain (before ++ after).flatten).2.2 ≠ none →
    ∃ before' chunk after', before ++ after = before' ++ chunk :: after' ∧
      (frames.drain before'.flatten).2.2 = none ∧
      (frames.drain (before'.flatten ++ chunk)).2.2 ≠ none
  | [], before, hbefore, hbad => absurd hbefore (by rwa [List.append_nil] at hbad)
  | chunk :: after, before, hbefore, hbad => by
    by_cases h : (frames.drain (before.flatten ++ chunk)).2.2 = none
    · have hflatten : (before ++ [chunk]).flatten = before.flatten ++ chunk := by simp
      have hassoc : before ++ chunk :: after = (before ++ [chunk]) ++ after := by simp
      rw [hassoc] at hbad ⊢
      exact exists_bad_read after (before ++ [chunk]) (by rwa [hflatten]) hbad
    · exact ⟨before, chunk, after, rfl, hbefore, h⟩

/-- An error that was met stays where it is. -/
theorem drain_of_bad {stream x : Buffer} (h : (frames.drain stream).2.2 ≠ none) :
    (frames.drain (stream ++ x)).1 = (frames.drain stream).1 ∧
      (frames.drain (stream ++ x)).2.2 ≠ none := by
  obtain ⟨e, he⟩ := Option.ne_none_iff_exists'.mp h
  rw [frames.drain_append_bad stream x he]
  exact ⟨rfl, nofun⟩

/-- The frames of a stream that were complete before a read are all its frames exactly when the read
did not begin before the end of the last one. -/
theorem drain_eq_iff {stream chunk : Buffer} (hstream : (frames.drain stream).2.2 = none) :
    (frames.drain stream).1 = (frames.drain (stream ++ chunk)).1 ↔
      ((frames.drain (stream ++ chunk)).1.flatMap bytes).length ≤ stream.length := by
  constructor
  · intro h
    rw [← h]
    have happend := congrArg List.length (frames.drain_flatMap_append bytes_frame stream)
    rw [List.length_append] at happend
    omega
  · intro hle
    have hlongest : (frames.drain stream).1 <+: (frames.drain (stream ++ chunk)).1 := by
      rw [frames.drain_append stream chunk hstream]
      exact List.prefix_append ..
    refine hlongest.eq_of_length_le (List.IsPrefix.length_le ?_)
    rw [← frames.flatMap_prefix_iff frames_head_bytes bytes_frame
      (frames.drain_forall received_frame _)]
    refine List.prefix_of_prefix_length_le ⟨_, frames.drain_flatMap_append bytes_frame _⟩
      (List.prefix_append stream chunk) hle

/--
**When a malformed frame swallows nothing.**

For every stream and every way of cutting it into reads: the packets that are handed to the message
callback are the complete frames of the longest well-formed prefix exactly when no read brings both
the end of a complete frame and a malformed header.
-/
theorem delivers_iff (chunks : List Buffer) :
    LongestWellFormed chunks.flatten (readChunks {} chunks).delivered ↔
      ∀ before chunk after, chunks = before ++ chunk :: after → ¬ SwallowingRead before chunk := by
  rw [longestWellFormed_iff]
  cases hgood : (frames.drain chunks.flatten).2.2 with
  | none =>
    rw [readChunks_good hgood]
    refine iff_of_true rfl fun before chunk after heq hswallow => ?_
    have hbad := (drain_of_bad (x := after.flatten) (swallowingRead_iff.mp hswallow).1).2
    rw [heq, List.flatten_append, List.flatten_cons, ← List.append_assoc] at hgood
    exact hbad hgood
  | some e =>
    obtain ⟨before, chunk, after, heq, hbefore, hbad⟩ := exists_bad_read chunks []
      (congrArg (·.2.2) (frames.drain_more frames.head_nil))
      (by rw [List.nil_append, hgood]; nofun)
    rw [List.nil_append] at heq
    have hflatten : chunks.flatten = before.flatten ++ chunk ++ after.flatten := by
      rw [heq, List.flatten_append, List.flatten_cons, List.append_assoc]
    have hdelivered : (readChunks {} chunks).delivered = (frames.drain before.flatten).1 := by
      rw [heq]
      exact readChunks_bad hbefore hbad
    rw [hdelivered, hflatten, (drain_of_bad hbad).1, drain_eq_iff hbefore]
    constructor
    · intro hle before' chunk' after' heq' hswallow
      obtain ⟨hbad', hlt'⟩ := swallowingRead_iff.mp hswallow
      -- that read would be an earlier one, so the connection would be closed already
      have hframes : (frames.drain (before'.flatten ++ chunk')).1 =
          (frames.drain (before.flatten ++ chunk)).1 := by
        have h' := (drain_of_bad (x := after'.flatten) hbad').1
        rw [List.append_assoc, ← List.flatten_cons, ← List.flatten_append, ← heq', hflatten,
          (drain_of_bad hbad).1] at h'
        exact h'.symm
      rw [hframes] at hlt'
      rcases List.append_eq_append_iff.mp (heq.symm.trans heq') with ⟨as, has, -⟩ | ⟨as, has, hcons⟩
      · rw [has, List.flatten_append, List.length_append] at hlt'
        omega
      · cases as with
        | nil =>
          rw [List.append_nil] at has
          rw [← has] at hlt'
          exact absurd hle (not_le.mpr hlt')
        | cons _ as =>
          obtain ⟨rfl, -⟩ := List.cons.inj hcons
          have hstill := (drain_of_bad (x := as.flatten) hbad').2
          rw [List.append_assoc, ← List.flatten_cons, ← List.flatten_append, ← has] at hstill
          exact hstill hbefore
    · intro h
      by_contra hlt
      exact h before chunk after heq (swallowingRead_iff.mpr ⟨hbad, not_le.mp hlt⟩)

/-- One read with a complete packet and a malformed header behind it. -/
theorem swallowed_packet :
    ¬ LongestWellFormed
      [[0, 0, 0, 8, 0, 0, 3, 235, 0, 0, 0, 0, 0, 0, 0, 0, 0, 0, 0, 0, 0, 0, 0, 0]].flatten
      (readChunks {}
        [[0, 0, 0, 8, 0, 0, 3, 235, 0, 0, 0, 0, 0, 0, 0, 0, 0, 0, 0, 0, 0, 0, 0, 0]]).delivered := by
  intro h
  have hbytes : encodeAll [{ length := 8, msgId := 1003 }] =
      .ok [0, 0, 0, 8, 0, 0, 3, 235, 0, 0, 0, 0] := by decide
  have hlongest := h.longest [{ length := 8, msgId := 1003 }] _ ⟨hbytes, by decide⟩
    ⟨[0, 0, 0, 0, 0, 0, 0, 0, 0, 0, 0, 0], rfl⟩
  have hnone : (readChunks {}
      [[0, 0, 0, 8, 0, 0, 3, 235, 0, 0, 0, 0, 0, 0, 0, 0, 0, 0, 0, 0, 0, 0, 0, 0]]).delivered = [] := by
    rw [readChunks, List.foldl_cons, List.foldl_nil, onRead, if_neg (by decide), decode,
      List.nil_append, decodeLoop, if_pos (by decide), if_neg (by decide), if_neg (by decide),
      decodeLoop, if_pos (by decide), if_pos (by decide)]
  rw [hnone] at hlongest
  exact absurd hlongest.length_le (by decide)

end ReadSide
end Game
