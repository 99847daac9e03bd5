import GameServer.Net.WriteSide

/-!
# A connection

`src/net/tcp_connection.cpp` with reads and writes that may fail, and with `Close`. The handlers of a
connection run one at a time on its strand; what is posted runs in the order in which it was posted.

A read handler stays on the strand until `message_callback_` has got all packets of the read, so no
other handler runs before the `inbox` is empty.
-/

namespace Game

open Infra.Framing Codec

/-- What `Send` and `Close` post. -/
inductive Posted where
  | send (packet : Packet)
  | close
deriving DecidableEq

/-- A `TcpConnection` after `Start`. -/
structure Connection where
  /-- What the peer writes and no read has taken yet. -/
  unread : Buffer := []
  readSide : ReadSide := {}
  /-- How many of the packets `message_callback_` has got. -/
  handed : Nat := 0
  /-- Whether an `async_read_some` is under way. -/
  reading : Bool := true
  writeSide : WriteSide := {}
  /-- The handlers that wait for the strand. -/
  posted : List Posted := []
  /-- Whether `socket_.close` has been called. -/
  closed : Bool := false
  /-- How often `close_callback_` has been called: a history variable. -/
  closeCalls : Nat := 0

/-- A call that a connection makes. -/
inductive ConnectionCall where
  | message (packet : Packet)
  | close

/-- The packet that is handed over. -/
def ConnectionCall.packet? : ConnectionCall → Option Packet
  | .message packet => some packet
  | .close => none

namespace Connection

/-- The packets of the last read that `message_callback_` has still to get. -/
def inbox (c : Connection) : List Packet :=
  c.readSide.delivered.drop c.handed

/-- The packets that `message_callback_` has got. -/
def got (c : Connection) : List Packet :=
  c.readSide.delivered.take c.handed

/-- `Send` and `Close`. -/
def post (c : Connection) (handler : Posted) : Connection :=
  { c with posted := c.posted ++ [handler] }

/-- The end of a read handler that has not caught anything, if it has come to its end. -/
def finishRead (c : Connection) : Connection :=
  if c.inbox = [] then { c with reading := true } else c

/-- A read of up to `n` bytes has completed. -/
def onRead (c : Connection) (n : Nat) : Connection :=
  let bytes := c.unread.take (min n 4096)
  let c := { c with
    unread := c.unread.drop (min n 4096)
    readSide := c.readSide.onRead bytes
    reading := false }
  if c.readSide.closed then c.post .close else c.finishRead

/-- One round of the loop over the packets of a read. -/
def onMessage (c : Connection) : Connection :=
  { c with handed := c.handed + 1 }.finishRead

/-- A posted handler runs. -/
def runPosted (c : Connection) : Connection :=
  match c.posted with
  | [] => c
  | .send packet :: posted => { c with posted := posted, writeSide := c.writeSide.onSend packet }
  | .close :: posted =>
    { c with posted := posted, closed := true, closeCalls := c.closeCalls + 1 }

/-- The `i`-th write under way fails. -/
def onWriteFailed (c : Connection) (i : Nat) : Connection :=
  { c with
    writeSide := { c.writeSide with outstanding := c.writeSide.outstanding.eraseIdx i }
    closeCalls := c.closeCalls + 1 }

/-- What happens to a connection besides `Send` and `Close`. -/
inductive Event where
  | read (n : Nat)
  | readFailed
  | message
  | posted
  /-- The `i`-th write under way gives up to `n` bytes to the socket. -/
  | transfer (i n : Nat)
  | written (i : Nat)
  | writeFailed (i : Nat)

/-- Whether an event can happen now. -/
def Enabled (c : Connection) : Event → Prop
  | .read n => c.reading = true ∧ c.inbox = [] ∧ c.unread.take (min n 4096) ≠ []
  | .readFailed => c.reading = true ∧ c.inbox = []
  | .message => c.inbox ≠ []
  | .posted => c.inbox = [] ∧ c.posted ≠ []
  | .transfer i _ => c.closed = false ∧ i < c.writeSide.outstanding.length
  | .written i => c.inbox = [] ∧ c.writeSide.outstanding[i]? = some []
  | .writeFailed i => c.inbox = [] ∧ i < c.writeSide.outstanding.length

instance decidableEnabled (c : Connection) : (e : Event) → Decidable (c.Enabled e)
  | .read n => inferInstanceAs
    (Decidable (c.reading = true ∧ c.inbox = [] ∧ c.unread.take (min n 4096) ≠ []))
  | .readFailed => inferInstanceAs (Decidable (c.reading = true ∧ c.inbox = []))
  | .message => inferInstanceAs (Decidable (c.inbox ≠ []))
  | .posted => inferInstanceAs (Decidable (c.inbox = [] ∧ c.posted ≠ []))
  | .transfer i _ => inferInstanceAs
    (Decidable (c.closed = false ∧ i < c.writeSide.outstanding.length))
  | .written i => inferInstanceAs
    (Decidable (c.inbox = [] ∧ c.writeSide.outstanding[i]? = some []))
  | .writeFailed i => inferInstanceAs
    (Decidable (c.inbox = [] ∧ i < c.writeSide.outstanding.length))

/-- The connection after an event. -/
def step (c : Connection) : Event → Connection
  | .read n => c.onRead n
  | .readFailed => { c with reading := false, closeCalls := c.closeCalls + 1 }
  | .message => c.onMessage
  | .posted => c.runPosted
  | .transfer i n => { c with writeSide := c.writeSide.step (.transfer i n) }
  | .written i => { c with writeSide := c.writeSide.step (.written i) }
  | .writeFailed i => c.onWriteFailed i

/-- The call that the connection makes in an event. -/
def callback (c : Connection) : Event → Option ConnectionCall
  | .message => c.inbox.head?.map .message
  | .posted => if c.posted.head? = some .close then some .close else none
  | .readFailed | .writeFailed _ => some .close
  | _ => none

/-- Something that concerns a connection: `Send` and `Close` from any thread, or an event. -/
inductive Input where
  | post (handler : Posted)
  | event (e : Event)

/-- An event that cannot happen is left out. -/
def handle (c : Connection) : Input → Connection
  | .post handler => c.post handler
  | .event e => if c.Enabled e then c.step e else c

def run (c : Connection) (inputs : List Input) : Connection :=
  inputs.foldl handle c

/-- The handlers that other threads have posted. -/
def posts (inputs : List Input) : List Posted :=
  inputs.filterMap fun
    | .post handler => some handler
    | .event _ => none

/-- The packets of `Send`s. -/
def sends (handlers : List Posted) : List Packet :=
  handlers.filterMap fun
    | .send packet => some packet
    | .close => none

/-- What `Encode` makes of packets; those that are too large are left out. -/
def encoded (packets : List Packet) : Buffer :=
  packets.flatMap fun packet => (encode packet).toOption.getD []

/-! ## The write side -/

/-- Writing goes on, or a write has failed and the front of the queue stays where it is. -/
inductive Writes (c : WriteSide) (stream : Buffer) : Prop
  | flow (h : WriteSide.Flow c stream)
  | stuck (hout : c.outstanding = []) (hqueue : c.writeQueue ≠ []) (hsocket : c.socket <+: stream)

theorem onSend_of_error {c : WriteSide} {packet : Packet} {e : String}
    (h : encode packet = .error e) : c.onSend packet = c := by
  unfold WriteSide.onSend
  rw [h]

/-- The packet waits behind those that are there. -/
theorem onSend_of_ne_nil {c : WriteSide} {packet : Packet} {bytes : Buffer}
    (hqueue : c.writeQueue ≠ []) (h : encode packet = .ok bytes) :
    c.onSend packet = { c with writeQueue := c.writeQueue ++ [bytes] } := by
  unfold WriteSide.onSend
  rw [h]
  exact if_pos hqueue

theorem writes_onSend {c : WriteSide} {stream : Buffer} (h : Writes c stream) (packet : Packet) :
    Writes (c.onSend packet) (stream ++ (encode packet).toOption.getD []) := by
  cases hencode : encode packet with
  | error e =>
    rw [onSend_of_error hencode,
      show (Except.error e : Except String Buffer).toOption.getD [] = [] from rfl, List.append_nil]
    exact h
  | ok bytes =>
    cases h with
    | flow h => exact .flow (WriteSide.flow_onSend h hencode)
    | stuck hout hqueue hsocket =>
      rw [onSend_of_ne_nil hqueue hencode]
      exact .stuck hout (List.append_ne_nil_of_left_ne_nil hqueue _)
        (hsocket.trans (List.prefix_append _ _))

theorem writes_step {c : WriteSide} {stream : Buffer} (h : Writes c stream) {e : WriteSide.Event}
    (hflow : ∀ {c : WriteSide}, WriteSide.Flow c stream → WriteSide.Flow (c.step e) stream)
    (hidle : ∀ {c : WriteSide}, c.outstanding = [] → c.step e = c) : Writes (c.step e) stream := by
  cases h with
  | flow h => exact .flow (hflow h)
  | stuck hout hqueue hsocket =>
    rw [hidle hout]
    exact .stuck hout hqueue hsocket

/-! ## The read side -/

/-- Packets are delivered as they are in the bytes read. -/
theorem prefix_delivered (chunks : List Buffer) :
    (ReadSide.readChunks {} chunks).delivered <+: (frames.drain chunks.flatten).1 := by
  by_cases hgood : (frames.drain chunks.flatten).2.2 = none
  · simp only [ReadSide.readChunks_good hgood, List.prefix_refl]
  · obtain ⟨before, chunk, after, rfl, hbefore, hbad⟩ := ReadSide.exists_bad_read chunks []
      (congrArg (·.2.2) (frames.drain_more frames.head_nil)) hgood
    have hflatten : (before ++ chunk :: after).flatten =
        before.flatten ++ (chunk ++ after.flatten) := by
      rw [List.flatten_append, List.flatten_cons]
    rw [ReadSide.readChunks_bad hbefore hbad, hflatten, frames.drain_append _ _ hbefore]
    exact List.prefix_append _ _

/-- As long as nothing is malformed, the packets of a beginning come first. -/
theorem prefix_drain {stream total : Buffer} (h : stream <+: total) :
    (frames.drain stream).1 <+: (frames.drain total).1 := by
  obtain ⟨rest, rfl⟩ := h
  by_cases hgood : (frames.drain stream).2.2 = none
  · rw [frames.drain_append _ _ hgood]
    exact List.prefix_append _ _
  · simp only [(ReadSide.drain_of_bad hgood).1, List.prefix_refl]

theorem readChunks_concat (chunks : List Buffer) (bytes : Buffer) :
    ReadSide.readChunks {} (chunks ++ [bytes]) = (ReadSide.readChunks {} chunks).onRead bytes := by
  rw [ReadSide.readChunks, List.foldl_append]
  rfl

/-- A read that ends in an error delivers nothing. -/
theorem delivered_onRead (c : ReadSide) (bytes : Buffer) :
    ∃ packets, (c.onRead bytes).delivered = c.delivered ++ packets ∧
      ((c.onRead bytes).closed = true → packets = []) := by
  unfold ReadSide.onRead
  split
  · exact ⟨[], (List.append_nil _).symm, fun _ => rfl⟩
  · next hopen =>
    split
    · next packets buffer hdecode =>
      exact ⟨packets, rfl, fun hclosed => absurd hclosed hopen⟩
    · exact ⟨[], (List.append_nil _).symm, fun _ => rfl⟩

/-! ## The invariant -/

/-- A write has failed: nothing is under way though the queue is not empty. -/
def Stuck (c : WriteSide) : Prop :=
  c.outstanding = [] ∧ c.writeQueue ≠ []

instance (c : WriteSide) : Decidable (Stuck c) :=
  inferInstanceAs (Decidable (c.outstanding = [] ∧ c.writeQueue ≠ []))

theorem not_stuck {c : WriteSide} {stream : Buffer} (h : WriteSide.Flow c stream) : ¬ Stuck c := by
  rintro ⟨hout, hqueue⟩
  exact h.observed.2.1.mpr hqueue hout

/-- How often the read side and the write side may still call `close_callback_` by themselves. -/
def ownCloses (c : Connection) : Nat :=
  (if c.reading = true ∨ c.inbox ≠ [] then 1 else 0) + (if Stuck c.writeSide then 0 else 1)

theorem ownCloses_of_busy {c : Connection} (h : c.reading = true ∨ c.inbox ≠ []) :
    c.ownCloses = 1 + if Stuck c.writeSide then 0 else 1 := by
  rw [ownCloses, if_pos h]

theorem ownCloses_of_stopped {c : Connection} (hreading : c.reading = false)
    (hinbox : c.inbox = []) : c.ownCloses = if Stuck c.writeSide then 0 else 1 := by
  rw [ownCloses, if_neg (not_or.mpr ⟨Bool.eq_false_iff.mp hreading, not_not.mpr hinbox⟩),
    Nat.zero_add]

/-- The state of a connection whose peer writes `total` and for which `handlers` are posted. -/
structure Sound (total : Buffer) (handlers : List Posted) (c : Connection) : Prop where
  reads : ∃ chunks, c.readSide = ReadSide.readChunks {} chunks ∧ chunks.flatten ++ c.unread = total
  handed_le : c.handed ≤ c.readSide.delivered.length
  waits : c.reading = true → c.inbox = []
  good : c.reading = true ∨ c.inbox ≠ [] → c.readSide.closed = false
  stopped : c.reading = false → c.inbox = [] → .close ∈ c.posted ∨ 0 < c.closeCalls
  writes : ∃ ran, sends handlers = ran ++ sends c.posted ∧ Writes c.writeSide (encoded ran)
  closes : c.closeCalls + c.posted.count .close + c.ownCloses ≤ handlers.count .close + 2

variable {total : Buffer} {handlers : List Posted} {c : Connection}

theorem sends_append (l l' : List Posted) : sends (l ++ l') = sends l ++ sends l' :=
  List.filterMap_append

theorem sound_init (total : Buffer) : Sound total [] { unread := total } where
  reads := ⟨[], rfl, rfl⟩
  handed_le := Nat.le_refl _
  waits _ := rfl
  good _ := rfl
  stopped := nofun
  writes := ⟨[], rfl, .flow (.idle rfl rfl rfl)⟩
  closes := Nat.le_refl _

theorem sound_post (h : Sound total handlers c) (handler : Posted) :
    Sound total (handlers ++ [handler]) (c.post handler) where
  reads := h.reads
  handed_le := h.handed_le
  waits := h.waits
  good := h.good
  stopped hreading hinbox := (h.stopped hreading hinbox).imp_left (List.mem_append_left _)
  writes := by
    obtain ⟨ran, hran, hwrites⟩ := h.writes
    refine ⟨ran, ?_, hwrites⟩
    show _ = ran ++ sends (c.posted ++ [handler])
    rw [sends_append, sends_append, hran, List.append_assoc]
  closes := by
    have hcloses := h.closes
    show c.closeCalls + (c.posted ++ [handler]).count .close + c.ownCloses ≤ _
    rw [List.count_append, List.count_append]
    omega

theorem Sound.handed_eq (h : Sound total handlers c) (hinbox : c.inbox = []) :
    c.handed = c.readSide.delivered.length :=
  le_antisymm h.handed_le (List.drop_eq_nil_iff.mp hinbox)

/-- After a read that has not met an error, and after each packet of it. -/
theorem sound_finishRead
    (hreads : ∃ chunks, c.readSide = ReadSide.readChunks {} chunks ∧
      chunks.flatten ++ c.unread = total)
    (hhanded : c.handed ≤ c.readSide.delivered.length) (hreading : c.reading = false)
    (hgood : c.readSide.closed = false)
    (hwrites : ∃ ran, sends handlers = ran ++ sends c.posted ∧ Writes c.writeSide (encoded ran))
    (hcloses : c.closeCalls + c.posted.count .close + (1 + if Stuck c.writeSide then 0 else 1) ≤
      handlers.count .close + 2) :
    Sound total handlers c.finishRead := by
  unfold finishRead
  split
  · next hinbox =>
    exact {
      reads := hreads
      handed_le := hhanded
      waits := fun _ => hinbox
      good := fun _ => hgood
      stopped := nofun
      writes := hwrites
      closes := hcloses }
  · next hinbox =>
    refine {
      reads := hreads
      handed_le := hhanded
      waits := fun h => absurd (hreading.symm.trans h) Bool.false_ne_true
      good := fun _ => hgood
      stopped := fun _ h => absurd h hinbox
      writes := hwrites
      closes := ?_ }
    rw [ownCloses_of_busy (.inr hinbox)]
    exact hcloses

/-- After the last read. -/
theorem sound_stopped
    (hreads : ∃ chunks, c.readSide = ReadSide.readChunks {} chunks ∧
      chunks.flatten ++ c.unread = total)
    (hhanded : c.handed ≤ c.readSide.delivered.length) (hreading : c.reading = false)
    (hinbox : c.inbox = []) (hstopped : .close ∈ c.posted ∨ 0 < c.closeCalls)
    (hwrites : ∃ ran, sends handlers = ran ++ sends c.posted ∧ Writes c.writeSide (encoded ran))
    (hcloses : c.closeCalls + c.posted.count .close + (if Stuck c.writeSide then 0 else 1) ≤
      handlers.count .close + 2) :
    Sound total handlers c where
  reads := hreads
  handed_le := hhanded
  waits _ := hinbox
  good h := h.elim (fun h => absurd (hreading.symm.trans h) Bool.false_ne_true)
    fun hne => absurd hinbox hne
  stopped _ _ := hstopped
  writes := hwrites
  closes := by
    rw [ownCloses_of_stopped hreading hinbox]
    exact hcloses

theorem sound_read (h : Sound total handlers c) {n : Nat} (hreading : c.reading = true) :
    Sound total handlers (c.onRead n) := by
  have hinbox := h.waits hreading
  have hcloses := h.closes
  rw [ownCloses_of_busy (.inl hreading)] at hcloses
  obtain ⟨packets, hdelivered, hclosed⟩ :=
    delivered_onRead c.readSide (c.unread.take (min n 4096))
  have hhanded : c.handed ≤ (c.readSide.onRead (c.unread.take (min n 4096))).delivered.length := by
    rw [hdelivered, h.handed_eq hinbox, List.length_append]
    omega
  have hreads : ∃ chunks,
      c.readSide.onRead (c.unread.take (min n 4096)) = ReadSide.readChunks {} chunks ∧
        chunks.flatten ++ c.unread.drop (min n 4096) = total := by
    obtain ⟨chunks, hchunks, htotal⟩ := h.reads
    refine ⟨chunks ++ [c.unread.take (min n 4096)], ?_, ?_⟩
    · rw [readChunks_concat, hchunks]
    · rw [List.flatten_append, List.flatten_singleton, List.append_assoc, List.take_append_drop,
        htotal]
  unfold onRead
  dsimp only
  split
  · next herror =>
    have hnone : (c.readSide.onRead (c.unread.take (min n 4096))).delivered.drop c.handed = [] := by
      rw [hdelivered, hclosed herror, List.append_nil]
      exact hinbox
    refine sound_stopped hreads hhanded rfl hnone
      (.inl (List.mem_append_right _ (List.mem_singleton_self _))) ?_ ?_
    · obtain ⟨ran, hran, hwrites⟩ := h.writes
      refine ⟨ran, ?_, hwrites⟩
      show _ = ran ++ sends (c.posted ++ [.close])
      rw [sends_append, hran]
      simp [sends]
    · -- The read side has called for the last time.
      show c.closeCalls + (c.posted ++ [Posted.close]).count Posted.close +
        (if Stuck c.writeSide then 0 else 1) ≤ _
      rw [List.count_append, List.count_singleton_self]
      omega
  · next hgood =>
    exact sound_finishRead hreads hhanded rfl (Bool.eq_false_iff.mpr hgood) h.writes hcloses

theorem sound_message (h : Sound total handlers c) (hinbox : c.inbox ≠ []) :
    Sound total handlers c.onMessage := by
  have hcloses := h.closes
  rw [ownCloses_of_busy (.inr hinbox)] at hcloses
  have hlt : c.handed < c.readSide.delivered.length := by
    by_contra hle
    exact hinbox (List.drop_eq_nil_iff.mpr (not_lt.mp hle))
  have hreading : c.reading = false := Bool.eq_false_iff.mpr fun hreading =>
    hinbox (h.waits hreading)
  exact sound_finishRead h.reads hlt hreading (h.good (.inr hinbox)) h.writes hcloses

theorem sound_readFailed (h : Sound total handlers c) (hreading : c.reading = true) :
    Sound total handlers { c with reading := false, closeCalls := c.closeCalls + 1 } := by
  have hcloses := h.closes
  rw [ownCloses_of_busy (.inl hreading)] at hcloses
  refine sound_stopped h.reads h.handed_le rfl (h.waits hreading) (.inr (Nat.succ_pos _)) h.writes ?_
  show c.closeCalls + 1 + c.posted.count .close + (if Stuck c.writeSide then 0 else 1) ≤ _
  omega

/-- A step that does not concern the read side. -/
theorem sound_others (h : Sound total handlers c) {w : WriteSide} {posted : List Posted}
    {closed : Bool} {closeCalls : Nat}
    (hstopped : .close ∈ c.posted ∨ 0 < c.closeCalls → .close ∈ posted ∨ 0 < closeCalls)
    (hwrites : ∀ {ran}, sends handlers = ran ++ sends c.posted → Writes c.writeSide (encoded ran) →
      ∃ ran', sends handlers = ran' ++ sends posted ∧ Writes w (encoded ran'))
    (hcloses : closeCalls + posted.count .close + (if Stuck w then 0 else 1) ≤
      c.closeCalls + c.posted.count .close + (if Stuck c.writeSide then 0 else 1)) :
    Sound total handlers
      { c with writeSide := w, posted := posted, closed := closed, closeCalls := closeCalls } where
  reads := h.reads
  handed_le := h.handed_le
  waits := h.waits
  good := h.good
  stopped hreading hinbox := hstopped (h.stopped hreading hinbox)
  writes := by
    obtain ⟨ran, hran, hw⟩ := h.writes
    exact hwrites hran hw
  closes := by
    have hbound := h.closes
    unfold ownCloses at hbound ⊢
    show closeCalls + posted.count .close + ((if c.reading = true ∨ c.inbox ≠ [] then 1 else 0) +
      (if Stuck w then 0 else 1)) ≤ _
    omega

theorem stuck_onSend {w : WriteSide} (h : Stuck w) (packet : Packet) : Stuck (w.onSend packet) := by
  cases hencode : encode packet with
  | error e =>
    rw [onSend_of_error hencode]
    exact h
  | ok bytes =>
    rw [onSend_of_ne_nil h.2 hencode]
    exact ⟨h.1, List.append_ne_nil_of_left_ne_nil h.2 _⟩

/-- A failed write costs the last call of the write side. -/
theorem stuck_le {w w' : WriteSide} (h : Stuck w → Stuck w') :
    (if Stuck w' then 0 else 1) ≤ (if Stuck w then 0 else 1) := by
  split
  · exact Nat.zero_le _
  · next hn => rw [if_neg (mt h hn)]

theorem encoded_append (l l' : List Packet) : encoded (l ++ l') = encoded l ++ encoded l' :=
  List.flatMap_append

theorem encoded_eq {l : List Packet} (h : ∀ p ∈ l, Fits p) : encoded l = l.flatMap bytes := by
  refine List.flatMap_congr fun p hp => ?_
  rw [encode_eq (h p hp)]
  rfl

theorem prefix_encoded {l l' : List Packet} (h : l <+: l') : encoded l <+: encoded l' := by
  obtain ⟨rest, rfl⟩ := h
  rw [encoded_append]
  exact List.prefix_append _ _

theorem sound_posted (h : Sound total handlers c) : Sound total handlers c.runPosted := by
  unfold runPosted
  split
  · exact h
  · next packet posted hposted =>
    refine sound_others h ?_ ?_ ?_
    · rw [hposted]
      exact Or.imp_left fun hmem => (List.mem_cons.mp hmem).resolve_left nofun
    · intro ran hran hw
      refine ⟨ran ++ [packet], ?_, ?_⟩
      · rw [hran, hposted, List.append_assoc]
        rfl
      · rw [encoded_append, show encoded [packet] = (encode packet).toOption.getD [] from
          List.append_nil _]
        exact writes_onSend hw packet
    · have hstuck := stuck_le fun h : Stuck c.writeSide => stuck_onSend h packet
      rw [hposted, List.count_cons_of_ne (show Posted.send packet ≠ .close from nofun)]
      omega
  · next posted hposted =>
    refine sound_others h (fun _ => .inr (Nat.succ_pos _)) ?_ ?_
    · intro ran hran hw
      refine ⟨ran, ?_, hw⟩
      rw [hran, hposted]
      rfl
    · rw [hposted, List.count_cons_self]
      omega

/-- A step of the writes under way. -/
theorem sound_transfer (h : Sound total handlers c) {e : WriteSide.Event}
    (hflow : ∀ {w : WriteSide} {stream : Buffer}, WriteSide.Flow w stream →
      WriteSide.Flow (w.step e) stream)
    (hidle : ∀ {w : WriteSide}, w.outstanding = [] → w.step e = w) :
    Sound total handlers { c with writeSide := c.writeSide.step e } := by
  refine sound_others h id (fun hran hw => ⟨_, hran, writes_step hw hflow hidle⟩) ?_
  have hstuck := stuck_le fun h : Stuck c.writeSide =>
    show Stuck (c.writeSide.step e) from (hidle h.1).symm ▸ h
  omega

/-- While a write is under way no other one has failed. -/
theorem Writes.flow_of_lt {w : WriteSide} {stream : Buffer} (h : Writes w stream) {i : Nat}
    (hi : i < w.outstanding.length) : WriteSide.Flow w stream := by
  rcases h with hflow | ⟨hout, -, -⟩
  · exact hflow
  · rw [hout] at hi
    exact absurd hi (Nat.not_lt_zero _)

/-- **A failed write ends writing.** It was the only one, and its packet stays in the queue. -/
theorem stuck_writeFailed (h : Sound total handlers c) {i : Nat}
    (hi : i < c.writeSide.outstanding.length) : Stuck (c.onWriteFailed i).writeSide := by
  obtain ⟨ran, -, hw⟩ := h.writes
  have hobserved := (hw.flow_of_lt hi).observed
  refine ⟨?_, hobserved.2.1.mp fun hout => ?_⟩
  · have hlength := hobserved.1
    show c.writeSide.outstanding.eraseIdx i = []
    rw [← List.length_eq_zero_iff, List.length_eraseIdx_of_lt hi]
    omega
  · rw [hout] at hi
    exact absurd hi (Nat.not_lt_zero _)

theorem sound_writeFailed (h : Sound total handlers c) {i : Nat}
    (hi : i < c.writeSide.outstanding.length) : Sound total handlers (c.onWriteFailed i) := by
  obtain ⟨ran, -, hw⟩ := h.writes
  have hstuck := stuck_writeFailed h hi
  refine sound_others h (fun _ => .inr (Nat.succ_pos _)) (fun hran hw => ⟨_, hran, ?_⟩) ?_
  · exact .stuck hstuck.1 hstuck.2 (hw.flow_of_lt hi).observed.2.2.1
  · show _ + (if Stuck (c.onWriteFailed i).writeSide then 0 else 1) ≤ _
    rw [if_pos hstuck, if_neg (not_stuck (hw.flow_of_lt hi))]
    omega

/-- **Every step keeps the invariant.** -/
theorem sound_handle (h : Sound total handlers c) (input : Input) :
    Sound total (handlers ++ posts [input]) (c.handle input) := by
  cases input with
  | post handler => exact sound_post h handler
  | event e =>
    rw [show posts [Input.event e] = [] from rfl, List.append_nil]
    show Sound total handlers (if c.Enabled e then c.step e else c)
    split
    · next henabled =>
      cases e with
      | read n => exact sound_read h henabled.1
      | readFailed => exact sound_readFailed h henabled.1
      | message => exact sound_message h henabled
      | posted => exact sound_posted h
      | transfer i n =>
        exact sound_transfer h (fun h => WriteSide.flow_transfer h i n) fun hout => by
          simp [WriteSide.step, hout]
      | written i =>
        exact sound_transfer h (fun h => WriteSide.flow_written h i) fun hout => by
          simp [WriteSide.step, hout]
      | writeFailed i => exact sound_writeFailed h henabled.2
    · exact h

theorem sound_run (h : Sound total handlers c) (inputs : List Input) :
    Sound total (handlers ++ posts inputs) (c.run inputs) := by
  induction inputs generalizing handlers c with
  | nil =>
    rw [show posts [] = [] from rfl, List.append_nil]
    exact h
  | cons input inputs ih =>
    have hposts : posts (input :: inputs) = posts [input] ++ posts inputs :=
      List.filterMap_append (l := [input])
    rw [hposts, ← List.append_assoc]
    exact ih (sound_handle h input)

/-! ## What has been handed over -/

theorem got_finishRead (c : Connection) : c.finishRead.got = c.got := by
  unfold finishRead
  split <;> rfl

theorem got_runPosted (c : Connection) : c.runPosted.got = c.got := by
  unfold runPosted
  split <;> rfl

/-- A read does not touch what was there. -/
theorem got_onRead (hhanded : c.handed ≤ c.readSide.delivered.length) (n : Nat) :
    (c.onRead n).got = c.got := by
  obtain ⟨packets, hdelivered, -⟩ := delivered_onRead c.readSide (c.unread.take (min n 4096))
  have htake : (c.readSide.onRead (c.unread.take (min n 4096))).delivered.take c.handed = c.got := by
    rw [hdelivered, List.take_append_of_le_length hhanded]
    rfl
  unfold onRead
  dsimp only
  split
  · exact htake
  · rw [got_finishRead]
    exact htake

theorem got_onMessage (c : Connection) : c.onMessage.got = c.got ++ c.inbox.head?.toList := by
  rw [onMessage, got_finishRead, inbox, List.head?_drop]
  exact List.take_add_one

/-- The message callback gets one packet after the other. -/
theorem got_step (hhanded : c.handed ≤ c.readSide.delivered.length) (e : Event) :
    (c.step e).got = c.got ++ ((c.callback e).bind ConnectionCall.packet?).toList := by
  cases e with
  | read n => exact (got_onRead hhanded n).trans (List.append_nil _).symm
  | message =>
    refine (got_onMessage c).trans (congrArg (c.got ++ ·) ?_)
    show _ = ((c.inbox.head?.map ConnectionCall.message).bind ConnectionCall.packet?).toList
    cases c.inbox.head? <;> rfl
  | posted =>
    refine (got_runPosted c).trans ?_
    unfold callback
    dsimp only
    split <;> exact (List.append_nil _).symm
  | readFailed | transfer | written | writeFailed => exact (List.append_nil _).symm

theorem Sound.prefix_got (h : Sound total handlers c) : c.got <+: (frames.drain total).1 := by
  obtain ⟨chunks, hchunks, htotal⟩ := h.reads
  rw [got, hchunks]
  exact (List.take_prefix _ _).trans ((prefix_delivered chunks).trans
    (prefix_drain ⟨c.unread, htotal⟩))

/-- When nothing is malformed, everything is handed over in the end. -/
theorem Sound.got_eq (h : Sound total handlers c) (hgood : (frames.drain total).2.2 = none)
    (hunread : c.unread = []) (hinbox : c.inbox = []) : c.got = (frames.drain total).1 := by
  obtain ⟨chunks, hchunks, htotal⟩ := h.reads
  rw [hunread, List.append_nil] at htotal
  rw [got, h.handed_eq hinbox, List.take_length, hchunks,
    ReadSide.readChunks_good (by rw [htotal]; exact hgood), htotal]

/-- The socket gets the beginning of what has been sent. -/
theorem Sound.prefix_socket (h : Sound total handlers c) :
    c.writeSide.socket <+: encoded (sends handlers) := by
  obtain ⟨ran, hran, hwrites⟩ := h.writes
  refine List.IsPrefix.trans ?_ (prefix_encoded ⟨sends c.posted, hran.symm⟩)
  cases hwrites with
  | flow h => exact h.observed.2.2.1
  | stuck _ _ hsocket => exact hsocket

/-- All of it, when nothing is left to do. -/
theorem Sound.socket_eq (h : Sound total handlers c) (hposted : c.posted = [])
    (hqueue : c.writeSide.writeQueue = []) : c.writeSide.socket = encoded (sends handlers) := by
  obtain ⟨ran, hran, hwrites⟩ := h.writes
  rw [hran, hposted, show sends [] = [] from rfl, List.append_nil]
  cases hwrites with
  | flow h => exact h.observed.2.2.2 (by_contra fun hout => h.observed.2.1.mp hout hqueue)
  | stuck _ hne => exact absurd hqueue hne

/-! ## What a run looks like -/

/-- Nothing but a `Send` changes the write side any more, and it only adds to the queue. -/
theorem stuck_handle (h : Stuck c.writeSide) (input : Input) :
    Stuck (c.handle input).writeSide ∧
      (c.handle input).writeSide.socket = c.writeSide.socket ∧
      c.writeSide.writeQueue <+: (c.handle input).writeSide.writeQueue := by
  have hsame : ∀ {c' : Connection}, c'.writeSide = c.writeSide → Stuck c'.writeSide ∧
      c'.writeSide.socket = c.writeSide.socket ∧
      c.writeSide.writeQueue <+: c'.writeSide.writeQueue := fun heq => by
    rw [heq]
    exact ⟨h, rfl, List.prefix_refl _⟩
  cases input with
  | post handler => exact hsame rfl
  | event e =>
    unfold handle
    dsimp only
    split
    · next henabled =>
      cases e with
      | read n =>
        refine hsame ?_
        show (c.onRead n).writeSide = c.writeSide
        unfold onRead finishRead
        dsimp only
        split
        · rfl
        · split <;> rfl
      | readFailed => exact hsame rfl
      | message =>
        refine hsame ?_
        show c.onMessage.writeSide = c.writeSide
        unfold onMessage finishRead
        split <;> rfl
      | posted =>
        show Stuck c.runPosted.writeSide ∧ _
        unfold step runPosted
        split
        · exact hsame rfl
        · next packet posted hposted =>
          refine ⟨stuck_onSend h packet, ?_⟩
          show (c.writeSide.onSend packet).socket = _ ∧ _ <+: (c.writeSide.onSend packet).writeQueue
          cases hencode : encode packet with
          | error e =>
            rw [onSend_of_error hencode]
            exact ⟨rfl, List.prefix_refl _⟩
          | ok bytes =>
            rw [onSend_of_ne_nil h.2 hencode]
            exact ⟨rfl, List.prefix_append _ _⟩
        · exact hsame rfl
      | transfer i n =>
        refine hsame ?_
        simp [step, WriteSide.step, h.1]
      | written i =>
        refine hsame ?_
        simp [step, WriteSide.step, h.1]
      | writeFailed i =>
        have hi := henabled.2
        rw [h.1] at hi
        exact absurd hi (Nat.not_lt_zero _)
    · exact hsame rfl

theorem stuck_run (h : Stuck c.writeSide) (inputs : List Input) :
    (c.run inputs).writeSide.socket = c.writeSide.socket ∧
      c.writeSide.writeQueue <+: (c.run inputs).writeSide.writeQueue := by
  induction inputs generalizing c with
  | nil => exact ⟨rfl, List.prefix_refl _⟩
  | cons input inputs ih =>
    obtain ⟨hstuck, hsocket, hqueue⟩ := stuck_handle h input
    obtain ⟨hsocket', hqueue'⟩ := ih hstuck
    exact ⟨hsocket'.trans hsocket, hqueue.trans hqueue'⟩

/--
**The life of a connection.**

Any order of `Send`s, `Close`s and events of a new connection whose peer writes `total`, with reads
and writes that fail at any time. The message callback has got the beginning of the packets in
`total`. At most one write is under way, and the socket has got the beginning of the packets sent:
all of them when nothing is posted, under way or queued. A write that fails leaves the connection
stuck, and then the socket gets nothing more, and what is queued stays queued. When reading has ended,
the close callback has been called or a close is posted, and it is called at most twice more than
`Close` is.
-/
theorem life (total : Buffer) (inputs : List Input) :
    let c := run { unread := total } inputs
    c.got <+: (frames.drain total).1 ∧
    c.writeSide.outstanding.length ≤ 1 ∧
    c.writeSide.socket <+: encoded (sends (posts inputs)) ∧
    (c.posted = [] → c.writeSide.writeQueue = [] →
      c.writeSide.socket = encoded (sends (posts inputs))) ∧
    (∀ i, c.Enabled (.writeFailed i) → Stuck (c.step (.writeFailed i)).writeSide) ∧
    (Stuck c.writeSide → ∀ more, (c.run more).writeSide.socket = c.writeSide.socket ∧
      c.writeSide.writeQueue <+: (c.run more).writeSide.writeQueue) ∧
    (c.reading = false → c.inbox = [] → .close ∈ c.posted ∨ 0 < c.closeCalls) ∧
    c.closeCalls ≤ (posts inputs).count .close + 2 := by
  intro c
  have h : Sound total (posts inputs) c := sound_run (sound_init total) inputs
  obtain ⟨ran, -, hwrites⟩ := h.writes
  have hcloses := h.closes
  refine ⟨h.prefix_got, ?_, h.prefix_socket, h.socket_eq,
    fun i henabled => stuck_writeFailed h henabled.2, fun hstuck => stuck_run hstuck, h.stopped,
    by omega⟩
  cases hwrites with
  | flow h => exact h.observed.1
  | stuck hout => simp [hout]

end Connection
end Game
