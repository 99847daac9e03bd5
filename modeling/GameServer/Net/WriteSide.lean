import GameServer.Net.Segmentation

/-!
# The write side of a connection

`Send` and `DoWrite` of `src/net/tcp_connection.cpp`. The handlers of a connection run one at a time
on its strand, and while they do not run, the writes under way move bytes to the socket.

`write_queue_` has two roles: what waits to be written, and whether a write is under way. So the
front stays in the queue until its write has completed. `DoWrite` does not check that no write is
under way, and the model allows any number of them; that there is never more than one is what
`Flow` says.
-/

namespace Game

/-- The write side of a `TcpConnection`. -/
structure WriteSide where
  /-- `write_queue_` -/
  writeQueue : List Buffer := []
  /-- What each `async_write` under way still has to give to the socket. -/
  outstanding : List Buffer := []
  /-- The bytes given to the socket so far. -/
  socket : Buffer := []
deriving DecidableEq, Repr

namespace WriteSide

/-- `DoWrite`. -/
def doWrite (c : WriteSide) : WriteSide :=
  match c.writeQueue with
  | [] => c
  | front :: _ => { c with outstanding := c.outstanding ++ [front] }

/-- The handler that `Send` posts. -/
def onSend (c : WriteSide) (packet : Packet) : WriteSide :=
  let writing := c.writeQueue ≠ []
  match Codec.encode packet with
  -- The exception leaves the handler before anything is pushed.
  | .error _ => c
  | .ok bytes =>
    let c := { c with writeQueue := c.writeQueue ++ [bytes] }
    if writing then c else c.doWrite

/-- The completion handler of a write that has not failed. -/
def onWritten (c : WriteSide) : WriteSide :=
  let c := { c with writeQueue := c.writeQueue.tail }
  if c.writeQueue ≠ [] then c.doWrite else c

/-- What happens to the write side of a connection. -/
inductive Event where
  | send (packet : Packet)
  /-- The `i`-th write under way gives up to `n` bytes to the socket. -/
  | transfer (i n : Nat)
  /-- The `i`-th write under way completes, if it has given everything. -/
  | written (i : Nat)

def step (c : WriteSide) : Event → WriteSide
  | .send packet => c.onSend packet
  | .transfer i n =>
    match c.outstanding[i]? with
    | none => c
    | some left =>
      { c with
        outstanding := c.outstanding.set i (left.drop n)
        socket := c.socket ++ left.take n }
  | .written i =>
    match c.outstanding[i]? with
    | some [] => { c with outstanding := c.outstanding.eraseIdx i }.onWritten
    | _ => c

/-- The packets of a run, in the order in which their handlers run. -/
def sent : List Event → List Packet
  | [] => []
  | .send packet :: events => packet :: sent events
  | .transfer _ _ :: events | .written _ :: events => sent events

/-! ## One write at a time -/

/-- Everything up to `stream` has been written, or one write is under way: that of the front of the
queue. -/
inductive Flow (c : WriteSide) (stream : Buffer) : Prop
  | idle (hqueue : c.writeQueue = []) (hout : c.outstanding = []) (hsocket : c.socket = stream)
  | writing {front left : Buffer} {rest : List Buffer} (hqueue : c.writeQueue = front :: rest)
      (hout : c.outstanding = [left]) (hfront : left <:+ front)
      (hsocket : c.socket ++ left ++ rest.flatten = stream)

variable {c : WriteSide} {stream : Buffer}

/-- The next write begins when none is under way. -/
theorem flow_doWrite (hout : c.outstanding = [])
    (hsocket : c.socket ++ c.writeQueue.flatten = stream) : Flow c.doWrite stream := by
  unfold doWrite
  split
  · next hqueue =>
    rw [hqueue] at hsocket
    exact .idle hqueue hout (by simpa using hsocket)
  · next front rest hqueue =>
    refine .writing hqueue ?_ (List.suffix_refl front) ?_
    · simp [hout]
    · rw [hqueue] at hsocket
      simpa using hsocket

theorem flow_onSend {packet : Packet} {bytes : Buffer} (h : Flow c stream)
    (hencode : Codec.encode packet = .ok bytes) : Flow (c.onSend packet) (stream ++ bytes) := by
  unfold onSend
  rw [hencode]
  dsimp only
  cases h with
  | idle hqueue hout hsocket =>
    rw [if_neg (by simp [hqueue])]
    refine flow_doWrite hout ?_
    simp [hqueue, hsocket]
  | writing hqueue hout hfront hsocket =>
    rw [if_pos (by simp [hqueue])]
    refine .writing (by rw [hqueue]; rfl) hout hfront ?_
    rw [← hsocket]
    simp

/-- A write that has been completed was that of the front. -/
theorem flow_onWritten (hout : c.outstanding = [])
    (hsocket : c.socket ++ c.writeQueue.tail.flatten = stream) : Flow c.onWritten stream := by
  unfold onWritten
  dsimp only
  split
  · exact flow_doWrite hout hsocket
  · next hempty =>
    rw [not_not] at hempty
    rw [hempty] at hsocket
    exact .idle hempty hout (by simpa using hsocket)

theorem flow_transfer (h : Flow c stream) (i n : Nat) : Flow (c.step (.transfer i n)) stream := by
  dsimp only [step]
  split
  · exact h
  · next left hleft =>
    cases h with
    | idle hqueue hout hsocket => simp [hout] at hleft
    | @writing front left' rest hqueue hout hfront hsocket =>
      -- There is one write under way, so `i` is its index.
      rw [hout] at hleft
      obtain ⟨rfl, rfl⟩ : i = 0 ∧ left' = left := by
        rcases i with _ | i <;> simp_all
      refine .writing hqueue (by simp [hout]) ((List.drop_suffix n left').trans hfront) ?_
      show c.socket ++ left'.take n ++ left'.drop n ++ rest.flatten = stream
      rw [List.append_assoc c.socket, List.take_append_drop, hsocket]

theorem flow_written (h : Flow c stream) (i : Nat) : Flow (c.step (.written i)) stream := by
  dsimp only [step]
  split
  · next hleft =>
    cases h with
    | idle hqueue hout hsocket => simp [hout] at hleft
    | @writing front left rest hqueue hout hfront hsocket =>
      rw [hout] at hleft
      obtain ⟨rfl, rfl⟩ : i = 0 ∧ left = [] := by
        rcases i with _ | i <;> simp_all
      refine flow_onWritten (by simp [hout]) ?_
      rw [← hsocket]
      simp [hqueue]
  · exact h

/-! ## Any order of the handlers -/

/-- `Encode` of one packet and of those behind it. -/
theorem encodeAll_cons {packet : Packet} {packets : List Packet} {stream : Buffer}
    (h : Codec.encodeAll (packet :: packets) = .ok stream) :
    ∃ bytes rest, Codec.encode packet = .ok bytes ∧ Codec.encodeAll packets = .ok rest ∧
      bytes ++ rest = stream := by
  have hfits := fits_of_encodeAll h
  rw [List.forall_mem_cons] at hfits
  have hencode := Codec.encode_eq hfits.1
  have hrest := Codec.encodeAll_eq packets hfits.2
  refine ⟨_, _, hencode, hrest, ?_⟩
  rw [Codec.encodeAll, hencode, hrest] at h
  exact Except.ok.inj h

/-- **A run keeps the flow**, with what it sends behind what was sent before. -/
theorem flow_run {events : List Event} {more : Buffer} (h : Flow c stream)
    (hencode : Codec.encodeAll (sent events) = .ok more) :
    Flow (events.foldl step c) (stream ++ more) := by
  induction events generalizing c stream more with
  | nil =>
    cases hencode
    simpa using h
  | cons e events ih =>
    cases e with
    | send packet =>
      obtain ⟨bytes, rest, hbytes, hrest, rfl⟩ := encodeAll_cons hencode
      rw [← List.append_assoc]
      exact ih (flow_onSend h hbytes) hrest
    | transfer i n => exact ih (flow_transfer h i n) hencode
    | written i => exact ih (flow_written h i) hencode

/-- What a flow looks like from outside. -/
theorem Flow.observed (h : Flow c stream) :
    c.outstanding.length ≤ 1 ∧ (c.outstanding ≠ [] ↔ c.writeQueue ≠ []) ∧
    c.socket <+: stream ∧ (c.outstanding = [] → c.socket = stream) := by
  cases h with
  | idle hqueue hout hsocket => simp [hqueue, hout, hsocket]
  | @writing front left rest hqueue hout hfront hsocket =>
    refine ⟨by simp [hout], by simp [hqueue, hout], ⟨left ++ rest.flatten, ?_⟩, by simp [hout]⟩
    rw [← hsocket, List.append_assoc]

/--
**Packets leave in order, once, one write at a time.**

Any order of `Send` handlers with packets that can be encoded, of progress of the writes and of
completions, from a new connection. At most one write is under way, and one is exactly when the queue
is not empty. The socket has got the beginning of the packets sent, in their order, and all of them
when no write is under way.
-/
theorem writes_in_order (events : List Event) (stream : Buffer)
    (hencode : Codec.encodeAll (sent events) = .ok stream) :
    let c := events.foldl step ({} : WriteSide)
    c.outstanding.length ≤ 1 ∧ (c.outstanding ≠ [] ↔ c.writeQueue ≠ []) ∧
    c.socket <+: stream ∧ (c.outstanding = [] → c.socket = stream) := by
  intro c
  have hflow : Flow c ([] ++ stream) := flow_run (.idle rfl rfl rfl) hencode
  exact hflow.observed

/-- The second of two packets is sent while the first is being written. -/
theorem writes_in_order_two :
    let c := [.send { msgId := 1 }, .transfer 0 5, .send { msgId := 2 }, .transfer 0 7, .written 0,
      .transfer 0 12, .written 0].foldl step ({} : WriteSide)
    c.outstanding = [] ∧ c.socket =
      [0, 0, 0, 8, 0, 0, 0, 1, 0, 0, 0, 0, 0, 0, 0, 8, 0, 0, 0, 2, 0, 0, 0, 0] := by
  have h := writes_in_order [.send { msgId := 1 }, .transfer 0 5, .send { msgId := 2 },
    .transfer 0 7, .written 0, .transfer 0 12, .written 0]
    [0, 0, 0, 8, 0, 0, 0, 1, 0, 0, 0, 0, 0, 0, 0, 8, 0, 0, 0, 2, 0, 0, 0, 0] rfl
  exact ⟨rfl, h.2.2.2 rfl⟩

end WriteSide
end Game
