import GameServer.Infra.Base128
import GameServer.Protocol.NetServer
import GameServer.Server.Answers

/-!
# From client to client

Whatever the network does, the services get the requests of a client in the order in which it has
written them, and a client reads what the services have sent to it in their order. So a client that
does not wait for answers can tell which answer belongs to which request.

The handlers of these runs are called one at a time (`NetServer.step`). Messages that do not fit
into a packet never leave the server, so the results about what clients read have a condition on
them.
-/

namespace Game

open Infra.Framing Infra.Wire Codec

variable {F : Type}

/-- A client writes these messages, one packet behind the other. -/
def Speaks (L : Lib) (messages : List ClientMessage) (wire : Buffer) : Prop :=
  ∃ packets, encodeAll packets = .ok wire ∧ List.Forall₂ (ClientMessage.In L) messages packets

/-! ## Requests -/

theorem ClientMessage.In.sealed {L : Lib} {m : ClientMessage} {packet : Packet}
    (h : m.In L packet) : m.In L (sealed packet) :=
  ⟨h.msgId, h.body, h.fits⟩

/-- The calls in the bytes of a client. -/
theorem Speaks.calls {P : Protobuf F} {messages : List ClientMessage} {wire : Buffer}
    (h : Speaks P.lib messages wire) :
    (frames.drain wire).2.2 = none ∧
      (frames.drain wire).1.filterMap (callOf P) = messages.map (·.call P) := by
  obtain ⟨packets, hencode, hin⟩ := h
  have hfits := fits_of_encodeAll hencode
  rw [encodeAll_eq packets hfits] at hencode
  cases hencode
  rw [drain_bytes packets hfits]
  refine ⟨rfl, ?_⟩
  clear hfits
  induction hin with
  | nil => rfl
  | cons h _ ih =>
    rw [List.map_cons, List.filterMap_cons, callOf_eq h.sealed, List.map_cons]
    exact congrArg _ ih

namespace ServiceAction

/-- What the action is for the rest of the server. The leaderboard is apart. -/
def event? : ServiceAction F → Option (Event F)
  | accept nowMs => some (.accept nowMs)
  | call session env (.login account) => some (.packet session env.nowMs (.login env.loaded account))
  | call session env (.request request) => some (.packet session env.nowMs request)
  | call _ _ (.rank _) => none
  | close session => some (.close session)
  | heartbeatScan nowMs => some (.heartbeatScan nowMs)
  | tick roomId env => some (.tick roomId env)

end ServiceAction

section

variable [Axis F]

omit [Axis F] in
theorem Service.server_handleRankRequest (s : Service F) (session : SessionId)
    (redis : Option RedisClient) (request : Option (Int32 × Int32)) :
    (s.handleRankRequest session redis request).server = s.server := by
  unfold handleRankRequest
  split
  · rfl
  · split <;> rfl

/-- The leaderboard does not concern the rest of the server. -/
theorem Service.server_run (acts : List (ServiceAction F)) (s : Service F) :
    (s.run acts).server = s.server.run (acts.filterMap ServiceAction.event?) := by
  induction acts generalizing s with
  | nil => rfl
  | cons a acts ih =>
    show ((s.step a).run acts).server = _
    rw [ih, List.filterMap_cons]
    cases a with
    | call session env call =>
      cases call with
      | rank request => exact congrArg (Server.run · _) (server_handleRankRequest ..)
      | login | request => rfl
    | accept | close | heartbeatScan | tick => rfl

namespace NetServer

omit [Axis F] in
theorem linked_init (P : Protobuf F) (roomPlayerCount : Int) (wires : SessionId → Buffer) :
    Linked P wires [] (init roomPlayerCount wires) :=
  fun session => ⟨⟨[], Connection.sound_init (wires session), rfl⟩, rfl⟩

/-! ## A client that sends a heartbeat -/

/-- No coordinates are read or sent. -/
def noFloats : Protobuf Coord where
  lib := Base128.lib
  value _ := some 0
  word _ := .zero

/-- The bytes of a heartbeat from the first client. -/
def heartbeat : SessionId → Buffer
  | 1 => [0, 0, 0, 8, 0, 0, 3, 235, 0, 0, 0, 0]
  | _ => []

theorem speaks_heartbeat : Speaks Base128.lib [.heartbeat {}] (heartbeat 1) :=
  ⟨[{ msgId := 1003 }], by decide, .cons ⟨rfl, ⟨[], rfl, nofun⟩, Nat.zero_le _⟩ .nil⟩

/-- It is read in two pieces, and the answer is written. -/
def heartbeatEvents : List Event :=
  let env : CallEnv := { nowMs := 7, loaded := ⟨"", 0⟩, redis := none }
  [.accept 0, .connection 1 (.read 5) env, .connection 1 (.read 100) env,
    .connection 1 .message env, .connection 1 .posted env, .connection 1 (.transfer 0 100) env,
    .connection 1 (.written 0) env]

/-! ## Runs -/

/--
**Requests arrive.**

Whatever happens to the connections, the services do `acts`, one action after the other: their state
and everything they have sent come from that and from nothing else. For a client that speaks the
protocol, the calls of its session among them are the beginning of what it means, in the order in
which it has written it: everything, when all has been read and handed over. What the other clients
write does not matter.
-/
theorem requests_arrive (P : Protobuf F) (roomPlayerCount : Int) (wires : SessionId → Buffer)
    (events : List Event) :
    let s := (init roomPlayerCount wires : NetServer F).run P events
    let acts := actions P (init roomPlayerCount wires) events
    s.service = ({ server := Server.init roomPlayerCount } : Service F).run acts ∧
      s.service.server = (Server.init roomPlayerCount).run (acts.filterMap ServiceAction.event?) ∧
      ∀ session messages, Speaks P.lib messages (wires session) →
        callsFrom session acts <+: messages.map (·.call P) ∧
        ((s.connections session).unread = [] → (s.connections session).inbox = [] →
          callsFrom session acts = messages.map (·.call P)) := by
  intro s acts
  have hlinked := linked_run (linked_init P roomPlayerCount wires) events
  rw [List.nil_append] at hlinked
  have hservice : s.service = ({ server := Server.init roomPlayerCount } : Service F).run acts :=
    run_service P events _
  refine ⟨hservice, ?_, fun session messages hspeaks => ?_⟩
  · rw [hservice, Service.server_run]
  · obtain ⟨hgood, hcalls⟩ := hspeaks.calls
    obtain ⟨handlers, hsound, -⟩ := (hlinked session).sound
    rw [← (hlinked session).calls, ← hcalls]
    exact ⟨hsound.prefix_got.filterMap _, fun hunread hinbox => by
      rw [hsound.got_eq hgood hunread hinbox]⟩

/-- The heartbeat is called. -/
theorem requests_arrive_heartbeat :
    callsFrom 1 (actions noFloats (init 2 heartbeat : NetServer Coord) heartbeatEvents) =
      [.request .heartbeat] := by
  obtain ⟨-, -, hcalls⟩ := requests_arrive noFloats 2 heartbeat heartbeatEvents
  exact (hcalls 1 _ speaks_heartbeat).2 (by decide +kernel) (by decide +kernel)

/-! ## Responses -/

/-- What a client makes of the reads of its connection: every packet is parsed as its `msg_id` says,
`none` when that fails. -/
def clientReads (L : Lib) (chunks : List Buffer) : List (Option ServerMessage) :=
  (ReadSide.readChunks {} chunks).delivered.map (ServerMessage.ofPacket L)

omit [Axis F] in
/-- Messages that fit are read as they are. -/
theorem clientReads_all {P : Protobuf F} {replies : List (Outgoing F)}
    (hfits : ∀ reply ∈ replies, (reply.proto P).Fits P.lib) :
    frames.drain (Connection.encoded (packetsOf P replies)) =
      ((packetsOf P replies).map sealed, [], none) ∧
    ((packetsOf P replies).map sealed).map (ServerMessage.ofPacket P.lib) =
      replies.map fun reply => some (reply.proto P) := by
  have hpackets : ∀ p ∈ packetsOf P replies, Fits p := by
    intro p hp
    obtain ⟨reply, hreply, rfl⟩ := List.mem_map.mp hp
    exact ServerMessage.fits_build (hfits reply hreply)
  constructor
  · rw [Connection.encoded_eq hpackets, drain_bytes _ hpackets]
  · rw [List.map_map, packetsOf, List.map_map]
    exact List.map_congr_left fun reply hreply => ServerMessage.ofPacket_build (hfits reply hreply)

omit [Axis F] in
/-- A client reads the beginning of what its connection has to write. -/
theorem Carries.prefix_clientReads {P : Protobuf F} {wire : Buffer} {calls : List (Call F)}
    {replies : List (Outgoing F)} {c : Connection} (h : Carries P wire calls replies c)
    (hfits : ∀ reply ∈ replies, (reply.proto P).Fits P.lib) {chunks : List Buffer}
    (hchunks : chunks.flatten <+: c.writeSide.socket) :
    clientReads P.lib chunks <+: replies.map fun reply => some (reply.proto P) := by
  obtain ⟨handlers, hsound, hsends⟩ := h.sound
  obtain ⟨hdrain, hmessages⟩ := clientReads_all hfits
  have hsocket := hsound.prefix_socket
  rw [hsends] at hsocket
  have hprefix := (Connection.prefix_delivered chunks).trans
    (Connection.prefix_drain (hchunks.trans hsocket))
  rw [hdrain] at hprefix
  have hread := hprefix.map (ServerMessage.ofPacket P.lib)
  rw [hmessages] at hread
  exact hread

omit [Axis F] in
/-- All of it, when the connection has nothing left to do. -/
theorem Carries.clientReads_eq {P : Protobuf F} {wire : Buffer} {calls : List (Call F)}
    {replies : List (Outgoing F)} {c : Connection} (h : Carries P wire calls replies c)
    (hfits : ∀ reply ∈ replies, (reply.proto P).Fits P.lib) {chunks : List Buffer}
    (hposted : c.posted = []) (hqueue : c.writeSide.writeQueue = [])
    (hchunks : chunks.flatten = c.writeSide.socket) :
    clientReads P.lib chunks = replies.map fun reply => some (reply.proto P) := by
  obtain ⟨handlers, hsound, hsends⟩ := h.sound
  obtain ⟨hdrain, hmessages⟩ := clientReads_all hfits
  have hstream := hchunks.trans (hsound.socket_eq hposted hqueue)
  rw [hsends] at hstream
  have hgood : (frames.drain chunks.flatten).2.2 = none := by rw [hstream, hdrain]
  show (ReadSide.readChunks {} chunks).delivered.map _ = _
  rw [ReadSide.readChunks_good hgood, hstream, hdrain]
  exact hmessages

/--
**Messages arrive.**

As long as every message to the session fits into a packet: whatever happens to the connections, a
client that reads what its connection has written, in pieces of any size, gets the beginning of the
messages that the services have sent to its session, in their order and each as the handler has filled
it in. It gets all of them, when nothing is posted or queued any more and everything has been read.
-/
theorem messages_arrive (P : Protobuf F) (roomPlayerCount : Int) (wires : SessionId → Buffer)
    (events : List Event) (session : SessionId) (chunks : List Buffer)
    (hfits : ∀ reply ∈ repliesTo session
      ((init roomPlayerCount wires : NetServer F).run P events).service.sent,
      (reply.proto P).Fits P.lib)
    (hchunks : chunks.flatten <+:
      (((init roomPlayerCount wires : NetServer F).run P events).connections
        session).writeSide.socket) :
    let s := (init roomPlayerCount wires : NetServer F).run P events
    let c := s.connections session
    let messages := (repliesTo session s.service.sent).map fun reply => some (reply.proto P)
    clientReads P.lib chunks <+: messages ∧
      (c.posted = [] → c.writeSide.writeQueue = [] → chunks.flatten = c.writeSide.socket →
        clientReads P.lib chunks = messages) := by
  intro s c messages
  have hcarries := linked_run (linked_init P roomPlayerCount wires) events session
  exact ⟨hcarries.prefix_clientReads hfits hchunks, fun hposted hqueue hall =>
    hcarries.clientReads_eq hfits hposted hqueue hall⟩

/-- The answer to the heartbeat, in two pieces. -/
theorem messages_arrive_heartbeat :
    let s := (init 2 heartbeat : NetServer Coord).run noFloats heartbeatEvents
    clientReads Base128.lib [[0, 0, 0, 10, 0], [0, 3, 236, 0, 0, 0, 0, 8, 7]] =
      (repliesTo 1 s.service.sent).map fun reply => some (reply.proto noFloats) := by
  have h := messages_arrive noFloats 2 heartbeat heartbeatEvents 1
    [[0, 0, 0, 10, 0], [0, 3, 236, 0, 0, 0, 0, 8, 7]] (by decide +kernel) (by decide +kernel)
  exact h.2 (by decide +kernel) (by decide +kernel) (by decide +kernel)

end NetServer

end

/-! ## Answers -/

def Call.answer? : Call F → Option Answer
  | login _ => some .login
  | request r => r.answer?
  | rank _ => none

def Outgoing.answer? : Outgoing F → Option Answer
  | message m => m.answer?
  | rank _ => none

/-- What a client that writes this message is waiting for. -/
def ClientMessage.answer? : ClientMessage → Option Answer
  | login _ => some .login
  | heartbeat _ => some .heartbeat
  | reconnect _ => some .reconnect
  | cancelMatch _ => some .cancelMatch
  | leaveRoom _ => some .leaveRoom
  | _ => none

/-- What a client takes a message for. -/
def ServerMessage.answer? (m : ServerMessage) : Option Answer :=
  match m.kind with
  | .loginResponse => some .login
  | .heartbeatResponse => some .heartbeat
  | .reconnectResponse => some .reconnect
  | .matchCancelResponse => some .cancelMatch
  | .leaveRoomResponse => some .leaveRoom
  | _ => none

theorem Outgoing.answer?_proto (P : Protobuf F) (reply : Outgoing F) :
    (reply.proto P).answer? = reply.answer? := by
  cases reply with
  | message m => cases m <;> rfl
  | rank entries => rfl

theorem ClientMessage.answer?_call (P : Protobuf F) (m : ClientMessage) :
    (m.call P).answer? = m.answer? := by
  cases m <;> rfl

/-- Those of the answers that are for a session. -/
def answersTo (session : SessionId) (answers : List (SessionId × Answer)) : List Answer :=
  answers.filterMap fun x => if x.1 = session then some x.2 else none

theorem filterMap_repliesTo (session : SessionId) (messages : List (SessionId × Message F)) :
    (repliesTo session (messages.map fun x => (x.1, .message x.2))).filterMap Outgoing.answer? =
      answersTo session (answersOf messages) := by
  unfold repliesTo answersTo answersOf
  rw [List.filterMap_map, List.filterMap_filterMap, List.filterMap_filterMap]
  refine List.filterMap_congr fun x _ => ?_
  obtain ⟨caller, m⟩ := x
  by_cases h : caller = session
  · simp only [Function.comp, if_pos h, Option.bind_some]
    show m.answer? = (m.answer?.map _).bind _
    cases m.answer? with
    | none => rfl
    | some answer => exact (if_pos h).symm
  · simp only [Function.comp, if_neg h, Option.bind_none]
    cases m.answer? with
    | none => rfl
    | some answer => exact (if_neg h).symm

theorem answersTo_toList (session caller : SessionId) (answer : Option Answer) :
    answersTo session (answer.map (caller, ·)).toList =
      if caller = session then answer.toList else [] := by
  cases answer with
  | none => exact (ite_self _).symm
  | some answer =>
    show [(caller, answer)].filterMap _ = _
    rw [List.filterMap_cons, List.filterMap_nil]
    split <;> simp_all

section

variable [Axis F]

/-- Every session has got the answers to its calls. -/
def Answered (acts : List (ServiceAction F)) (s : Service F) : Prop :=
  ∀ session, (repliesTo session s.sent).filterMap Outgoing.answer? =
    (callsFrom session acts).filterMap Call.answer?

/-- Calls come from sessions that have been accepted. -/
def ServiceAction.Admitted (s : Service F) : ServiceAction F → Prop
  | call session _ _ => session < s.server.nextSessionId
  | _ => True

variable {acts : List (ServiceAction F)} {s : Service F}

theorem answered_handle (h : Answered acts s) {a : ServiceAction F} {e : Event F}
    (ha : ∀ session, (callsFrom session [a]).filterMap Call.answer? =
      answersTo session (s.server.asks e)) : Answered (acts ++ [a]) (s.handle e) := by
  intro session
  obtain ⟨messages, hout, hanswers⟩ := Server.says_handle s.server e
  have hsent : (s.handle e).sent = s.sent ++ messages.map fun x => (x.1, .message x.2) := by
    show s.sent ++ ((s.server.handle e).out.drop _).map _ = _
    rw [hout, List.drop_left]
  rw [hsent, NetServer.repliesTo_append, NetServer.callsFrom_append, List.filterMap_append,
    List.filterMap_append, h session, ha, filterMap_repliesTo, hanswers]

theorem answered_call (h : Answered acts s) {caller : SessionId} (hcaller : caller <
    s.server.nextSessionId) {env : CallEnv} {call : Call F} {request : Request F}
    (hcall : call.answer? = request.answer?) :
    Answered (acts ++ [.call caller env call]) (s.handle (.packet caller env.nowMs request)) := by
  refine answered_handle h fun session => ?_
  rw [Server.asks, if_pos hcaller, answersTo_toList, NetServer.callsFrom_singleton]
  dsimp only
  split
  · show [call].filterMap Call.answer? = _
    rw [List.filterMap_cons, List.filterMap_nil, hcall]
    cases request.answer? <;> rfl
  · rfl

theorem answered_step (h : Answered acts s) {a : ServiceAction F} (ha : a.Admitted s) :
    Answered (acts ++ [a]) (s.step a) := by
  cases a with
  | call caller env call =>
    cases call with
    | login account => exact answered_call h ha rfl
    | request request => exact answered_call h ha rfl
    | rank request =>
      have hcalls : ∀ session, (callsFrom session [ServiceAction.call caller env
          (.rank request : Call F)]).filterMap Call.answer? = [] := fun session => by
        rw [NetServer.callsFrom_singleton]
        dsimp only
        split <;> rfl
      intro session
      rw [NetServer.callsFrom_append, List.filterMap_append, hcalls, List.append_nil, ← h session]
      show (repliesTo session (s.handleRankRequest caller env.redis request).sent).filterMap _ = _
      unfold Service.handleRankRequest
      split
      · rfl
      · split
        · rfl
        · rw [NetServer.repliesTo_append, List.filterMap_append]
          refine (congrArg (_ ++ ·) ?_).trans (List.append_nil _)
          unfold repliesTo
          rw [List.filterMap_cons, List.filterMap_nil]
          split
          · rfl
          · next heq =>
            split at heq
            · cases heq
              rfl
            · cases heq
  | accept | close | heartbeatScan | tick => exact answered_handle h fun _ => rfl

namespace NetServer

variable {P : Protobuf F} {s : NetServer F}

omit [Axis F] in
theorem admitted_action? {e : Event} {a : ServiceAction F} (h : s.action? P e = some a) :
    a.Admitted s.service := by
  cases e with
  | accept nowMs => cases h; trivial
  | heartbeatScan nowMs => cases h; trivial
  | tick roomId env => cases h; trivial
  | close session => cases h
  | connection session e env =>
    unfold action? at h
    dsimp only at h
    split at h
    · next hs =>
      split at h
      · cases h
      · cases h
        trivial
      · obtain ⟨call, -, rfl⟩ := Option.map_eq_some_iff.mp h
        exact hs.1
    · cases h

theorem answered_run (h : Answered acts s.service) (events : List Event) :
    Answered (acts ++ actions P s events) (s.run P events).service := by
  induction events generalizing acts s with
  | nil =>
    rw [actions, List.append_nil]
    exact h
  | cons e events ih =>
    rw [actions, ← List.append_assoc]
    refine ih ?_
    rw [service_step]
    cases haction : s.action? P e with
    | none =>
      rw [Option.toList_none, List.append_nil]
      exact h
    | some a => exact answered_step h (admitted_action? haction)

/--
**Answers arrive in the order of the requests.**

A client writes requests without waiting. As long as every message to its session fits into a packet,
the answers among what it has read so far, from whatever the network has brought of it, are the
beginning of the answers that its requests ask for, in their order: the first login response answers the
first login and so on. No answer is read twice or left out before another one.
-/
theorem answers_arrive (P : Protobuf F) (roomPlayerCount : Int) (wires : SessionId → Buffer)
    (events : List Event) (session : SessionId) (messages : List ClientMessage)
    (chunks : List Buffer) (hspeaks : Speaks P.lib messages (wires session))
    (hfits : ∀ reply ∈ repliesTo session
      ((init roomPlayerCount wires : NetServer F).run P events).service.sent,
      (reply.proto P).Fits P.lib)
    (hchunks : chunks.flatten <+:
      (((init roomPlayerCount wires : NetServer F).run P events).connections
        session).writeSide.socket) :
    (clientReads P.lib chunks).filterMap (·.bind ServerMessage.answer?) <+:
      messages.filterMap ClientMessage.answer? := by
  have hlinked := linked_run (linked_init P roomPlayerCount wires) events
  have hinit : Answered [] (init roomPlayerCount wires : NetServer F).service := fun _ => rfl
  have hanswered := answered_run (P := P) hinit events session
  obtain ⟨handlers, hsound, -⟩ := (hlinked session).sound
  have hcalls := hsound.prefix_got.filterMap (callOf P)
  rw [(hlinked session).calls, hspeaks.calls.2, List.nil_append] at hcalls
  have hread := ((hlinked session).prefix_clientReads hfits hchunks).filterMap
    (·.bind ServerMessage.answer?)
  have hasked := hcalls.filterMap Call.answer?
  rw [List.nil_append] at hanswered
  rw [← hanswered, List.filterMap_map] at hasked
  rw [List.filterMap_map] at hread
  have hreplies : ∀ replies : List (Outgoing F),
      replies.filterMap ((·.bind ServerMessage.answer?) ∘ fun reply => some (reply.proto P)) =
        replies.filterMap Outgoing.answer? := fun replies =>
    List.filterMap_congr fun reply _ => reply.answer?_proto P
  have hmessages : messages.filterMap (Call.answer? ∘ (·.call P)) =
      messages.filterMap ClientMessage.answer? :=
    List.filterMap_congr fun m _ => m.answer?_call P
  rw [hreplies] at hread
  rw [hmessages] at hasked
  exact hread.trans hasked

/-- The answer is that to the heartbeat. -/
theorem answers_arrive_heartbeat :
    (clientReads Base128.lib [[0, 0, 0, 10, 0], [0, 3, 236, 0, 0, 0, 0, 8, 7]]).filterMap
      (·.bind ServerMessage.answer?) <+: [.heartbeat] :=
  answers_arrive noFloats 2 heartbeat heartbeatEvents 1 [.heartbeat {}]
    [[0, 0, 0, 10, 0], [0, 3, 236, 0, 0, 0, 0, 8, 7]] speaks_heartbeat (by decide +kernel)
    (by decide +kernel)

end NetServer

end

end Game
