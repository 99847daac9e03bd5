import GameServer.Net.Connection
import GameServer.Protocol.Replies

/-!
# The server on the network

Two levels of the same server. `Service` handles calls and hands messages to sessions, one after the
other. `NetServer` is the same with a `TcpConnection` for every session: it reads bytes, decodes
packets, parses requests, and serializes, encodes and writes what it answers, while reads and writes
make progress or fail in any order.

A `NetServer` does what its `Service` does (`run_service`): the calls of a session are what its
connection has handed over, and what the session has been sent is what its connection has to write.

The server handles one call at a time here: an event that hands a packet over is one with the whole
handler (`act`). The `worker_threads` of the real one may be inside several handlers at once, and what
these do to each other is left to `Server.Threads` and the modules on concurrent handlers.
-/

namespace Game

open Infra.Wire

variable {F : Type}

/-! ## Calls and messages -/

/-- What comes from outside while a request is handled. -/
structure CallEnv where
  nowMs : Int
  /-- What `LoadPlayer` returns to a login. -/
  loaded : LoadedPlayer
  redis : Option RedisClient

/-- The services. -/
structure Service (F : Type) where
  server : Server F
  /-- What has been handed to `Session::Send`, pages of the leaderboard included. -/
  sent : List (SessionId × Outgoing F) := []

/-- Something that the services do. -/
inductive ServiceAction (F : Type) where
  | accept (nowMs : Int)
  | call (session : SessionId) (env : CallEnv) (call : Call F)
  | close (session : SessionId)
  | heartbeatScan (nowMs : Int)
  | tick (roomId : RoomId) (env : TickEnv)

/-- What has been sent to a session. -/
def repliesTo (session : SessionId) (sent : List (SessionId × Outgoing F)) : List (Outgoing F) :=
  sent.filterMap fun x => if x.1 = session then some x.2 else none

/-- The calls of a session. -/
def callsFrom (session : SessionId) (actions : List (ServiceAction F)) : List (Call F) :=
  actions.filterMap fun
    | .call caller _ call => if caller = session then some call else none
    | _ => none

namespace Service

variable [Axis F]

/-- What the handler sends goes behind what has been sent. -/
def handle (s : Service F) (e : Event F) : Service F :=
  let server := s.server.handle e
  { server
    sent := s.sent ++ (server.out.drop s.server.out.length).map fun x => (x.1, .message x.2) }

/-- `RankService::HandleRankRequest`. A request that overflows is undefined behaviour, and nothing
is sent here. -/
def handleRankRequest (s : Service F) (session : SessionId) (redis : Option RedisClient) :
    Option (Int32 × Int32) → Service F
  | none => s
  | some (offset, limit) =>
    match RankService.getTopN redis offset limit with
    | none => s
    | some entries => { s with sent := s.sent ++ [(session, .rank entries)] }

def step (s : Service F) : ServiceAction F → Service F
  | .accept nowMs => s.handle (.accept nowMs)
  | .call session env (.login account) =>
    s.handle (.packet session env.nowMs (.login env.loaded account))
  | .call session env (.request request) => s.handle (.packet session env.nowMs request)
  | .call session env (.rank request) => s.handleRankRequest session env.redis request
  | .close session => s.handle (.close session)
  | .heartbeatScan nowMs => s.handle (.heartbeatScan nowMs)
  | .tick roomId env => s.handle (.tick roomId env)

def run (s : Service F) (actions : List (ServiceAction F)) : Service F :=
  actions.foldl step s

end Service

/-! ## Bytes -/

/-- The services with the connections of all sessions. -/
structure NetServer (F : Type) where
  service : Service F
  connections : SessionId → Connection

namespace NetServer

/-- What happens to the server. -/
inductive Event where
  | accept (nowMs : Int)
  | heartbeatScan (nowMs : Int)
  | tick (roomId : RoomId) (env : TickEnv)
  /-- `Session::Close` of a session that the services want closed. -/
  | close (session : SessionId)
  | connection (session : SessionId) (e : Connection.Event) (env : CallEnv)

/-- Before anything has happened; `wires` are the bytes that the clients are going to write. -/
def init (roomPlayerCount : Int) (wires : SessionId → Buffer) : NetServer F where
  service := { server := Server.init roomPlayerCount }
  connections session := { unread := wires session }

/-- Whether an event of a connection happens: the session has been accepted. -/
def Happens (s : NetServer F) (session : SessionId) (e : Connection.Event) : Prop :=
  session < s.service.server.nextSessionId ∧ (s.connections session).Enabled e

instance (s : NetServer F) (session : SessionId) (e : Connection.Event) :
    Decidable (s.Happens session e) :=
  inferInstanceAs (Decidable (_ ∧ _))

/-- The part of an event that concerns a connection only. -/
def advance (s : NetServer F) : Event → NetServer F
  | .close session =>
    if (s.service.server.sessionHeap session).closing then
      { s with connections :=
          Function.update s.connections session ((s.connections session).post .close) }
    else s
  | .connection session e _ =>
    if s.Happens session e then
      { s with connections :=
          Function.update s.connections session ((s.connections session).step e) }
    else s
  | _ => s

/-- What the services do in an event. -/
def action? (P : Protobuf F) (s : NetServer F) : Event → Option (ServiceAction F)
  | .accept nowMs => some (.accept nowMs)
  | .heartbeatScan nowMs => some (.heartbeatScan nowMs)
  | .tick roomId env => some (.tick roomId env)
  | .close _ => none
  | .connection session e env =>
    if s.Happens session e then
      match (s.connections session).callback e with
      | none => none
      | some .close => some (.close session)
      | some (.message packet) => (callOf P packet).map (.call session env)
    else none

/-- `Session::Send`. -/
def send (P : Protobuf F) (c : Connection) (reply : Outgoing F) : Connection :=
  c.post (.send ((reply.proto P).build P.lib))

variable [Axis F]

/-- The services do something, and what they send is posted to the connections. -/
def act (P : Protobuf F) (s : NetServer F) (a : ServiceAction F) : NetServer F :=
  let service := s.service.step a
  let sent := service.sent.drop s.service.sent.length
  { service
    connections := fun session =>
      (repliesTo session sent).foldl (send P) (s.connections session) }

def step (P : Protobuf F) (s : NetServer F) (e : Event) : NetServer F :=
  match s.action? P e with
  | none => s.advance e
  | some a => (s.advance e).act P a

def run (P : Protobuf F) (s : NetServer F) (events : List Event) : NetServer F :=
  events.foldl (step P) s

/-- What the services do in a run. -/
def actions (P : Protobuf F) : NetServer F → List Event → List (ServiceAction F)
  | _, [] => []
  | s, e :: events => (s.action? P e).toList ++ actions P (s.step P e) events

/-! ## The services do what they do without a network -/

omit [Axis F] in
theorem service_advance (s : NetServer F) (e : Event) : (s.advance e).service = s.service := by
  unfold advance
  split
  · split <;> rfl
  · split <;> rfl
  · rfl

theorem service_step (P : Protobuf F) (s : NetServer F) (e : Event) :
    (s.step P e).service = s.service.run (s.action? P e).toList := by
  unfold step
  split
  · next h =>
    rw [h]
    exact service_advance s e
  · next a h =>
    rw [h]
    show (s.advance e).service.step a = _
    rw [service_advance]
    rfl

theorem run_service (P : Protobuf F) (events : List Event) (s : NetServer F) :
    (s.run P events).service = s.service.run (actions P s events) := by
  induction events generalizing s with
  | nil => rfl
  | cons e events ih =>
    show ((s.step P e).run P events).service = _
    rw [ih, service_step, actions, Service.run, Service.run, Service.run, List.foldl_append]

/-! ## The connections carry what the services do -/

omit [Axis F] in
theorem repliesTo_append (session : SessionId) (l l' : List (SessionId × Outgoing F)) :
    repliesTo session (l ++ l') = repliesTo session l ++ repliesTo session l' :=
  List.filterMap_append

omit [Axis F] in
theorem callsFrom_append (session : SessionId) (l l' : List (ServiceAction F)) :
    callsFrom session (l ++ l') = callsFrom session l ++ callsFrom session l' :=
  List.filterMap_append

/-- The services send by and by. -/
theorem exists_sent (s : Service F) (a : ServiceAction F) : ∃ more, (s.step a).sent = s.sent ++ more := by
  have hhandle : ∀ e, ∃ more, (s.handle e).sent = s.sent ++ more := fun e => ⟨_, rfl⟩
  cases a with
  | call session env call =>
    cases call with
    | login account => exact hhandle _
    | request request => exact hhandle _
    | rank request =>
      show ∃ more, (s.handleRankRequest session env.redis request).sent = _
      unfold Service.handleRankRequest
      split
      · exact ⟨[], (List.append_nil _).symm⟩
      · split
        · exact ⟨[], (List.append_nil _).symm⟩
        · exact ⟨_, rfl⟩
  | accept | close | heartbeatScan | tick => exact hhandle _

/-- The packets of messages. -/
def packetsOf (P : Protobuf F) (replies : List (Outgoing F)) : List Packet :=
  replies.map fun reply => (reply.proto P).build P.lib

/-- The connection of a session, whose client writes `wire`: it hands over the packets of the calls
in `calls`, and has to write `replies`. -/
structure Carries (P : Protobuf F) (wire : Buffer) (calls : List (Call F)) (replies : List (Outgoing F))
    (c : Connection) : Prop where
  sound : ∃ handlers, Connection.Sound wire handlers c ∧
    Connection.sends handlers = packetsOf P replies
  calls : c.got.filterMap (callOf P) = calls

variable {P : Protobuf F} {wire : Buffer} {calls : List (Call F)} {replies : List (Outgoing F)}
  {c : Connection}

omit [Axis F] in
theorem Carries.send (h : Carries P wire calls replies c) (reply : Outgoing F) :
    Carries P wire calls (replies ++ [reply]) (send P c reply) := by
  obtain ⟨handlers, hsound, hsends⟩ := h.sound
  refine ⟨⟨_, Connection.sound_post hsound _, ?_⟩, h.calls⟩
  rw [Connection.sends_append, hsends, packetsOf, packetsOf, List.map_append]
  rfl

omit [Axis F] in
theorem Carries.foldl (h : Carries P wire calls replies c) (more : List (Outgoing F)) :
    Carries P wire calls (replies ++ more) (more.foldl (NetServer.send P) c) := by
  induction more generalizing replies c with
  | nil =>
    rw [List.append_nil]
    exact h
  | cons reply more ih =>
    rw [List.append_cons]
    exact ih (h.send reply)

omit [Axis F] in
theorem Carries.close (h : Carries P wire calls replies c) :
    Carries P wire calls replies (c.post .close) := by
  obtain ⟨handlers, hsound, hsends⟩ := h.sound
  refine ⟨⟨_, Connection.sound_post hsound _, ?_⟩, h.calls⟩
  rw [Connection.sends_append, hsends]
  exact List.append_nil _

omit [Axis F] in
/-- What is handed over in an event is called. -/
theorem Carries.step (h : Carries P wire calls replies c) {e : Connection.Event}
    (he : c.Enabled e) :
    Carries P wire (calls ++ (((c.callback e).bind ConnectionCall.packet?).bind (callOf P)).toList) replies
      (c.step e) := by
  obtain ⟨handlers, hsound, hsends⟩ := h.sound
  refine ⟨⟨handlers, ?_, hsends⟩, ?_⟩
  · have hstep := Connection.sound_handle hsound (.event e)
    rw [show Connection.posts [.event e] = [] from rfl, List.append_nil, Connection.handle,
      if_pos he] at hstep
    exact hstep
  · rw [Connection.got_step hsound.handed_le, List.filterMap_append, h.calls]
    cases (c.callback e).bind ConnectionCall.packet? with
    | none => rfl
    | some packet =>
      show _ ++ [packet].filterMap (callOf P) = _ ++ (callOf P packet).toList
      rw [List.filterMap_cons, List.filterMap_nil]
      cases callOf P packet <;> rfl

/-- Every connection carries the calls and the messages of its session. -/
def Linked (P : Protobuf F) (wires : SessionId → Buffer) (acts : List (ServiceAction F))
    (s : NetServer F) : Prop :=
  ∀ session, Carries P (wires session) (callsFrom session acts)
    (repliesTo session s.service.sent) (s.connections session)

variable {wires : SessionId → Buffer} {acts : List (ServiceAction F)} {s : NetServer F}

theorem linked_act (h : Linked P wires acts s) (a : ServiceAction F) :
    Linked P wires acts (s.act P a) := by
  intro session
  obtain ⟨more, hmore⟩ := exists_sent s.service a
  have hfold := (h session).foldl (repliesTo session more)
  rw [← repliesTo_append, ← hmore] at hfold
  show Carries P _ _ (repliesTo session (s.service.step a).sent)
    ((repliesTo session ((s.service.step a).sent.drop s.service.sent.length)).foldl _ _)
  have hdrop : (s.service.step a).sent.drop s.service.sent.length = more := by
    rw [hmore, List.drop_left]
  rw [hdrop]
  exact hfold

omit [Axis F] in
/-- An event of one connection. -/
theorem linked_connection (h : Linked P wires acts s) {caller : SessionId}
    {e : Connection.Event} (he : s.Happens caller e) (more : List (ServiceAction F))
    (hcaller : callsFrom caller more =
      ((((s.connections caller).callback e).bind ConnectionCall.packet?).bind (callOf P)).toList)
    (hothers : ∀ session ≠ caller, callsFrom session more = []) :
    Linked P wires (acts ++ more)
      { s with
        connections := Function.update s.connections caller ((s.connections caller).step e) } := by
  intro session
  rw [callsFrom_append]
  show Carries P _ _ _ (Function.update s.connections caller _ session)
  rcases eq_or_ne session caller with rfl | hne
  · rw [Function.update_self, hcaller]
    exact (h session).step he.2
  · rw [Function.update_of_ne hne, hothers session hne, List.append_nil]
    exact h session

omit [Axis F] in
theorem callsFrom_singleton (session : SessionId) (a : ServiceAction F) :
    callsFrom session [a] = (match a with
      | .call caller _ call => if caller = session then some call else none
      | _ => none).toList := by
  unfold callsFrom
  rw [List.filterMap_cons, List.filterMap_nil]
  split <;> simp_all

/-- **Every event keeps the links.** -/
theorem linked_step (h : Linked P wires acts s) (e : Event) :
    Linked P wires (acts ++ (s.action? P e).toList) (s.step P e) := by
  have hact : ∀ a : ServiceAction F, (∀ session, callsFrom session [a] = []) →
      Linked P wires (acts ++ [a]) (s.act P a) := fun a ha session => by
    rw [callsFrom_append, ha, List.append_nil]
    exact linked_act h a session
  cases e with
  | accept nowMs => exact hact _ fun _ => rfl
  | heartbeatScan nowMs => exact hact _ fun _ => rfl
  | tick roomId env => exact hact _ fun _ => rfl
  | close closed =>
    intro session
    rw [callsFrom_append, show callsFrom session (s.action? P (.close closed)).toList = [] from rfl,
      List.append_nil]
    show Carries P _ _ (repliesTo session (s.advance (.close closed)).service.sent)
      ((s.advance (.close closed)).connections session)
    rw [service_advance]
    unfold advance
    dsimp only
    split
    · show Carries P _ _ _ (Function.update s.connections closed _ session)
      rcases eq_or_ne session closed with rfl | hne
      · rw [Function.update_self]
        exact (h session).close
      · rw [Function.update_of_ne hne]
        exact h session
    · exact h session
  | connection caller e env =>
    by_cases hs : s.Happens caller e
    · have hadvance : s.advance (.connection caller e env) = { s with
          connections :=
            Function.update s.connections caller ((s.connections caller).step e) } := if_pos hs
      have haction : s.action? P (.connection caller e env) =
          (match (s.connections caller).callback e with
          | none => none
          | some .close => some (.close caller)
          | some (.message packet) => (callOf P packet).map (.call caller env)) := if_pos hs
      unfold step
      rw [hadvance, haction]
      cases hcallback : (s.connections caller).callback e with
      | none =>
        exact linked_connection h hs [] (by rw [hcallback]; rfl) fun _ _ => rfl
      | some callback =>
        cases callback with
        | close =>
          exact linked_act (linked_connection h hs _ (by rw [hcallback]; rfl) fun _ _ => rfl) _
        | message packet =>
          dsimp only
          cases hcall : callOf P packet with
          | none =>
            refine linked_connection h hs [] ?_ fun _ _ => rfl
            rw [hcallback]
            exact congrArg Option.toList hcall.symm
          | some call =>
            refine linked_act (linked_connection h hs _ ?_ fun session hne => ?_) _
            · rw [hcallback]
              show callsFrom caller [ServiceAction.call caller env call] = (callOf P packet).toList
              rw [hcall, callsFrom_singleton]
              exact congrArg Option.toList (if_pos rfl)
            · show callsFrom session [ServiceAction.call caller env call] = []
              rw [callsFrom_singleton]
              exact congrArg Option.toList (if_neg hne.symm)
    · have hadvance : s.advance (.connection caller e env) = s := if_neg hs
      have haction : s.action? P (.connection caller e env) = none := if_neg hs
      unfold step
      rw [hadvance, haction]
      rw [show (none : Option (ServiceAction F)).toList = [] from rfl, List.append_nil]
      exact h

theorem linked_run (h : Linked P wires acts s) (events : List Event) :
    Linked P wires (acts ++ actions P s events) (s.run P events) := by
  induction events generalizing acts s with
  | nil =>
    rw [actions, List.append_nil]
    exact h
  | cons e events ih =>
    rw [actions, ← List.append_assoc]
    exact ih (linked_step h e)

end NetServer
end Game
