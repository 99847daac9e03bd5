import GameServer.Net.Segmentation
import GameServer.Protocol.Messages
import GameServer.Rank.RankService
import GameServer.Server.GameServer

/-!
# From bytes to requests

`src/protocol/message_id.h`, `src/server/message_dispatcher.cpp` and the beginning of every handler:
a packet is looked up by its `msg_id`, and the handler parses the body.
-/

namespace Game

open Infra.Wire Proto

variable {F : Type}

/-- The protobuf library, and what the bits of a `float` stand for. -/
structure Protobuf (F : Type) where
  lib : Lib
  value : FloatWord → F
  word : F → FloatWord

/-! ## Handlers -/

/-- The handlers that the services register. -/
inductive Handler where
  | handleLogin
  | handleHeartbeat
  | handleReconnect
  | handleMatch
  | handleCancelMatch
  | handleReady
  | handleInput
  | handleLeaveRoom
  | handleRankRequest
  deriving DecidableEq

/-- `handlers_` -/
abbrev MessageDispatcher := UInt32 → Option Handler

namespace MessageDispatcher

def registerHandler (msgId : UInt32) (handler : Handler) (d : MessageDispatcher) :
    MessageDispatcher :=
  Function.update d msgId (some handler)

end MessageDispatcher

open MessageDispatcher

/-- `LoginService::RegisterHandlers`. -/
def LoginService.registerHandlers (d : MessageDispatcher) : MessageDispatcher :=
  registerHandler 1005 .handleReconnect (registerHandler 1003 .handleHeartbeat
    (registerHandler 1001 .handleLogin d))

/-- `MatchService::RegisterHandlers`. -/
def MatchService.registerHandlers (d : MessageDispatcher) : MessageDispatcher :=
  registerHandler 2004 .handleCancelMatch (registerHandler 2001 .handleMatch d)

/-- `RoomManager::RegisterHandlers`. -/
def RoomManager.registerHandlers (d : MessageDispatcher) : MessageDispatcher :=
  registerHandler 3006 .handleLeaveRoom (registerHandler 4001 .handleInput
    (registerHandler 3001 .handleReady d))

/-- `RankService::RegisterHandlers`. -/
def RankService.registerHandlers (d : MessageDispatcher) : MessageDispatcher :=
  registerHandler 5001 .handleRankRequest d

/-- The handlers after `GameServer::Init`. -/
def handlers : MessageDispatcher :=
  RankService.registerHandlers (RoomManager.registerHandlers (MatchService.registerHandlers
    (LoginService.registerHandlers fun _ => none)))

/-! ## Parsing -/

/-- What a handler is asked to do. What `LoadPlayer` returns to a login is known later. -/
inductive Call (F : Type) where
  | login (account : Option String)
  | request (request : Request F)
  /-- Offset and limit; `none` is a body that does not parse. -/
  | rank (request : Option (Int32 × Int32))

/-- The `input` of an `InputRequest`, which is the default one when it is missing. -/
def Proto.InputRequest.playerInput (P : Protobuf F) (m : InputRequest) : Game.PlayerInput F :=
  let input := m.input.getD {}
  { playerId := input.playerId.toInt
    inputSeq := input.inputSeq.toInt
    moveX := P.value input.moveX
    moveY := P.value input.moveY
    fire := input.fire }

/-- `ProtoHelper::Parse` and the getters that a handler uses. -/
def Handler.call (P : Protobuf F) (body : Buffer) : Handler → Call F
  | handleLogin =>
    .login (((LoginRequest.format P.lib).parse body).map (·.account))
  | handleHeartbeat => .request .heartbeat
  | handleReconnect =>
    .request (.reconnect (((ReconnectRequest.format P.lib).parse body).map fun m =>
      (m.playerId.toInt, m.sessionToken)))
  | handleMatch =>
    .request (.match (((MatchRequest.format P.lib).parse body).map (·.playerId.toInt)))
  | handleCancelMatch =>
    .request (.cancelMatch (((MatchCancelRequest.format P.lib).parse body).map (·.playerId.toInt)))
  | handleReady =>
    .request (.ready (((ReadyRequest.format P.lib).parse body).map (·.ready)))
  | handleInput =>
    .request (.input (((InputRequest.format P.lib).parse body).map (·.playerInput P)))
  | handleLeaveRoom =>
    .request (.leaveRoom (((LeaveRoomRequest.format P.lib).parse body).map (·.roomId.toInt)))
  | handleRankRequest =>
    .rank (((RankRequest.format P.lib).parse body).map fun m => (m.offset, m.limit))

/-- `MessageDispatcher::Dispatch`: nothing is called for a `msg_id` that is not known. -/
def callOf (P : Protobuf F) (packet : Packet) : Option (Call F) :=
  (handlers packet.msgId).map (·.call P packet.body)

/-! ## What clients send -/

/-- A message from a client. -/
inductive ClientMessage where
  | login (m : LoginRequest)
  | heartbeat (m : HeartbeatRequest)
  | reconnect (m : ReconnectRequest)
  | match (m : MatchRequest)
  | cancelMatch (m : MatchCancelRequest)
  | ready (m : ReadyRequest)
  | input (m : InputRequest)
  | leaveRoom (m : LeaveRoomRequest)
  | rank (m : RankRequest)

namespace ClientMessage

/-- Its `msg_id`. -/
def msgId : ClientMessage → UInt32
  | login _ => 1001
  | heartbeat _ => 1003
  | reconnect _ => 1005
  | .match _ => 2001
  | cancelMatch _ => 2004
  | ready _ => 3001
  | input _ => 4001
  | leaveRoom _ => 3006
  | rank _ => 5001

/-- The handler that gets it. -/
def handler : ClientMessage → Handler
  | login _ => .handleLogin
  | heartbeat _ => .handleHeartbeat
  | reconnect _ => .handleReconnect
  | .match _ => .handleMatch
  | cancelMatch _ => .handleCancelMatch
  | ready _ => .handleReady
  | input _ => .handleInput
  | leaveRoom _ => .handleLeaveRoom
  | rank _ => .handleRankRequest

/-- `SerializeToString` -/
def serialize (L : Lib) : ClientMessage → Buffer
  | login m => (LoginRequest.format L).serialize m
  | heartbeat m => (HeartbeatRequest.format L).serialize m
  | reconnect m => (ReconnectRequest.format L).serialize m
  | .match m => (MatchRequest.format L).serialize m
  | cancelMatch m => (MatchCancelRequest.format L).serialize m
  | ready m => (ReadyRequest.format L).serialize m
  | input m => (InputRequest.format L).serialize m
  | leaveRoom m => (LeaveRoomRequest.format L).serialize m
  | rank m => (RankRequest.format L).serialize m

/-- A record that no handler of this message knows. -/
def Unknown (L : Lib) (b : Buffer) : ClientMessage → Prop
  | login _ => (LoginRequest.format L).Unknown b
  | heartbeat _ => (HeartbeatRequest.format L).Unknown b
  | reconnect _ => (ReconnectRequest.format L).Unknown b
  | .match _ => (MatchRequest.format L).Unknown b
  | cancelMatch _ => (MatchCancelRequest.format L).Unknown b
  | ready _ => (ReadyRequest.format L).Unknown b
  | input _ => (InputRequest.format L).Unknown b
  | leaveRoom _ => (LeaveRoomRequest.format L).Unknown b
  | rank _ => (RankRequest.format L).Unknown b

/-- What the client means. -/
def call (P : Protobuf F) : ClientMessage → Call F
  | login m => .login (some m.account)
  | heartbeat _ => .request .heartbeat
  | reconnect m => .request (.reconnect (some (m.playerId.toInt, m.sessionToken)))
  | .match m => .request (.match (some m.playerId.toInt))
  | cancelMatch m => .request (.cancelMatch (some m.playerId.toInt))
  | ready m => .request (.ready (some m.ready))
  | input m => .request (.input (some (m.playerInput P)))
  | leaveRoom m => .request (.leaveRoom (some m.roomId.toInt))
  | rank m => .rank (some (m.offset, m.limit))

/-- A packet with this message, and perhaps with fields that the server does not know behind it. -/
structure In (L : Lib) (m : ClientMessage) (packet : Packet) : Prop where
  msgId : packet.msgId = m.msgId
  body : ∃ extra : List Buffer, packet.body = m.serialize L ++ extra.flatten ∧
    ∀ b ∈ extra, m.Unknown L b
  fits : Codec.Fits packet

end ClientMessage

theorem handlers_msgId (m : ClientMessage) : handlers m.msgId = some m.handler := by
  cases m <;> rfl

/-- **What has been sent is what is called.** -/
theorem callOf_eq {P : Protobuf F} {m : ClientMessage} {packet : Packet}
    (h : m.In P.lib packet) : callOf P packet = some (m.call P) := by
  obtain ⟨extra, hbody, hextra⟩ := h.body
  have hsize : (m.serialize P.lib).length < maxSize := by
    have hfits : packet.body.length ≤ (kMaxPacketLength - kPacketMetaSize).toNat := h.fits
    rw [show (kMaxPacketLength - kPacketMetaSize).toNat = 2 ^ 20 - 8 by decide, hbody,
      List.length_append] at hfits
    show _ < 2 ^ 31 - 16
    omega
  rw [callOf, h.msgId, handlers_msgId, hbody, Option.map_some]
  refine congrArg some ?_
  cases m with
  | heartbeat m => rfl
  | login m | reconnect m | «match» m | cancelMatch m | ready m | input m | leaveRoom m | rank m =>
    dsimp only [ClientMessage.serialize] at hsize
    dsimp only [ClientMessage.handler, ClientMessage.serialize, Handler.call]
    rw [Format.parse_serialize_unknown hsize hextra]
    rfl

end Game
