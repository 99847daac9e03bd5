import GameServer.Protocol.Dispatch

/-!
# From messages to bytes

What the server sends, as the protobuf messages that the handlers fill in and that `Session::Send`
serializes into packets, and what a client that looks at the `msg_id` parses.
-/

namespace Game

open Infra.Wire Proto

/-! ## Kinds of messages -/

/-- The messages of the server. -/
inductive ReplyKind where
  | loginResponse
  | heartbeatResponse
  | reconnectResponse
  | matchResponse
  | matchSuccessNotify
  | matchCancelResponse
  | readyNotify
  | roomStateNotify
  | leaveRoomResponse
  | playerLeaveRoomNotify
  | gameStateNotify
  | gameOverNotify
  | rankResponse
  deriving DecidableEq

namespace ReplyKind

/-- The protobuf message. -/
def Payload : ReplyKind → Type
  | loginResponse => LoginResponse
  | heartbeatResponse => HeartbeatResponse
  | reconnectResponse => ReconnectResponse
  | matchResponse => MatchResponse
  | matchSuccessNotify => MatchSuccessNotify
  | matchCancelResponse => MatchCancelResponse
  | readyNotify => ReadyNotify
  | roomStateNotify => RoomStateNotify
  | leaveRoomResponse => LeaveRoomResponse
  | playerLeaveRoomNotify => PlayerLeaveRoomNotify
  | gameStateNotify => GameStateNotify
  | gameOverNotify => GameOverNotify
  | rankResponse => RankResponse

def format (L : Lib) : (kind : ReplyKind) → Format L kind.Payload
  | loginResponse => LoginResponse.format L
  | heartbeatResponse => HeartbeatResponse.format L
  | reconnectResponse => ReconnectResponse.format L
  | matchResponse => MatchResponse.format L
  | matchSuccessNotify => MatchSuccessNotify.format L
  | matchCancelResponse => MatchCancelResponse.format L
  | readyNotify => ReadyNotify.format L
  | roomStateNotify => RoomStateNotify.format L
  | leaveRoomResponse => LeaveRoomResponse.format L
  | playerLeaveRoomNotify => PlayerLeaveRoomNotify.format L
  | gameStateNotify => GameStateNotify.format L
  | gameOverNotify => GameOverNotify.format L
  | rankResponse => RankResponse.format L

/-- Its `msg_id`. -/
def msgId : ReplyKind → UInt32
  | loginResponse => 1002
  | heartbeatResponse => 1004
  | reconnectResponse => 1006
  | matchResponse => 2002
  | matchSuccessNotify => 2003
  | matchCancelResponse => 2005
  | readyNotify => 3002
  | roomStateNotify => 3005
  | leaveRoomResponse => 3007
  | playerLeaveRoomNotify => 3008
  | gameStateNotify => 4002
  | gameOverNotify => 4003
  | rankResponse => 5002

def all : List ReplyKind :=
  [loginResponse, heartbeatResponse, reconnectResponse, matchResponse, matchSuccessNotify,
    matchCancelResponse, readyNotify, roomStateNotify, leaveRoomResponse, playerLeaveRoomNotify,
    gameStateNotify, gameOverNotify, rankResponse]

/-- The message behind a `msg_id`. -/
def ofMsgId (msgId : UInt32) : Option ReplyKind :=
  all.find? (·.msgId = msgId)

theorem ofMsgId_msgId (kind : ReplyKind) : ofMsgId kind.msgId = some kind := by
  cases kind <;> rfl

end ReplyKind

/-- A protobuf message from the server. -/
structure ServerMessage where
  kind : ReplyKind
  payload : kind.Payload

namespace ServerMessage

def byteSize (L : Lib) (m : ServerMessage) : Nat :=
  (m.kind.format L).byteSize m.payload

/-- `ProtoHelper::Build` -/
def build (L : Lib) (m : ServerMessage) : Packet :=
  protoBuild m.kind.msgId ((m.kind.format L).serializeToString m.payload)

/-- `ProtoHelper::Parse`, for the message that the `msg_id` says. -/
def ofPacket (L : Lib) (packet : Packet) : Option ServerMessage :=
  (ReplyKind.ofMsgId packet.msgId).bind fun kind =>
    ((kind.format L).parse packet.body).map (⟨kind, ·⟩)

variable {L : Lib} {m : ServerMessage}

/-- It fits into a packet. -/
def Fits (L : Lib) (m : ServerMessage) : Prop :=
  m.byteSize L ≤ (kMaxPacketLength - kPacketMetaSize).toNat

instance : Decidable (m.Fits L) :=
  inferInstanceAs (Decidable (_ ≤ _))

theorem Fits.lt (h : m.Fits L) : m.byteSize L < 2 ^ 20 := by
  have hmax : (kMaxPacketLength - kPacketMetaSize).toNat = 2 ^ 20 - 8 := by decide
  unfold Fits at h
  omega

theorem body_build (h : m.Fits L) :
    (m.build L).body = (m.kind.format L).serialize m.payload := by
  have hlt := h.lt
  unfold byteSize at hlt
  unfold build Format.serializeToString
  rw [if_pos (by omega)]
  rfl

theorem fits_build (h : m.Fits L) : Codec.Fits (m.build L) := by
  unfold Codec.Fits
  rw [body_build h, Format.length_serialize]
  exact h

/-- **What the server builds is what a client parses.** -/
theorem ofPacket_build (h : m.Fits L) : ofPacket L (m.build L) = some m := by
  have hlt := h.lt
  unfold byteSize at hlt
  unfold ofPacket
  rw [body_build h, show (m.build L).msgId = m.kind.msgId from rfl, ReplyKind.ofMsgId_msgId,
    Option.bind_some, Format.parse_serialize (show _ < 2 ^ 31 - 16 by omega)]
  rfl

end ServerMessage

/-! ## What the handlers fill in -/

variable {F : Type}

/-- The message that a handler hands to `Session::Send`. -/
def Message.proto (P : Protobuf F) : Message F → ServerMessage
  | .loginResponse code playerId name sessionToken =>
    ⟨.loginResponse, { code := .ofInt code, playerId := .ofInt playerId, name, sessionToken }⟩
  | .heartbeatResponse serverTimeMs => ⟨.heartbeatResponse, { serverTimeMs := .ofInt serverTimeMs }⟩
  | .reconnectResponse code roomId =>
    ⟨.reconnectResponse, { code := .ofInt code, roomId := .ofInt roomId }⟩
  | .matchResponse code message => ⟨.matchResponse, { code := .ofInt code, message }⟩
  | .matchSuccessNotify roomId playerIds =>
    ⟨.matchSuccessNotify, { roomId := .ofInt roomId, playerIds := playerIds.map .ofInt }⟩
  | .matchCancelResponse code message => ⟨.matchCancelResponse, { code := .ofInt code, message }⟩
  | .readyNotify playerId ready => ⟨.readyNotify, { playerId := .ofInt playerId, ready }⟩
  | .roomStateNotify roomId state playerIds =>
    ⟨.roomStateNotify,
      { roomId := .ofInt roomId, state := .ofInt state, playerIds := playerIds.map .ofInt }⟩
  | .leaveRoomResponse code message => ⟨.leaveRoomResponse, { code := .ofInt code, message }⟩
  | .playerLeaveRoomNotify roomId playerId reason =>
    ⟨.playerLeaveRoomNotify,
      { roomId := .ofInt roomId, playerId := .ofInt playerId, reason := .ofInt reason }⟩
  | .gameStateNotify roomId frameId players =>
    ⟨.gameStateNotify,
      { roomId := .ofInt roomId
        frameId := .ofInt frameId
        players := players.map fun (playerId, x, y, hp) =>
          { playerId := .ofInt playerId, x := P.word x, y := P.word y, hp := .ofInt hp } }⟩
  | .gameOverNotify roomId winnerId loserIds =>
    ⟨.gameOverNotify,
      { roomId := .ofInt roomId, winnerId := .ofInt winnerId, loserIds := loserIds.map .ofInt }⟩

/-- A message to a session: one of the services around the rooms, or a page of the leaderboard. -/
inductive Outgoing (F : Type) where
  | message (m : Message F)
  | rank (entries : List RankEntry)

/-- The message that `HandleRankRequest` fills in. -/
def rankResponse (entries : List RankEntry) : RankResponse :=
  { items := entries.map fun entry =>
      { playerId := entry.playerId, name := entry.name, score := entry.score, rank := entry.rank } }

def Outgoing.proto (P : Protobuf F) : Outgoing F → ServerMessage
  | .message m => m.proto P
  | .rank entries => ⟨.rankResponse, rankResponse entries⟩

end Game
