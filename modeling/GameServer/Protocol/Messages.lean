import GameServer.Infra.WireFields

/-!
# Protobuf messages

The messages of `proto/*.proto` with the parsers and writers that `protoc` has generated for them:
each field with the number of its `case` and the tag that the `case` accepts. The messages of
`common.proto` are not used.
-/

namespace Game.Proto

open Infra.Wire

/-! ## login.proto -/

/-- An empty `account` stands for a new guest. Nobody reads `token`. -/
structure LoginRequest where
  account : String := ""
  token : String := ""

/-- Two strings. -/
def LoginRequest.format (L : Lib) : Format L LoginRequest where
  fields :=
    [.scalar { number := 1, tag := 10 } (.string L)
      { get := (·.account), set := fun v m => { m with account := v } },
    .scalar { number := 2, tag := 18 } (.string L)
      { get := (·.token), set := fun v m => { m with token := v } }]
  empty := {}
  numbers := (by decide : ([1, 2] : List UInt32).Nodup)
  merge_empty m := by simp

/-- `code` is 0, or 1 for bytes that are no `LoginRequest`. -/
structure LoginResponse where
  code : Int32 := 0
  playerId : Int64 := 0
  name : String := ""
  sessionToken : String := ""

/-- Two varints and two strings. -/
def LoginResponse.format (L : Lib) : Format L LoginResponse where
  fields :=
    [.scalar { number := 1, tag := 8 } (.int32 L)
      { get := (·.code), set := fun v m => { m with code := v } },
    .scalar { number := 2, tag := 16 } (.int64 L)
      { get := (·.playerId), set := fun v m => { m with playerId := v } },
    .scalar { number := 3, tag := 26 } (.string L)
      { get := (·.name), set := fun v m => { m with name := v } },
    .scalar { number := 4, tag := 34 } (.string L)
      { get := (·.sessionToken), set := fun v m => { m with sessionToken := v } }]
  empty := {}
  numbers := (by decide : ([1, 2, 3, 4] : List UInt32).Nodup)
  merge_empty m := by simp

/-- `HandleHeartbeat` does not look at it. -/
structure HeartbeatRequest where
  clientTimeMs : Int64 := 0

/-- One varint, the clock of the client. -/
def HeartbeatRequest.format (L : Lib) : Format L HeartbeatRequest where
  fields :=
    [.scalar { number := 1, tag := 8 } (.int64 L)
      { get := (·.clientTimeMs), set := fun v _ => ⟨v⟩ }]
  empty := {}
  numbers := (by decide : ([1] : List UInt32).Nodup)
  merge_empty m := by simp

/-- The answer to every heartbeat. -/
structure HeartbeatResponse where
  serverTimeMs : Int64 := 0

/-- One varint, the clock of the server. -/
def HeartbeatResponse.format (L : Lib) : Format L HeartbeatResponse where
  fields :=
    [.scalar { number := 1, tag := 8 } (.int64 L)
      { get := (·.serverTimeMs), set := fun v _ => ⟨v⟩ }]
  empty := {}
  numbers := (by decide : ([1] : List UInt32).Nodup)
  merge_empty m := by simp

/-- It has to bring the token of the last `LoginResponse`. -/
structure ReconnectRequest where
  playerId : Int64 := 0
  sessionToken : String := ""

/-- A varint and a string. -/
def ReconnectRequest.format (L : Lib) : Format L ReconnectRequest where
  fields :=
    [.scalar { number := 1, tag := 8 } (.int64 L)
      { get := (·.playerId), set := fun v m => { m with playerId := v } },
    .scalar { number := 2, tag := 18 } (.string L)
      { get := (·.sessionToken), set := fun v m => { m with sessionToken := v } }]
  empty := {}
  numbers := (by decide : ([1, 2] : List UInt32).Nodup)
  merge_empty m := by simp

/-- `code` is 1 for bytes that are no `ReconnectRequest` and 2 for a wrong token; `roomId` is 0 for
a player who is in no room. -/
structure ReconnectResponse where
  code : Int32 := 0
  roomId : Int64 := 0

/-- Two varints. -/
def ReconnectResponse.format (L : Lib) : Format L ReconnectResponse where
  fields :=
    [.scalar { number := 1, tag := 8 } (.int32 L)
      { get := (·.code), set := fun v m => { m with code := v } },
    .scalar { number := 2, tag := 16 } (.int64 L)
      { get := (·.roomId), set := fun v m => { m with roomId := v } }]
  empty := {}
  numbers := (by decide : ([1, 2] : List UInt32).Nodup)
  merge_empty m := by simp

/-! ## match.proto -/

/-- The player 0 stands for the player of the session. -/
structure MatchRequest where
  playerId : Int64 := 0

/-- One varint. -/
def MatchRequest.format (L : Lib) : Format L MatchRequest where
  fields :=
    [.scalar { number := 1, tag := 8 } (.int64 L)
      { get := (·.playerId), set := fun v _ => ⟨v⟩ }]
  empty := {}
  numbers := (by decide : ([1] : List UInt32).Nodup)
  merge_empty m := by simp

/-- The player 0 stands for the player of the session. -/
structure MatchCancelRequest where
  playerId : Int64 := 0

/-- One varint, as in a `MatchRequest`. -/
def MatchCancelRequest.format (L : Lib) : Format L MatchCancelRequest where
  fields :=
    [.scalar { number := 1, tag := 8 } (.int64 L)
      { get := (·.playerId), set := fun v _ => ⟨v⟩ }]
  empty := {}
  numbers := (by decide : ([1] : List UInt32).Nodup)
  merge_empty m := by simp

/-- `code` is 2 for a player who is not in the queue. -/
structure MatchCancelResponse where
  code : Int32 := 0
  message : String := ""

/-- A varint and a string. -/
def MatchCancelResponse.format (L : Lib) : Format L MatchCancelResponse where
  fields :=
    [.scalar { number := 1, tag := 8 } (.int32 L)
      { get := (·.code), set := fun v m => { m with code := v } },
    .scalar { number := 2, tag := 18 } (.string L)
      { get := (·.message), set := fun v m => { m with message := v } }]
  empty := {}
  numbers := (by decide : ([1, 2] : List UInt32).Nodup)
  merge_empty m := by simp

/-- `code` is 1 without a login and 2 for a player who is in the queue already. -/
structure MatchResponse where
  code : Int32 := 0
  message : String := ""

/-- A varint and a string, as in a `MatchCancelResponse`. -/
def MatchResponse.format (L : Lib) : Format L MatchResponse where
  fields :=
    [.scalar { number := 1, tag := 8 } (.int32 L)
      { get := (·.code), set := fun v m => { m with code := v } },
    .scalar { number := 2, tag := 18 } (.string L)
      { get := (·.message), set := fun v m => { m with message := v } }]
  empty := {}
  numbers := (by decide : ([1, 2] : List UInt32).Nodup)
  merge_empty m := by simp

/-- A room has been made of the first players of the queue. -/
structure MatchSuccessNotify where
  roomId : Int64 := 0
  playerIds : List Int64 := []

/-- A varint and the packed players. -/
def MatchSuccessNotify.format (L : Lib) : Format L MatchSuccessNotify where
  fields :=
    [.scalar { number := 1, tag := 8 } (.int64 L)
      { get := (·.roomId), set := fun v m => { m with roomId := v } },
    .packedInt64 { number := 2, tag := 18 } { number := 2, tag := 16 }
      { get := (·.playerIds), set := fun v m => { m with playerIds := v } }]
  empty := {}
  numbers := (by decide : ([1, 2] : List UInt32).Nodup)
  merge_empty m := by simp

/-! ## room.proto -/

/-- `HandleReady` takes it for the room of the player of the session. -/
structure ReadyRequest where
  ready : Bool := false

/-- One varint; any number but 0 is true. -/
def ReadyRequest.format (L : Lib) : Format L ReadyRequest where
  fields :=
    [.scalar { number := 1, tag := 8 } (.bool L)
      { get := (·.ready), set := fun v _ => ⟨v⟩ }]
  empty := {}
  numbers := (by decide : ([1] : List UInt32).Nodup)
  merge_empty m := by simp

/-- A player of the room has set or cleared the flag. -/
structure ReadyNotify where
  playerId : Int64 := 0
  ready : Bool := false

/-- Two varints. -/
def ReadyNotify.format (L : Lib) : Format L ReadyNotify where
  fields :=
    [.scalar { number := 1, tag := 8 } (.int64 L)
      { get := (·.playerId), set := fun v m => { m with playerId := v } },
    .scalar { number := 2, tag := 16 } (.bool L)
      { get := (·.ready), set := fun v m => { m with ready := v } }]
  empty := {}
  numbers := (by decide : ([1, 2] : List UInt32).Nodup)
  merge_empty m := by simp

/-- `state` is 2, for `RoomState::Playing`: nothing else is sent. -/
structure RoomStateNotify where
  roomId : Int64 := 0
  state : Int32 := 0
  playerIds : List Int64 := []

/-- Two varints and the packed players. -/
def RoomStateNotify.format (L : Lib) : Format L RoomStateNotify where
  fields :=
    [.scalar { number := 1, tag := 8 } (.int64 L)
      { get := (·.roomId), set := fun v m => { m with roomId := v } },
    .scalar { number := 2, tag := 16 } (.int32 L)
      { get := (·.state), set := fun v m => { m with state := v } },
    .packedInt64 { number := 3, tag := 26 } { number := 3, tag := 24 }
      { get := (·.playerIds), set := fun v m => { m with playerIds := v } }]
  empty := {}
  numbers := (by decide : ([1, 2, 3] : List UInt32).Nodup)
  merge_empty m := by simp

/-- The room 0 stands for the room of the player. -/
structure LeaveRoomRequest where
  roomId : Int64 := 0

/-- One varint. -/
def LeaveRoomRequest.format (L : Lib) : Format L LeaveRoomRequest where
  fields :=
    [.scalar { number := 1, tag := 8 } (.int64 L)
      { get := (·.roomId), set := fun v _ => ⟨v⟩ }]
  empty := {}
  numbers := (by decide : ([1] : List UInt32).Nodup)
  merge_empty m := by simp

/-- `code` says what is wrong: 1 the bytes, 2 the room, 3 its state, 4 that no battle is on. -/
structure LeaveRoomResponse where
  code : Int32 := 0
  message : String := ""

/-- A varint and a string. -/
def LeaveRoomResponse.format (L : Lib) : Format L LeaveRoomResponse where
  fields :=
    [.scalar { number := 1, tag := 8 } (.int32 L)
      { get := (·.code), set := fun v m => { m with code := v } },
    .scalar { number := 2, tag := 18 } (.string L)
      { get := (·.message), set := fun v m => { m with message := v } }]
  empty := {}
  numbers := (by decide : ([1, 2] : List UInt32).Nodup)
  merge_empty m := by simp

/-- `reason` is 1 before the battle and 2 for a surrender. -/
structure PlayerLeaveRoomNotify where
  roomId : Int64 := 0
  playerId : Int64 := 0
  reason : Int32 := 0

/-- Three varints. -/
def PlayerLeaveRoomNotify.format (L : Lib) : Format L PlayerLeaveRoomNotify where
  fields :=
    [.scalar { number := 1, tag := 8 } (.int64 L)
      { get := (·.roomId), set := fun v m => { m with roomId := v } },
    .scalar { number := 2, tag := 16 } (.int64 L)
      { get := (·.playerId), set := fun v m => { m with playerId := v } },
    .scalar { number := 3, tag := 24 } (.int32 L)
      { get := (·.reason), set := fun v m => { m with reason := v } }]
  empty := {}
  numbers := (by decide : ([1, 2, 3] : List UInt32).Nodup)
  merge_empty m := by simp

/-! ## game.proto -/

/-- What a player does in a frame. -/
structure PlayerInput where
  playerId : Int64 := 0
  inputSeq : Int64 := 0
  moveX : FloatWord := .zero
  moveY : FloatWord := .zero
  fire : Bool := false

/-- Three varints, and two floats of four bytes. -/
def PlayerInput.format (L : Lib) : Format L PlayerInput where
  fields :=
    [.scalar { number := 1, tag := 8 } (.int64 L)
      { get := (·.playerId), set := fun v m => { m with playerId := v } },
    .scalar { number := 2, tag := 16 } (.int64 L)
      { get := (·.inputSeq), set := fun v m => { m with inputSeq := v } },
    .scalar { number := 3, tag := 29 } (.float L)
      { get := (·.moveX), set := fun v m => { m with moveX := v } },
    .scalar { number := 4, tag := 37 } (.float L)
      { get := (·.moveY), set := fun v m => { m with moveY := v } },
    .scalar { number := 5, tag := 40 } (.bool L)
      { get := (·.fire), set := fun v m => { m with fire := v } }]
  empty := {}
  numbers := (by decide : ([1, 2, 3, 4, 5] : List UInt32).Nodup)
  merge_empty m := by simp

/-- The player 0 in the input stands for the player of the session. -/
structure InputRequest where
  /-- `none` while `has_input` is false. -/
  input : Option PlayerInput := none

/-- One message; a second one on the wire is merged into the first. -/
def InputRequest.format (L : Lib) : Format L InputRequest where
  fields :=
    [.message { number := 1, tag := 10 } (PlayerInput.format L)
      { get := (·.input), set := fun v _ => ⟨v⟩ }]
  empty := {}
  numbers := (by decide : ([1] : List UInt32).Nodup)
  merge_empty m := by simp

/-- A player of a battle. -/
structure PlayerState where
  playerId : Int64 := 0
  x : FloatWord := .zero
  y : FloatWord := .zero
  hp : Int32 := 0

/-- Two varints, and two floats of four bytes. -/
def PlayerState.format (L : Lib) : Format L PlayerState where
  fields :=
    [.scalar { number := 1, tag := 8 } (.int64 L)
      { get := (·.playerId), set := fun v m => { m with playerId := v } },
    .scalar { number := 2, tag := 21 } (.float L)
      { get := (·.x), set := fun v m => { m with x := v } },
    .scalar { number := 3, tag := 29 } (.float L)
      { get := (·.y), set := fun v m => { m with y := v } },
    .scalar { number := 4, tag := 32 } (.int32 L)
      { get := (·.hp), set := fun v m => { m with hp := v } }]
  empty := {}
  numbers := (by decide : ([1, 2, 3, 4] : List UInt32).Nodup)
  merge_empty m := by simp

/-- The battle after a tick. -/
structure GameStateNotify where
  roomId : Int64 := 0
  frameId : Int64 := 0
  players : List PlayerState := []

/-- Two varints and a message for each player. -/
def GameStateNotify.format (L : Lib) : Format L GameStateNotify where
  fields :=
    [.scalar { number := 1, tag := 8 } (.int64 L)
      { get := (·.roomId), set := fun v m => { m with roomId := v } },
    .scalar { number := 2, tag := 16 } (.int64 L)
      { get := (·.frameId), set := fun v m => { m with frameId := v } },
    .repeatedMessage { number := 3, tag := 26 } (PlayerState.format L)
      { get := (·.players), set := fun v m => { m with players := v } }]
  empty := {}
  numbers := (by decide : ([1, 2, 3] : List UInt32).Nodup)
  merge_empty m := by simp

/-- The battle has been settled. -/
structure GameOverNotify where
  roomId : Int64 := 0
  winnerId : Int64 := 0
  loserIds : List Int64 := []

/-- Two varints and the packed losers. -/
def GameOverNotify.format (L : Lib) : Format L GameOverNotify where
  fields :=
    [.scalar { number := 1, tag := 8 } (.int64 L)
      { get := (·.roomId), set := fun v m => { m with roomId := v } },
    .scalar { number := 2, tag := 16 } (.int64 L)
      { get := (·.winnerId), set := fun v m => { m with winnerId := v } },
    .packedInt64 { number := 3, tag := 26 } { number := 3, tag := 24 }
      { get := (·.loserIds), set := fun v m => { m with loserIds := v } }]
  empty := {}
  numbers := (by decide : ([1, 2, 3] : List UInt32).Nodup)
  merge_empty m := by simp

/-! ## rank.proto -/

/-- `GetTopN` takes any two numbers. -/
structure RankRequest where
  offset : Int32 := 0
  limit : Int32 := 0

/-- Two varints; a negative number takes ten bytes. -/
def RankRequest.format (L : Lib) : Format L RankRequest where
  fields :=
    [.scalar { number := 1, tag := 8 } (.int32 L)
      { get := (·.offset), set := fun v m => { m with offset := v } },
    .scalar { number := 2, tag := 16 } (.int32 L)
      { get := (·.limit), set := fun v m => { m with limit := v } }]
  empty := {}
  numbers := (by decide : ([1, 2] : List UInt32).Nodup)
  merge_empty m := by simp

/-- A line of the leaderboard. -/
structure RankItem where
  playerId : Int64 := 0
  name : String := ""
  score : Int32 := 0
  rank : Int32 := 0

/-- Three varints and a string. -/
def RankItem.format (L : Lib) : Format L RankItem where
  fields :=
    [.scalar { number := 1, tag := 8 } (.int64 L)
      { get := (·.playerId), set := fun v m => { m with playerId := v } },
    .scalar { number := 2, tag := 18 } (.string L)
      { get := (·.name), set := fun v m => { m with name := v } },
    .scalar { number := 3, tag := 24 } (.int32 L)
      { get := (·.score), set := fun v m => { m with score := v } },
    .scalar { number := 4, tag := 32 } (.int32 L)
      { get := (·.rank), set := fun v m => { m with rank := v } }]
  empty := {}
  numbers := (by decide : ([1, 2, 3, 4] : List UInt32).Nodup)
  merge_empty m := by simp

/-- As many lines as have been asked for, so it may be too long for a packet. -/
structure RankResponse where
  items : List RankItem := []

/-- A message for each line. -/
def RankResponse.format (L : Lib) : Format L RankResponse where
  fields :=
    [.repeatedMessage { number := 1, tag := 10 } (RankItem.format L)
      { get := (·.items), set := fun v _ => ⟨v⟩ }]
  empty := {}
  numbers := (by decide : ([1] : List UInt32).Nodup)
  merge_empty m := by simp

end Game.Proto
