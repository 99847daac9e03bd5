import GameServer.Server.Server
import Mathlib.Algebra.Ring.Int.Defs

/-!
# MatchService

`src/match/match_service.cpp`, each handler run from beginning to end without interference.
-/

namespace Game

namespace Server

variable {F : Type}

/-! ## TryCreateRoom -/

/-- `static_cast<size_t>(RoomPlayerCount())`. -/
def needCount (s : Server F) : Nat :=
  (s.roomPlayerCount % 2 ^ 64).toNat

/-- One round of the loop over the matched players. -/
def joinRoom (roomId : RoomId) (playerIds : List PlayerId) (s : Server F) (playerId : PlayerId) :
    Server F :=
  let s := (s.setPlayerStatus playerId .inRoom).setPlayerRoomId playerId roomId
  match s.connectionManager.getByPlayerId playerId with
  | some session => s.send session (.matchSuccessNotify roomId playerIds)
  | none => s

/-- A room for players that have left the queue: `CreateRoom` and the loop after it. -/
def formRoom (s : Server F) (playerIds : List PlayerId) : Server F :=
  let (roomId, s) := s.createRoom playerIds
  playerIds.foldl (joinRoom roomId playerIds) s

/-- The loop of `TryCreateRoom`, for at most `fuel` rounds. -/
def tryCreateRoomLoop : Nat → Server F → Server F
  | 0, s => s
  | fuel + 1, s =>
    let (playerIds, queue) := s.matchQueue.tryPopN s.needCount
    let s := s.withQueue queue
    if playerIds = [] then s
    else tryCreateRoomLoop fuel (s.formRoom playerIds)

/-- `MatchService::TryCreateRoom`. Each round but the last takes a player off the queue. -/
def tryCreateRoom (s : Server F) : Server F :=
  tryCreateRoomLoop (s.matchQueue.size + 1) s

/-! ## Handlers -/

/-- The setters of `StartMatching`. -/
def setMatching (s : Server F) (playerId : PlayerId) (session : SessionId) : Server F :=
  ((s.setPlayerStatus playerId .matching).setPlayerRoomId playerId 0).setSessionRoomId session 0

/-- `MatchService::StartMatching`. -/
def startMatching (s : Server F) (playerId : PlayerId) (session : SessionId) (message : String) :
    Bool × Server F :=
  if playerId = 0 then (false, s.send session (.matchResponse 1 "not login"))
  else
    let (pushed, queue) := s.matchQueue.push playerId
    let s := s.withQueue queue
    if pushed = false then
      let s := if s.matchQueue.contains playerId then s.setMatching playerId session else s
      (false, s.send session (.matchResponse 2 "already matching"))
    else
      (true, ((s.setMatching playerId session).send session
        (.matchResponse 0 message)).tryCreateRoom)

/-- The id that `HandleMatch`, `HandleCancelMatch` and `HandleInput` act for. -/
def actingPlayer (s : Server F) (session : SessionId) (requested : PlayerId) : PlayerId :=
  if requested = 0 then (s.sessionHeap session).playerId else requested

/-- Extends the history variable. -/
def record (s : Server F) (act : Act) : Server F :=
  { s with acts := s.acts ++ [act] }

/-- `MatchService::HandleMatch`; `none` is a body that does not parse. -/
def handleMatch (s : Server F) (session : SessionId) : Option PlayerId → Server F
  | none => s
  | some requested =>
    let playerId := s.actingPlayer session requested
    let act : Act := ⟨session, (s.sessionHeap session).playerId, .enqueue, playerId⟩
    if playerId = 0 then s.send session (.matchResponse 1 "not login")
    else
      match s.startMatching playerId session "matching" with
      | (true, s) => s.record act
      | (false, s) => s

/-- `MatchService::HandleCancelMatch`. -/
def handleCancelMatch (s : Server F) (session : SessionId) : Option PlayerId → Server F
  | none => s
  | some requested =>
    let playerId := s.actingPlayer session requested
    let act : Act := ⟨session, (s.sessionHeap session).playerId, .cancel, playerId⟩
    let (removed, queue) := s.matchQueue.remove playerId
    let s := s.withQueue queue
    if removed then
      let s := (s.setPlayerStatus playerId .online).setPlayerRoomId playerId 0
      let s := s.setSessionRoomId session 0
      (s.record act).send session (.matchCancelResponse 0 "cancelled")
    else s.send session (.matchCancelResponse 2 "not matching")

/-- `MatchService::RequeuePlayer`. -/
def requeuePlayer (s : Server F) (playerId : PlayerId) : Server F :=
  match s.connectionManager.getByPlayerId playerId with
  | some session => (s.startMatching playerId session "matching").2
  | none => s

end Server
end Game
