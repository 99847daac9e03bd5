import GameServer.Game.GameState
import Mathlib.Data.Finset.Basic

/-!
# Sessions and ConnectionManager

`src/net/session.h` and `src/net/connection_manager.h`.

A `SessionPtr` is modelled by the id of its session: ids come from a counter and are never used
twice, so two pointers are equal exactly when their ids are.
-/

namespace Game

/-- `uint64_t` id of a session, which is also the id of its connection. -/
abbrev SessionId := Nat

/-- The part of `Session` that the services read and write. -/
structure Session where
  playerId : PlayerId := 0
  roomId : RoomId := 0
  lastHeartbeatMs : Int := 0
  /-- `Close` has been called. -/
  closing : Bool := false

/-- `sessions_` and `player_sessions_`. -/
structure ConnectionManager where
  sessions : Finset SessionId := ∅
  playerSessions : PlayerId → Option SessionId := fun _ => none

namespace ConnectionManager

/-- `Add`, for a session whose player is `playerId`. -/
def add (cm : ConnectionManager) (session : SessionId) (playerId : PlayerId) : ConnectionManager :=
  { sessions := insert session cm.sessions
    playerSessions :=
      if playerId = 0 then cm.playerSessions
      else Function.update cm.playerSessions playerId (some session) }

/-- `BindPlayer`. -/
def bindPlayer (cm : ConnectionManager) (playerId : PlayerId) (session : SessionId) :
    ConnectionManager :=
  { cm with playerSessions := Function.update cm.playerSessions playerId (some session) }

/-- `Remove`, for a session whose player is `playerId`. -/
def remove (cm : ConnectionManager) (session : SessionId) (playerId : PlayerId) :
    ConnectionManager :=
  { sessions := cm.sessions.erase session
    playerSessions :=
      if session ∈ cm.sessions ∧ cm.playerSessions playerId = some session then
        Function.update cm.playerSessions playerId none
      else cm.playerSessions }

/-- `GetByPlayerId`. -/
def getByPlayerId (cm : ConnectionManager) (playerId : PlayerId) : Option SessionId :=
  cm.playerSessions playerId

end ConnectionManager
end Game
