import GameServer.Net.ConnectionManager

/-!
# Players

`src/player/player.h` and `src/player/player_manager.cpp`.
-/

namespace Game

inductive PlayerStatus where
  | offline
  | online
  | matching
  | inRoom
  | playing
  deriving DecidableEq

/-- A player in memory. -/
structure Player where
  name : String
  score : Int := 1000
  status : PlayerStatus := .offline
  roomId : RoomId := 0

/-- `players_` and `online_sessions_`. -/
structure PlayerManager where
  players : PlayerId → Option Player := fun _ => none
  onlineSessions : PlayerId → Option SessionId := fun _ => none

namespace PlayerManager

/-- `GetOrCreatePlayer`: the player under `playerId`, created when there is none. -/
def getOrCreatePlayer (pm : PlayerManager) (playerId : PlayerId) (name : String) : Player :=
  (pm.players playerId).getD
    { name := if name = "" then "player_" ++ toString playerId else name }

/-- `GetOrCreatePlayer` followed by setters on the player it returns. -/
def update (pm : PlayerManager) (playerId : PlayerId) (f : Player → Player)
    (name : String := "") : PlayerManager :=
  { pm with
    players := Function.update pm.players playerId (some (f (pm.getOrCreatePlayer playerId name))) }

/-- A setter on a player that may not exist. -/
def setStatus (pm : PlayerManager) (playerId : PlayerId) (status : PlayerStatus) :
    PlayerId → Option Player :=
  Function.update pm.players playerId ((pm.players playerId).map ({ · with status := status }))

/-- `SetOnline`. -/
def setOnline (pm : PlayerManager) (playerId : PlayerId) (session : SessionId) : PlayerManager :=
  { players := pm.setStatus playerId .online
    onlineSessions := Function.update pm.onlineSessions playerId (some session) }

/-- `SetOffline`. -/
def setOffline (pm : PlayerManager) (playerId : PlayerId) : PlayerManager :=
  { players := pm.setStatus playerId .offline
    onlineSessions := Function.update pm.onlineSessions playerId none }

/-- `IsOnline`. -/
def isOnline (pm : PlayerManager) (playerId : PlayerId) : Bool :=
  (pm.onlineSessions playerId).isSome

/-- `Status` of a player; a player that does not exist has none. -/
def status (pm : PlayerManager) (playerId : PlayerId) : Option PlayerStatus :=
  (pm.players playerId).map Player.status

/-- `RoomId` of a player. -/
def roomId (pm : PlayerManager) (playerId : PlayerId) : Option RoomId :=
  (pm.players playerId).map Player.roomId

end PlayerManager
end Game
