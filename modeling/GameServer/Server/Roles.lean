import GameServer.Server.Places
import GameServer.Server.Threads

/-!
# What a request does to rooms and battles

An abstract view of the server: which rooms and battles are registered and in which state the
rooms are. A worker has a role in it: it is about to register a battle, to dissolve a room, or
neither. Every step of every request is one of eight moves (`HandlerPc.move`).
-/

namespace Game

open Infra

/-- Registered rooms and battles. -/
structure Battles where
  rooms : Finset RoomId
  state : RoomId → RoomState
  games : Finset RoomId
  nextRoomId : RoomId

/-- The abstract view. -/
def Server.battles {F : Type} (s : Server F) : Battles where
  rooms := s.roomManager.rooms
  state r := (s.roomHeap r).state
  games := s.gameLoop
  nextRoomId := s.nextRoomId

/-- What a worker is about to do. -/
inductive Role where
  | idle
  /-- It has switched the room to Playing. -/
  | starting (roomId : RoomId)
  /-- It has the players of the battle and will register it. -/
  | registering (roomId : RoomId)
  /-- It has seen the room Waiting and will dissolve it. -/
  | leaving (roomId : RoomId)
  /-- It has taken the room off `rooms_` and will take the battle off `GameLoop`. -/
  | erased (roomId : RoomId)

/-- The room that a role is about. -/
def Role.about (r : RoomId) : Role → Prop
  | .idle => False
  | .starting r' => r' = r
  | .registering r' => r' = r
  | .leaving r' => r' = r
  | .erased r' => r' = r

/-- The role registers the battle of the room in the end. -/
def Role.starts (r : RoomId) : Role → Prop
  | .starting r' => r' = r
  | .registering r' => r' = r
  | _ => False

/-- The role takes the battle of the room off `GameLoop` in the end. -/
def Role.unregisters (r : RoomId) : Role → Prop
  | .leaving r' => r' = r
  | .erased r' => r' = r
  | _ => False

/-- The moves of one worker. -/
inductive Move : Battles → Role → Battles → Role → Prop where
  | stay (v : Battles) (a : Role) : Move v a v a
  | openRoom (v : Battles) :
    Move v .idle
      { v with
        rooms := insert v.nextRoomId v.rooms
        state := Function.update v.state v.nextRoomId .waiting
        nextRoomId := v.nextRoomId + 1 } .idle
  | start (v : Battles) (r : RoomId) (hr : r < v.nextRoomId) (hstate : v.state r = .waiting) :
    Move v .idle { v with state := Function.update v.state r .playing } (.starting r)
  | snapshot (v : Battles) (r : RoomId) : Move v (.starting r) v (.registering r)
  | register (v : Battles) (r : RoomId) :
    Move v (.registering r) { v with games := insert r v.games } .idle
  | leave (v : Battles) (r : RoomId) (hr : r < v.nextRoomId) (hstate : v.state r = .waiting) :
    Move v .idle v (.leaving r)
  | erase (v : Battles) (r : RoomId) :
    Move v (.leaving r) { v with rooms := v.rooms.erase r } (.erased r)
  | unregister (v : Battles) (r : RoomId) :
    Move v (.erased r) { v with games := v.games.erase r } .idle

/-! ## Roles of the program counters -/

/-- The role of a thread in `RemoveRoom`. -/
def RemovePc.role : RemovePc → Role
  | .erase r => .leaving r
  | pc => .erased pc.roomId

variable {F : Type}

/-- The role of a request. -/
def HandlerPc.role : HandlerPc F → Role
  | .readyNotify _ r _ true => .starting r
  | .startSnapshot r => .starting r
  | .addGame r _ => .registering r
  | .leaveSnapshot _ _ r => .leaving r
  | .leaveNotify _ _ r _ => .leaving r
  | .removing pc _ => pc.role
  | _ => .idle

/-- The room that a request has looked up and not acted on yet. -/
def HandlerPc.found : HandlerPc F → Option RoomId
  | .setReady _ r _ => some r
  | .ifWaiting _ _ r => some r
  | _ => none

/-! ## Frames -/

namespace Server

theorem battles_updateRoom (s : Server F) (r : RoomId) (f : Room → Room) :
    (s.updateRoom r f).battles =
      { s.battles with state := Function.update s.battles.state r (f (s.roomHeap r)).state } := by
  unfold battles updateRoom
  congr 1
  funext r'
  dsimp only
  by_cases hr : r' = r
  · subst hr
    rw [Function.update_self, Function.update_self]
  · rw [Function.update_of_ne hr, Function.update_of_ne hr]

theorem battles_createRoom (s : Server F) (players : List PlayerId) :
    (s.createRoom players).2.battles =
      { s.battles with
        rooms := insert s.nextRoomId s.battles.rooms
        state := Function.update s.battles.state s.nextRoomId .waiting
        nextRoomId := s.nextRoomId + 1 } := by
  have hsame : (s.createRoom players).2.battles = (s.openRoom players).battles :=
    view_enterRooms battles (fun _ _ _ => rfl) (fun _ _ _ => rfl) s.nextRoomId players _
  rw [hsame]
  unfold battles openRoom
  congr 1
  funext r
  dsimp only
  by_cases hr : r = s.nextRoomId
  · rw [hr, Function.update_self, Function.update_self, state_addPlayers]
  · rw [Function.update_of_ne hr, Function.update_of_ne hr]

end Server

/-! ## Every step is a move -/

/-- `StartMatching` and `TryCreateRoom` open rooms and do nothing else. -/
theorem MatchPc.move (s : Server F) (pc : MatchPc) :
    Move s.battles .idle (pc.next s).1.battles .idle := by
  have hsame : ∀ {s' : Server F}, s'.battles = s.battles →
      Move s.battles .idle s'.battles .idle := by
    intro s' h
    rw [h]
    exact .stay _ _
  cases pc with
  | push p session =>
    rw [next]
    split <;> exact hsame rfl
  | contains p session => exact hsame rfl
  | setStatus p session pushed => exact hsame rfl
  | setPlayerRoom p session pushed => exact hsame rfl
  | setSessionRoom p session pushed => exact hsame rfl
  | reply session pushed =>
    rw [next]
    split <;> exact hsame rfl
  | tryPop => exact hsame rfl
  | createRoom players =>
    have h := s.battles_createRoom players
    show Move s.battles .idle (s.createRoom players).2.battles .idle
    rw [h]
    exact .openRoom _
  | joinStatus r players todo =>
    cases todo with
    | nil => exact hsame rfl
    | cons p todo => exact hsame rfl
  | joinRoom r players p todo => exact hsame rfl
  | joinNotify r players p todo =>
    rw [next]
    dsimp only
    split <;> exact hsame rfl

/-- The role after a step of `RemoveRoom`. -/
def RemovePc.roleAfter : Option RemovePc → Role
  | some pc => pc.role
  | none => .idle

/-- `RemoveRoom` first takes the room off, at the end the battle. -/
theorem RemovePc.move (s : Server F) (pc : RemovePc) :
    Move s.battles pc.role (pc.next s).1.battles (roleAfter (pc.next s).2) := by
  cases pc with
  | erase r => exact .erase _ _
  | resetSession r todo =>
    cases todo with
    | nil => exact .stay _ _
    | cons p todo =>
      rw [next]
      split <;> exact .stay _ _
  | resetRoom r p online todo => exact .stay _ _
  | resetStatus r p online todo => exact .stay _ _
  | removeGame r => exact .unregister _ _

variable [Axis F]

/-- **Every step of a request is a move.** -/
theorem HandlerPc.move {s : Server F} {pc : HandlerPc F}
    (hfound : ∀ r, pc.found = some r → r < s.nextRoomId) :
    Move s.battles pc.role (pc.next s).1.battles (pc.next s).2.role := by
  cases pc with
  | done => exact .stay _ _
  | handleMatch session requested =>
    rw [next]
    split <;> exact .stay _ _
  | matching pc rest =>
    -- A sub-handler moves as it does alone.
    have h := pc.move s
    rw [next]
    split <;> (next heq => rw [heq] at h; exact h)
  | requeue todo =>
    cases todo with
    | nil => exact .stay _ _
    | cons p todo =>
      rw [next]
      split <;> exact .stay _ _
  | handleReady session ready =>
    rw [next]
    split <;> exact .stay _ _
  | setReady p r ready =>
    rw [next]
    split
    · next started room hready =>
      obtain ⟨hwait, hstate⟩ := Room.state_setReadyAndTryStart hready
      dsimp only
      rw [Server.battles_updateRoom, hstate]
      cases started with
      | true => exact .start _ r (hfound r rfl) hwait
      | false =>
        -- Not everybody is ready: the room stays waiting.
        have hsame : Function.update s.battles.state r .waiting = s.battles.state := by
          rw [← hwait]
          exact Function.update_eq_self _ _
        rw [if_neg (by simp), hsame]
        exact .stay _ _
    · exact .stay _ _
  | readyNotify p r ready started =>
    cases started with
    | true => exact .stay _ _
    | false => exact .stay _ _
  | startSnapshot r => exact .snapshot _ r
  | addGame r players => exact .register _ _
  | startStatus r players todo =>
    cases todo with
    | nil => exact .stay _ _
    | cons p todo => exact .stay _ _
  | startRoom r players p todo => exact .stay _ _
  | startNotify r players => exact .stay _ _
  | handleLeave session requested =>
    rw [next]
    split
    · exact .stay _ _
    · split <;> exact .stay _ _
  | ifWaiting session p r =>
    rw [next]
    split
    · next hwait => exact .leave _ r (hfound r rfl) hwait
    · exact .stay _ _
  | ifPlaying session p r =>
    rw [next]
    split <;> exact .stay _ _
  | leaveSnapshot session p r => exact .stay _ _
  | leaveNotify session p r rest => exact .stay _ _
  | removing pc rest =>
    have h := pc.move s
    rw [next]
    split <;> (next heq => rw [heq] at h; exact h)
  | findGame session p r =>
    rw [next]
    split <;> exact .stay _ _
  | eliminate session p r => exact .stay _ _
  | surrenderNotify session p r => exact .stay _ _
  | handleInput session nowMs request =>
    rw [next]
    split <;> exact .stay _ _
  | pushInput r input => exact .stay _ _

/-- Only a room that has just been looked up in `player_room_map_` is found. -/
theorem HandlerPc.found_next {s : Server F} {pc : HandlerPc F} {r : RoomId}
    (h : (pc.next s).2.found = some r) : ∃ p, s.getPlayerRoom p = some r := by
  cases pc with
  | handleReady session ready =>
    rw [next] at h
    split at h
    · next heq =>
      cases h
      exact ⟨_, heq⟩
    · simp [found] at h
  | handleLeave session requested =>
    rw [next] at h
    split at h
    · simp [found] at h
    · next heq =>
      split at h
      · simp [found] at h
      · cases h
        exact ⟨_, heq⟩
  | requeue todo =>
    cases todo with
    | nil => simp [next, found] at h
    | cons p todo =>
      rw [next] at h
      split at h <;> simp [found] at h
  | readyNotify p r' ready started => cases started <;> simp [next, found] at h
  | startStatus r' players todo => cases todo <;> simp [next, found] at h
  | _ =>
    rw [next] at h
    first
    | split at h <;> simp [found] at h
    | simp [found] at h

end Game
