import GameServer.Server.LoginThreads
import GameServer.Server.RoomFormation

/-!
# Everything that runs in the server

All the threads of the server at once: requests to match, to cancel, to get ready, to leave, to
play, to log in and to reconnect, connections that are accepted and closed, heartbeats, and the one
thread of the game loop. A run starts with `GameServer::Init`, and a request that has not arrived
yet is a task that has not taken its first step.
-/

namespace Game

open Infra

variable {ι F : Type}

/-- A thread of the server. -/
inductive Task (F : Type) where
  | worker (pc : HandlerPc F)
  | cancel (pc : CancelPc)
  | login (pc : LoginPc)
  | close (pc : ClosePc)
  | accept (nowMs : Int)
  | heartbeat (session : SessionId) (nowMs : Int)
  | heartbeatScan (nowMs : Int)
  | loop (pc : LoopPc F)
  /-- A short task that is over. -/
  | done

/-- What the environment supplies for a step. -/
structure TaskChoice where
  loop : LoopChoice := {}
  login : LoginChoice := {}

/-- One step of a task. -/
def Task.next [Axis F] (ch : TaskChoice) (s : Server F) : Task F → Server F × Task F
  | .worker pc => let (s, pc) := pc.next s; (s, .worker pc)
  | .cancel pc => let (s, pc) := pc.next s; (s, .cancel pc)
  | .login pc => let (s, pc) := pc.next ch.login s; (s, .login pc)
  | .close pc => let (s, pc) := pc.next s; (s, .close pc)
  | .accept nowMs => (s.accept nowMs, .done)
  | .heartbeat session nowMs => (s.handleHeartbeat session nowMs, .done)
  | .heartbeatScan nowMs => (s.heartbeatScan nowMs, .done)
  | .loop pc => let (s, pc) := pc.next ch.loop s; (s, .loop pc)
  | .done => (s, .done)

/-- A task before its first step, the game loop excepted. -/
inductive Task.Starts : Task F → Prop where
  | match (session : SessionId) (requested : PlayerId) :
      Starts (.worker (.handleMatch session requested))
  | ready (session : SessionId) (ready : Bool) : Starts (.worker (.handleReady session ready))
  | leave (session : SessionId) (requested : RoomId) :
      Starts (.worker (.handleLeave session requested))
  | input (session : SessionId) (nowMs : Int) (request : PlayerInput F) :
      Starts (.worker (.handleInput session nowMs request))
  | cancel (session : SessionId) (requested : PlayerId) : Starts (.cancel (.start session requested))
  | login (session : SessionId) (account : String) :
      Starts (.login (.account session (.start account)))
  | reconnect (session : SessionId) (p : PlayerId) (sessionToken : String) :
      Starts (.login (.checkToken session p sessionToken))
  | close (session : SessionId) : Starts (.close (.remove session))
  | accept (nowMs : Int) : Starts (.accept nowMs)
  | heartbeat (session : SessionId) (nowMs : Int) : Starts (.heartbeat session nowMs)
  | heartbeatScan (nowMs : Int) : Starts (.heartbeatScan nowMs)

/-- The game loop, under `none`, and any number of other tasks over one server. -/
abbrev Tasks (ι F : Type) := Sys (Option ι) (Server F) (Task F)

/-- One step of the tasks. -/
abbrev Tasks.step [DecidableEq ι] [Axis F] (c : Tasks ι F) (e : Option ι × TaskChoice) :
    Tasks ι F :=
  Sys.step Task.next c e

/-- The server after `GameServer::Init`, and what it will be asked to do. -/
def Tasks.init (roomPlayerCount : Int) (tasks : ι → Task F) : Tasks ι F where
  shared := Server.init roomPlayerCount
  threads
    | none => .loop .copyRooms
    | some i => tasks i

/-- A step of the game loop. -/
theorem Tasks.step_loop [DecidableEq ι] [Axis F] {c : Tasks ι F} {pc : LoopPc F}
    (hpc : c.threads none = .loop pc) (ch : TaskChoice) :
    (c.step (none, ch)).shared = (pc.next ch.loop c.shared).1 ∧
      (c.step (none, ch)).threads none = .loop (pc.next ch.loop c.shared).2 ∧
      ∀ i, (c.step (none, ch)).threads (some i) = c.threads (some i) := by
  have hnext : Task.next ch c.shared (c.threads none) =
      ((pc.next ch.loop c.shared).1, .loop (pc.next ch.loop c.shared).2) := by
    rw [hpc]
    rfl
  obtain ⟨hshared, hthreads⟩ := Sys.step_of_next hnext
  exact ⟨hshared, (hthreads none).trans (if_pos rfl),
    fun i => (hthreads (some i)).trans (if_neg (Option.some_ne_none i))⟩

end Game
