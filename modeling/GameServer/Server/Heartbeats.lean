import GameServer.Server.Outside
import GameServer.Timer.TimerManager

/-!
# Heartbeats

Every five seconds a timer of `GameServer::Init` looks for sessions that have been silent for more
than thirty, and closes them. A session is heard when it is accepted, with a login and with a
heartbeat. Other requests do not count, a reconnect included.

The wall clock, from which the times of the heartbeats are, and the steady clock of the timer are
taken to go together: one clock stands for both.
-/

namespace Game

namespace Server

variable {F : Type}

/-! ## Who has been heard -/

/-- `LastHeartbeatMs` of all sessions. -/
def beats (s : Server F) : SessionId → Int :=
  fun session => (s.sessionHeap session).lastHeartbeatMs

theorem beats_updateSession (s : Server F) (session : SessionId) (f : Session → Session) :
    (s.updateSession session f).beats =
      Function.update s.beats session (f (s.sessionHeap session)).lastHeartbeatMs := by
  funext σ
  unfold beats updateSession
  dsimp only
  rcases eq_or_ne σ session with rfl | hσ
  · rw [Function.update_self, Function.update_self]
  · rw [Function.update_of_ne hσ, Function.update_of_ne hσ]

/-- A setter that is not about heartbeats. -/
theorem beats_setter (s : Server F) (session : SessionId) {f : Session → Session}
    (hf : ∀ state, (f state).lastHeartbeatMs = state.lastHeartbeatMs) :
    (s.updateSession session f).beats = s.beats := by
  rw [beats_updateSession, hf]
  exact Function.update_eq_self session s.beats

theorem beats_setSessionRoomId (s : Server F) (session : SessionId) (roomId : RoomId) :
    (s.setSessionRoomId session roomId).beats = s.beats :=
  s.beats_setter session fun _ => rfl

/-- What is not about heartbeats leaves them as they are. -/
theorem Via.beats {about : List Matter} {s s' : Server F} (h : Via about s s')
    (hbeat : .heartbeat ∉ about) : s'.beats = s.beats := by
  refine h.view fun {matter t t'} hmem hupdate => ?_
  cases hupdate with
  | setSessionRoomId _ session roomId => exact t.beats_setSessionRoomId session roomId
  | bindSession _ session p => exact t.beats_setter session fun _ => rfl
  | closeSession _ session => exact t.beats_setter session fun _ => rfl
  | createRoom _ hnd =>
    exact view_createRoom Server.beats (fun _ _ => rfl) (fun _ _ _ => rfl) beats_setSessionRoomId t _
  | updateHeartbeatTime => exact absurd hmem hbeat
  | send | broadcast | updatePlayer | setPending | updateRoom | updateGame | addGame | removeGame
  | withQueue | eraseRoom | answer | record | accounts | updateConnections | setOnline
  | setOffline => rfl

theorem beats_handleLogin (s : Server F) (session : SessionId) (nowMs : Int) (data : LoadedPlayer)
    (account : String) : (s.handleLogin session nowMs data (some account)).beats =
      Function.update s.beats session nowMs := by
  have hid := (via_getOrCreatePlayerId s account).beats (by decide)
  unfold handleLogin
  dsimp only
  refine ((via_rejoinRoom _ session _).beats (by decide)).trans ?_
  refine (beats_updateSession _ session
    ({ · with playerId := (s.getOrCreatePlayerId account).1, lastHeartbeatMs := nowMs })).trans ?_
  rw [(via_closeOther _ _ session).beats (by decide)]
  exact congrArg (Function.update · session nowMs) hid

theorem beats_heartbeatScan (s : Server F) (nowMs : Int) :
    (s.heartbeatScan nowMs).beats = s.beats := by
  funext σ
  unfold beats heartbeatScan
  dsimp only
  split <;> rfl

/-- The session that is heard in an event. -/
def hears (s : Server F) : Event F → Option SessionId
  | .accept _ => some s.nextSessionId
  | .packet session _ (.login _ (some _)) | .packet session _ .heartbeat =>
    if session < s.nextSessionId then some session else none
  | _ => none

/-- The wall clock when somebody is heard. -/
def heardMs : Event F → Int
  | .accept nowMs | .packet _ nowMs _ => nowMs
  | _ => 0

theorem beats_dispatch [Axis F] (s : Server F) {session : SessionId} (nowMs : Int)
    (hsession : session < s.nextSessionId) (request : Request F) :
    (s.dispatch session nowMs request).beats =
      match s.hears (.packet session nowMs request) with
      | some heard => Function.update s.beats heard nowMs
      | none => s.beats := by
  match request with
  | .login data none => rfl
  | .login data (some account) =>
    rw [hears, if_pos hsession]
    exact beats_handleLogin s session nowMs data account
  | .heartbeat =>
    rw [hears, if_pos hsession]
    exact beats_updateSession s session ({ · with lastHeartbeatMs := nowMs })
  | .reconnect _ | .match _ | .cancelMatch _ | .ready _ | .input _ | .leaveRoom _ =>
    exact (via_dispatch s session nowMs _).beats (by simp)

/-- **Who is heard, and when.** -/
theorem beats_handle [Axis F] (s : Server F) (e : Event F) :
    (s.handle e).beats =
      match s.hears e with
      | some session => Function.update s.beats session (heardMs e)
      | none => s.beats := by
  cases e with
  | accept nowMs =>
    exact beats_updateSession { s with nextSessionId := s.nextSessionId + 1 } s.nextSessionId
      fun _ => { lastHeartbeatMs := nowMs }
  | packet session nowMs request =>
    rw [handle]
    by_cases hsession : session < s.nextSessionId
    · rw [if_pos hsession]
      exact beats_dispatch s nowMs hsession request
    · have hnone : s.hears (.packet session nowMs request) = none := by
        unfold hears
        split
        · next h => cases h
        · next h => cases h; exact if_neg hsession
        · next h => cases h; exact if_neg hsession
        · rfl
      rw [if_neg hsession, hnone]
  | close session =>
    rw [handle]
    split
    · exact (via_close s session).beats (by decide)
    · rfl
  | heartbeatScan nowMs => exact beats_heartbeatScan s nowMs
  | tick roomId env => exact (via_tick s roomId env).beats (by decide)

/-! ## Who is to be closed -/

/-- A registered session that nobody has closed. -/
def Live (s : Server F) (session : SessionId) : Prop :=
  session ∈ s.connectionManager.sessions ∧ (s.sessionHeap session).closing = false

/-- A session that lives after an event has lived before or is new. -/
theorem live_handle [Axis F] {s : Server F} {e : Event F} {session : SessionId}
    (h : (s.handle e).Live session) (hscan : ∀ nowMs, e ≠ .heartbeatScan nowMs) :
    s.Live session ∨ s.hears e = some session := by
  have hstep := presenceStep_handle s e
  have hlive : session ∈ (s.handle e).presence.connections.sessions ∧
      (s.handle e).presence.closing session = false := h
  generalize (s.handle e).presence = w at hstep hlive
  obtain ⟨hmem, hclosing⟩ := hlive
  cases hstep with
  | accept nowMs =>
    rcases eq_or_ne session s.nextSessionId with rfl | hne
    · exact Or.inr rfl
    · refine Or.inl ⟨?_, ?_⟩
      · exact (Finset.mem_insert.mp hmem).resolve_left hne
      · exact (Function.update_of_ne hne _ _).symm.trans hclosing
  | close hsession => exact Or.inl ⟨Finset.mem_of_mem_erase hmem, hclosing⟩
  | scan nowMs => exact absurd rfl (hscan nowMs)
  | login hsession token => exact Or.inl ⟨hmem, (Bool.or_eq_false_iff.mp hclosing).1⟩
  | reconnect hsession htoken => exact Or.inl ⟨hmem, hclosing⟩
  | quiet hbinding => exact Or.inl ⟨hmem, hclosing⟩

theorem live_heartbeatScan {s : Server F} {nowMs : Int} {session : SessionId}
    (h : (s.heartbeatScan nowMs).Live session) :
    s.Live session ∧ nowMs - s.beats session ≤ 30000 := by
  obtain ⟨hmem, hclosing⟩ := h
  unfold heartbeatScan at hmem hclosing
  dsimp only at hmem hclosing
  split at hclosing
  · cases hclosing
  · next hrecent =>
    exact ⟨⟨hmem, hclosing⟩, not_lt.mp fun hlt => hrecent ⟨hmem, hlt⟩⟩

theorem closing_heartbeatScan {s : Server F} {nowMs : Int} {session : SessionId}
    (h : ((s.heartbeatScan nowMs).sessionHeap session).closing = true) :
    (s.sessionHeap session).closing = true ∨
    (session ∈ s.connectionManager.sessions ∧ 30000 < nowMs - s.beats session) := by
  unfold heartbeatScan at h
  dsimp only at h
  split at h
  · next hsilent => exact Or.inr hsilent
  · exact Or.inl h

/-- A login on another session for the player whose session this is. -/
def Displaced (s : Server F) (session : SessionId) (e : Event F) : Prop :=
  ∃ other nowMs data account, e = .packet other nowMs (.login data (some account)) ∧
    s.connectionManager.getByPlayerId (s.getOrCreatePlayerId account).1 = some session ∧
    session ≠ other

/-- Why a session is asked to close. -/
theorem closing_handle [Axis F] {s : Server F} {e : Event F} {session : SessionId}
    (h : ((s.handle e).sessionHeap session).closing = true)
    (hscan : ∀ nowMs, e ≠ .heartbeatScan nowMs) :
    (s.sessionHeap session).closing = true ∨ s.Displaced session e := by
  have hstep := presenceStep_handle s e
  have hclosing : (s.handle e).presence.closing session = true := h
  generalize (s.handle e).presence = w at hstep hclosing
  cases hstep with
  | accept nowMs =>
    rcases eq_or_ne session s.nextSessionId with rfl | hne
    · have hnew : s.presence.accept.closing s.nextSessionId = false := Function.update_self _ _ _
      rw [hnew] at hclosing
      cases hclosing
    · exact Or.inl ((Function.update_of_ne hne _ _).symm.trans hclosing)
  | close hsession => exact Or.inl hclosing
  | scan nowMs => exact absurd rfl (hscan nowMs)
  | login hsession token =>
    rcases (Bool.or_eq_true _ _).mp hclosing with hold | hdisplaces
    · exact Or.inl hold
    · obtain ⟨hbound, hne⟩ := of_decide_eq_true hdisplaces
      exact Or.inr ⟨_, _, _, _, rfl, hbound, hne⟩
  | reconnect hsession htoken => exact Or.inl hclosing
  | quiet hbinding => exact Or.inl hclosing

end Server

/-! ## The timer -/

/-- The server with its timers. The only callback is the scan. -/
structure Supervised (F : Type) where
  server : Server F
  timers : TimerManager Unit

/-- What happens at some time. -/
inductive Moment (F : Type) where
  | accept
  | packet (session : SessionId) (request : Request F)
  | close (session : SessionId)
  | tick (roomId : RoomId) (env : TickEnv)
  /-- The timer thread polls or runs a callback. -/
  | timer

namespace Supervised

variable {F : Type} [Axis F]

/-- After `GameServer::Init` at `now`. -/
def init (roomPlayerCount now : Int) : Supervised F where
  server := Server.init roomPlayerCount
  timers := TimerManager.addTimer now 5000 () {}

/-- What happens to the server apart from the timer. -/
def event? (now : Int) : Moment F → Option (Event F)
  | .accept => some (.accept now)
  | .packet session request => some (.packet session now request)
  | .close session => some (.close session)
  | .tick roomId env => some (.tick roomId env)
  | .timer => none

def step (c : Supervised F) (now : Int) (m : Moment F) : Supervised F :=
  match event? now m with
  | some e => { c with server := c.server.handle e }
  | none =>
    match c.timers.next now with
    | (none, timers) => { c with timers }
    | (some (), timers) => { server := c.server.handle (.heartbeatScan now), timers }

def run (c : Supervised F) (trace : List (Int × Moment F)) : Supervised F :=
  trace.foldl (fun c x => c.step x.1 x.2) c

/-- The session is heard at this moment. -/
def Hears (c : Supervised F) (x : Int × Moment F) (session : SessionId) : Prop :=
  ∃ e, event? x.1 x.2 = some e ∧ c.server.hears e = some session

/--
The clock does not go back, and the timer thread never lets `δ` go by between two steps. `last` is
the time of its last step.
-/
def Timely (δ last now : Int) : List (Int × Moment F) → Int → Prop
  | [], finish => now ≤ finish ∧ finish ≤ last + δ
  | x :: trace, finish => now ≤ x.1 ∧ x.1 ≤ last + δ ∧
      Timely δ (if event? x.1 x.2 = none then x.1 else last) x.1 trace finish

omit [Axis F] in
theorem event?_eq_none {now : Int} {m : Moment F} (h : event? now m = none) : m = .timer := by
  cases m with
  | timer => rfl
  | accept => cases h
  | packet => cases h
  | close => cases h
  | tick => cases h

omit [Axis F] in
theorem event?_ne_scan {now nowMs : Int} {m : Moment F} :
    event? now m ≠ some (.heartbeatScan nowMs) := by
  intro h
  cases m <;> cases h

omit [Axis F] in
/-- Who is heard is heard now. -/
theorem heardMs_event? {s : Server F} {now : Int} {m : Moment F} {e : Event F}
    {session : SessionId} (he : event? now m = some e) (hears : s.hears e = some session) :
    Server.heardMs e = now := by
  cases m with
  | accept => cases he; rfl
  | packet => cases he; rfl
  | close => cases he; cases hears
  | tick => cases he; cases hears
  | timer => cases he

theorem step_event {c : Supervised F} {now : Int} {m : Moment F} {e : Event F}
    (he : event? now m = some e) :
    c.step now m = { c with server := c.server.handle e } := by
  unfold step
  rw [he]

/-! ## The heartbeats of a trace -/

/-- What a moment does to the heartbeat of a session. -/
theorem beats_step (c : Supervised F) (x : Int × Moment F) (session : SessionId) :
    (c.Hears x session ∧ (c.step x.1 x.2).server.beats session = x.1) ∨
    (c.step x.1 x.2).server.beats session = c.server.beats session := by
  cases he : event? x.1 x.2 with
  | none =>
    refine Or.inr ?_
    unfold step
    rw [he]
    dsimp only
    split
    · rfl
    · exact congrFun (Server.beats_heartbeatScan c.server x.1) session
  | some e =>
    rw [step_event he, Server.beats_handle]
    cases hhears : c.server.hears e with
    | none => exact Or.inr rfl
    | some heard =>
      dsimp only
      rcases eq_or_ne session heard with rfl | hne
      · refine Or.inl ⟨⟨e, he, hhears⟩, ?_⟩
        rw [Function.update_self, heardMs_event? he hhears]
      · exact Or.inr (Function.update_of_ne hne _ _)

/-- Who is heard has a heartbeat of now. -/
theorem beats_of_hears {c : Supervised F} {x : Int × Moment F} {session : SessionId}
    (h : c.Hears x session) : (c.step x.1 x.2).server.beats session = x.1 := by
  obtain ⟨e, he, hhears⟩ := h
  rw [step_event he, Server.beats_handle, hhears]
  dsimp only
  rw [Function.update_self, heardMs_event? he hhears]

/-- A heartbeat is an old one or one of the trace. -/
theorem beats_run (session : SessionId) : ∀ (trace : List (Int × Moment F)) (c : Supervised F),
    (c.run trace).server.beats session = c.server.beats session ∨
    ∃ x ∈ trace, (c.run trace).server.beats session = x.1
  | [], _ => Or.inl rfl
  | x :: trace, c => by
    rcases beats_run session trace (c.step x.1 x.2) with hsame | ⟨y, hy, hbeat⟩
    · rcases beats_step c x session with ⟨-, hnow⟩ | hold
      · exact Or.inr ⟨x, List.mem_cons_self, hsame.trans hnow⟩
      · exact Or.inl (hsame.trans hold)
    · exact Or.inr ⟨y, List.mem_cons_of_mem x hy, hbeat⟩

/-- While the clock does not go back the heartbeats do not. -/
theorem le_beats_run {c : Supervised F} {before after : List (Int × Moment F)}
    {x : Int × Moment F} {session : SessionId}
    (hclock : (before ++ x :: after).Pairwise fun y z => y.1 ≤ z.1)
    (h : (c.run before).Hears x session) :
    x.1 ≤ (c.run (before ++ x :: after)).server.beats session := by
  have hafter := (List.pairwise_cons.mp (List.pairwise_append.mp hclock).2.1).1
  have hrun : c.run (before ++ x :: after) = ((c.run before).step x.1 x.2).run after := by
    simp only [run, List.foldl_append, List.foldl_cons]
  rw [hrun]
  rcases beats_run session after ((c.run before).step x.1 x.2) with hsame | ⟨y, hy, hbeat⟩
  · rw [hsame, beats_of_hears h]
  · rw [hbeat]
    exact hafter y hy

/-! ## No silent session lives on -/

/-- What the timer does. -/
theorem step_timer (c : Supervised F) (now : Int) :
    (c.timers.callbacks = [] ∧
      c.step now .timer = { c with timers := c.timers.poll now }) ∨
    ∃ callbacks, c.timers.callbacks = () :: callbacks ∧
      c.step now .timer =
        { server := c.server.heartbeatScan now, timers := { c.timers with callbacks } } := by
  have hstep : c.step now .timer =
      match c.timers.next now with
      | (none, timers) => { c with timers }
      | (some (), timers) => { server := c.server.handle (.heartbeatScan now), timers } := rfl
  rw [hstep]
  unfold TimerManager.next
  split
  · next heq =>
    split at heq
    · next hidle =>
      cases heq
      exact Or.inl ⟨hidle, rfl⟩
    · cases heq
  · next heq =>
    split at heq
    · cases heq
    · next callbacks hdue =>
      cases heq
      exact Or.inr ⟨callbacks, hdue, rfl⟩

/--
The state of the timer, and what it guarantees.

Between two rounds the scan is due at `nextRun`. What has been heard since the scan before is known
to be recent; when the scan begins late, it is late by at most `δ`.
-/
inductive Watched (δ last now : Int) (c : Supervised F) : Prop where
  | idle (nextRun : Int) (hclock : last ≤ now)
    (htimers : c.timers = { tasks := [⟨5000, (), nextRun⟩], callbacks := [] })
    (hnext : nextRun ≤ last + 5000)
    (hlive : ∀ session, c.server.Live session →
      nextRun - 35000 ≤ c.server.beats session ∧ last - 35000 ≤ c.server.beats session)
  | due (nextRun : Int) (hclock : last ≤ now)
    (htimers : c.timers = { tasks := [⟨5000, (), nextRun⟩], callbacks := [()] })
    (hnext : nextRun ≤ last + 5000)
    (hlive : ∀ session, c.server.Live session →
      last - δ - 35000 ≤ c.server.beats session)

omit [Axis F] in
theorem watched_init (δ roomPlayerCount now : Int) :
    (init roomPlayerCount now : Supervised F).Watched δ now now := by
  refine .idle (now + 5000) le_rfl rfl le_rfl fun session hlive => ?_
  exact absurd hlive.1 (Finset.notMem_empty session)

/-- A session that lives after a moment has lived before, or it is heard. -/
theorem live_step {c : Supervised F} {x : Int × Moment F} {session : SessionId}
    (h : (c.step x.1 x.2).server.Live session) :
    (c.server.Live session ∧
      (c.step x.1 x.2).server.beats session = c.server.beats session) ∨
    (c.Hears x session ∧ (c.step x.1 x.2).server.beats session = x.1) := by
  rcases beats_step c x session with hheard | hsame
  · exact Or.inr hheard
  · cases he : event? x.1 x.2 with
    | none =>
      refine Or.inl ⟨?_, hsame⟩
      rw [event?_eq_none he] at h
      rcases step_timer c x.1 with ⟨-, hstep⟩ | ⟨_, -, hstep⟩
      · rwa [hstep] at h
      · rw [hstep] at h
        exact (Server.live_heartbeatScan h).1
    | some e =>
      rw [step_event he] at h
      rcases Server.live_handle h (fun _ hscan => event?_ne_scan (he.trans (congrArg some hscan)))
        with hold | hnew
      · exact Or.inl ⟨hold, hsame⟩
      · have hhears : c.Hears x session := ⟨e, he, hnew⟩
        exact Or.inr ⟨hhears, beats_of_hears hhears⟩

theorem Watched.event {δ last now : Int} {c : Supervised F} {x : Int × Moment F} {e : Event F}
    (h : c.Watched δ last now) (he : event? x.1 x.2 = some e) (hnow : now ≤ x.1)
    (hlate : x.1 ≤ last + δ) : (c.step x.1 x.2).Watched δ last x.1 := by
  have htimers : (c.step x.1 x.2).timers = c.timers := by rw [step_event he]
  cases h with
  | idle nextRun hclock hc hnext hlive =>
    refine .idle nextRun (hclock.trans hnow) (htimers.trans hc) hnext fun session hsession => ?_
    rcases live_step hsession with ⟨hold, hsame⟩ | ⟨-, hheard⟩
    · rw [hsame]
      exact hlive session hold
    · omega
  | due nextRun hclock hc hnext hlive =>
    refine .due nextRun (hclock.trans hnow) (htimers.trans hc) hnext fun session hsession => ?_
    rcases live_step hsession with ⟨hold, hsame⟩ | ⟨-, hheard⟩
    · rw [hsame]
      exact hlive session hold
    · omega

theorem Watched.timer {δ last now t : Int} {c : Supervised F} (h : c.Watched δ last now)
    (hnow : now ≤ t) (hlate : t ≤ last + δ) : (c.step t .timer).Watched δ t t := by
  cases h with
  | idle nextRun hclock hc hnext hlive =>
    rcases step_timer c t with ⟨-, hstep⟩ | ⟨callbacks, hcallbacks, -⟩
    · rw [hstep]
      by_cases hdue : nextRun ≤ t
      · refine .due (t + 5000) le_rfl ?_ le_rfl fun session hsession => ?_
        · simp [hc, TimerManager.poll, TimerTask.poll, hdue]
        · have hbeat : last - 35000 ≤ c.server.beats session := (hlive session hsession).2
          show t - δ - 35000 ≤ c.server.beats session
          omega
      · refine .idle nextRun le_rfl ?_ (by omega) fun session hsession => ?_
        · simp [hc, TimerManager.poll, TimerTask.poll, hdue]
        · have hbeat : nextRun - 35000 ≤ c.server.beats session := (hlive session hsession).1
          refine ⟨hbeat, ?_⟩
          show t - 35000 ≤ c.server.beats session
          omega
    · rw [hc] at hcallbacks
      cases hcallbacks
  | due nextRun hclock hc hnext hlive =>
    rcases step_timer c t with ⟨hcallbacks, -⟩ | ⟨callbacks, hcallbacks, hstep⟩
    · rw [hc] at hcallbacks
      cases hcallbacks
    · rw [hc] at hcallbacks
      cases hcallbacks
      rw [hstep]
      refine .idle nextRun le_rfl ?_ (by omega) fun session hsession => ?_
      · rw [hc]
      · obtain ⟨-, hrecent⟩ := Server.live_heartbeatScan hsession
        rw [Server.beats_heartbeatScan]
        omega

/-- As long as the timer thread keeps up, no session lives that has been silent for longer. -/
theorem Watched.run {δ finish : Int} : ∀ (trace : List (Int × Moment F)) {last now : Int}
    {c : Supervised F}, c.Watched δ last now → Timely δ last now trace finish →
    ∀ session, (c.run trace).server.Live session →
      finish - (c.run trace).server.beats session ≤ 35000 + 2 * δ
  | [], last, now, c, h, htimely, session, hsession => by
    obtain ⟨hnow, hlate⟩ := htimely
    cases h with
    | idle nextRun hclock hc hnext hlive =>
      have := hlive session hsession
      show finish - c.server.beats session ≤ 35000 + 2 * δ
      omega
    | due nextRun hclock hc hnext hlive =>
      have := hlive session hsession
      show finish - c.server.beats session ≤ 35000 + 2 * δ
      omega
  | x :: trace, last, now, c, h, htimely, session, hsession => by
    obtain ⟨hnow, hlate, hrest⟩ := htimely
    cases he : event? x.1 x.2 with
    | none =>
      rw [if_pos he] at hrest
      have hstep : (c.step x.1 x.2).Watched δ x.1 x.1 := by
        rw [event?_eq_none he]
        exact h.timer hnow hlate
      exact Watched.run trace hstep hrest session hsession
    | some e =>
      rw [if_neg (by rw [he]; exact Option.some_ne_none e)] at hrest
      exact Watched.run trace (h.event he hnow hlate) hrest session hsession

/-- A session lives because it has lived from the beginning or has been heard since. -/
theorem last_heard {session : SessionId} : ∀ (trace : List (Int × Moment F)) {c : Supervised F},
    (c.run trace).server.Live session →
    (c.server.Live session ∧
      (c.run trace).server.beats session = c.server.beats session) ∨
    ∃ before x after, trace = before ++ x :: after ∧ (c.run before).Hears x session ∧
      (c.run trace).server.beats session = x.1
  | [], _, h => Or.inl ⟨h, rfl⟩
  | x :: trace, c, h => by
    rcases last_heard trace (c := c.step x.1 x.2) h with
      ⟨hlive, hsame⟩ | ⟨before, y, after, rfl, hheard, hbeat⟩
    · rcases live_step hlive with ⟨hlive, hold⟩ | ⟨hheard, hnow⟩
      · exact Or.inl ⟨hlive, hsame.trans hold⟩
      · exact Or.inr ⟨[], x, trace, rfl, hheard, hsame.trans hnow⟩
    · exact Or.inr ⟨x :: before, y, after, rfl, hheard, hbeat⟩

/--
**No silent session lives on.**

When the timer thread never lets more than `δ` go by between two of its steps, every session that
is registered and not asked to close has been heard in the last 35 seconds and twice that time.

There is one clock here. It stands for the `steady_clock` by which the timer finds its tasks due and for
the `NowMs` of the heartbeats, which is taken from the wall clock.
-/
theorem live_heard {δ roomPlayerCount start finish : Int} {trace : List (Int × Moment F)}
    (htimely : Timely δ start start trace finish) {session : SessionId}
    (hlive : ((init roomPlayerCount start).run trace).server.Live session) :
    ∃ before x after, trace = before ++ x :: after ∧
      ((init roomPlayerCount start).run before).Hears x session ∧
      finish - x.1 ≤ 35000 + 2 * δ := by
  have hrecent := (watched_init δ roomPlayerCount start).run trace htimely session hlive
  rcases last_heard trace hlive with ⟨hstart, -⟩ | ⟨before, x, after, hsplit, hheard, hbeat⟩
  · exact absurd hstart.1 (Finset.notMem_empty session)
  · exact ⟨before, x, after, hsplit, hheard, hbeat ▸ hrecent⟩

/-- A session that speaks a second after it is accepted, and a timer thread that keeps up. The last
step of the thread runs the callback. -/
theorem live_heard_heartbeat :
    let trace : List (Int × Moment Coord) :=
      [(0, .accept), (1000, .packet 1 .heartbeat), (4900, .timer), (5000, .timer), (5001, .timer)]
    Timely 5010 0 0 trace 5002 ∧
    ((init 1 0 : Supervised Coord).run (trace.take 4)).timers.callbacks ≠ [] ∧
    ∃ before x after, trace = before ++ x :: after ∧
      ((init 1 0 : Supervised Coord).run before).Hears x 1 ∧ 5002 - x.1 ≤ 35000 + 2 * 5010 := by
  intro trace
  have htimely : Timely 5010 0 0 trace 5002 := by
    simp [trace, Timely, event?]
  refine ⟨htimely, by decide, live_heard htimely ⟨?_, ?_⟩⟩
  · decide
  · decide

/-! ## Only silent sessions are closed, and displaced ones -/

/-- At this moment the session is asked to close, and has not been asked before. -/
def AskedAt (c : Supervised F) (before : List (Int × Moment F)) (x : Int × Moment F)
    (session : SessionId) : Prop :=
  ((c.run before).server.sessionHeap session).closing = false ∧
  (((c.run before).step x.1 x.2).server.sessionHeap session).closing = true

/--
Why a session is asked to close at some moment: the callback of the timer runs, and all that has been
heard of the session was heard more than thirty seconds before; or a login displaces the session.
-/
def Closes (c : Supervised F) (before : List (Int × Moment F)) (x : Int × Moment F)
    (session : SessionId) : Prop :=
  (x.2 = .timer ∧ (c.run before).timers.callbacks ≠ [] ∧
    session ∈ (c.run before).server.connectionManager.sessions ∧
    ∀ earlier y later, before = earlier ++ y :: later → (c.run earlier).Hears y session →
      30000 < x.1 - y.1) ∨
  ∃ e, event? x.1 x.2 = some e ∧ (c.run before).server.Displaced session e

theorem closing_step {c : Supervised F} {x : Int × Moment F} {session : SessionId}
    (h : ((c.step x.1 x.2).server.sessionHeap session).closing = true) :
    (c.server.sessionHeap session).closing = true ∨
    (x.2 = .timer ∧ c.timers.callbacks ≠ [] ∧ session ∈ c.server.connectionManager.sessions ∧
      30000 < x.1 - c.server.beats session) ∨
    ∃ e, event? x.1 x.2 = some e ∧ c.server.Displaced session e := by
  cases he : event? x.1 x.2 with
  | none =>
    have htimer := event?_eq_none he
    rw [htimer] at h
    rcases step_timer c x.1 with ⟨-, hstep⟩ | ⟨callbacks, hdue, hstep⟩
    · rw [hstep] at h
      exact Or.inl h
    · rw [hstep] at h
      have hrun : c.timers.callbacks ≠ [] := by
        rw [hdue]
        exact List.cons_ne_nil _ _
      exact (Server.closing_heartbeatScan h).imp_right fun hsilent => Or.inl ⟨htimer, hrun, hsilent⟩
  | some e =>
    rw [step_event he] at h
    have hreason := Server.closing_handle h
      fun _ hscan => event?_ne_scan (he.trans (congrArg some hscan))
    exact hreason.imp_right fun hdisplaced => Or.inr ⟨e, rfl, hdisplaced⟩

/-- The moment at which a session is asked has a reason. -/
theorem closes_of_askedAt {c : Supervised F} {before : List (Int × Moment F)} {x : Int × Moment F}
    {session : SessionId} (hclock : before.Pairwise fun y z => y.1 ≤ z.1)
    (h : c.AskedAt before x session) : c.Closes before x session := by
  rcases closing_step h.2 with hold | ⟨htimer, hrun, hmem, hsilent⟩ | hdisplaced
  · rw [h.1] at hold
    cases hold
  · refine Or.inl ⟨htimer, hrun, hmem, ?_⟩
    rintro earlier y later rfl hheard
    have hbeat := le_beats_run hclock hheard
    omega
  · exact Or.inr hdisplaced

/-- A session that has been asked to close was asked at some moment. -/
theorem exists_askedAt {c : Supervised F} {session : SessionId}
    (hopen : (c.server.sessionHeap session).closing = false) {trace : List (Int × Moment F)}
    (h : ((c.run trace).server.sessionHeap session).closing = true) :
    ∃ before x after, trace = before ++ x :: after ∧ c.AskedAt before x session := by
  induction trace using List.reverseRecOn with
  | nil =>
    rw [show c.run [] = c from rfl, hopen] at h
    cases h
  | append_singleton trace x ih =>
    have hrun : c.run (trace ++ [x]) = (c.run trace).step x.1 x.2 := by
      simp only [run, List.foldl_append, List.foldl_cons, List.foldl_nil]
    rw [hrun] at h
    cases hbefore : ((c.run trace).server.sessionHeap session).closing with
    | true =>
      obtain ⟨before, y, after, rfl, hasked⟩ := ih hbefore
      exact ⟨before, y, after ++ [x], by simp, hasked⟩
    | false => exact ⟨trace, x, [], rfl, hbefore, h⟩

/--
**Only silent sessions are closed, and displaced ones.**

Whenever a session is asked to close, it is asked by the callback of the timer, which has not heard
anything of it for thirty seconds, or by a login that displaces it. Nothing else makes a session one
that has been asked.
-/
theorem closing_reason {roomPlayerCount start : Int} {trace : List (Int × Moment F)}
    (hclock : trace.Pairwise fun y z => y.1 ≤ z.1) (session : SessionId) :
    (∀ before x after, trace = before ++ x :: after →
      (init roomPlayerCount start).AskedAt before x session →
      (init roomPlayerCount start).Closes before x session) ∧
    ((((init roomPlayerCount start).run trace).server.sessionHeap session).closing = true →
      ∃ before x after, trace = before ++ x :: after ∧
        (init roomPlayerCount start).AskedAt before x session ∧
        (init roomPlayerCount start).Closes before x session) := by
  have hcloses : ∀ before x after, trace = before ++ x :: after →
      (init roomPlayerCount start).AskedAt before x session →
      (init roomPlayerCount start).Closes before x session := by
    rintro before x after rfl hasked
    exact closes_of_askedAt (List.pairwise_append.mp hclock).1 hasked
  refine ⟨hcloses, fun h => ?_⟩
  obtain ⟨before, x, after, hsplit, hasked⟩ := exists_askedAt rfl h
  exact ⟨before, x, after, hsplit, hasked, hcloses before x after hsplit hasked⟩

/-- A session that says nothing for forty seconds is asked by the callback. -/
theorem closing_reason_silent :
    let trace : List (Int × Moment Coord) := [(0, .accept), (40000, .timer), (40001, .timer)]
    (∃ before x after, trace = before ++ x :: after ∧
      (init 1 0).AskedAt before x 1 ∧ (init 1 0).Closes before x 1) ∧
    (init 1 0).Closes [(0, .accept), (40000, .timer)] ((40001, .timer) : Int × Moment Coord) 1 := by
  intro trace
  constructor
  · exact (closing_reason (by decide) 1).2 (by decide)
  · exact (closing_reason (by decide) 1).1 _ _ [] rfl ⟨by decide, by decide⟩

end Supervised
end Game
