import GameServer.Server.ExclusivePlacement
import GameServer.Server.Outside

/-!
# Rooms are formed from players who are online

`TryCreateRoom` takes players off the queue without looking at their sessions. The close callback
does not take a player off the queue, and `HandleMatch` queues any player that a packet names.
-/

namespace Game

open Infra

namespace Places

/-- Everybody in the queue and everybody in a room formed since `r₀` has the property `on`. -/
structure Attended (on : PlayerId → Prop) (r₀ : RoomId) (w : Places) : Prop where
  queue : ∀ p ∈ w.queue.queue, on p
  rooms : ∀ r, r₀ ≤ r → r < w.nextRoomId → ∀ p ∈ w.members r, on p

/-- `p` is in the queue or in a room formed since `r₀`. -/
structure Taken (p : PlayerId) (r₀ : RoomId) (w : Places) : Prop where
  place : p ∈ w.queue.queue ∨ ∃ r, r₀ ≤ r ∧ r < w.nextRoomId ∧ p ∈ w.members r
  le : r₀ ≤ w.nextRoomId

variable {on : PlayerId → Prop} {r₀ : RoomId} {w : Places} {p : PlayerId}

theorem Attended.congr_queue (h : w.Attended on r₀) {queue : MatchQueue}
    (hqueue : queue.queue = w.queue.queue) : { w with queue := queue }.Attended on r₀ where
  queue p hp := h.queue p (hqueue ▸ hp)
  rooms := h.rooms

theorem Attended.push (h : w.Attended on r₀) (hp : on p) (hpush : (w.queue.push p).1 = true) :
    { w with queue := (w.queue.push p).2 }.Attended on r₀ where
  queue := by
    intro q hq
    rw [MatchQueue.queue_push hpush, List.mem_append, List.mem_singleton] at hq
    rcases hq with hq | rfl
    · exact h.queue q hq
    · exact hp
  rooms := h.rooms

theorem Attended.remove (h : w.Attended on r₀) (p : PlayerId) :
    { w with queue := (w.queue.remove p).2 }.Attended on r₀ where
  queue q hq := h.queue q (MatchQueue.mem_queue_remove.mp hq).1
  rooms := h.rooms

/-- The players of a new room come from the queue. -/
theorem Attended.form (h : w.Attended on r₀) {players : List PlayerId} {queue : MatchQueue}
    (hsplit : players ++ queue.queue = w.queue.queue) : (w.form players queue).Attended on r₀ where
  queue p hp := h.queue p (hsplit ▸ List.mem_append_right _ hp)
  rooms := by
    intro r hr hlt p hp
    by_cases hnew : r = w.nextRoomId
    · rw [hnew, members_form_self] at hp
      exact h.queue p (hsplit ▸ List.mem_append_left _ hp)
    · rw [members_form_of_ne hnew] at hp
      exact h.rooms r hr (lt_of_le_of_ne (Int.le_of_lt_add_one hlt) hnew) p hp

theorem Taken.congr_queue (h : w.Taken p r₀) {queue : MatchQueue}
    (hqueue : queue.queue = w.queue.queue) : { w with queue := queue }.Taken p r₀ where
  place := h.place.imp_left fun hp => by
    show p ∈ queue.queue
    rwa [hqueue]
  le := h.le

/-- Who leaves the queue for a new room is in that room. -/
theorem Taken.form (h : w.Taken p r₀) {players : List PlayerId} {queue : MatchQueue}
    (hsplit : players ++ queue.queue = w.queue.queue) : (w.form players queue).Taken p r₀ where
  place := by
    rcases h.place with hp | ⟨r, hr, hlt, hp⟩
    · rw [← hsplit, List.mem_append] at hp
      rcases hp with hp | hp
      · exact Or.inr ⟨w.nextRoomId, h.le, Int.lt_succ _, by rwa [members_form_self]⟩
      · exact Or.inl hp
    · refine Or.inr ⟨r, hr, Int.lt_trans hlt (Int.lt_succ _), ?_⟩
      rwa [members_form_of_ne (Int.ne_of_lt hlt)]
  le := Int.le_trans h.le (Int.le_of_lt (Int.lt_succ _))

end Places

namespace Server

variable {F : Type}

/-- The player has a session in the `ConnectionManager`. -/
def HasSession (s : Server F) (p : PlayerId) : Prop :=
  (s.connectionManager.getByPlayerId p).isSome

instance (s : Server F) (p : PlayerId) : Decidable (s.HasSession p) :=
  inferInstanceAs (Decidable (_ = true))

/-- Everybody in the queue has a session. -/
def QueueOnline (s : Server F) : Prop :=
  ∀ p ∈ s.matchQueue.queue, s.HasSession p

/-- The players of all rooms that the event forms have a session. No handler that forms rooms
changes the sessions, so this is about the moment at which they are taken off the queue. -/
def FormsOnline [Axis F] (s : Server F) (e : Event F) : Prop :=
  ∀ r, s.nextRoomId ≤ r → r < (s.handle e).nextRoomId →
    ∀ p ∈ ((s.handle e).roomHeap r).playerIds, s.HasSession p ∧ (s.handle e).HasSession p

/-- A connection is not closed while its player, who is looked up under it, is in the queue; and
no match request puts a player in the queue who has no session. -/
def KeepsOnline (s : Server F) : Event F → Prop
  | .close session =>
    session < s.nextSessionId → session ∈ s.connectionManager.sessions →
      s.connectionManager.getByPlayerId (s.sessionHeap session).playerId = some session →
      (s.sessionHeap session).playerId ∉ s.matchQueue.queue
  | .packet session _ (.match (some requested)) =>
    session < s.nextSessionId →
      s.actingPlayer session requested = 0 ∨
      s.actingPlayer session requested ∈ s.matchQueue.queue ∨
      s.HasSession (s.actingPlayer session requested)
  | _ => True

/-! ## The handlers that touch the queue -/

theorem attended_startMatching {on : PlayerId → Prop} {r₀ : RoomId} {s : Server F}
    (h : s.places.Attended on r₀) {p : PlayerId} (hp : on p) (session : SessionId)
    (message : String) : (s.startMatching p session message).2.places.Attended on r₀ :=
  startMatching_rule (fun h hqueue => h.congr_queue hqueue) (fun h hsplit => h.form hsplit)
    (fun _ => h) (fun hpush => h.push hp hpush) session message

/-- Only players with a session are requeued. -/
theorem attended_requeuePlayers {r₀ : RoomId} {cm : ConnectionManager} :
    ∀ (players : List PlayerId) {s : Server F}, s.connectionManager = cm →
      s.places.Attended (fun p => (cm.getByPlayerId p).isSome) r₀ →
      (players.foldl requeuePlayer s).places.Attended (fun p => (cm.getByPlayerId p).isSome) r₀
  | [], _, _, h => h
  | p :: players, s, hcm, h => by
    have hcm' : (s.requeuePlayer p).connectionManager = cm :=
      (congrArg Presence.connections ((via_requeuePlayer s p).presence (by decide))).trans hcm
    refine attended_requeuePlayers players hcm' ?_
    unfold requeuePlayer
    split
    · next session hsession =>
      rw [hcm] at hsession
      exact attended_startMatching h (by rw [hsession]; rfl) _ _
    · exact h

theorem attended_handleLeaveRoom {r₀ : RoomId} {s : Server F}
    (h : s.places.Attended s.HasSession r₀) (session : SessionId) (request : Option RoomId) :
    (s.handleLeaveRoom session request).places.Attended s.HasSession r₀ := by
  unfold handleLeaveRoom
  split
  · exact h
  · split
    · exact h
    · next roomId hroom =>
      split
      · exact h
      · split
        · have hremoved : ((s.broadcast roomId (.playerLeaveRoomNotify roomId
              (s.sessionHeap session).playerId 1)).send session
              (.leaveRoomResponse 0 "left room")).places.Attended s.HasSession r₀ := h
          refine attended_requeuePlayers _ ?_ ?_
          · exact congrArg Presence.connections ((via_removeRoom _ roomId).presence (by decide))
          · rw [places_removeRoom]
            exact ⟨hremoved.queue, hremoved.rooms⟩
        · unfold handleLeavePlaying
          split <;> exact h
        · exact h

/-- A player without a session whom a match request puts in the queue stays there or is put in a
room. -/
theorem taken_startMatching {s : Server F} {p : PlayerId} (hzero : p ≠ 0)
    (hnot : p ∉ s.matchQueue.queue) (session : SessionId) (message : String) :
    (s.startMatching p session message).2.places.Taken p s.nextRoomId := by
  have hpush : (s.matchQueue.push p).1 = true := MatchQueue.push_eq_true_iff.mpr ⟨hzero, hnot⟩
  refine startMatching_rule (P := fun w => w.Taken p s.nextRoomId)
    (fun h hqueue => h.congr_queue hqueue) (fun h hsplit => h.form hsplit)
    (fun hfalse => ?_) (fun _ => ?_) session message
  · rw [hpush] at hfalse
    simp at hfalse
  · refine ⟨Or.inl ?_, Int.le_refl _⟩
    show p ∈ (s.matchQueue.push p).2.queue
    rw [MatchQueue.queue_push hpush]
    exact List.mem_append_right _ (List.mem_singleton_self p)

theorem attended_start {s : Server F} (h : s.QueueOnline) :
    s.places.Attended s.HasSession s.nextRoomId where
  queue := h
  rooms _ hr hlt := absurd hlt (Int.not_lt.mpr hr)

/-! ## The result -/

variable [Axis F]

/-- The event forms rooms from players with a session, and leaves only such players in the
queue. -/
def StaysOnline (s : Server F) (e : Event F) : Prop :=
  s.FormsOnline e ∧ (s.handle e).QueueOnline

/-- An event that neither forms a room nor queues anybody nor takes a session away. -/
theorem staysOnline_of_same {s : Server F} (h : s.QueueOnline) {e : Event F}
    (hnext : (s.handle e).nextRoomId = s.nextRoomId)
    (hqueue : ∀ p ∈ (s.handle e).matchQueue.queue, p ∈ s.matchQueue.queue)
    (hsession : ∀ p ∈ (s.handle e).matchQueue.queue, s.HasSession p →
      (s.handle e).HasSession p) : s.StaysOnline e := by
  refine ⟨fun r hr hlt => ?_, fun p hp => hsession p hp (h p (hqueue p hp))⟩
  rw [hnext] at hlt
  exact absurd hlt (Int.not_lt.mpr hr)

/-- An event that leaves the sessions alone and keeps the queue and the new rooms attended. -/
theorem staysOnline_of_attended {s : Server F} {e : Event F}
    (hsessions : (s.handle e).connectionManager.playerSessions = s.connectionManager.playerSessions)
    (h : (s.handle e).places.Attended s.HasSession s.nextRoomId) : s.StaysOnline e := by
  have hsame : ∀ p, s.HasSession p → (s.handle e).HasSession p := by
    intro p hp
    unfold HasSession ConnectionManager.getByPlayerId
    rwa [hsessions]
  exact ⟨fun r hr hlt p hp => ⟨h.rooms r hr hlt p hp, hsame p (h.rooms r hr hlt p hp)⟩,
    fun p hp => hsame p (h.queue p hp)⟩

/-- A login or a reconnect gives a session to its player and takes none away. -/
theorem staysOnline_of_bind {s : Server F} (h : s.QueueOnline) {e : Event F}
    (hplaces : (s.handle e).places = s.places) (p : PlayerId) (session : SessionId)
    (hbind : (s.handle e).connectionManager = s.connectionManager.bindPlayer p session) :
    s.StaysOnline e := by
  refine staysOnline_of_same h (congrArg Places.nextRoomId hplaces) (fun q hq => ?_)
    fun q _ hq => ?_
  · have hqueue : (s.handle e).matchQueue = s.matchQueue := congrArg Places.queue hplaces
    exact hqueue ▸ hq
  · unfold HasSession ConnectionManager.getByPlayerId at hq ⊢
    rw [hbind, ConnectionManager.bindPlayer]
    dsimp only
    rw [Function.update_apply]
    split
    · rfl
    · exact hq

/-- A connection takes a session away from the player who is looked up under it. -/
theorem staysOnline_close {s : Server F} (h : s.QueueOnline) {session : SessionId}
    (hsession : session < s.nextSessionId) :
    s.StaysOnline (.close session) ↔ s.KeepsOnline (.close session) := by
  have hhandle : s.handle (.close session) = s.close session := if_pos hsession
  have hcm : (s.handle (.close session)).connectionManager =
      s.connectionManager.remove session (s.sessionHeap session).playerId := by
    rw [hhandle]
    exact congrArg Presence.connections (presence_close s session)
  have hplaces : (s.handle (.close session)).places = s.places := by
    rw [hhandle, (via_close s session).places (by decide) (by decide)]
  have hqueue : (s.handle (.close session)).matchQueue = s.matchQueue :=
    congrArg Places.queue hplaces
  have hhas : ∀ p, (s.handle (.close session)).HasSession p ↔
      ((s.connectionManager.remove session (s.sessionHeap session).playerId).getByPlayerId
        p).isSome := by
    intro p
    rw [HasSession, hcm]
  unfold KeepsOnline
  constructor
  · intro hstays _ hmem hown hq
    have hafter := (hhas _).mp (hstays.2 _ (hqueue ▸ hq))
    unfold ConnectionManager.remove ConnectionManager.getByPlayerId at hafter
    rw [if_pos ⟨hmem, hown⟩] at hafter
    dsimp only at hafter
    rw [Function.update_self] at hafter
    simp at hafter
  · intro hkeeps
    refine staysOnline_of_same h (congrArg Places.nextRoomId hplaces) (fun p hp => hqueue ▸ hp) ?_
    intro p hp hhad
    rw [hhas]
    unfold ConnectionManager.remove ConnectionManager.getByPlayerId
    dsimp only
    split
    · next hcond =>
      have hne : p ≠ (s.sessionHeap session).playerId := by
        rintro rfl
        exact hkeeps hsession hcond.1 hcond.2 (hqueue ▸ hp)
      rw [Function.update_of_ne hne]
      exact hhad
    · exact hhad

/-- A match request leaves everybody online exactly when it does not queue an absent player. -/
theorem staysOnline_match {s : Server F} (h : s.QueueOnline) {session : SessionId} {nowMs : Int}
    {requested : PlayerId} (hsession : session < s.nextSessionId) :
    s.StaysOnline (.packet session nowMs (.match (some requested))) ↔
      s.KeepsOnline (.packet session nowMs (.match (some requested))) := by
  have hhandle : s.handle (.packet session nowMs (.match (some requested))) =
      s.handleMatch session (some requested) := if_pos hsession
  have hcm : (s.handle (.packet session nowMs (.match (some requested)))).connectionManager =
      s.connectionManager := by
    rw [hhandle]
    exact congrArg Presence.connections
      ((via_handleMatch s session (some requested)).presence (by decide))
  have hplaces : (s.handle (.packet session nowMs (.match (some requested)))).places =
      (s.startMatching (s.actingPlayer session requested) session "matching").2.places := by
    rw [hhandle, places_handleMatch]
  have hstart := attended_start h
  constructor
  · intro hstays _
    by_contra hnot
    obtain ⟨hzero, hnot⟩ := not_or.mp hnot
    obtain ⟨hqueue, habsent⟩ := not_or.mp hnot
    have htaken := taken_startMatching hzero hqueue session "matching"
    rw [← hplaces] at htaken
    rcases htaken.place with hq | ⟨r, hr, hlt, hp⟩
    · have hhas := hstays.2 _ hq
      rw [HasSession, hcm] at hhas
      exact habsent hhas
    · exact habsent (hstays.1 r hr hlt _ hp).1
  · intro hkeeps
    refine staysOnline_of_attended (by rw [hcm]) ?_
    rw [hplaces]
    refine startMatching_rule (fun h hqueue => h.congr_queue hqueue)
      (fun h hsplit => h.form hsplit) (fun _ => hstart) (fun hpush => ?_) session "matching"
    obtain ⟨hzero, hnot⟩ := MatchQueue.push_eq_true_iff.mp hpush
    exact hstart.push (((hkeeps hsession).resolve_left hzero).resolve_left hnot) hpush

/-- **An event leaves everybody online exactly when it meets the condition.** -/
theorem staysOnline_handle {s : Server F} (h : s.QueueOnline) (e : Event F) :
    s.StaysOnline e ↔ s.KeepsOnline e := by
  have hstart := attended_start h
  -- Three ways in which an event leaves the bindings of sessions as they are.
  have idle : ∀ {e : Event F}, (s.handle e).places = s.places →
      (s.handle e).connectionManager.playerSessions = s.connectionManager.playerSessions →
      s.StaysOnline e := by
    intro e hplaces hsessions
    refine staysOnline_of_attended hsessions ?_
    rw [hplaces]
    exact hstart
  have sessions : ∀ {e : Event F}, (s.handle e).presence = s.presence →
      (s.handle e).connectionManager.playerSessions = s.connectionManager.playerSessions :=
    fun hpresence => congrArg (fun w : Presence => w.connections.playerSessions) hpresence
  cases e with
  | accept nowMs => exact iff_of_true (idle rfl rfl) trivial
  | heartbeatScan nowMs => exact iff_of_true (idle rfl rfl) trivial
  | tick roomId env =>
    have hpresence : (s.tick roomId env).presence = s.presence :=
      (via_tick s roomId env).presence (by decide)
    refine iff_of_true (staysOnline_of_attended (sessions hpresence) ?_) trivial
    rcases places_tick s roomId env with htick | htick
    · rw [handle, htick]
      exact hstart
    · rw [handle, htick]
      exact ⟨hstart.queue, hstart.rooms⟩
  | close session =>
    by_cases hsession : session < s.nextSessionId
    · exact staysOnline_close h hsession
    · have hhandle : s.handle (.close session) = s := if_neg hsession
      exact iff_of_true (idle (by rw [hhandle]) (by rw [hhandle])) fun hs => absurd hs hsession
  | packet session nowMs request =>
    by_cases hsession : session < s.nextSessionId
    · have hhandle : s.handle (.packet session nowMs request) =
          s.dispatch session nowMs request := if_pos hsession
      have hplaces (hqueue : .queue ∉ request.about) (hrooms : .rooms ∉ request.about) :
          (s.handle (.packet session nowMs request)).places = s.places := by
        rw [hhandle]
        exact places_dispatch s session nowMs hqueue hrooms
      have hsessions (hout : .presence ∉ request.about) :
          (s.handle (.packet session nowMs request)).connectionManager.playerSessions =
            s.connectionManager.playerSessions := by
        refine sessions ?_
        rw [hhandle]
        exact (via_dispatch s session nowMs request).presence
          (List.not_mem_cons_of_ne_of_not_mem (by decide) hout)
      cases request with
      | «match» requested =>
        cases requested with
        | none => exact iff_of_true (idle (by rw [hhandle]; rfl) (by rw [hhandle]; rfl)) trivial
        | some requested => exact staysOnline_match h hsession
      | login data account =>
        cases account with
        | none => exact iff_of_true (idle (by rw [hhandle]; rfl) (by rw [hhandle]; rfl)) trivial
        | some account =>
          refine iff_of_true (staysOnline_of_bind h (hplaces (by simp) (by simp))
            (s.getOrCreatePlayerId account).1 session ?_) trivial
          rw [hhandle, dispatch]
          exact congrArg Presence.connections (presence_loggedIn s session nowMs data account)
      | reconnect request =>
        have hstays := hplaces (by simp) (by simp)
        refine iff_of_true ?_ trivial
        cases request with
        | none => exact idle hstays (by rw [hhandle]; rfl)
        | some request =>
          obtain ⟨p, token⟩ := request
          -- Only a reconnection with the right token binds the session.
          by_cases htoken : s.loginService.sessionTokens p = some token
          · refine staysOnline_of_bind h hstays p session ?_
            rw [hhandle, dispatch]
            exact congrArg Presence.connections (presence_handleReconnect s session htoken)
          · refine idle hstays (sessions ?_)
            rw [hhandle, dispatch]
            exact presence_handleReconnect_refused s session htoken
      | cancelMatch requested =>
        refine iff_of_true (staysOnline_of_attended (hsessions (by simp)) ?_) trivial
        rw [hhandle, dispatch]
        cases requested with
        | none => exact hstart
        | some requested =>
          rw [places_handleCancelMatch]
          exact hstart.remove _
      | leaveRoom request =>
        refine iff_of_true (staysOnline_of_attended (hsessions (by simp)) ?_) trivial
        rw [hhandle, dispatch]
        exact attended_handleLeaveRoom hstart session request
      | heartbeat | ready | input =>
        exact iff_of_true (idle (hplaces (by simp) (by simp)) (hsessions (by simp))) trivial
    · have hhandle : s.handle (.packet session nowMs request) = s := if_neg hsession
      -- No such connection: nothing happens, and nothing is asked.
      refine iff_of_true (idle (by rw [hhandle]) (by rw [hhandle])) ?_
      unfold KeepsOnline
      split
      · trivial
      · next heq =>
        cases heq
        exact fun hs => absurd hs hsession
      · trivial

end Server
end Game
