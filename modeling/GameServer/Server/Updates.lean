import GameServer.Infra.Run
import GameServer.Server.GameServer
import Mathlib.Logic.Relation

/-!
# Updates

Every handler is put together from a few updates of the shared objects, each of which is about one
matter: the queue, the rooms, who is behind a session, and so on. The handlers are gone through once,
here (`replies_dispatch`, `via_close`, `via_tick`). What a view of the server is after a handler then
only depends on what the updates do to it.

Most requests are answered, each with one message to the session that it came from: logins,
heartbeats, reconnects, cancellations of a match and leaving a room. Everything else that the server
sends is news. A `MatchResponse` is no answer in this sense, because players who are put back into the
queue get one as well.
-/

namespace Game

open Infra

/-! ## Answers -/

/-- A kind of request that is always answered. -/
inductive Answer where
  | login
  | heartbeat
  | reconnect
  | cancelMatch
  | leaveRoom
  deriving DecidableEq

/-- What a message answers. -/
def Message.answer? {F : Type} : Message F → Option Answer
  | .loginResponse _ _ _ _ => some .login
  | .heartbeatResponse _ => some .heartbeat
  | .reconnectResponse _ _ => some .reconnect
  | .matchCancelResponse _ _ => some .cancelMatch
  | .leaveRoomResponse _ _ => some .leaveRoom
  | _ => none

/-- What a request asks for. A cancellation that does not parse is dropped. -/
def Request.answer? {F : Type} : Request F → Option Answer
  | .login _ _ => some .login
  | .heartbeat => some .heartbeat
  | .reconnect _ => some .reconnect
  | .cancelMatch (some _) => some .cancelMatch
  | .leaveRoom _ => some .leaveRoom
  | _ => none

/-! ## Updates -/

/-- What an update is about. -/
inductive Matter where
  /-- The rooms of sessions, players in memory and battles. -/
  | inside
  | news
  | queue
  /-- Which rooms there are, and who is in them. -/
  | rooms
  | answer
  /-- The history of what was done in whose name. -/
  | act
  /-- Who is behind a session, and whether it is to be closed. -/
  | presence
  | heartbeat
  deriving DecidableEq

/-- What a request may be about, its answer apart. -/
@[simp] def Request.about {F : Type} : Request F → List Matter
  | .login _ _ => [.inside, .presence, .heartbeat]
  | .heartbeat => [.heartbeat]
  | .reconnect _ => [.inside, .presence]
  | .match _ => [.inside, .news, .queue, .rooms, .act]
  | .cancelMatch _ => [.inside, .queue, .act]
  | .ready _ => [.inside, .news]
  | .input _ => [.inside, .act]
  | .leaveRoom _ => [.inside, .news, .queue, .rooms]

namespace Server

variable {F : Type}

/-- An update of the shared objects. -/
inductive Update : Matter → Server F → Server F → Prop where
  | send (s : Server F) (session : SessionId) {msg : Message F} (h : msg.answer? = none) :
      Update .news s (s.send session msg)
  | broadcast (s : Server F) (roomId : RoomId) {msg : Message F} (h : msg.answer? = none) :
      Update .news s (s.broadcast roomId msg)
  | setSessionRoomId (s : Server F) (session : SessionId) (roomId : RoomId) :
      Update .inside s (s.setSessionRoomId session roomId)
  | updatePlayer (s : Server F) (p : PlayerId) (f : Player → Player) (name : String) :
      Update .inside s (s.updatePlayers (·.update p f name))
  | setPending (s : Server F) (roomId : RoomId) (pending : Option PendingSettlement) :
      Update .inside s (s.setPending roomId pending)
  /-- A section of a room that neither adds nor removes players. -/
  | updateRoom (s : Server F) (roomId : RoomId) (f : Room → Room)
      (h : (f (s.roomHeap roomId)).playerIds = (s.roomHeap roomId).playerIds) :
      Update .inside s (s.updateRoom roomId f)
  | updateGame (s : Server F) (roomId : RoomId) (f : GameRoom F → GameRoom F) :
      Update .inside s (s.updateGame roomId f)
  | addGame [Axis F] (s : Server F) (roomId : RoomId) (playerIds : List PlayerId) :
      Update .inside s (s.addGame roomId playerIds)
  | removeGame (s : Server F) (roomId : RoomId) : Update .inside s (s.removeGame roomId)
  | withQueue (s : Server F) (queue : MatchQueue) : Update .queue s (s.withQueue queue)
  | createRoom (s : Server F) {playerIds : List PlayerId} (h : playerIds.Nodup) :
      Update .rooms s (s.createRoom playerIds).2
  | eraseRoom (s : Server F) (roomId : RoomId) : Update .rooms s (s.eraseRoom roomId).2
  | answer (s : Server F) (session : SessionId) (msg : Message F) :
      Update .answer s (s.send session msg)
  | record (s : Server F) (act : Act) : Update .act s (s.record act)
  | accounts (s : Server F) (login : LoginService) (nextPlayerId : PlayerId) :
      Update .presence s { s with loginService := login, nextPlayerId := nextPlayerId }
  | bindSession (s : Server F) (session : SessionId) (p : PlayerId) :
      Update .presence s (s.updateSession session ({ · with playerId := p }))
  | closeSession (s : Server F) (session : SessionId) :
      Update .presence s (s.updateSession session ({ · with closing := true }))
  | updateConnections (s : Server F) (f : ConnectionManager → ConnectionManager) :
      Update .presence s (s.updateConnections f)
  | setOnline (s : Server F) (p : PlayerId) (session : SessionId) :
      Update .presence s (s.updatePlayers (·.setOnline p session))
  | setOffline (s : Server F) (p : PlayerId) :
      Update .presence s (s.updatePlayers (·.setOffline p))
  | updateHeartbeatTime (s : Server F) (session : SessionId) (nowMs : Int) :
      Update .heartbeat s (s.updateSession session ({ · with lastHeartbeatMs := nowMs }))

/-- From one state to another by updates about these matters. -/
def Via (about : List Matter) : Server F → Server F → Prop :=
  Relation.ReflTransGen fun s s' => ∃ matter ∈ about, Update matter s s'

/-- The same with an answer to the session among them, when there is one to be given. -/
def Replies (about : List Matter) (session : SessionId) (s s' : Server F) : Option Answer → Prop
  | none => Via about s s'
  | some answer => ∃ t msg, Via about s t ∧ msg.answer? = some answer ∧
      Via about (t.send session msg) s'

variable {about about' : List Matter} {matter : Matter} {s s' s'' : Server F}

theorem Via.refl (s : Server F) : Via about s s :=
  Relation.ReflTransGen.refl

theorem Via.trans (h : Via about s s') (h' : Via about s' s'') : Via about s s'' :=
  Relation.ReflTransGen.trans h h'

/-- One more update. -/
theorem Via.update (h : Via about s s') (hupdate : Update matter s' s'') (hmem : matter ∈ about) :
    Via about s s'' :=
  Relation.ReflTransGen.tail h ⟨matter, hmem, hupdate⟩

theorem Update.via (h : Update matter s s') (hmem : matter ∈ about) : Via about s s' :=
  (Via.refl s).update h hmem

theorem Via.mono (h : Via about s s') (hsub : about ⊆ about') : Via about' s s' :=
  Relation.ReflTransGen.mono (fun _ _ ⟨matter, hmem, hupdate⟩ => ⟨matter, hsub hmem, hupdate⟩) _ _ h

/-- The same updates for one player after the other. -/
theorem Via.foldl {f : Server F → PlayerId → Server F} (hf : ∀ s p, Via about s (f s p)) :
    ∀ (players : List PlayerId) (s : Server F), Via about s (players.foldl f s)
  | [], s => .refl s
  | p :: players, s => (hf s p).trans (Via.foldl hf players (f s p))

/-- **What a view is after some updates.** It is the same when none of them changes it. -/
theorem Via.view {α : Type} {view : Server F → α}
    (hview : ∀ {matter s s'}, matter ∈ about → Update matter s s' → view s' = view s)
    (h : Via about s s') : view s' = view s := by
  induction h with
  | refl => rfl
  | tail _ hstep ih =>
    obtain ⟨matter, hmem, hupdate⟩ := hstep
    exact (hview hmem hupdate).trans ih

/-- The locked loop of `CreateRoom`, for a view that neither the map entries of a room nor the rooms
of sessions change. -/
theorem view_enterRooms {α : Type} (view : Server F → α)
    (hmap : ∀ s p roomId, view (s.mapPlayer p roomId) = view s)
    (hsession : ∀ s session roomId, view (s.setSessionRoomId session roomId) = view s)
    (roomId : RoomId) (playerIds : List PlayerId) (s : Server F) :
    view (playerIds.foldl (enterRoom roomId) s) = view s := by
  refine foldl_frame (fun t p => ?_) playerIds s
  unfold enterRoom
  dsimp only
  split
  · exact (hsession _ _ _).trans (hmap t p _)
  · exact hmap t p _

/-- The whole of `CreateRoom`. -/
theorem view_createRoom {α : Type} (view : Server F → α)
    (hopen : ∀ s playerIds, view (s.openRoom playerIds) = view s)
    (hmap : ∀ s p roomId, view (s.mapPlayer p roomId) = view s)
    (hsession : ∀ s session roomId, view (s.setSessionRoomId session roomId) = view s)
    (s : Server F) (playerIds : List PlayerId) : view (s.createRoom playerIds).2 = view s :=
  (view_enterRooms view hmap hsession _ playerIds _).trans (hopen s playerIds)

/-- A reply is updates, one of which may be an answer. -/
theorem Replies.via {session : SessionId} {answer? : Option Answer}
    (h : Replies about session s s' answer?) : Via (.answer :: about) s s' := by
  have hsub : about ⊆ .answer :: about := List.subset_cons_self _ _
  cases answer? with
  | none => exact Via.mono h hsub
  | some answer =>
    obtain ⟨t, msg, hbefore, -, hafter⟩ := h
    exact ((hbefore.mono hsub).update (.answer t session msg) List.mem_cons_self).trans
      (hafter.mono hsub)

/-- An answer at the end. -/
theorem Via.replies (h : Via about s s') (session : SessionId) {msg : Message F} {answer : Answer}
    (hmsg : msg.answer? = some answer) :
    Replies about session s (s'.send session msg) (some answer) :=
  ⟨s', msg, h, hmsg, .refl _⟩

/-- Nothing but an answer. -/
theorem replies_send (s : Server F) (session : SessionId) {msg : Message F} {answer : Answer}
    (hmsg : msg.answer? = some answer) :
    Replies about session s (s.send session msg) (some answer) :=
  (Via.refl s).replies session hmsg

/-! ## Players and sessions -/

theorem via_setPlayer (s : Server F) (p : PlayerId) (status : PlayerStatus) (roomId : RoomId) :
    Via [.inside] s ((s.setPlayerStatus p status).setPlayerRoomId p roomId) :=
  ((Via.refl s).update (.updatePlayer s p _ "") (by decide)).update (.updatePlayer _ p _ "")
    (by decide)

theorem via_resetMember (s : Server F) (p : PlayerId) : Via [.inside] s (s.resetMember p) := by
  have hset : ∀ (s : Server F) status,
      Via [.inside] s ((s.setPlayerRoomId p 0).setPlayerStatus p status) := fun s status =>
    ((Via.refl s).update (.updatePlayer s p _ "") (by decide)).update (.updatePlayer _ p _ "")
      (by decide)
  unfold resetMember
  split
  · exact (Update.via (.setSessionRoomId s _ 0) (by decide)).trans (hset _ _)
  · exact hset s _

theorem via_removeRoom (s : Server F) (roomId : RoomId) :
    Via [.inside, .rooms] s (s.removeRoom roomId) := by
  have hreset : ∀ (s : Server F) p, Via [.inside, .rooms] s (s.resetMember p) := fun s p =>
    (via_resetMember s p).mono (by decide)
  have hmembers := Via.foldl hreset (s.eraseRoom roomId).1 (s.eraseRoom roomId).2
  exact ((Update.via (.eraseRoom s roomId) (by decide)).trans hmembers).update
    (.removeGame _ roomId) (by decide)

theorem via_rejoinRoom (s : Server F) (session : SessionId) (p : PlayerId) :
    Via [.inside] s (s.rejoinRoom session p).2 := by
  unfold rejoinRoom
  split
  · next roomId _ =>
    have hroom : Via [.inside] s (s.updateRoom roomId (·.onPlayerReconnect p)) :=
      Update.via (.updateRoom s roomId _ (Room.playerIds_onPlayerReconnect _ p)) (by decide)
    have hsession := hroom.update (.setSessionRoomId _ session roomId) (by decide)
    exact (hsession.update (.updatePlayer _ p _ "") (by decide)).update (.updatePlayer _ p _ "")
      (by decide)
  · exact Update.via (.updatePlayer s p _ "") (by decide)

/-! ## Matching -/

theorem via_joinRoom (roomId : RoomId) (playerIds : List PlayerId) (s : Server F) (p : PlayerId) :
    Via [.inside, .news] s (joinRoom roomId playerIds s p) := by
  have hset : Via [.inside, .news] s ((s.setPlayerStatus p .inRoom).setPlayerRoomId p roomId) :=
    (via_setPlayer s p .inRoom roomId).mono (by decide)
  unfold joinRoom
  dsimp only
  split
  · next session _ => exact hset.update (.send _ session rfl) (by decide)
  · exact hset

theorem via_formRoom (s : Server F) {players : List PlayerId} (hnd : players.Nodup) :
    Via [.inside, .news, .rooms] s (s.formRoom players) := by
  have hjoin : ∀ (t : Server F) p,
      Via [.inside, .news, .rooms] t (joinRoom s.nextRoomId players t p) := fun t p =>
    (via_joinRoom s.nextRoomId players t p).mono (by decide)
  exact (Update.via (.createRoom s hnd) (by decide)).trans (Via.foldl hjoin players _)

theorem via_tryCreateRoomLoop : ∀ (fuel : Nat) (s : Server F),
    Via [.inside, .news, .queue, .rooms] s (tryCreateRoomLoop fuel s)
  | 0, s => .refl s
  | fuel + 1, s => by
    have hnd := s.matchQueue.queue_nodup
    rw [← s.matchQueue.tryPopN_append s.needCount, List.nodup_append] at hnd
    rw [tryCreateRoomLoop]
    split
    next players queue hpop =>
    rw [hpop] at hnd
    have hqueue : Via [.inside, .news, .queue, .rooms] s (s.withQueue queue) :=
      Update.via (.withQueue s queue) (by decide)
    dsimp only
    split
    · exact hqueue
    · have hform := hqueue.trans ((via_formRoom (s.withQueue queue) hnd.1).mono (by decide))
      exact hform.trans (via_tryCreateRoomLoop fuel _)

theorem via_setMatching (s : Server F) (p : PlayerId) (session : SessionId) :
    Via [.inside] s (s.setMatching p session) :=
  (via_setPlayer s p .matching 0).update (.setSessionRoomId _ session 0) (by decide)

theorem via_startMatching (s : Server F) (p : PlayerId) (session : SessionId) (message : String) :
    Via [.inside, .news, .queue, .rooms] s (s.startMatching p session message).2 := by
  unfold startMatching
  split
  · exact Update.via (.send s session rfl) (by decide)
  · split
    next pushed queue _ =>
    have hqueue : Via [.inside, .news, .queue, .rooms] s (s.withQueue queue) :=
      Update.via (.withQueue s queue) (by decide)
    have hset := hqueue.trans ((via_setMatching (s.withQueue queue) p session).mono (by decide))
    dsimp only
    split
    · refine Via.update ?_ (.send _ session rfl) (by decide)
      split
      · exact hset
      · exact hqueue
    · exact (hset.update (.send _ session rfl) (by decide)).trans (via_tryCreateRoomLoop _ _)

theorem via_requeuePlayer (s : Server F) (p : PlayerId) :
    Via [.inside, .news, .queue, .rooms] s (s.requeuePlayer p) := by
  unfold requeuePlayer
  split
  · exact via_startMatching s p _ _
  · exact .refl s

theorem via_handleMatch (s : Server F) (session : SessionId) (request : Option PlayerId) :
    Via [.inside, .news, .queue, .rooms, .act] s (s.handleMatch session request) := by
  unfold handleMatch
  split
  · exact .refl s
  · next requested =>
    have hstart : Via [.inside, .news, .queue, .rooms, .act] s
        (s.startMatching (s.actingPlayer session requested) session "matching").2 :=
      (via_startMatching s _ session "matching").mono (by decide)
    dsimp only
    split
    · exact Update.via (.send s session rfl) (by decide)
    · split
      · next heq =>
        rw [heq] at hstart
        exact hstart.update (.record _ _) (by decide)
      · next heq =>
        rw [heq] at hstart
        exact hstart

theorem replies_handleCancelMatch (s : Server F) (session : SessionId) (requested : PlayerId) :
    Replies [.inside, .queue, .act] session s (s.handleCancelMatch session (some requested))
      (some .cancelMatch) := by
  unfold handleCancelMatch
  dsimp only
  have hqueue : Via [.inside, .queue, .act] s
      (s.withQueue (s.matchQueue.remove (s.actingPlayer session requested)).2) :=
    Update.via (.withQueue s _) (by decide)
  split
  · have hset := hqueue.trans ((via_setPlayer _ (s.actingPlayer session requested) .online 0).mono
      (by decide))
    exact ((hset.update (.setSessionRoomId _ session 0) (by decide)).update (.record _ _)
      (by decide)).replies session rfl
  · exact hqueue.replies session rfl

/-! ## Requests to a room -/

theorem via_startGameRoom [Axis F] (s : Server F) (roomId : RoomId) :
    Via [.inside, .news] s (s.startGameRoom roomId) := by
  have hplay : ∀ (s : Server F) p, Via [.inside, .news] s (startPlaying roomId s p) := fun s p =>
    (via_setPlayer s p .playing roomId).mono (by decide)
  have hgame : Via [.inside, .news] s (s.addGame roomId (s.roomHeap roomId).playerIds) :=
    Update.via (.addGame s roomId _) (by decide)
  exact (hgame.trans (Via.foldl hplay _ _)).update (.broadcast _ roomId rfl) (by decide)

theorem via_handleReady [Axis F] (s : Server F) (session : SessionId) (request : Option Bool) :
    Via [.inside, .news] s (s.handleReady session request) := by
  unfold handleReady
  split
  · exact .refl s
  · next ready =>
    dsimp only
    split
    · exact .refl s
    · next roomId _ =>
      split
      · exact .refl s
      · next started room hready =>
        have hroom : Via [.inside, .news] s (s.updateRoom roomId fun _ => room) :=
          Update.via (.updateRoom s roomId _ (Room.playerIds_setReadyAndTryStart hready)) (by decide)
        have hnotify : Via [.inside, .news] s ((s.updateRoom roomId fun _ => room).broadcast roomId
            (.readyNotify (s.sessionHeap session).playerId ready)) :=
          hroom.update (.broadcast _ roomId rfl) (by decide)
        split
        · exact hnotify.trans (via_startGameRoom _ roomId)
        · exact hnotify

theorem via_handleInput (s : Server F) (session : SessionId) (nowMs : Int)
    (request : Option (PlayerInput F)) :
    Via [.inside, .act] s (s.handleInput session nowMs request) := by
  unfold handleInput
  split
  · exact .refl s
  · split
    · exact .refl s
    · exact (Update.via (.updateGame s _ _) (by decide)).update (.record _ _) (by decide)

theorem replies_handleLeaveWaiting (s : Server F) (session : SessionId) (roomId : RoomId) :
    Replies [.inside, .news, .queue, .rooms] session s (s.handleLeaveWaiting session roomId)
      (some .leaveRoom) := by
  unfold handleLeaveWaiting
  refine ⟨s.broadcast roomId (.playerLeaveRoomNotify roomId (s.sessionHeap session).playerId 1),
    .leaveRoomResponse 0 "left room", ?_, rfl, ?_⟩
  · exact Update.via (.broadcast s roomId rfl) (by decide)
  · exact ((via_removeRoom _ roomId).mono (by decide)).trans (Via.foldl via_requeuePlayer _ _)

theorem replies_handleLeavePlaying (s : Server F) (session : SessionId) (roomId : RoomId) :
    Replies [.inside, .news, .queue, .rooms] session s (s.handleLeavePlaying session roomId)
      (some .leaveRoom) := by
  unfold handleLeavePlaying
  split
  · exact replies_send s session rfl
  · exact ((Update.via (.updateGame s _ _) (by decide)).update (.broadcast _ _ rfl)
      (by decide)).replies session rfl

theorem replies_handleLeaveRoom (s : Server F) (session : SessionId) (request : Option RoomId) :
    Replies [.inside, .news, .queue, .rooms] session s (s.handleLeaveRoom session request)
      (some .leaveRoom) := by
  unfold handleLeaveRoom
  split
  · exact replies_send s session rfl
  · split
    · exact replies_send s session rfl
    · split
      · exact replies_send s session rfl
      · split
        · exact replies_handleLeaveWaiting s session _
        · exact replies_handleLeavePlaying s session _
        · exact replies_send s session rfl

/-! ## Logins -/

theorem via_getOrCreatePlayerId (s : Server F) (account : String) :
    Via [.presence] s (s.getOrCreatePlayerId account).2 := by
  have haccounts : (s.getOrCreatePlayerId account).2 =
      { s with
        loginService := (s.getOrCreatePlayerId account).2.loginService
        nextPlayerId := (s.getOrCreatePlayerId account).2.nextPlayerId } := by
    unfold getOrCreatePlayerId
    dsimp only
    split <;> split <;> rfl
  rw [haccounts]
  exact Update.via (.accounts s _ _) (by decide)

theorem via_closeOther (s : Server F) (p : PlayerId) (session : SessionId) :
    Via [.presence] s (s.closeOther p session) := by
  unfold closeOther
  split
  · split
    · exact Update.via (.closeSession s _) (by decide)
    · exact .refl s
  · exact .refl s

/-- The part of a login that is about the session itself. -/
theorem via_greet (s : Server F) (session : SessionId) (p : PlayerId) (nowMs : Int) :
    Via [.presence, .heartbeat] s
      (s.updateSession session ({ · with playerId := p, lastHeartbeatMs := nowMs })) := by
  have hboth : s.updateSession session ({ · with playerId := p, lastHeartbeatMs := nowMs }) =
      (s.updateSession session ({ · with playerId := p })).updateSession session
        ({ · with lastHeartbeatMs := nowMs }) := by
    simp [updateSession]
  rw [hboth]
  exact (Update.via (.bindSession s session p) (by decide)).update
    (.updateHeartbeatTime _ session nowMs) (by decide)

theorem replies_handleLogin (s : Server F) (session : SessionId) (nowMs : Int) (data : LoadedPlayer)
    (account : Option String) :
    Replies [.inside, .presence, .heartbeat] session s (s.handleLogin session nowMs data account)
      (some .login) := by
  unfold handleLogin
  split
  · exact replies_send s session rfl
  · next account =>
    have hid : Via [.inside, .presence, .heartbeat] s (s.getOrCreatePlayerId account).2 :=
      (via_getOrCreatePlayerId s account).mono (by decide)
    dsimp only
    generalize s.getOrCreatePlayerId account = found at hid ⊢
    obtain ⟨p, s₁⟩ := found
    have htoken := hid.update (.accounts s₁ (s₁.storeToken p (generateSessionToken p nowMs)).loginService
      s₁.nextPlayerId) (by decide)
    have hother := htoken.trans ((via_closeOther _ p session).mono (by decide))
    have hgreet := hother.trans ((via_greet _ session p nowMs).mono (by decide))
    have hbound := hgreet.update (.updateConnections _ (·.bindPlayer p session)) (by decide)
    have hscore := hbound.update (.updatePlayer _ p ({ · with score := data.score }) data.name)
      (by decide)
    have honline := hscore.update (.setOnline _ p session) (by decide)
    exact (honline.trans ((via_rejoinRoom _ session p).mono (by decide))).replies session rfl

theorem replies_handleReconnect (s : Server F) (session : SessionId)
    (request : Option (PlayerId × String)) :
    Replies [.inside, .presence] session s (s.handleReconnect session request)
      (some .reconnect) := by
  unfold handleReconnect
  split
  · exact replies_send s session rfl
  · next p token =>
    split
    · exact replies_send s session rfl
    · have hbound : Via [.inside, .presence] s
          ((s.updateSession session ({ · with playerId := p })).updateConnections
            (·.bindPlayer p session)) :=
        (Update.via (.bindSession s session p) (by decide)).update (.updateConnections _ _)
          (by decide)
      have honline := (hbound.update (.setOnline _ p session) (by decide)).update
        (.updatePlayer _ p id "") (by decide)
      exact (honline.trans ((via_rejoinRoom _ session p).mono (by decide))).replies session rfl

/-- **What a request does.** -/
theorem replies_dispatch [Axis F] (s : Server F) (session : SessionId) (nowMs : Int)
    (request : Request F) :
    Replies request.about session s (s.dispatch session nowMs request) request.answer? := by
  match request with
  | .login data account => exact replies_handleLogin s session nowMs data account
  | .heartbeat =>
    exact (Update.via (.updateHeartbeatTime s session nowMs) List.mem_cons_self).replies session rfl
  | .reconnect request => exact replies_handleReconnect s session request
  | .match request => exact via_handleMatch s session request
  | .cancelMatch none => exact Via.refl s
  | .cancelMatch (some requested) => exact replies_handleCancelMatch s session requested
  | .ready request => exact via_handleReady s session request
  | .input request => exact via_handleInput s session nowMs request
  | .leaveRoom request => exact replies_handleLeaveRoom s session request

theorem via_dispatch [Axis F] (s : Server F) (session : SessionId) (nowMs : Int)
    (request : Request F) : Via (.answer :: request.about) s (s.dispatch session nowMs request) :=
  (replies_dispatch s session nowMs request).via

/-! ## Ticks and the end of a connection -/

theorem via_settle (s : Server F) (roomId : RoomId) (state : GameState F) (winnerId : PlayerId)
    (env : TickEnv) : Via [.inside, .news, .rooms] s (s.settle roomId state winnerId env) := by
  have hsettlement : Via [.inside, .news, .rooms] s (s.updateRoom roomId Room.setSettlement) :=
    Update.via (.updateRoom s roomId _ (Room.playerIds_setSettlement _)) (by decide)
  unfold settle
  dsimp only
  split
  · exact hsettlement.update (.setPending _ roomId _) (by decide)
  · have hpending := hsettlement.update (.setPending _ roomId
      (some (({ ((s.updateRoom roomId Room.setSettlement).pendingSettlements roomId).getD {} with
        nextAttempt := env.steadyMs + 1000 } : PendingSettlement).withBattle env.battleId)))
      (by decide)
    split
    · exact hpending
    · unfold finishBattle
      refine Via.trans ?_ ((via_removeRoom _ roomId).mono (by decide))
      refine Via.update ?_ (.updateRoom _ roomId _ (Room.playerIds_close _)) (by decide)
      exact (hpending.update (.setPending _ roomId none) (by decide)).update
        (.broadcast _ roomId rfl) (by decide)

theorem via_tick [Axis F] (s : Server F) (roomId : RoomId) (env : TickEnv) :
    Via [.inside, .news, .rooms] s (s.tick roomId env) := by
  unfold tick
  split
  · exact .refl s
  · have hgame : ∀ roomId, Via [.inside, .news, .rooms] s (s.updateGame roomId GameRoom.tick) :=
      fun roomId => Update.via (.updateGame s roomId _) (by decide)
    dsimp only
    unfold tickCallback
    split
    · exact hgame _
    · next r _ =>
      dsimp only
      have hnotify : ∀ game state, Via [.inside, .news, .rooms] s
          ((s.updateGame game GameRoom.tick).broadcast r (buildNotify r state)) := fun game _ =>
        (hgame game).update (.broadcast _ r rfl) (by decide)
      split
      · exact hnotify _ _
      · exact (hnotify _ _).trans (via_settle _ r _ _ env)

theorem via_close (s : Server F) (session : SessionId) :
    Via [.inside, .presence] s (s.close session) := by
  have hdrop : ∀ (s : Server F) p, Via [.inside, .presence] s (s.dropPlayer session p) := by
    intro s p
    have hoffline : Via [.inside, .presence] s (s.updatePlayers (·.setOffline p)) :=
      Update.via (.setOffline s p) (by decide)
    unfold dropPlayer
    dsimp only
    split
    · split
      · exact hoffline.update (.updateRoom _ _ _ (Room.playerIds_onPlayerDisconnect _ p)) (by decide)
      · exact hoffline
    · exact hoffline
  have hremove : Via [.inside, .presence] s
      (s.updateConnections (·.remove session (s.sessionHeap session).playerId)) :=
    Update.via (.updateConnections s _) (by decide)
  unfold close sessionClosed
  dsimp only
  split
  · exact hremove
  · split
    · split
      · exact hremove
      · exact hremove.trans (hdrop _ _)
    · exact hremove.trans (hdrop _ _)

end Server
end Game
