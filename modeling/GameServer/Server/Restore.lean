import GameServer.Server.Induction
import GameServer.Server.Links
import GameServer.Server.Outside

/-!
# Coming back

A login and a reconnect put the player back where it was: `Session::RoomId`, `Player::RoomId` and
the status are rebuilt from the room map and the state of the room. The queue is not asked, and a
player without a room gets the session as it was.
-/

namespace Game

open Infra

namespace Server

variable {F : Type}

/-! ## Players in memory -/

theorem player_stays_update (pm : PlayerManager) (p q : PlayerId) (f : Player → Player)
    (name : String) (h : pm.players p ≠ none) : (pm.update q f name).players p ≠ none := by
  unfold PlayerManager.update
  dsimp only
  rw [Function.update_apply]
  split
  · exact Option.some_ne_none _
  · exact h

theorem player_stays_setStatus (pm : PlayerManager) (p q : PlayerId) (status : PlayerStatus)
    (h : pm.players p ≠ none) : pm.setStatus q status p ≠ none := by
  unfold PlayerManager.setStatus
  rw [Function.update_apply]
  split
  · next hq => rwa [ne_eq, Option.map_eq_none_iff, ← hq]
  · exact h

/-- Players in memory are never dropped. -/
theorem keeps_player (p : PlayerId) :
    StepsKeep fun s : Server F => s.playerManager.players p ≠ none where
  same h hs := by rwa [hs.players]
  update q f name h := player_stays_update _ p q f name h
  online q session h := player_stays_setStatus _ p q .online h
  offline q h := player_stays_setStatus _ p q .offline h
  create {s} players _ h := by
    have hsame : (s.createRoom players).2.playerManager = s.playerManager :=
      view_createRoom playerManager (fun _ _ => rfl) (fun _ _ _ => rfl) (fun _ _ _ => rfl) s players
    rwa [hsame]
  erase _ h := h

/-- A token is only handed out to a player in memory. -/
def TokensKnown (s : Server F) : Prop :=
  ∀ p, s.loginService.sessionTokens p ≠ none → s.playerManager.players p ≠ none

/-- Where a token after an event comes from. -/
theorem token_step {s : Server F} {e : Event F} {w : Presence} (he : PresenceStep s e w)
    {p : PlayerId} (hp : w.login.sessionTokens p ≠ none) :
    s.loginService.sessionTokens p ≠ none ∨
      ∃ session nowMs data account, e = .packet session nowMs (.login data (some account)) ∧
        session < s.nextSessionId ∧ p = (s.getOrCreatePlayerId account).1 := by
  cases he with
  | accept nowMs => exact Or.inl hp
  | close hsession => exact Or.inl hp
  | scan nowMs hclosing => exact Or.inl hp
  | @login session nowMs data account hsession token =>
    by_cases hq : p = (s.getOrCreatePlayerId account).1
    · exact Or.inr ⟨session, nowMs, data, account, rfl, hsession, hq⟩
    · refine Or.inl fun hnone => hp ?_
      exact (Function.update_of_ne hq ..).trans hnone
  | reconnect hsession htoken => exact Or.inl hp
  | quiet hbinding => exact Or.inl hp

/-! ## Back into the room -/

/-- The status that says where the player is. -/
def trueStatus (s : Server F) (p : PlayerId) : PlayerStatus :=
  match s.getPlayerRoom p with
  | some roomId => if (s.roomHeap roomId).state = .playing then .playing else .inRoom
  | none => if p ∈ s.matchQueue.queue then .matching else .online

/-- Session and player say where the player is. -/
structure Restored (s : Server F) (session : SessionId) (p : PlayerId) : Prop where
  session : (s.sessionHeap session).roomId = (s.getPlayerRoom p).getD 0
  roomId : s.playerManager.roomId p = some ((s.getPlayerRoom p).getD 0)
  status : s.playerManager.status p = some (s.trueStatus p)

/-- The player is in a room, or it is not waiting for a match and the session is in no room. -/
def Restorable (s : Server F) (session : SessionId) (p : PlayerId) : Prop :=
  s.getPlayerRoom p ≠ none ∨ ((s.sessionHeap session).roomId = 0 ∧ p ∉ s.matchQueue.queue)

theorem restored_send (s : Server F) (session σ : SessionId) (msg : Message F) (p : PlayerId) :
    (s.send σ msg).Restored session p ↔ s.Restored session p :=
  ⟨fun h => ⟨h.session, h.roomId, h.status⟩, fun h => ⟨h.session, h.roomId, h.status⟩⟩

/-- A player in a room gets all three fields back. -/
theorem restored_in_room {s : Server F} {session : SessionId} {p : PlayerId} {roomId : RoomId}
    (hroom : s.getPlayerRoom p = some roomId) : (s.rejoinRoom session p).2.Restored session p := by
  have hsame : (s.rejoinRoom session p).2.getPlayerRoom p = some roomId := by
    unfold rejoinRoom
    rw [hroom]
    exact hroom
  refine ⟨?_, ?_, ?_⟩
  · rw [hsame]
    unfold rejoinRoom
    rw [hroom]
    simp [setPlayerStatus, setPlayerRoomId, updatePlayers, setSessionRoomId, updateSession]
  · rw [hsame]
    unfold rejoinRoom
    rw [hroom]
    dsimp only
    rw [roomId_setPlayerStatus, if_pos rfl]
    exact congrArg some
      ((congrFun (congrArg Links.player (links_setPlayerRoomId _ p roomId)) p).trans
        (Function.update_self ..))
  · rw [trueStatus, hsame]
    unfold rejoinRoom
    rw [hroom]
    dsimp only
    rw [status_setPlayerStatus, if_pos rfl]
    rfl

/-- A player without a room keeps the status that `SetOnline` gave it. -/
theorem restored_without_room {s : Server F} {session : SessionId} {p : PlayerId}
    (hroom : s.getPlayerRoom p = none) (honline : s.playerManager.status p = some .online) :
    (s.rejoinRoom session p).2.Restored session p ↔
      (s.sessionHeap session).roomId = 0 ∧ p ∉ s.matchQueue.queue := by
  have hrejoin : (s.rejoinRoom session p).2 = s.setPlayerRoomId p 0 := by
    unfold rejoinRoom
    rw [hroom]
  have hsame : (s.setPlayerRoomId p 0).getPlayerRoom p = none := hroom
  have hstatus : (s.setPlayerRoomId p 0).playerManager.status p = some .online := by
    obtain ⟨player, hplayer, hon⟩ := Option.map_eq_some_iff.mp honline
    rw [status_setPlayerRoomId, if_pos rfl, playerStatus, PlayerManager.getOrCreatePlayer, hplayer,
      Option.getD_some, hon]
  have htrue : (s.setPlayerRoomId p 0).trueStatus p =
      if p ∈ s.matchQueue.queue then .matching else .online := by
    unfold trueStatus
    rw [hsame]
    rfl
  rw [hrejoin]
  constructor
  · intro h
    refine ⟨?_, fun hqueue => ?_⟩
    · have hsession := h.session
      rwa [hsame] at hsession
    · have hmatching := h.status
      rw [hstatus, htrue, if_pos hqueue] at hmatching
      cases hmatching
  · rintro ⟨hsession, hqueue⟩
    refine ⟨?_, ?_, ?_⟩
    · rw [hsame]
      exact hsession
    · rw [hsame, roomId_setPlayerRoomId, if_pos rfl]
      rfl
    · rw [hstatus, htrue, if_neg hqueue]

/-- The end of both handlers, for a player that has just been set online. -/
theorem restored_rejoinRoom {s : Server F} {session : SessionId} {p : PlayerId}
    (honline : s.playerManager.status p = some .online) :
    (s.rejoinRoom session p).2.Restored session p ↔ s.Restorable session p := by
  unfold Restorable
  cases hroom : s.getPlayerRoom p with
  | some roomId => exact iff_of_true (restored_in_room hroom) (Or.inl (Option.some_ne_none _))
  | none =>
    rw [restored_without_room hroom honline]
    exact (or_iff_right (not_not.mpr rfl)).symm

/-! ## The two handlers -/

/-- What decides where a player is put back. -/
structure SameRestore (s s' : Server F) (session : SessionId) : Prop where
  manager : s'.roomManager = s.roomManager
  queue : s'.matchQueue = s.matchQueue
  session : (s'.sessionHeap session).roomId = (s.sessionHeap session).roomId

theorem SameRestore.restorable_iff {s s' : Server F} {session : SessionId}
    (h : s.SameRestore s' session) (p : PlayerId) :
    s'.Restorable session p ↔ s.Restorable session p := by
  unfold Restorable getPlayerRoom getRoom
  rw [h.manager, h.queue, h.session]

theorem SameRestore.trans {s s' s'' : Server F} {session : SessionId}
    (h : s.SameRestore s' session) (h' : s'.SameRestore s'' session) :
    s.SameRestore s'' session where
  manager := h'.manager.trans h.manager
  queue := h'.queue.trans h.queue
  session := h'.session.trans h.session

theorem sameRestore_updateSession (s : Server F) (session σ : SessionId) {f : Session → Session}
    (hf : (f (s.sessionHeap σ)).roomId = (s.sessionHeap σ).roomId) :
    s.SameRestore (s.updateSession σ f) session := by
  refine ⟨rfl, rfl, ?_⟩
  unfold updateSession
  dsimp only
  rw [Function.update_apply]
  split
  · next hσ => rw [hf, hσ]
  · rfl

theorem sameRestore_getOrCreatePlayerId (s : Server F) (account : String) (session : SessionId) :
    s.SameRestore (s.getOrCreatePlayerId account).2 session := by
  unfold getOrCreatePlayerId
  by_cases ha : account = ""
  · simp only [ha, if_true]
    split <;> exact ⟨rfl, rfl, rfl⟩
  · simp only [ha, if_false]
    split <;> exact ⟨rfl, rfl, rfl⟩

theorem sameRestore_closeOther (s : Server F) (p : PlayerId) (session : SessionId) :
    s.SameRestore (s.closeOther p session) session := by
  unfold closeOther
  split
  · split
    · exact sameRestore_updateSession s session _ rfl
    · exact ⟨rfl, rfl, rfl⟩
  · exact ⟨rfl, rfl, rfl⟩

theorem status_setOnline {pm : PlayerManager} {p : PlayerId} (h : pm.players p ≠ none)
    (session : SessionId) : (pm.setOnline p session).status p = some .online := by
  obtain ⟨player, hplayer⟩ := Option.ne_none_iff_exists'.mp h
  unfold PlayerManager.status PlayerManager.setOnline PlayerManager.setStatus
  dsimp only
  rw [Function.update_self, hplayer]
  rfl

theorem handleLogin_restored (s : Server F) (session : SessionId) (nowMs : Int)
    (data : LoadedPlayer) (account : String) :
    (s.handleLogin session nowMs data (some account)).playerManager.players
        (s.getOrCreatePlayerId account).1 ≠ none ∧
      ((s.handleLogin session nowMs data (some account)).Restored session
          (s.getOrCreatePlayerId account).1 ↔
        s.Restorable session (s.getOrCreatePlayerId account).1) := by
  have hid := sameRestore_getOrCreatePlayerId s account session
  obtain ⟨p, s₁, hfound⟩ : ∃ p s₁, s.getOrCreatePlayerId account = (p, s₁) := ⟨_, _, rfl⟩
  unfold handleLogin
  dsimp only
  rw [hfound] at hid ⊢
  dsimp only at hid ⊢
  generalize hs₂ : (((s₁.storeToken p (generateSessionToken p nowMs)).closeOther p
    session).updateSession session
      ({ · with playerId := p, lastHeartbeatMs := nowMs })).updateConnections
        (·.bindPlayer p session) = s₂
  have hbound : s.SameRestore s₂ session := by
    rw [← hs₂]
    have hstored : s.SameRestore (s₁.storeToken p (generateSessionToken p nowMs)) session :=
      hid.trans ⟨rfl, rfl, rfl⟩
    have hclosed := hstored.trans (sameRestore_closeOther _ p session)
    have hbind := sameRestore_updateSession
      ((s₁.storeToken p (generateSessionToken p nowMs)).closeOther p session) session session
      (f := ({ · with playerId := p, lastHeartbeatMs := nowMs })) rfl
    exact (hclosed.trans hbind).trans ⟨rfl, rfl, rfl⟩
  have hknown : (s₂.playerManager.update p ({ · with score := data.score })
      data.name).players p ≠ none := by
    unfold PlayerManager.update
    dsimp only
    rw [Function.update_self]
    exact Option.some_ne_none _
  generalize hs₃ : (s₂.updatePlayers (·.update p ({ · with score := data.score })
    data.name)).updatePlayers (·.setOnline p session) = s₃
  have honline : s₃.playerManager.status p = some .online := by
    rw [← hs₃]
    exact status_setOnline hknown session
  have hkept : s₃.playerManager.players p ≠ none := by
    rw [← hs₃]
    exact player_stays_setStatus _ p p .online hknown
  have hsame : s.SameRestore s₃ session := by
    rw [← hs₃]
    exact hbound.trans ⟨rfl, rfl, rfl⟩
  constructor
  · have hrejoined := (keeps_player p).via hkept (via_rejoinRoom s₃ session p)
    exact hrejoined
  · rw [restored_send]
    exact (restored_rejoinRoom honline).trans (hsame.restorable_iff p)

theorem handleReconnect_restored {s : Server F} (session : SessionId) {p : PlayerId}
    {token : String} (htoken : s.loginService.sessionTokens p = some token)
    (hknown : s.playerManager.players p ≠ none) :
    (s.handleReconnect session (some (p, token))).Restored session p ↔ s.Restorable session p := by
  unfold handleReconnect
  dsimp only
  rw [if_neg (not_not.mpr htoken)]
  generalize hs₁ : ((s.updateSession session ({ · with playerId := p })).updateConnections
    (·.bindPlayer p session)).updatePlayers
      (fun pm => (pm.setOnline p session).update p id) = s₁
  have honline : s₁.playerManager.status p = some .online := by
    have hset := status_setOnline hknown session
    have hstays := map_players_update (s.playerManager.setOnline p session) Player.status p p id
    rw [if_pos rfl] at hstays
    obtain ⟨player, hplayer, hon⟩ := Option.map_eq_some_iff.mp hset
    rw [← hs₁]
    refine hstays.trans ?_
    rw [PlayerManager.getOrCreatePlayer, hplayer, ← hon]
    rfl
  have hsame : s.SameRestore s₁ session := by
    rw [← hs₁]
    exact (sameRestore_updateSession s session session
      (f := ({ · with playerId := p })) rfl).trans ⟨rfl, rfl, rfl⟩
  rw [restored_send]
  exact (restored_rejoinRoom honline).trans (hsame.restorable_iff p)

/-! ## Runs -/

variable [Axis F]

theorem TokensKnown.step {s : Server F} (h : s.TokensKnown) (e : Event F) :
    (s.handle e).TokensKnown := by
  intro p hp
  rcases token_step (presenceStep_handle s e) hp with hold | hnew
  · exact (keeps_player p).handle (h p hold) e
  · obtain ⟨session, nowMs, data, account, rfl, hsession, rfl⟩ := hnew
    rw [handle, if_pos hsession]
    exact (s.handleLogin_restored session nowMs data account).1

theorem tokensKnown_run (n : Int) (events : List (Event F)) :
    ((init n).run events).TokensKnown := by
  have hinit : (init n : Server F).TokensKnown := fun p hp => (hp rfl).elim
  exact (AllStates.of_step (fun _ e h => h.step e) events hinit).last

/--
**Login and reconnect restore the place of the player.**

In every reachable state, after a login or an accepted reconnect of `p` on `session` the room ids
of session and player and the status say where `p` is, if and only if `p` is in a room, or `p` is
not in the match queue and the session was in no room before.
-/
theorem restored_iff (n : Int) (events : List (Event F)) (e : Event F) (p : PlayerId)
    (session : SessionId) (he : ((init n).run events).binding e = some (p, session)) :
    (((init n).run events).handle e).Restored session p ↔
      ((init n).run events).Restorable session p := by
  have htokens := tokensKnown_run n events
  generalize (init n).run events = s at he htokens ⊢
  unfold binding at he
  split at he
  · next session' nowMs data account =>
    rw [Option.ite_none_right_eq_some] at he
    obtain ⟨hsession, ⟨⟩⟩ := he
    rw [handle, if_pos hsession]
    exact (s.handleLogin_restored session nowMs data account).2
  · next session' nowMs p' token =>
    rw [Option.ite_none_right_eq_some] at he
    obtain ⟨⟨hsession, htoken⟩, ⟨⟩⟩ := he
    rw [handle, if_pos hsession]
    refine handleReconnect_restored session htoken (htokens p fun hnone => ?_)
    rw [htoken] at hnone
    cases hnone
  · cases he

omit [Axis F] in
/-- A player who is waiting for a match reconnects on a second connection. -/
theorem restored_witness :
    let s := (init 2 : Server Coord).run [.accept 0, .accept 0,
      .packet 1 0 (.login ⟨"player_100000", 1000⟩ (some "a")), .packet 1 0 (.match (some 0))]
    (s.handle (.packet 2 0 (.reconnect (some (100000, "100000_0"))))).Restored 2 100000 ↔
      s.Restorable 2 100000 :=
  restored_iff 2 _ _ 100000 2 (by decide)

omit [Axis F] in
/-- The same player is reported online while it is still in the queue. -/
theorem restored_counterexample :
    ¬ ∀ (n : Int) (events : List (Event Coord)) (e : Event Coord) (p : PlayerId)
      (session : SessionId), ((init n).run events).binding e = some (p, session) →
        (((init n).run events).handle e).Restored session p := by
  intro h
  have hrestored := h 2 [.accept 0, .accept 0,
    .packet 1 0 (.login ⟨"player_100000", 1000⟩ (some "a")), .packet 1 0 (.match (some 0))]
    (.packet 2 0 (.reconnect (some (100000, "100000_0")))) 100000 2 (by decide)
  exact absurd hrestored.status (by decide)

end Server
end Game
