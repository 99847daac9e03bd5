import GameServer.Infra.Run
import GameServer.Server.Updates

/-!
# Who is behind a session

The part of the server that the queue, the rooms and the battles never touch: the player of every
session, the maps from players to sessions, the accounts and their tokens. Logins, reconnects and
the connections themselves change it, all other updates leave it as it is.
-/

namespace Game

open Infra

/-- The sessions and the players behind them. -/
@[ext]
structure Presence where
  sessionPlayer : SessionId → PlayerId
  closing : SessionId → Bool
  connections : ConnectionManager
  online : PlayerId → Option SessionId
  login : LoginService
  nextPlayerId : PlayerId
  nextSessionId : SessionId

/-- The session becomes the one of the player: what a login and a reconnect have in common. -/
def Presence.takeOver (w : Presence) (p : PlayerId) (session : SessionId) : Presence :=
  { w with
    sessionPlayer := Function.update w.sessionPlayer session p
    connections := w.connections.bindPlayer p session
    online := Function.update w.online p (some session) }

/-- A new session, which has no player yet. -/
def Presence.accept (w : Presence) : Presence :=
  { w with
    sessionPlayer := Function.update w.sessionPlayer w.nextSessionId 0
    closing := Function.update w.closing w.nextSessionId false
    connections := w.connections.add w.nextSessionId 0
    nextSessionId := w.nextSessionId + 1 }

/-- The end of a connection: its player goes offline unless another session has taken over. -/
def Presence.close (w : Presence) (session : SessionId) : Presence :=
  let p := w.sessionPlayer session
  let connections := w.connections.remove session p
  { w with
    connections := connections
    online :=
      if p ≠ 0 ∧ ∀ current ∈ connections.getByPlayerId p, current = session then
        Function.update w.online p none
      else w.online }

namespace Server

variable {F : Type}

/-- The view of the server. -/
def presence (s : Server F) : Presence where
  sessionPlayer session := (s.sessionHeap session).playerId
  closing session := (s.sessionHeap session).closing
  connections := s.connectionManager
  online := s.playerManager.onlineSessions
  login := s.loginService
  nextPlayerId := s.nextPlayerId
  nextSessionId := s.nextSessionId

/-! ## Updates -/

theorem presence_updateSession (s : Server F) (session : SessionId) (f : Session → Session) :
    (s.updateSession session f).presence =
      { s.presence with
        sessionPlayer :=
          Function.update s.presence.sessionPlayer session (f (s.sessionHeap session)).playerId
        closing :=
          Function.update s.presence.closing session (f (s.sessionHeap session)).closing } := by
  ext σ
  · by_cases hσ : σ = session
    · subst hσ
      simp [presence, updateSession]
    · simp [presence, updateSession, Function.update_of_ne hσ]
  · by_cases hσ : σ = session
    · subst hσ
      simp [presence, updateSession]
    · simp [presence, updateSession, Function.update_of_ne hσ]
  all_goals rfl

/-- A setter of something else. -/
theorem presence_setter (s : Server F) (session : SessionId) {f : Session → Session}
    (hplayer : (f (s.sessionHeap session)).playerId = (s.sessionHeap session).playerId)
    (hclosing : (f (s.sessionHeap session)).closing = (s.sessionHeap session).closing) :
    (s.updateSession session f).presence = s.presence := by
  rw [presence_updateSession, hplayer, hclosing]
  ext1
  · exact Function.update_eq_self session s.presence.sessionPlayer
  · exact Function.update_eq_self session s.presence.closing
  all_goals rfl

theorem presence_setSessionRoomId (s : Server F) (session : SessionId) (roomId : RoomId) :
    (s.setSessionRoomId session roomId).presence = s.presence :=
  presence_setter s session rfl rfl

variable {s s' : Server F}

/-- What is not about the sessions and the players behind them leaves the view as it is. -/
theorem Via.presence {about : List Matter} (h : Via about s s') (hout : .presence ∉ about) :
    s'.presence = s.presence := by
  refine h.view fun {matter t t'} hmem hupdate => ?_
  cases hupdate with
  | setSessionRoomId _ session roomId => exact presence_setSessionRoomId t session roomId
  | updateHeartbeatTime _ session nowMs => exact presence_setter t session rfl rfl
  | createRoom _ hnd =>
    exact view_createRoom Server.presence (fun _ _ => rfl) (fun _ _ _ => rfl) presence_setSessionRoomId t _
  | send | broadcast | updatePlayer | setPending | updateRoom | updateGame | addGame | removeGame
  | withQueue | eraseRoom | answer | record => rfl
  | accounts | bindSession | closeSession | updateConnections | setOnline | setOffline =>
    exact absurd hmem hout

/-! ## Logins and connections -/

/-- Whether a login for `p` on `session` asks the session `σ` to close. -/
def displaces (s : Server F) (p : PlayerId) (session σ : SessionId) : Bool :=
  decide (s.connectionManager.getByPlayerId p = some σ ∧ σ ≠ session)

theorem presence_closeOther (s : Server F) (p : PlayerId) (session : SessionId) :
    (s.closeOther p session).presence =
      { s.presence with closing := fun σ => s.presence.closing σ || s.displaces p session σ } := by
  have hclosing : ∀ {old}, s.connectionManager.getByPlayerId p = some old → ∀ σ,
      s.displaces p session σ = decide (σ = old ∧ old ≠ session) := by
    intro old hold σ
    unfold displaces
    rw [hold]
    by_cases hσ : σ = old
    · simp [hσ]
    · simp [hσ, Ne.symm hσ]
  unfold closeOther
  split
  · next old hold =>
    by_cases hne : old ≠ session
    · rw [if_pos hne, presence_updateSession]
      ext1
      · exact Function.update_eq_self old s.presence.sessionPlayer
      · funext σ
        by_cases hσ : σ = old
        · simp [hclosing hold, hσ, hne]
        · simp [hclosing hold, hσ, presence]
      all_goals rfl
    · rw [if_neg hne]
      ext1
      · rfl
      · funext σ
        simp [hclosing hold, hne]
      all_goals rfl
  · next hnone => simp [displaces, hnone]

theorem presence_rejoinRoom (s : Server F) (session : SessionId) (p : PlayerId) :
    (s.rejoinRoom session p).2.presence = s.presence :=
  (via_rejoinRoom s session p).presence (by decide)

/-- A setter that writes the player of the session and leaves the closing flag alone. -/
theorem presence_bindSession (s : Server F) (session : SessionId) {f : Session → Session}
    {p : PlayerId} (hplayer : (f (s.sessionHeap session)).playerId = p)
    (hclosing : (f (s.sessionHeap session)).closing = (s.sessionHeap session).closing) :
    (s.updateSession session f).presence =
      { s.presence with
        sessionPlayer := Function.update s.presence.sessionPlayer session p } := by
  rw [presence_updateSession, hplayer, hclosing]
  ext1
  · rfl
  · exact Function.update_eq_self session s.presence.closing
  all_goals rfl

/-- `HandleLogin` of a request that parses. -/
theorem presence_handleLogin (s : Server F) (session : SessionId) (nowMs : Int)
    (data : LoadedPlayer) (account : String) {p : PlayerId} {s₁ : Server F}
    (hid : s.getOrCreatePlayerId account = (p, s₁)) :
    (s.handleLogin session nowMs data (some account)).presence =
      ((s₁.storeToken p (generateSessionToken p nowMs)).closeOther p session).presence.takeOver
        p session := by
  rw [handleLogin, hid]
  refine (presence_rejoinRoom _ _ _).trans ?_
  generalize (s₁.storeToken p (generateSessionToken p nowMs)).closeOther p session = t
  have hbound := presence_bindSession t session
    (f := ({ · with playerId := p, lastHeartbeatMs := nowMs })) rfl rfl
  have hplayers := congrArg Presence.sessionPlayer hbound
  have hclosing := congrArg Presence.closing hbound
  ext1
  · exact hplayers
  · exact hclosing
  all_goals rfl

/-- `HandleReconnect` with the right token. -/
theorem presence_handleReconnect (s : Server F) (session : SessionId) {p : PlayerId}
    {token : String} (htoken : s.loginService.sessionTokens p = some token) :
    (s.handleReconnect session (some (p, token))).presence = s.presence.takeOver p session := by
  rw [handleReconnect, if_neg (not_not.mpr htoken)]
  refine (presence_rejoinRoom _ _ _).trans ?_
  have hbound := presence_bindSession s session (f := ({ · with playerId := p })) rfl rfl
  have hplayers := congrArg Presence.sessionPlayer hbound
  have hclosing := congrArg Presence.closing hbound
  ext1
  · exact hplayers
  · exact hclosing
  all_goals rfl

/-- A reconnect without the right token is refused. -/
theorem presence_handleReconnect_refused (s : Server F) (session : SessionId) {p : PlayerId}
    {token : String} (htoken : s.loginService.sessionTokens p ≠ some token) :
    (s.handleReconnect session (some (p, token))).presence = s.presence := by
  rw [handleReconnect, if_pos htoken]
  rfl

theorem presence_close (s : Server F) (session : SessionId) :
    (s.close session).presence = s.presence.close session := by
  generalize hp : (s.sessionHeap session).playerId = p
  have hp' : s.presence.sessionPlayer session = p := hp
  have hq : ∀ f, ((s.updateConnections f).sessionHeap session).playerId = p := fun _ => hp
  have hdrop : ∀ s : Server F, (s.dropPlayer session p).presence =
      { s.presence with online := Function.update s.playerManager.onlineSessions p none } := by
    intro s
    unfold dropPlayer
    dsimp only
    split
    · split <;> rfl
    · rfl
  unfold close sessionClosed Presence.close
  dsimp only
  rw [hp, hq, hp']
  by_cases hzero : p = 0
  · rw [if_pos hzero, if_neg fun h => h.1 hzero]
    rfl
  · rw [if_neg hzero]
    split
    · next current hcurrent =>
      change (s.connectionManager.remove session p).getByPlayerId p = some current at hcurrent
      by_cases hsame : current = session
      · have hown : ∀ c ∈ (s.connectionManager.remove session p).getByPlayerId p, c = session := by
          intro c hc
          rw [hcurrent] at hc
          exact (Option.some.inj hc).symm.trans hsame
        rw [if_neg (not_not.mpr hsame), if_pos ⟨hzero, hown⟩, hdrop]
        rfl
      · rw [if_pos hsame, if_neg fun h => hsame (h.2 current hcurrent)]
        rfl
    · next hnone =>
      change (s.connectionManager.remove session p).getByPlayerId p = none at hnone
      have hown : ∀ c ∈ (s.connectionManager.remove session p).getByPlayerId p, c = session := by
        intro c hc
        rw [hnone] at hc
        simp at hc
      rw [if_pos ⟨hzero, hown⟩, hdrop]
      rfl

theorem presence_accept (s : Server F) (nowMs : Int) :
    (s.accept nowMs).presence = s.presence.accept := by
  have hnew := presence_updateSession s s.nextSessionId fun _ => { lastHeartbeatMs := nowMs }
  have hplayers := congrArg Presence.sessionPlayer hnew
  have hclosing := congrArg Presence.closing hnew
  ext1
  · exact hplayers
  · exact hclosing
  all_goals rfl

theorem presence_getOrCreatePlayerId (s : Server F) (account : String) :
    (s.getOrCreatePlayerId account).2.presence =
      { s.presence with
        login := (s.getOrCreatePlayerId account).2.loginService
        nextPlayerId := (s.getOrCreatePlayerId account).2.nextPlayerId } := by
  unfold getOrCreatePlayerId
  by_cases ha : account = ""
  · simp only [ha, if_true]
    split <;> rfl
  · simp only [ha, if_false]
    split <;> rfl

theorem sessionTokens_getOrCreatePlayerId (s : Server F) (account : String) :
    (s.getOrCreatePlayerId account).2.loginService.sessionTokens =
      s.loginService.sessionTokens := by
  unfold getOrCreatePlayerId
  by_cases ha : account = ""
  · simp only [ha, if_true]
    split <;> rfl
  · simp only [ha, if_false]
    split <;> rfl

/-! ## One event -/

/-- The player and the session that a login or a reconnect binds to each other. -/
def binding (s : Server F) : Event F → Option (PlayerId × SessionId)
  | .packet session _ (.login _ (some account)) =>
    if session < s.nextSessionId then some ((s.getOrCreatePlayerId account).1, session) else none
  | .packet session _ (.reconnect (some (p, token))) =>
    if session < s.nextSessionId ∧ s.loginService.sessionTokens p = some token then
      some (p, session)
    else none
  | _ => none

/-- The view after a login. -/
def loggedIn (s : Server F) (session : SessionId) (account token : String) : Presence :=
  let p := (s.getOrCreatePlayerId account).1
  { s.presence with
    closing := fun σ => s.presence.closing σ || s.displaces p session σ
    login :=
      { accountPlayers := (s.getOrCreatePlayerId account).2.loginService.accountPlayers
        sessionTokens := Function.update s.loginService.sessionTokens p (some token) }
    nextPlayerId := (s.getOrCreatePlayerId account).2.nextPlayerId }.takeOver p session

end Server

/-- What an event does to the sessions. -/
inductive PresenceStep (s : Server F) : Event F → Presence → Prop where
  | accept (nowMs : Int) : PresenceStep s (.accept nowMs) s.presence.accept
  | close {session : SessionId} (hsession : session < s.nextSessionId) :
      PresenceStep s (.close session) (s.presence.close session)
  | scan (nowMs : Int) {closing : SessionId → Bool}
      (hclosing : ∀ σ, s.presence.closing σ = true → closing σ = true) :
      PresenceStep s (.heartbeatScan nowMs) { s.presence with closing := closing }
  | login {session : SessionId} {nowMs : Int} {data : LoadedPlayer} {account : String}
      (hsession : session < s.nextSessionId) (token : String) :
      PresenceStep s (.packet session nowMs (.login data (some account)))
        (s.loggedIn session account token)
  | reconnect {session : SessionId} {nowMs : Int} {p : PlayerId} {token : String}
      (hsession : session < s.nextSessionId)
      (htoken : s.loginService.sessionTokens p = some token) :
      PresenceStep s (.packet session nowMs (.reconnect (some (p, token))))
        (s.presence.takeOver p session)
  | quiet {e : Event F} (hbinding : s.binding e = none) : PresenceStep s e s.presence

namespace Server

theorem presence_loggedIn (s : Server F) (session : SessionId) (nowMs : Int) (data : LoadedPlayer)
    (account : String) :
    (s.handleLogin session nowMs data (some account)).presence =
      s.loggedIn session account
        (generateSessionToken (s.getOrCreatePlayerId account).1 nowMs) := by
  have hsame := presence_getOrCreatePlayerId s account
  have htokens := sessionTokens_getOrCreatePlayerId s account
  have hid : s.getOrCreatePlayerId account =
      ((s.getOrCreatePlayerId account).1, (s.getOrCreatePlayerId account).2) := rfl
  rw [presence_handleLogin s session nowMs data account hid, presence_closeOther, loggedIn]
  generalize s.getOrCreatePlayerId account = found at hsame htokens
  obtain ⟨p, s₁⟩ := found
  obtain ⟨hplayer, hclosing, hconnections, honline, -, -, hnext⟩ := Presence.ext_iff.mp hsame
  change s₁.presence.sessionPlayer = s.presence.sessionPlayer at hplayer
  change s₁.presence.closing = s.presence.closing at hclosing
  change s₁.connectionManager = s.connectionManager at hconnections
  change s₁.playerManager.onlineSessions = s.playerManager.onlineSessions at honline
  ext1
  · exact congrArg (Function.update · session p) hplayer
  · funext σ
    show (s₁.presence.closing σ || s₁.displaces p session σ) = _
    rw [displaces, hclosing, hconnections]
    rfl
  · exact congrArg (fun cm : ConnectionManager => cm.bindPlayer p session) hconnections
  · exact congrArg (Function.update · p (some session)) honline
  · exact congrArg (fun tokens => LoginService.mk s₁.loginService.accountPlayers
      (Function.update tokens p (some (generateSessionToken p nowMs)))) htokens
  · rfl
  · exact hnext

theorem presenceStep_dispatch [Axis F] (s : Server F) {session : SessionId} (nowMs : Int)
    (hsession : session < s.nextSessionId) (request : Request F) :
    PresenceStep s (.packet session nowMs request) (s.dispatch session nowMs request).presence := by
  have quiet : ∀ {w : Presence}, s.binding (.packet session nowMs request) = none →
      w = s.presence → PresenceStep s (.packet session nowMs request) w := by
    rintro w hbinding rfl
    exact .quiet hbinding
  match request with
  | .login data none => exact quiet rfl rfl
  | .login data (some account) =>
    rw [dispatch, presence_loggedIn]
    exact .login hsession _
  | .reconnect none => exact quiet rfl rfl
  | .reconnect (some (p, token)) =>
    by_cases htoken : s.loginService.sessionTokens p = some token
    · rw [dispatch, presence_handleReconnect s session htoken]
      exact .reconnect hsession htoken
    · refine quiet (if_neg fun h => htoken h.2) ?_
      exact presence_handleReconnect_refused s session htoken
  | .heartbeat | .match _ | .cancelMatch _ | .ready _ | .input _ | .leaveRoom _ =>
    exact quiet rfl ((via_dispatch s session nowMs _).presence (by simp))

/-- **What an event does to the sessions.** -/
theorem presenceStep_handle [Axis F] (s : Server F) (e : Event F) :
    PresenceStep s e (s.handle e).presence := by
  cases e with
  | accept nowMs =>
    rw [handle, presence_accept]
    exact .accept nowMs
  | packet session nowMs request =>
    rw [handle]
    by_cases hsession : session < s.nextSessionId
    · rw [if_pos hsession]
      exact presenceStep_dispatch s nowMs hsession request
    · rw [if_neg hsession]
      refine .quiet ?_
      unfold binding
      split
      · next h => cases h; exact if_neg hsession
      · next h => cases h; exact if_neg fun h => hsession h.1
      · rfl
  | close session =>
    rw [handle]
    by_cases hsession : session < s.nextSessionId
    · rw [if_pos hsession, presence_close]
      exact .close hsession
    · rw [if_neg hsession]
      exact .quiet rfl
  | heartbeatScan nowMs =>
    have hclosing : ∀ σ, s.presence.closing σ = true →
        (s.heartbeatScan nowMs).presence.closing σ = true := by
      intro σ hσ
      show ((s.heartbeatScan nowMs).sessionHeap σ).closing = true
      unfold heartbeatScan
      dsimp only
      split
      · rfl
      · exact hσ
    have hplayer : (s.heartbeatScan nowMs).presence.sessionPlayer = s.presence.sessionPlayer := by
      funext σ
      show ((s.heartbeatScan nowMs).sessionHeap σ).playerId = (s.sessionHeap σ).playerId
      unfold heartbeatScan
      dsimp only
      split <;> rfl
    have hscan : (s.heartbeatScan nowMs).presence =
        { s.presence with closing := (s.heartbeatScan nowMs).presence.closing } := by
      ext1
      · exact hplayer
      all_goals rfl
    rw [handle, hscan]
    exact .scan nowMs hclosing
  | tick roomId env =>
    rw [handle, (via_tick s roomId env).presence (by decide)]
    exact .quiet rfl

end Server
end Game
