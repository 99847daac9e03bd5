import GameServer.Login.AccountNames
import GameServer.Server.Answers
import GameServer.Server.SessionMaps

/-!
# Who an account is

A login gives its account a player and a token, and a reconnect has to bring both. They stay what
they are until somebody logs in under the same name.
-/

namespace Game

/-- The player of an account with the token of its last login. -/
def LoginService.identity (l : LoginService) (account : String) : Option (PlayerId × String) :=
  (l.accountPlayers account).bind fun p => (l.sessionTokens p).map (p, ·)

theorem LoginService.identity_eq_some_iff {l : LoginService} {account : String} {p : PlayerId}
    {token : String} : l.identity account = some (p, token) ↔
      l.accountPlayers account = some p ∧ l.sessionTokens p = some token := by
  unfold identity
  rw [Option.bind_eq_some_iff]
  constructor
  · rintro ⟨q, hq, hmap⟩
    obtain ⟨token', htoken, heq⟩ := Option.map_eq_some_iff.mp hmap
    cases heq
    exact ⟨hq, htoken⟩
  · rintro ⟨hp, htoken⟩
    exact ⟨p, hp, Option.map_eq_some_iff.mpr ⟨token, htoken, rfl⟩⟩

namespace Server

variable {F : Type}

/-! ## Other accounts -/

theorem accountPlayers_findOrEnter (s : Server F) {key other : String} (h : other ≠ key) :
    (s.findOrEnter key).2.loginService.accountPlayers other =
      s.loginService.accountPlayers other := by
  unfold findOrEnter
  split
  · rfl
  · exact Function.update_of_ne h ..

theorem accountPlayers_login (s : Server F) {account other : String}
    (h : other ≠ (s.login account).1.key) :
    (s.getOrCreatePlayerId account).2.loginService.accountPlayers other =
      s.loginService.accountPlayers other := by
  unfold login LoginRecord.key LoginRecord.guestName at h
  dsimp only at h
  rw [getOrCreatePlayerId_eq]
  split at h
  · next hempty =>
    rw [if_pos hempty]
    exact accountPlayers_findOrEnter _ h
  · next hne =>
    rw [if_neg hne]
    exact accountPlayers_findOrEnter _ h

/-- The name under which somebody logs in. -/
def entering (s : Server F) : Event F → Option String
  | .packet session _ (.login _ (some account)) =>
    if session < s.nextSessionId then some (s.login account).1.key else none
  | _ => none

variable [Axis F]

theorem Interned.handle {s : Server F} (h : s.Interned) (e : Event F) :
    (s.handle e).Interned := by
  have hsame : ∀ s' : Server F, s'.loginService = (s.handle e).presence.login →
      s'.nextPlayerId = (s.handle e).presence.nextPlayerId → s'.Interned →
        (s.handle e).Interned := by
    intro s' hlogin hnext hs'
    have hlogin' : s'.loginService = (s.handle e).loginService := hlogin
    have hnext' : s'.nextPlayerId = (s.handle e).nextPlayerId := hnext
    exact ⟨fun key p hp => hnext' ▸ hs'.lt key p (by rwa [hlogin']),
      fun key key' p hp hp' => hs'.unique key key' p (by rwa [hlogin']) (by rwa [hlogin'])⟩
  have hstep := presenceStep_handle s e
  generalize (s.handle e).presence = w at hstep hsame
  cases hstep with
  | @login session nowMs data account hsession token =>
    have hentered := (login_spec h account).1
    exact hsame { s with
        loginService := (s.loggedIn session account token).login
        nextPlayerId := (s.loggedIn session account token).nextPlayerId } rfl rfl
      ⟨hentered.lt, hentered.unique⟩
  | accept nowMs => exact hsame s rfl rfl h
  | close hsession => exact hsame s rfl rfl h
  | scan nowMs hclosing => exact hsame s rfl rfl h
  | reconnect hsession htoken => exact hsame s rfl rfl h
  | quiet hbinding => exact hsame s rfl rfl h

/-- **An account stays who it is** while nobody logs in under its name. -/
theorem identity_handle {s : Server F} (h : s.Interned) {e : Event F} {account : String}
    (he : s.entering e ≠ some account) :
    (s.handle e).loginService.identity account = s.loginService.identity account := by
  have hstep := presenceStep_handle s e
  change (s.handle e).presence.login.identity account = _
  generalize (s.handle e).presence = w at hstep
  cases hstep with
  | @login session nowMs data name hsession token =>
    have hkey : account ≠ (s.login name).1.key := fun heq =>
      he ((if_pos hsession).trans (congrArg some heq.symm))
    obtain ⟨hentered, -, hfound, -⟩ := login_spec h name
    have hplayers := accountPlayers_login s hkey
    unfold LoginService.identity loggedIn
    dsimp only [Presence.takeOver]
    rw [hplayers]
    cases hq : s.loginService.accountPlayers account with
    | none => rfl
    | some q =>
      -- The player of another name is another player.
      have hne : q ≠ (s.getOrCreatePlayerId name).1 := by
        rintro rfl
        exact hkey (hentered.unique _ _ _ (hplayers.trans hq) hfound)
      dsimp only [Option.bind_some]
      rw [Function.update_of_ne hne]
  | accept nowMs => rfl
  | close hsession => rfl
  | scan nowMs hclosing => rfl
  | reconnect hsession htoken => rfl
  | quiet hbinding => rfl

/-! ## The player of a session -/

theorem nextSessionId_handle (s : Server F) (e : Event F) :
    s.nextSessionId ≤ (s.handle e).nextSessionId := by
  have hstep := presenceStep_handle s e
  change _ ≤ (s.handle e).presence.nextSessionId
  generalize (s.handle e).presence = w at hstep
  cases hstep with
  | accept nowMs => exact Nat.le_succ _
  | close hsession => exact le_rfl
  | scan nowMs hclosing => exact le_rfl
  | login hsession token => exact le_rfl
  | reconnect hsession htoken => exact le_rfl
  | quiet hbinding => exact le_rfl

omit [Axis F] in
/-- Players are bound to sessions by logins and reconnects. -/
theorem packet_of_binding {s : Server F} {e : Event F} {p : PlayerId} {σ : SessionId}
    (h : s.binding e = some (p, σ)) : ∃ nowMs request, e = .packet σ nowMs request ∧
      (request.answer? = some .login ∨ request.answer? = some .reconnect) := by
  unfold binding at h
  split at h
  · obtain ⟨-, heq⟩ := Option.ite_none_right_eq_some.mp h
    cases heq
    exact ⟨_, _, rfl, Or.inl rfl⟩
  · obtain ⟨-, heq⟩ := Option.ite_none_right_eq_some.mp h
    cases heq
    exact ⟨_, _, rfl, Or.inr rfl⟩
  · cases h

/-- A session keeps its player while there is no login and no reconnect on it. -/
theorem sessionPlayer_handle {s : Server F} {e : Event F} {σ : SessionId}
    (hσ : σ < s.nextSessionId) (hbinding : ∀ p, s.binding e ≠ some (p, σ)) :
    ((s.handle e).sessionHeap σ).playerId = (s.sessionHeap σ).playerId := by
  have hstep := presenceStep_handle s e
  change (s.handle e).presence.sessionPlayer σ = s.presence.sessionPlayer σ
  generalize (s.handle e).presence = w at hstep
  cases hstep with
  | accept nowMs => exact Function.update_of_ne hσ.ne ..
  | close hsession => rfl
  | scan nowMs hclosing => rfl
  | login hsession token =>
    refine Function.update_of_ne ?_ ..
    rintro rfl
    exact hbinding _ (if_pos hsession)
  | reconnect hsession htoken =>
    refine Function.update_of_ne ?_ ..
    rintro rfl
    exact hbinding _ (if_pos ⟨hsession, htoken⟩)
  | quiet hbinding => rfl

/-! ## Logins and reconnects -/

/-- What is sent in an event, and to whom it may be an answer. -/
theorem out_handle (s : Server F) (e : Event F) :
    ∃ messages, (s.handle e).out = s.out ++ messages ∧
      ∀ σ m a, (σ, m) ∈ messages → m.answer? = some a → (σ, a) ∈ s.asks e := by
  obtain ⟨messages, hout, hanswers⟩ := says_handle s e
  refine ⟨messages, hout, fun σ m a hm ha => ?_⟩
  rw [← hanswers]
  exact List.mem_filterMap.mpr ⟨(σ, m), hm, by simp [ha]⟩

omit [Axis F] in
/-- Only the packet of an event asks for an answer. -/
theorem mem_asks {s : Server F} {e : Event F} {σ : SessionId} {a : Answer} (h : (σ, a) ∈ s.asks e) :
    ∃ nowMs request, e = .packet σ nowMs request ∧ σ < s.nextSessionId ∧
      request.answer? = some a := by
  unfold asks at h
  split at h
  · next session nowMs request =>
    obtain ⟨hsession, ha⟩ := List.mem_ite_nil_right.mp h
    obtain ⟨a', ha', heq⟩ := Option.map_eq_some_iff.mp (Option.mem_toList.mp ha)
    cases heq
    exact ⟨nowMs, request, rfl, hsession, ha'⟩
  · cases h

theorem generateSessionToken_ne (p : PlayerId) (nowMs : Int) :
    generateSessionToken p nowMs ≠ "" := by
  unfold generateSessionToken
  simp

/-- A login with a name. -/
theorem handle_login {s : Server F} (h : s.Interned) (hnumbered : s.presence.Numbered)
    {session : SessionId} (hsession : session < s.nextSessionId) (nowMs : Int)
    (data : LoadedPlayer) {account : String} (hne : account ≠ "") :
    let s' := s.handle (.packet session nowMs (.login data (some account)))
    ∃ p token, p ≠ 0 ∧ token ≠ "" ∧ s'.loginService.identity account = some (p, token) ∧
      (s'.sessionHeap session).playerId = p ∧
      s'.out = s.out ++ [(session, .loginResponse 0 p data.name token)] := by
  intro s'
  have hs' : s' = s.handleLogin session nowMs data (some account) := if_pos hsession
  refine ⟨(s.getOrCreatePlayerId account).1,
    generateSessionToken (s.getOrCreatePlayerId account).1 nowMs,
    (getOrCreatePlayerId_pos hnumbered account).1.ne', generateSessionToken_ne _ _, ?_, ?_, ?_⟩
  · refine LoginService.identity_eq_some_iff.mpr ?_
    have hfound := (login_spec h account).2.2.1
    unfold LoginRecord.key login at hfound
    rw [if_neg hne] at hfound
    rw [hs']
    change (s.handleLogin session nowMs data (some account)).presence.login.accountPlayers _ = _ ∧
      (s.handleLogin session nowMs data (some account)).presence.login.sessionTokens _ = _
    rw [presence_loggedIn]
    exact ⟨hfound, Function.update_self ..⟩
  · rw [hs']
    change (s.handleLogin session nowMs data (some account)).presence.sessionPlayer session = _
    rw [presence_loggedIn]
    exact Function.update_self ..
  · rw [hs']
    unfold handleLogin
    dsimp only
    refine congrArg (· ++ [_]) ?_
    have hid := (via_getOrCreatePlayerId s account).out (by decide) (by decide)
    refine ((via_rejoinRoom _ session _).out (by decide) (by decide)).trans ?_
    exact ((via_closeOther _ _ session).out (by decide) (by decide)).trans hid

/-- A reconnect with the token of the player. -/
theorem handle_reconnect {s : Server F} {session : SessionId} (hsession : session < s.nextSessionId)
    (nowMs : Int) {p : PlayerId} {token : String}
    (htoken : s.loginService.sessionTokens p = some token) :
    let s' := s.handle (.packet session nowMs (.reconnect (some (p, token))))
    (s'.sessionHeap session).playerId = p ∧
      ∃ roomId, s'.out = s.out ++ [(session, .reconnectResponse 0 roomId)] := by
  intro s'
  have hs' : s' = s.handleReconnect session (some (p, token)) := if_pos hsession
  constructor
  · rw [hs']
    change (s.handleReconnect session (some (p, token))).presence.sessionPlayer session = _
    rw [presence_handleReconnect s session htoken]
    exact Function.update_self ..
  · rw [hs']
    unfold handleReconnect
    dsimp only
    rw [if_neg (not_not.mpr htoken)]
    exact ⟨_, congrArg (· ++ [_]) ((via_rejoinRoom _ session p).out (by decide) (by decide))⟩

end Server
end Game
