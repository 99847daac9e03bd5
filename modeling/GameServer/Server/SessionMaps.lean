import GameServer.Server.Outside

/-!
# The maps from players to sessions

`player_sessions_` is written by `BindPlayer`, while `Remove` cleans up for the current player of
the session only. A connection that logs in a second time under another account leaves the entry
of its first player behind, and so does a login that is handled after the connection was removed.
-/

namespace Game

open Infra

/-! ## Ids of players -/

/-- Every id that an account or a token belongs to is positive. -/
structure Presence.Numbered (w : Presence) : Prop where
  next : 0 < w.nextPlayerId
  accounts : ∀ account, ∀ p ∈ w.login.accountPlayers account, 0 < p
  tokens : ∀ p, w.login.sessionTokens p ≠ none → 0 < p
  players : ∀ session, w.sessionPlayer session = 0 ∨ 0 < w.sessionPlayer session

namespace Server

variable {F : Type}

theorem getOrCreatePlayerId_pos {s : Server F} (h : s.presence.Numbered) (account : String) :
    0 < (s.getOrCreatePlayerId account).1 ∧
    0 < (s.getOrCreatePlayerId account).2.nextPlayerId ∧
    ∀ a, ∀ p ∈ (s.getOrCreatePlayerId account).2.loginService.accountPlayers a, 0 < p := by
  have hnext : 0 < s.nextPlayerId := h.next
  have hbelow : ∀ key : String, ∀ n : Int, 0 < n → ∀ a, ∀ p ∈ Function.update
      s.loginService.accountPlayers key (some n) a, 0 < p := by
    intro key n hn a p hp
    by_cases ha : a = key
    · rw [ha, Function.update_self] at hp
      exact Option.some.inj hp ▸ hn
    · rw [Function.update_of_ne ha] at hp
      exact h.accounts a p hp
  unfold getOrCreatePlayerId
  by_cases ha : account = ""
  · simp only [ha, if_true]
    split
    · next p hp => exact ⟨h.accounts _ p hp, Int.lt_add_one_of_le hnext.le, h.accounts⟩
    · have hlater : 0 < s.nextPlayerId + 1 := Int.lt_add_one_of_le hnext.le
      exact ⟨hlater, Int.lt_add_one_of_le hlater.le, hbelow _ _ hlater⟩
  · simp only [ha, if_false]
    split
    · next p hp => exact ⟨h.accounts _ p hp, hnext, h.accounts⟩
    · exact ⟨hnext, Int.lt_add_one_of_le hnext.le, hbelow _ _ hnext⟩

/-- The ids stay positive. -/
theorem Numbered.step {s : Server F} (h : s.presence.Numbered) {e : Event F} {w : Presence}
    (he : PresenceStep s e w) : w.Numbered := by
  have hbound : ∀ {q : PlayerId}, 0 < q → ∀ session σ,
      Function.update s.presence.sessionPlayer session q σ = 0 ∨
        0 < Function.update s.presence.sessionPlayer session q σ := by
    intro q hq session σ
    by_cases hσ : σ = session
    · rw [hσ, Function.update_self]
      exact Or.inr hq
    · rw [Function.update_of_ne hσ]
      exact h.players σ
  cases he with
  | accept nowMs =>
    refine ⟨h.next, h.accounts, h.tokens, fun σ => ?_⟩
    by_cases hσ : σ = s.presence.nextSessionId
    · exact Or.inl (by rw [hσ]; exact Function.update_self ..)
    · have hold : s.presence.accept.sessionPlayer σ = s.presence.sessionPlayer σ :=
        Function.update_of_ne hσ ..
      rw [hold]
      exact h.players σ
  | close hsession => exact ⟨h.next, h.accounts, h.tokens, h.players⟩
  | scan nowMs hclosing => exact ⟨h.next, h.accounts, h.tokens, h.players⟩
  | @login session _ _ account hsession token =>
    obtain ⟨hp, hnext, haccounts⟩ := getOrCreatePlayerId_pos h account
    refine ⟨hnext, haccounts, fun q hq => ?_, hbound hp session⟩
    by_cases hq' : q = (s.getOrCreatePlayerId account).1
    · rw [hq']
      exact hp
    · exact h.tokens q fun hnone => hq ((Function.update_of_ne hq' ..).trans hnone)
  | @reconnect session _ p token hsession htoken =>
    have hp : 0 < p := h.tokens p (by
      rw [show s.presence.login.sessionTokens p = some token from htoken]
      simp)
    exact ⟨h.next, h.accounts, h.tokens, hbound hp session⟩
  | quiet hbinding => exact h

theorem numbered_init (n : Int) : (init n : Server F).presence.Numbered where
  next := by
    show (0 : Int) < 100000
    decide
  accounts _ _ hp := by simp [presence, init] at hp
  tokens _ hp := absurd rfl hp
  players _ := Or.inl rfl

/-- A login or a reconnect is for a player with a positive id. -/
theorem binding_pos {s : Server F} (h : s.presence.Numbered) {e : Event F} {p : PlayerId}
    {session : SessionId} (hbinding : s.binding e = some (p, session)) : 0 < p := by
  unfold binding at hbinding
  split at hbinding
  · next account =>
    rw [Option.ite_none_right_eq_some] at hbinding
    obtain ⟨-, ⟨⟩⟩ := hbinding
    exact (getOrCreatePlayerId_pos h account).1
  · rw [Option.ite_none_right_eq_some] at hbinding
    obtain ⟨⟨-, htoken⟩, ⟨⟩⟩ := hbinding
    refine h.tokens p fun hnone => ?_
    have habsurd : (none : Option String) = some _ := hnone.symm.trans htoken
    simp at habsurd
  · simp at hbinding

end Server

/-! ## Sound maps -/

namespace Presence

/-- A player is only looked up under a registered session of that player, and is only online
through a registered session. -/
structure SoundMaps (w : Presence) : Prop where
  lookup : ∀ p, ∀ session ∈ w.connections.getByPlayerId p,
    session ∈ w.connections.sessions ∧ w.sessionPlayer session = p
  online : ∀ p, ∀ session ∈ w.online p, session ∈ w.connections.sessions

/-- What goes with it: the two maps agree, and nobody is looked up under the id 0. -/
structure Tidy (w : Presence) : Prop where
  lookup : ∀ p, ∀ session ∈ w.connections.getByPlayerId p,
    session ∈ w.connections.sessions ∧ w.sessionPlayer session = p
  agree : ∀ p, w.online p = w.connections.getByPlayerId p
  zero : w.connections.getByPlayerId 0 = none
  registered : ∀ session ∈ w.connections.sessions, session < w.nextSessionId

theorem Tidy.soundMaps {w : Presence} (h : w.Tidy) : w.SoundMaps where
  lookup := h.lookup
  online p session hs := (h.lookup p session (h.agree p ▸ hs)).1

/-- `BindPlayer` on a registered session that no other player is looked up under. -/
theorem Tidy.takeOver {w : Presence} (h : w.Tidy) {p : PlayerId} {session : SessionId}
    (hp : p ≠ 0) (hregistered : session ∈ w.connections.sessions)
    (hfree : w.connections.getByPlayerId (w.sessionPlayer session) = some session →
      w.sessionPlayer session = p) : (w.takeOver p session).Tidy where
  lookup := by
    intro q σ hσ
    have hget : (w.takeOver p session).connections.getByPlayerId q =
        if q = p then some session else w.connections.getByPlayerId q :=
      Function.update_apply ..
    rw [hget] at hσ
    by_cases hq : q = p
    · rw [if_pos hq] at hσ
      cases hσ
      exact ⟨hregistered, (Function.update_self ..).trans hq.symm⟩
    · rw [if_neg hq] at hσ
      obtain ⟨hmem, hplayer⟩ := h.lookup q σ hσ
      refine ⟨hmem, ?_⟩
      by_cases hs : σ = session
      · -- the session would still be the one of its first player
        subst hs
        exact absurd (hplayer.symm.trans (hfree (hplayer.symm ▸ hσ))) hq
      · exact (Function.update_of_ne hs ..).trans hplayer
  agree q := by
    show Function.update w.online p (some session) q =
      Function.update w.connections.playerSessions p (some session) q
    by_cases hq : q = p
    · rw [hq, Function.update_self, Function.update_self]
    · rw [Function.update_of_ne hq, Function.update_of_ne hq]
      exact h.agree q
  zero := (Function.update_of_ne (Ne.symm hp) ..).trans h.zero
  registered := h.registered

/-- The condition is exact. -/
theorem SoundMaps.of_takeOver {w : Presence} {p : PlayerId} {session : SessionId}
    (h : (w.takeOver p session).SoundMaps) :
    session ∈ w.connections.sessions ∧
      (w.connections.getByPlayerId (w.sessionPlayer session) = some session →
        w.sessionPlayer session = p) := by
  refine ⟨(h.lookup p session (Function.update_self ..)).1, fun hget => ?_⟩
  by_contra hq
  have hold : (w.takeOver p session).connections.getByPlayerId (w.sessionPlayer session) =
      some session := (Function.update_of_ne hq ..).trans hget
  have hplayer := (h.lookup _ session hold).2
  exact hq (hplayer.symm.trans (Function.update_self ..))

theorem Tidy.accept {w : Presence} (h : w.Tidy) : w.accept.Tidy where
  lookup := by
    intro p session hs
    obtain ⟨hmem, hplayer⟩ := h.lookup p session hs
    have hne : session ≠ w.nextSessionId := Nat.ne_of_lt (h.registered session hmem)
    exact ⟨Finset.mem_insert_of_mem hmem, (Function.update_of_ne hne ..).trans hplayer⟩
  agree := h.agree
  zero := h.zero
  registered := by
    intro session hs
    rcases Finset.mem_insert.mp hs with rfl | hs
    · exact Nat.lt_succ_self _
    · exact Nat.lt_succ_of_lt (h.registered session hs)

/-- `Remove` takes the session out of the map from players. -/
theorem Tidy.getByPlayerId_remove {w : Presence} (h : w.Tidy) (session : SessionId) (p : PlayerId) :
    (w.connections.remove session (w.sessionPlayer session)).getByPlayerId p =
      if w.connections.getByPlayerId p = some session then none
      else w.connections.getByPlayerId p := by
  have hown : w.connections.getByPlayerId p = some session → w.sessionPlayer session = p :=
    fun hget => (h.lookup p session hget).2
  unfold ConnectionManager.remove ConnectionManager.getByPlayerId
  dsimp only
  split
  · next hcond =>
    rw [Function.update_apply]
    by_cases hp : p = w.sessionPlayer session
    · rw [if_pos hp, hp, if_pos hcond.2]
    · rw [if_neg hp]
      exact (if_neg fun hget => hp (hown hget).symm).symm
  · next hcond =>
    by_cases hget : w.connections.playerSessions p = some session
    · refine absurd ⟨(h.lookup p session hget).1, ?_⟩ hcond
      rw [hown hget]
      exact hget
    · rw [if_neg hget]

theorem Tidy.close {w : Presence} (h : w.Tidy) (session : SessionId) : (w.close session).Tidy := by
  have hget : ∀ p, (w.close session).connections.getByPlayerId p =
      if w.connections.getByPlayerId p = some session then none
      else w.connections.getByPlayerId p := h.getByPlayerId_remove session
  constructor
  · intro p σ hσ
    rw [hget p] at hσ
    split at hσ
    · simp at hσ
    · next hne =>
      obtain ⟨hmem, hplayer⟩ := h.lookup p σ hσ
      have hσs : σ ≠ session := by
        rintro rfl
        exact hne hσ
      exact ⟨Finset.mem_erase.mpr ⟨hσs, hmem⟩, hplayer⟩
  · intro p
    rw [hget p]
    have hget' := hget (w.sessionPlayer session)
    have hother : p ≠ w.sessionPlayer session → w.connections.getByPlayerId p ≠ some session :=
      fun hne hp => hne (h.lookup p session hp).2.symm
    unfold Presence.close
    dsimp only
    change (w.connections.remove session _).getByPlayerId _ = _ at hget'
    rw [hget']
    by_cases howner : w.connections.getByPlayerId (w.sessionPlayer session) = some session
    · -- the session was the one of its player, who goes offline
      have hnonzero : w.sessionPlayer session ≠ 0 := by
        intro hzero
        rw [hzero, h.zero] at howner
        simp at howner
      rw [if_pos howner, if_pos ⟨hnonzero, by simp⟩]
      by_cases hp : p = w.sessionPlayer session
      · rw [hp, Function.update_self, if_pos howner]
      · rw [Function.update_of_ne hp, if_neg (hother hp), h.agree]
    · rw [if_neg howner]
      have hkeep : w.connections.getByPlayerId p ≠ some session := by
        by_cases hp : p = w.sessionPlayer session
        · rwa [hp]
        · exact hother hp
      rw [if_neg hkeep]
      split
      · next hcond =>
        by_cases hp : p = w.sessionPlayer session
        · rw [hp, Function.update_self]
          cases hcurrent : w.connections.getByPlayerId (w.sessionPlayer session) with
          | none => rfl
          | some current =>
            have hsame := hcond.2 current hcurrent
            exact absurd (hsame ▸ hcurrent) howner
        · rw [Function.update_of_ne hp, h.agree]
      · exact h.agree p
  · rw [hget 0]
    split
    · rfl
    · exact h.zero
  · exact fun σ hσ => h.registered σ (Finset.mem_of_mem_erase hσ)

end Presence

/-! ## Runs -/

namespace Server

variable {F : Type}

/-- The maps of the server are sound. -/
def SoundMaps (s : Server F) : Prop :=
  s.presence.SoundMaps

/-- A login or a reconnect comes from a registered session, and from one that is not already the
session of another player. -/
def BindsFresh (s : Server F) (e : Event F) : Prop :=
  ∀ p session, s.binding e = some (p, session) →
    session ∈ s.connectionManager.sessions ∧
    (s.connectionManager.getByPlayerId (s.sessionHeap session).playerId = some session →
      (s.sessionHeap session).playerId = p)

/-- The invariant. -/
def TidyMaps (s : Server F) : Prop :=
  s.presence.Tidy ∧ s.presence.Numbered

theorem tidyMaps_init (n : Int) : (init n : Server F).TidyMaps where
  left :=
    { lookup := by simp [presence, init, ConnectionManager.getByPlayerId]
      agree _ := rfl
      zero := rfl
      registered := by simp [presence, init] }
  right := numbered_init n

variable [Axis F]

/-- An event that binds no session to a player it should not have keeps the maps tidy. -/
theorem TidyMaps.step {s : Server F} (h : s.TidyMaps) {e : Event F} (he : s.BindsFresh e) :
    (s.handle e).TidyMaps := by
  obtain ⟨htidy, hnumbered⟩ := h
  have hstep := presenceStep_handle s e
  refine ⟨?_, Numbered.step hnumbered hstep⟩
  generalize (s.handle e).presence = w at hstep
  cases hstep with
  | accept nowMs => exact htidy.accept
  | close hsession => exact htidy.close _
  | scan nowMs hclosing => exact ⟨htidy.lookup, htidy.agree, htidy.zero, htidy.registered⟩
  | @login session nowMs data account hsession token =>
    have hbinding : s.binding (.packet session nowMs (.login data (some account))) =
        some ((s.getOrCreatePlayerId account).1, session) := if_pos hsession
    obtain ⟨hmem, hfree⟩ := he _ _ hbinding
    have hpos := binding_pos hnumbered hbinding
    refine Presence.Tidy.takeOver ?_ (Int.ne_of_gt hpos) hmem hfree
    exact ⟨htidy.lookup, htidy.agree, htidy.zero, htidy.registered⟩
  | @reconnect session nowMs p token hsession htoken =>
    have hbinding : s.binding (.packet session nowMs (.reconnect (some (p, token)))) =
        some (p, session) := if_pos ⟨hsession, htoken⟩
    obtain ⟨hmem, hfree⟩ := he _ _ hbinding
    exact htidy.takeOver (Int.ne_of_gt (binding_pos hnumbered hbinding)) hmem hfree
  | quiet hbinding => exact htidy

/-- Maps that are sound after the event show that it met the condition. -/
theorem bindsFresh_of_soundMaps {s : Server F} {e : Event F} (h : (s.handle e).SoundMaps) :
    s.BindsFresh e := by
  intro p session hbinding
  have hstep := presenceStep_handle s e
  unfold SoundMaps at h
  generalize (s.handle e).presence = w at h hstep
  cases hstep with
  | accept nowMs => simp [binding] at hbinding
  | close hsession => simp [binding] at hbinding
  | scan nowMs hclosing => simp [binding] at hbinding
  | login hsession token =>
    obtain ⟨⟩ := (if_pos hsession).symm.trans hbinding
    exact Presence.SoundMaps.of_takeOver h
  | reconnect hsession htoken =>
    obtain ⟨⟩ := (if_pos ⟨hsession, htoken⟩).symm.trans hbinding
    exact Presence.SoundMaps.of_takeOver h
  | quiet hquiet => simp [hquiet] at hbinding

/--
**The maps from players to sessions.**

They are sound in every state of a run if and only if every login and every reconnect comes from a
registered session that is not the session of another player. In such a run a connection that is
closed is forgotten: no player is looked up under it and no player is online through it.
-/
theorem soundMaps_iff (n : Int) (events : List (Event F)) :
    (AllStates handle SoundMaps (init n) events ↔ AllSteps handle BindsFresh (init n) events) ∧
    (AllSteps handle BindsFresh (init n) events → ∀ session p,
      ((run (init n) events).close session).connectionManager.getByPlayerId p ≠ some session ∧
      ((run (init n) events).close session).playerManager.onlineSessions p ≠ some session) := by
  refine ⟨?_, fun hfresh session p => ?_⟩
  · exact allStates_iff_allSteps (I := TidyMaps) (fun _ h => h.1.soundMaps)
      (fun _ _ h he => h.step he) (fun _ _ _ h => bindsFresh_of_soundMaps h) events
      (tidyMaps_init n)
  · have htidy : (run (init n) events).TidyMaps :=
      (AllStates.of_allSteps (I := TidyMaps) (fun _ _ h he => h.step he) events
        (tidyMaps_init n) hfresh).last
    have hsound := (htidy.1.close session).soundMaps
    rw [← presence_close] at hsound
    have hgone : session ∉ ((run (init n) events).close session).connectionManager.sessions := by
      have hremove : ((run (init n) events).close session).presence.connections.sessions =
          (run (init n) events).connectionManager.sessions.erase session := by
        rw [presence_close]
        rfl
      intro hmem
      exact Finset.notMem_erase session _ (hremove ▸ hmem)
    exact ⟨fun hget => hgone (hsound.lookup p session hget).1,
      fun honline => hgone (hsound.online p session honline)⟩

/-- Two accounts on one connection. -/
theorem soundMaps_counterexample :
    ¬ ∀ (n : Int) (events : List (Event Coord)),
      AllStates handle SoundMaps (init n) events := by
  intro h
  have hlast := (h 2 [.accept 0,
    .packet 1 0 (.login ⟨"player_100000", 1000⟩ (some "a")),
    .packet 1 0 (.login ⟨"player_100001", 1000⟩ (some "b"))]).last
  have hplayer := (hlast.lookup 100000 1 (by decide)).2
  exact absurd hplayer (by decide)

end Server

end Game
