import GameServer.Server.SessionMaps

/-!
# One session for each player

`HandleLogin` asks the session that the player had before to close, `HandleReconnect` does not.
-/

namespace Game

open Infra

namespace Presence

/-- Registered, and not asked to close. -/
def Live (w : Presence) (session : SessionId) : Prop :=
  session ∈ w.connections.sessions ∧ w.closing session = false

/-- No two live sessions belong to the same player. -/
def OneLive (w : Presence) : Prop :=
  ∀ p, p ≠ 0 → ∀ σ τ, w.Live σ → w.Live τ → w.sessionPlayer σ = p → w.sessionPlayer τ = p → σ = τ

/-- Fewer live sessions, and none of them with another player. -/
theorem OneLive.mono {w w' : Presence} (h : w.OneLive)
    (hlive : ∀ σ, w'.Live σ → w'.sessionPlayer σ ≠ 0 →
      w.Live σ ∧ w'.sessionPlayer σ = w.sessionPlayer σ) : w'.OneLive := by
  intro p hp σ τ hσ hτ hpσ hpτ
  obtain ⟨hσ', hσp⟩ := hlive σ hσ (hpσ ▸ hp)
  obtain ⟨hτ', hτp⟩ := hlive τ hτ (hpτ ▸ hp)
  exact h p hp σ τ hσ' hτ' (hσp.symm.trans hpσ) (hτp.symm.trans hpτ)

/--
`BindPlayer` after some sessions were asked to close.

It keeps the property exactly when the other live sessions of the player are among those.
-/
theorem oneLive_takeOver {w : Presence} (h : w.OneLive) {p : PlayerId} {session : SessionId}
    (hp : p ≠ 0) {closing : SessionId → Bool} {login : LoginService} {nextPlayerId : PlayerId}
    (hmono : ∀ σ, w.closing σ = true → closing σ = true)
    (hself : w.closing session = false → closing session = false) :
    ({ w with closing := closing, login := login, nextPlayerId := nextPlayerId }.takeOver p
      session).OneLive ↔
      (w.Live session → ∀ τ, τ ≠ session → w.Live τ → w.sessionPlayer τ = p →
        closing τ = true) := by
  generalize hw' : ({ w with closing := closing, login := login,
                             nextPlayerId := nextPlayerId } : Presence).takeOver p session = w'
  have hlive : ∀ {τ}, w'.Live τ ↔ τ ∈ w.connections.sessions ∧ closing τ = false := by
    intro τ
    rw [← hw']
    exact Iff.rfl
  have hplayer : w'.sessionPlayer session = p := by
    rw [← hw']
    exact Function.update_self ..
  have hother : ∀ {τ}, τ ≠ session → w'.sessionPlayer τ = w.sessionPlayer τ := by
    intro τ hτ
    rw [← hw']
    exact Function.update_of_ne hτ ..
  have hbefore : ∀ {τ}, w'.Live τ → w.Live τ := by
    intro τ hτ
    obtain ⟨hmem, hopen⟩ := hlive.mp hτ
    refine ⟨hmem, ?_⟩
    by_contra hclosed
    rw [hmono τ (by simpa using hclosed)] at hopen
    simp at hopen
  constructor
  · intro hone hsession τ hτ hτlive hτp
    by_contra hopen
    have hτ' : w'.Live τ := hlive.mpr ⟨hτlive.1, by simpa using hopen⟩
    have hsession' : w'.Live session := hlive.mpr ⟨hsession.1, hself hsession.2⟩
    exact hτ (hone p hp τ session hτ' hsession' ((hother hτ).trans hτp) hplayer)
  · intro hclosed
    -- a live session of the same player beside `session` would have been asked to close
    have honly : ∀ {τ}, w'.Live session → w'.Live τ → w'.sessionPlayer τ = p → τ = session := by
      intro τ hsession hτ hτp
      by_contra hne
      have hclosing := hclosed (hbefore hsession) τ hne (hbefore hτ) ((hother hne).symm.trans hτp)
      rw [(hlive.mp hτ).2] at hclosing
      simp at hclosing
    intro q hq σ τ hσ hτ hσq hτq
    by_cases hσs : σ = session
    · subst hσs
      exact (honly hσ hτ (hτq.trans (hσq.symm.trans hplayer))).symm
    · by_cases hτs : τ = session
      · subst hτs
        exact honly hτ hσ (hσq.trans (hτq.symm.trans hplayer))
      · exact h q hq σ τ (hbefore hσ) (hbefore hτ) ((hother hσs).symm.trans hσq)
          ((hother hτs).symm.trans hτq)

end Presence

namespace Server

variable {F : Type}

/-- Every player has at most one live session. -/
def OneLive (s : Server F) : Prop :=
  s.presence.OneLive

/-- When the session of a login is live, the only other live session of the player is the one that
the login asks to close; when the session of a reconnect is live, there is no other. -/
def Displaces (s : Server F) : Event F → Prop
  | .packet session _ (.login _ (some account)) =>
    session < s.nextSessionId → s.presence.Live session →
      ∀ τ, τ ≠ session → s.presence.Live τ →
        (s.sessionHeap τ).playerId = (s.getOrCreatePlayerId account).1 →
        s.connectionManager.getByPlayerId (s.getOrCreatePlayerId account).1 = some τ
  | .packet session _ (.reconnect (some (p, token))) =>
    session < s.nextSessionId → s.loginService.sessionTokens p = some token →
      s.presence.Live session →
      ∀ τ, τ ≠ session → s.presence.Live τ → (s.sessionHeap τ).playerId ≠ p
  | _ => True

/-- The invariant. -/
def OneLiveNumbered (s : Server F) : Prop :=
  s.OneLive ∧ s.presence.Numbered

theorem oneLiveNumbered_init (n : Int) : (init n : Server F).OneLiveNumbered where
  left := by
    intro p hp σ τ hσ
    simp [Presence.Live, presence, init] at hσ
  right := numbered_init n

variable [Axis F]

/-- **An event keeps the property exactly when it displaces the other sessions of the player.** -/
theorem oneLive_handle {s : Server F} (h : s.OneLiveNumbered) (e : Event F) :
    (s.handle e).OneLive ↔ s.Displaces e := by
  obtain ⟨hone, hnumbered⟩ := h
  have hstep := presenceStep_handle s e
  unfold OneLive
  generalize (s.handle e).presence = w at hstep
  cases hstep with
  | accept nowMs =>
    refine iff_of_true (hone.mono fun σ hσ hplayer => ?_) trivial
    have hne : σ ≠ s.presence.nextSessionId := by
      rintro rfl
      exact hplayer (Function.update_self ..)
    refine ⟨⟨Finset.mem_of_mem_insert_of_ne hσ.1 hne, ?_⟩, Function.update_of_ne hne ..⟩
    exact (Function.update_of_ne hne ..).symm.trans hσ.2
  | close hsession =>
    refine iff_of_true (hone.mono fun σ hσ _ => ?_) trivial
    exact ⟨⟨Finset.mem_of_mem_erase hσ.1, hσ.2⟩, rfl⟩
  | scan nowMs hclosing =>
    refine iff_of_true (hone.mono fun σ hσ _ => ⟨⟨hσ.1, ?_⟩, rfl⟩) trivial
    by_contra hclosed
    have hclosed' := hclosing σ (by simpa using hclosed)
    exact absurd (hclosed'.symm.trans hσ.2) (by simp)
  | @login session nowMs data account hsession token =>
    have hpos : 0 < (s.getOrCreatePlayerId account).1 := (getOrCreatePlayerId_pos hnumbered account).1
    have hself : s.displaces (s.getOrCreatePlayerId account).1 session session = false := by
      simp [displaces]
    refine (Presence.oneLive_takeOver hone (Int.ne_of_gt hpos) ?_ ?_).trans ?_
    · intro σ hσ
      rw [hσ, Bool.true_or]
    · intro hopen
      rw [hopen, hself]
      rfl
    · have hclosed : ∀ τ, τ ≠ session → s.presence.Live τ →
          ((s.presence.closing τ || s.displaces (s.getOrCreatePlayerId account).1 session τ) = true ↔
            s.connectionManager.getByPlayerId (s.getOrCreatePlayerId account).1 = some τ) := by
        intro τ hτ hlive
        rw [hlive.2, Bool.false_or, displaces, decide_eq_true_iff]
        exact and_iff_left hτ
      constructor
      · exact fun hall _ hlive τ hτ hτlive hτp =>
          (hclosed τ hτ hτlive).mp (hall hlive τ hτ hτlive hτp)
      · exact fun hall hlive τ hτ hτlive hτp =>
          (hclosed τ hτ hτlive).mpr (hall hsession hlive τ hτ hτlive hτp)
  | @reconnect session nowMs p token hsession htoken =>
    have hpos : 0 < p := binding_pos (e := .packet session nowMs (.reconnect (some (p, token))))
      hnumbered (if_pos ⟨hsession, htoken⟩)
    refine (Presence.oneLive_takeOver hone (Int.ne_of_gt hpos) (fun _ h => h) id).trans ?_
    constructor
    · intro hall _ _ hlive τ hτ hτlive hτp
      have hclosed := hall hlive τ hτ hτlive hτp
      rw [hτlive.2] at hclosed
      simp at hclosed
    · exact fun hall hlive τ hτ hτlive hτp => absurd hτp (hall hsession htoken hlive τ hτ hτlive)
  | quiet hbinding =>
    refine iff_of_true hone ?_
    unfold Displaces
    split
    · intro hsession
      exact absurd ((if_pos hsession).symm.trans hbinding) (by simp)
    · intro hsession htoken
      exact absurd ((if_pos ⟨hsession, htoken⟩).symm.trans hbinding) (by simp)
    · trivial

/--
**One live session for each player.**

In every state of a run no two sessions that are registered and not asked to close belong to the
same player, if and only if every login and every reconnect displaces the other live sessions of
its player.
-/
theorem oneLive_iff (n : Int) (events : List (Event F)) :
    AllStates handle OneLive (init n) events ↔ AllSteps handle Displaces (init n) events :=
  allStates_iff_allSteps (I := OneLiveNumbered) (fun _ h => h.1)
    (fun s e h he => ⟨(oneLive_handle h e).mpr he,
      Numbered.step h.2 (presenceStep_handle s e)⟩)
    (fun _ e h => (oneLive_handle h e).mp) events (oneLiveNumbered_init n)

/-- A reconnect while the first session is still open. -/
theorem oneLive_counterexample :
    ¬ ∀ (n : Int) (events : List (Event Coord)),
      AllStates handle OneLive (init n) events := by
  intro h
  have hlast := (h 2 [.accept 0, .accept 0,
    .packet 1 0 (.login ⟨"player_100000", 1000⟩ (some "a")),
    .packet 2 0 (.reconnect (some (100000, "100000_0")))]).last
  have hsame := hlast 100000 (by decide) 1 2 ⟨by decide, by decide⟩ ⟨by decide, by decide⟩
    (by decide) (by decide)
  exact absurd hsame (by decide)

end Server
end Game
