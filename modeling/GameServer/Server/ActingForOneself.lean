import GameServer.Server.Outside

/-!
# Acting for oneself

`HandleReady` and `HandleLeaveRoom` act for the player of the session. `HandleMatch`,
`HandleCancelMatch` and `HandleInput` prefer the id in the packet, so a packet that names somebody
else acts for somebody else.

`acts` lists what the packets of a run did and in whose name. No other step extends it.
-/

namespace Game

open Infra

namespace Server

variable {F : Type}

/-! ## Only three handlers act -/

/-- `StartMatching` succeeds when `Push` does. -/
theorem startMatching_fst (s : Server F) (p : PlayerId) (session : SessionId) (message : String) :
    (s.startMatching p session message).1 = true ↔ p ≠ 0 ∧ p ∉ s.matchQueue.queue := by
  rw [← MatchQueue.push_eq_true_iff]
  unfold startMatching
  split
  · next hzero => simp [MatchQueue.push_eq_true_iff, hzero]
  · split
    next pushed queue hpush =>
    rw [hpush]
    dsimp only
    split
    · next hfalse => simp [hfalse]
    · next htrue => simpa using htrue

/-- What is not about the history does not extend it. -/
theorem Via.acts {about : List Matter} {s s' : Server F} (h : Via about s s') (hact : .act ∉ about) :
    s'.acts = s.acts := by
  refine h.view fun {matter t t'} hmem hupdate => ?_
  cases hupdate with
  | createRoom _ hnd =>
    exact view_createRoom Server.acts (fun _ _ => rfl) (fun _ _ _ => rfl) (fun _ _ _ => rfl) t _
  | record => exact absurd hmem hact
  | send | broadcast | setSessionRoomId | updatePlayer | setPending | updateRoom | updateGame
  | addGame | removeGame | withQueue | eraseRoom | answer | accounts | bindSession | closeSession
  | updateConnections | setOnline | setOffline | updateHeartbeatTime => rfl

/-! ## What the three handlers do -/

/-- The packet leaves the player to the session, or names the player of the session. -/
def Own (s : Server F) (session : SessionId) (requested : PlayerId) : Prop :=
  requested = 0 ∨ requested = (s.sessionHeap session).playerId

theorem actingPlayer_eq_iff {s : Server F} {session : SessionId} {requested : PlayerId} :
    s.actingPlayer session requested = (s.sessionHeap session).playerId ↔
      s.Own session requested := by
  unfold actingPlayer Own
  split
  · next h => simp [h]
  · next h => simp [h]

theorem actingPlayer_of_not_own {s : Server F} {session : SessionId} {requested : PlayerId}
    (h : ¬ s.Own session requested) :
    s.actingPlayer session requested = requested ∧ requested ≠ 0 := by
  have hzero : requested ≠ 0 := fun h0 => h (Or.inl h0)
  exact ⟨if_neg hzero, hzero⟩

theorem acts_handleMatch (s : Server F) (session : SessionId) (requested : PlayerId) :
    (s.handleMatch session (some requested)).acts =
      if s.actingPlayer session requested ≠ 0 ∧
          s.actingPlayer session requested ∉ s.matchQueue.queue then
        s.acts ++ [⟨session, (s.sessionHeap session).playerId, .enqueue,
          s.actingPlayer session requested⟩]
      else s.acts := by
  have hfst := startMatching_fst s (s.actingPlayer session requested) session "matching"
  have hacts := (via_startMatching s (s.actingPlayer session requested) session "matching").acts
    (by decide)
  rw [handleMatch]
  split
  · next hzero => rw [if_neg (fun h => h.1 hzero)]; rfl
  · split
    · next heq =>
      rw [heq] at hfst hacts
      rw [if_pos (hfst.mp rfl), record, hacts]
    · next heq =>
      rw [heq] at hfst hacts
      rw [if_neg (fun h => by simpa using hfst.mpr h), hacts]

theorem acts_handleCancelMatch (s : Server F) (session : SessionId) (requested : PlayerId) :
    (s.handleCancelMatch session (some requested)).acts =
      if s.actingPlayer session requested ∈ s.matchQueue.queue then
        s.acts ++ [⟨session, (s.sessionHeap session).playerId, .cancel,
          s.actingPlayer session requested⟩]
      else s.acts := by
  rw [handleCancelMatch]
  unfold MatchQueue.remove
  by_cases h : s.actingPlayer session requested ∈ s.matchQueue.queue
  · rw [if_pos h, if_neg (not_not.mpr (s.matchQueue.mem_inQueue.mpr h))]
    rfl
  · rw [if_neg h, if_pos (fun hm => h (s.matchQueue.mem_inQueue.mp hm))]
    rfl

theorem acts_handleInput (s : Server F) (session : SessionId) (nowMs : Int)
    (request : PlayerInput F) :
    (s.handleInput session nowMs (some request)).acts =
      if s.getGame (s.sessionHeap session).roomId ≠ none then
        s.acts ++ [⟨session, (s.sessionHeap session).playerId, .input,
          s.actingPlayer session request.playerId⟩]
      else s.acts := by
  unfold handleInput
  dsimp only
  split
  · next hnone => rw [if_neg (not_not.mpr hnone)]
  · next hsome =>
    rw [if_pos (by simp [hsome])]
    rfl

/-! ## The result -/

/-- Everything done so far in the name of a player came from a session of that player. -/
def ActsForOneself (s : Server F) : Prop :=
  ∀ act ∈ s.acts, act.playerId = act.sessionPlayer

/-- The request names its own player, or it has no effect: a player who is in the queue is not
enqueued again, one who is not is not taken off, and there may be no battle for an input. -/
def RequestNamesOneself (s : Server F) (session : SessionId) : Request F → Prop
  | .match (some requested) => s.Own session requested ∨ requested ∈ s.matchQueue.queue
  | .cancelMatch (some requested) => s.Own session requested ∨ requested ∉ s.matchQueue.queue
  | .input (some request) =>
    s.Own session request.playerId ∨ s.getGame (s.sessionHeap session).roomId = none
  | _ => True

/-- The same for an event: all packets of accepted sessions. -/
def NamesOneself (s : Server F) : Event F → Prop
  | .packet session _ request => session < s.nextSessionId → s.RequestNamesOneself session request
  | _ => True

/-- Adding an act keeps the property exactly when the act is for oneself. -/
theorem actsForOneself_append {acts : List Act} {act : Act} :
    (∀ a ∈ acts ++ [act], a.playerId = a.sessionPlayer) ↔
      (∀ a ∈ acts, a.playerId = a.sessionPlayer) ∧ act.playerId = act.sessionPlayer := by
  simp only [List.mem_append, List.mem_singleton, or_imp, forall_and, forall_eq]

variable [Axis F]

omit [Axis F] in
/-- A step that adds nothing keeps the property. -/
theorem ActsForOneself.congr {s s' : Server F} (h : s.ActsForOneself) (hacts : s'.acts = s.acts) :
    s'.ActsForOneself := by
  intro act hact
  exact h act (hacts ▸ hact)

omit [Axis F] in
/-- A step that may add one act keeps the property exactly when it does not add one, or the player
of the act is the player of the session. -/
theorem ActsForOneself.append_iff {s s' : Server F} (h : s.ActsForOneself) {c : Prop}
    [Decidable c] {act : Act} (hacts : s'.acts = if c then s.acts ++ [act] else s.acts) :
    s'.ActsForOneself ↔ act.playerId = act.sessionPlayer ∨ ¬ c := by
  by_cases hc : c
  · rw [if_pos hc] at hacts
    rw [ActsForOneself, hacts, actsForOneself_append]
    constructor
    · exact fun hall => Or.inl hall.2
    · exact fun hown => ⟨h, hown.resolve_right (not_not.mpr hc)⟩
  · rw [if_neg hc] at hacts
    exact iff_of_true (h.congr hacts) (Or.inr hc)

/-- **A request keeps the property exactly when it names its own player.** -/
theorem actsForOneself_dispatch {s : Server F} (h : s.ActsForOneself) (session : SessionId)
    (nowMs : Int) (request : Request F) :
    (s.dispatch session nowMs request).ActsForOneself ↔ s.RequestNamesOneself session request := by
  match request with
  | .login _ _ | .heartbeat | .reconnect _ | .ready _ | .leaveRoom _ =>
    exact iff_of_true (h.congr ((via_dispatch s session nowMs _).acts (by simp)))
      trivial
  | .match none => exact iff_of_true (h.congr rfl) trivial
  | .cancelMatch none => exact iff_of_true (h.congr rfl) trivial
  | .input none => exact iff_of_true (h.congr rfl) trivial
  | .match (some requested) =>
    rw [dispatch, h.append_iff (acts_handleMatch s session requested), actingPlayer_eq_iff,
      RequestNamesOneself]
    by_cases hown : s.Own session requested
    · exact iff_of_true (Or.inl hown) (Or.inl hown)
    · obtain ⟨hacting, hzero⟩ := actingPlayer_of_not_own hown
      rw [hacting]
      simp [hown, hzero]
  | .cancelMatch (some requested) =>
    rw [dispatch, h.append_iff (acts_handleCancelMatch s session requested), actingPlayer_eq_iff,
      RequestNamesOneself]
    by_cases hown : s.Own session requested
    · exact iff_of_true (Or.inl hown) (Or.inl hown)
    · rw [(actingPlayer_of_not_own hown).1]
  | .input (some request) =>
    rw [dispatch, h.append_iff (acts_handleInput s session nowMs request), actingPlayer_eq_iff,
      RequestNamesOneself, not_not]

/-- The same for every event. -/
theorem actsForOneself_handle {s : Server F} (h : s.ActsForOneself) (e : Event F) :
    (s.handle e).ActsForOneself ↔ s.NamesOneself e := by
  cases e with
  | accept nowMs => exact iff_of_true (h.congr rfl) trivial
  | heartbeatScan nowMs => exact iff_of_true (h.congr rfl) trivial
  | tick roomId env => exact iff_of_true (h.congr ((via_tick s roomId env).acts (by decide))) trivial
  | close session =>
    refine iff_of_true (h.congr ?_) trivial
    rw [handle]
    split
    · exact (via_close s session).acts (by decide)
    · rfl
  | packet session nowMs request =>
    rw [handle, NamesOneself]
    by_cases hsession : session < s.nextSessionId
    · rw [if_pos hsession, actsForOneself_dispatch h]
      exact ⟨fun hown _ => hown, fun hown => hown hsession⟩
    · rw [if_neg hsession]
      exact iff_of_true h fun hs => absurd hs hsession

omit [Axis F] in
theorem actsForOneself_init (n : Int) : (init n : Server F).ActsForOneself := by
  intro act hact
  simp [init] at hact

/--
**Acting for oneself.**

In every state of a run all that was done in the name of a player came from a session of that
player, if and only if every packet that has an effect names its own player.
-/
theorem actsForOneself_iff (n : Int) (events : List (Event F)) :
    AllStates handle ActsForOneself (init n) events ↔
      AllSteps handle NamesOneself (init n) events :=
  allStates_iff_allSteps (I := ActsForOneself) (fun _ h => h)
    (fun _ e h => (actsForOneself_handle h e).mpr)
    (fun _ e h => (actsForOneself_handle h e).mp) events (actsForOneself_init n)

/-- One player asks for a match in the name of another. -/
theorem actsForOneself_counterexample :
    ¬ ∀ (n : Int) (events : List (Event Coord)),
      AllStates handle ActsForOneself (init n) events := by
  intro h
  have hlast := (h 2 [.accept 0, .accept 0,
    .packet 1 0 (.login ⟨"player_100000", 1000⟩ (some "a")),
    .packet 2 0 (.login ⟨"player_100001", 1000⟩ (some "b")),
    .packet 2 0 (.match (some 100000))]).last
  have hact := hlast ⟨2, 100001, .enqueue, 100000⟩ (by decide)
  exact absurd hact (by decide)

end Server
end Game
