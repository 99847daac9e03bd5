import GameServer.Server.Updates

/-!
# Answers

The answers that the server gives, in their order: over a run of requests that are handled one at a
time they are those that have been asked for.
-/

namespace Game

/-- The answers among messages. -/
def answersOf {F : Type} (messages : List (SessionId × Message F)) : List (SessionId × Answer) :=
  messages.filterMap fun (session, msg) => msg.answer?.map (session, ·)

namespace Server

variable {F : Type} {s s' s'' : Server F} {session : SessionId} {l l' : List (SessionId × Answer)}

/-- Between two states messages are sent, the answers among them being `l`. -/
def Says (s s' : Server F) (l : List (SessionId × Answer)) : Prop :=
  ∃ messages, s'.out = s.out ++ messages ∧ answersOf messages = l

theorem says_of_out_eq (h : s'.out = s.out) : Says s s' [] :=
  ⟨[], by rw [h, List.append_nil], rfl⟩

theorem Says.trans (h : Says s s' l) (h' : Says s' s'' l') : Says s s'' (l ++ l') := by
  obtain ⟨messages, hout, rfl⟩ := h
  obtain ⟨messages', hout', rfl⟩ := h'
  refine ⟨messages ++ messages', ?_, List.filterMap_append⟩
  rw [hout', hout, List.append_assoc]

theorem says_send (s : Server F) (session : SessionId) (msg : Message F) :
    Says s (s.send session msg) (msg.answer?.map (session, ·)).toList := by
  refine ⟨[(session, msg)], rfl, ?_⟩
  unfold answersOf
  cases h : msg.answer? <;> simp [h]

theorem says_broadcast (s : Server F) (roomId : RoomId) {msg : Message F} (h : msg.answer? = none) :
    Says s (s.broadcast roomId msg) [] := by
  refine ⟨_, rfl, List.filterMap_eq_nil_iff.mpr fun x hx => ?_⟩
  obtain ⟨session, -, rfl⟩ := List.mem_map.mp hx
  exact congrArg (Option.map _) h

/-! ## Updates -/

variable {about : List Matter} {matter : Matter}

/-- What is neither news nor an answer is silent. -/
theorem Update.out (h : Update matter s s') (hnews : matter ≠ .news) (hanswer : matter ≠ .answer) :
    s'.out = s.out := by
  cases h with
  | createRoom _ hnd =>
    exact view_createRoom Server.out (fun _ _ => rfl) (fun _ _ _ => rfl) (fun _ _ _ => rfl) s _
  | send | broadcast => exact absurd rfl hnews
  | answer => exact absurd rfl hanswer
  | setSessionRoomId | updatePlayer | setPending | updateRoom | updateGame | addGame | removeGame
  | withQueue | eraseRoom | record | accounts | bindSession | closeSession | updateConnections
  | setOnline | setOffline | updateHeartbeatTime => rfl

theorem Via.out (h : Via about s s') (hnews : .news ∉ about) (hanswer : .answer ∉ about) :
    s'.out = s.out :=
  h.view fun hmem hupdate =>
    hupdate.out (fun heq => hnews (heq ▸ hmem)) (fun heq => hanswer (heq ▸ hmem))

theorem Update.saysOf (h : Update matter s s') (hanswer : matter ≠ .answer) : Says s s' [] := by
  by_cases hnews : matter = .news
  · subst hnews
    cases h with
    | @send _ session msg hmsg =>
      have hsays := says_send s session msg
      rwa [hmsg] at hsays
    | broadcast _ roomId hmsg => exact says_broadcast s roomId hmsg
  · exact says_of_out_eq (h.out hnews hanswer)

/-- What does not answer only brings news. -/
theorem Via.saysOf (h : Via about s s') (hanswer : .answer ∉ about) : Says s s' [] := by
  induction h with
  | refl => exact says_of_out_eq rfl
  | tail _ hstep ih =>
    obtain ⟨matter, hmem, hupdate⟩ := hstep
    exact ih.trans (hupdate.saysOf fun heq => hanswer (heq ▸ hmem))

theorem Replies.saysOf {answer? : Option Answer} (h : Replies about session s s' answer?)
    (hanswer : .answer ∉ about) : Says s s' (answer?.map (session, ·)).toList := by
  cases answer? with
  | none => exact Via.saysOf h hanswer
  | some answer =>
    obtain ⟨t, msg, hbefore, hmsg, hafter⟩ := h
    have hsays := ((hbefore.saysOf hanswer).trans (says_send t session msg)).trans
      (hafter.saysOf hanswer)
    rwa [hmsg, List.nil_append, List.append_nil] at hsays

/-! ## Events -/

/-- What a request asks for, with its session. -/
def asks (s : Server F) : Event F → List (SessionId × Answer)
  | .packet session _ request =>
    if session < s.nextSessionId then (request.answer?.map (session, ·)).toList else []
  | _ => []

theorem says_dispatch [Axis F] (s : Server F) (session : SessionId) (nowMs : Int)
    (request : Request F) :
    Says s (s.dispatch session nowMs request) (request.answer?.map (session, ·)).toList := by
  refine (replies_dispatch s session nowMs request).saysOf ?_
  cases request <;> simp

/-- **Each event answers what it asks for.** -/
theorem says_handle [Axis F] (s : Server F) (e : Event F) : Says s (s.handle e) (s.asks e) := by
  cases e with
  | accept nowMs => exact says_of_out_eq rfl
  | packet session nowMs request =>
    rw [handle, asks]
    by_cases hs : session < s.nextSessionId
    · rw [if_pos hs, if_pos hs]
      exact says_dispatch _ _ _ _
    · rw [if_neg hs, if_neg hs]
      exact says_of_out_eq rfl
  | close session =>
    rw [handle]
    split
    · exact (via_close s session).saysOf (by decide)
    · exact says_of_out_eq rfl
  | heartbeatScan nowMs => exact says_of_out_eq rfl
  | tick roomId env => exact (via_tick s roomId env).saysOf (by decide)

/-- What the requests of a run ask for, in the order in which they are handled. -/
def asked [Axis F] : Server F → List (Event F) → List (SessionId × Answer)
  | _, [] => []
  | s, e :: events => s.asks e ++ asked (s.handle e) events

/--
**Answers.**

Over a whole run, whose handlers are called one at a time, the answers that the server has sent are
those that were asked for, each of the kind and to the session of its request, in the order of the
requests, none twice and none missing.
-/
theorem answers_run [Axis F] (s : Server F) (events : List (Event F)) :
    ∃ messages, (s.run events).out = s.out ++ messages ∧ answersOf messages = s.asked events := by
  induction events generalizing s with
  | nil => exact says_of_out_eq rfl
  | cons e events ih => exact (says_handle s e).trans (ih (s.handle e))

end Server
end Game
