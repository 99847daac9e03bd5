import GameServer.Server.Rematch

/-!
# Concurrent matching

Match requests on different workers. `StartMatching` puts the player into the queue first and
writes status and room ids after that, so another worker may have made the room in between. The
late writes then say Matching and room 0 for a player of a live room.

`matching_settled` says when this does not happen. The three room ids are the business of
`Threads.Linked`; here it is completed by the statuses and by what the queued players have
(`StatusInv`).
-/

namespace Game

open Infra

/-! ## Statuses -/

/-- The status of players of new rooms, and what players in the queue have. -/
structure StatusInv (first : RoomId) (l : Links) (a : Ahead) : Prop where
  member : ∀ {r p}, l.places.New first r p → l.status p = .inRoom ∨ a.setsInRoom p
  status : ∀ {p}, p ∈ l.places.queue.queue → l.status p = .matching ∨ a.setsMatching p
  player : ∀ {p}, p ∈ l.places.queue.queue → l.player p = 0 ∨ a.resetsPlayer p
  session : ∀ {p}, p ∈ l.places.queue.queue → l.session p = some 0 ∨ a.resetsSession p

namespace StatusInv

variable {first : RoomId} {l : Links} {a a' : Ahead}

/-- Other threads may get more to do. -/
theorem mono (h : StatusInv first l a) (hinRoom : ∀ p, a.setsInRoom p → a'.setsInRoom p)
    (hmatching : ∀ p, a.setsMatching p → a'.setsMatching p)
    (hplayer : ∀ p, a.resetsPlayer p → a'.resetsPlayer p)
    (hsession : ∀ p, a.resetsSession p → a'.resetsSession p) : StatusInv first l a' where
  member hn := (h.member hn).imp_right (hinRoom _)
  status hq := (h.status hq).imp_right (hmatching _)
  player hq := (h.player hq).imp_right (hplayer _)
  session hq := (h.session hq).imp_right (hsession _)

/-- `Push`; everything else that belongs to a queued player is ahead. -/
theorem push (h : StatusInv first l a) {p : PlayerId} {queue : MatchQueue}
    (hqueue : queue.queue = l.places.queue.queue ++ [p]) :
    StatusInv first { l with places := { l.places with queue := queue } }
      { a with
        setsMatching := fun q => q = p ∨ a.setsMatching q
        resetsPlayer := fun q => q = p ∨ a.resetsPlayer q
        resetsSession := fun q => q = p ∨ a.resetsSession q } := by
  have hmem : ∀ {q}, q ∈ queue.queue → q ∈ l.places.queue.queue ∨ q = p := by
    intro q hq
    rwa [hqueue, List.mem_append, List.mem_singleton] at hq
  refine ⟨h.member, fun hq => ?_, fun hq => ?_, fun hq => ?_⟩
  · exact (hmem hq).elim (fun hq => (h.status hq).imp_right Or.inr) fun he => Or.inr (Or.inl he)
  · exact (hmem hq).elim (fun hq => (h.player hq).imp_right Or.inr) fun he => Or.inr (Or.inl he)
  · exact (hmem hq).elim (fun hq => (h.session hq).imp_right Or.inr) fun he => Or.inr (Or.inl he)

/-- `Player::SetStatus(Matching)` of a player who has no new room. -/
theorem setMatching (h : StatusInv first l a) {p : PlayerId}
    (hnew : ∀ r, ¬ l.places.New first r p) :
    StatusInv first { l with status := Function.update l.status p .matching }
      { a with setsMatching := fun q => a.setsMatching q ∧ q ≠ p } := by
  refine ⟨fun {r q} hn => ?_, fun {q} hq => ?_, h.player, h.session⟩
  · have hne : q ≠ p := by
      rintro rfl
      exact hnew r hn
    dsimp only
    rw [Function.update_of_ne hne]
    exact h.member hn
  · by_cases hqp : q = p
    · subst hqp
      exact Or.inl (Function.update_self ..)
    · dsimp only
      rw [Function.update_of_ne hqp]
      exact (h.status hq).imp_right fun hset => ⟨hset, hqp⟩

/-- `Player::SetRoomId(0)`. -/
theorem resetPlayer (h : StatusInv first l a) (p : PlayerId) :
    StatusInv first { l with player := Function.update l.player p 0 }
      { a with resetsPlayer := fun q => a.resetsPlayer q ∧ q ≠ p } := by
  refine ⟨h.member, h.status, fun {q} hq => ?_, h.session⟩
  by_cases hqp : q = p
  · subst hqp
    exact Or.inl (Function.update_self ..)
  · dsimp only
    rw [Function.update_of_ne hqp]
    exact (h.player hq).imp_right fun hreset => ⟨hreset, hqp⟩

/-- `Session::SetRoomId(0)`. -/
theorem resetSession (h : StatusInv first l a) (p : PlayerId) :
    StatusInv first { l with session := Function.update l.session p (some 0) }
      { a with resetsSession := fun q => a.resetsSession q ∧ q ≠ p } := by
  refine ⟨h.member, h.status, h.player, fun {q} hq => ?_⟩
  by_cases hqp : q = p
  · subst hqp
    exact Or.inl (Function.update_self ..)
  · dsimp only
    rw [Function.update_of_ne hqp]
    exact (h.session hq).imp_right fun hreset => ⟨hreset, hqp⟩

/-- `TryPopN`. -/
theorem pop (h : StatusInv first l a) {queue : MatchQueue}
    (hsub : ∀ p ∈ queue.queue, p ∈ l.places.queue.queue) :
    StatusInv first { l with places := { l.places with queue := queue } } a where
  member := h.member
  status hq := h.status (hsub _ hq)
  player hq := h.player (hsub _ hq)
  session hq := h.session (hsub _ hq)

/-- `CreateRoom` for players who are not in the queue any more. -/
theorem create (h : StatusInv first l a) (hl : LinkInv first l a) {players : List PlayerId}
    {map : PlayerId → Option RoomId} {session : PlayerId → Option RoomId}
    (hqueue : ∀ p ∈ players, p ∉ l.places.queue.queue)
    (hsession : ∀ p, p ∉ players → session p = l.session p) :
    StatusInv first
      { l with places := l.places.form players l.places.queue, map := map, session := session }
      { a with setsInRoom := fun p => p ∈ players ∨ a.setsInRoom p } := by
  refine ⟨fun hn => ?_, h.status, h.player, fun {p} hq => ?_⟩
  · rcases (Places.new_form hl.rooms_lt hl.first_le).mp hn with ⟨-, hp⟩ | hn
    · exact Or.inr (Or.inl hp)
    · exact (h.member hn).imp_right Or.inr
  · have hp : p ∉ players := fun hp => hqueue p hp hq
    dsimp only
    rw [hsession p hp]
    exact h.session hq

/-- `Player::SetStatus(InRoom)` of a player who is not in the queue any more. -/
theorem setInRoom (h : StatusInv first l a) {p : PlayerId} (hqueue : p ∉ l.places.queue.queue) :
    StatusInv first { l with status := Function.update l.status p .inRoom }
      { a with setsInRoom := fun q => a.setsInRoom q ∧ q ≠ p } := by
  refine ⟨fun {r q} hn => ?_, fun {q} hq => ?_, h.player, h.session⟩
  · by_cases hqp : q = p
    · subst hqp
      exact Or.inl (Function.update_self ..)
    · dsimp only
      rw [Function.update_of_ne hqp]
      exact (h.member hn).imp_right fun hset => ⟨hset, hqp⟩
  · have hqp : q ≠ p := by
      rintro rfl
      exact hqueue hq
    dsimp only
    rw [Function.update_of_ne hqp]
    exact h.status hq

/-- `Player::SetRoomId` of a player who is not in the queue any more. -/
theorem join (h : StatusInv first l a) {p : PlayerId} (hqueue : p ∉ l.places.queue.queue)
    (r : RoomId) : StatusInv first { l with player := Function.update l.player p r } a := by
  refine ⟨h.member, h.status, fun {q} hq => ?_, h.session⟩
  have hqp : q ≠ p := by
    rintro rfl
    exact hqueue hq
  dsimp only
  rw [Function.update_of_ne hqp]
  exact h.player hq

end StatusInv

variable {F : Type}

/-- **A step of `StartMatching` in time keeps the statuses.** -/
theorem MatchPc.statuses_next {first : RoomId} {s : Server F} {pc : MatchPc} {o : Ahead}
    (hdistinct : s.SessionsDistinct) (hserves : pc.Serves s.connectionManager)
    (hl : LinkInv first s.links (pc.ahead.or o)) (h : StatusInv first s.links (pc.ahead.or o)) :
    StatusInv first (pc.next s).1.links ((aheadAfter (pc.next s).2).or o) := by
  cases pc with
  | push p session =>
    rw [MatchPc.next]
    split
    · exact h
    · dsimp only
      cases hpush : (s.matchQueue.push p).1 with
      | false =>
        rw [if_neg (by simp), MatchQueue.push_of_false hpush]
        exact h
      | true =>
        rw [if_pos rfl]
        refine (h.push (MatchQueue.queue_push hpush)).mono ?_ ?_ ?_ ?_ <;>
          simp [Ahead.or, Ahead.none, ahead, aheadAfter]
  | contains p session =>
    rw [MatchPc.next]
    dsimp only
    split
    · refine h.mono ?_ ?_ ?_ ?_ <;> simp +contextual [Ahead.or, Ahead.none, ahead, aheadAfter]
    · exact h
  | setStatus p session pushed =>
    rw [MatchPc.next]
    dsimp only
    rw [Server.links_setPlayerStatus]
    -- The session of `p` is still to be reset, so `p` is in no new room.
    have hnew : ∀ r, ¬ s.links.places.New first r p := fun r hn => hl.not_reset hn (Or.inl rfl)
    refine (h.setMatching hnew).mono ?_ ?_ ?_ ?_ <;>
      simp +contextual [Ahead.or, Ahead.none, ahead, aheadAfter]
  | setPlayerRoom p session pushed =>
    rw [MatchPc.next]
    dsimp only
    rw [Server.links_setPlayerRoomId]
    refine (h.resetPlayer p).mono ?_ ?_ ?_ ?_ <;>
      simp +contextual [Ahead.or, Ahead.none, ahead, aheadAfter]
  | setSessionRoom p session pushed =>
    rw [MatchPc.next]
    dsimp only
    rw [Server.links_setSessionRoomId hdistinct hserves]
    refine (h.resetSession p).mono ?_ ?_ ?_ ?_ <;>
      simp +contextual [Ahead.or, Ahead.none, ahead, aheadAfter]
  | reply session pushed =>
    rw [MatchPc.next]
    split <;> exact h
  | tryPop =>
    have hsub : ∀ p ∈ (s.matchQueue.tryPopN s.needCount).2.queue, p ∈ s.matchQueue.queue := by
      intro p hp
      rw [← s.matchQueue.tryPopN_append s.needCount]
      exact List.mem_append_right _ hp
    have hpop := h.pop hsub
    rw [MatchPc.next]
    dsimp only
    split
    · exact hpop
    · exact hpop.mono (fun _ h => h) (fun _ h => h) (fun _ h => h) (fun _ h => h)
  | createRoom players =>
    rw [MatchPc.next]
    dsimp only
    rw [Server.links_createRoom hdistinct hserves]
    -- The popped players are out of the queue, where the status is `Matching`.
    have hqueue : ∀ p ∈ players, p ∉ s.links.places.queue.queue :=
      fun p hp => (hl.held (Or.inl hp)).1
    refine (h.create hl hqueue fun p hp => if_neg hp).mono ?_ ?_ ?_ ?_ <;>
      simp [Ahead.or, Ahead.none, ahead, aheadAfter]
  | joinStatus r players todo =>
    cases todo with
    | nil => refine h.mono ?_ ?_ ?_ ?_ <;> simp [Ahead.or, Ahead.none, ahead, aheadAfter, next]
    | cons p todo =>
      have hqueue : p ∉ s.links.places.queue.queue :=
        hl.not_queued (hl.joins (Or.inl ⟨rfl, List.mem_cons_self⟩))
      rw [MatchPc.next]
      dsimp only
      rw [Server.links_setPlayerStatus]
      refine (h.setInRoom hqueue).mono ?_ ?_ ?_ ?_ <;>
        simp +contextual [Ahead.or, Ahead.none, ahead, aheadAfter, or_imp, or_and_right]
  | joinRoom r players p todo =>
    have hqueue : p ∉ s.links.places.queue.queue :=
      hl.not_queued (hl.joins (Or.inl ⟨rfl, List.mem_cons_self⟩))
    rw [MatchPc.next]
    dsimp only
    rw [Server.links_setPlayerRoomId]
    exact (h.join hqueue r).mono (fun _ h => h) (fun _ h => h) (fun _ h => h) (fun _ h => h)
  | joinNotify r players p todo =>
    rw [MatchPc.next]
    dsimp only
    split <;> exact h

/-! ## The threads -/

variable {ι : Type} [DecidableEq ι]

/-- `CreateRoom` runs for players whose `StartMatching` has finished its resets, and nobody joins
the queue who is in a new room or about to get one. -/
def Threads.MatchesInTime (first : RoomId) (c : Threads ι F) (e : ι × LoopChoice) : Prop :=
  (∀ p session rest, c.threads e.1 = .handler (.matching (.push p session) rest) →
    p ∈ c.shared.matchQueue.queue ∨
      (∀ r, ¬ c.shared.places.New first r p) ∧ ¬ (c.others [] e.1).holds p) ∧
  ∀ players rest, c.threads e.1 = .handler (.matching (.createRoom players) rest) →
    ∀ p ∈ players, ¬ (c.others [] e.1).resetsSession p

omit [DecidableEq ι] in
/-- Without the end of a tick callback nothing is erased, and sessions are reset last. -/
theorem Thread.Serves.handler {s : Server F} {t : Thread F} (h : t.Serves s none)
    {p : PlayerId} : ¬ (t.ahead []).erases p ∧
      ((t.ahead []).resetsPlayer p → (t.ahead []).resetsSession p) := by
  cases t with
  | handler pc =>
    cases pc with
    | matching pc rest => cases pc <;> simp [ahead, MatchPc.ahead, Ahead.none]
    | _ => simp [ahead, Ahead.none]
  | loop pc => exact h.elim
  | tail pc =>
    cases pc with
    | none => simp [ahead, Ahead.none]
    | some pc => simp [Serves] at h

omit [DecidableEq ι] in
theorem Threads.MatchesInTime.inTime {first : RoomId} {c : Threads ι F} {e : ι × LoopChoice}
    (hc : c.Linked first none []) (h : c.MatchesInTime first e) : c.InTime first [] e := by
  have hplayer : ∀ {p}, (c.others [] e.1).resetsPlayer p → (c.ahead []).resetsSession p := by
    rintro p ⟨j, -, hj⟩
    exact ⟨j, trivial, (hc.serves j).handler.2 hj⟩
  intro pc rest hpc
  cases pc with
  | push p session => exact h.1 p session rest hpc
  | createRoom players =>
    refine fun p hp => ⟨?_, h.2 players rest hpc p hp⟩
    rintro ⟨j, -, hj⟩
    exact (hc.serves j).handler.1 hj
  | joinRoom r players p todo =>
    -- the player is in the new room, so its session will not be reset any more
    have hjoins : (c.ahead []).joins r p := by
      rw [c.ahead_eq [] e.1, hpc]
      exact Or.inl ⟨rfl, List.mem_cons_self⟩
    exact fun hreset => hc.links.not_reset (hc.links.joins hjoins) (hplayer hreset)
  | _ => trivial

omit [DecidableEq ι] in
/-- A request that runs alone is in time. -/
theorem Threads.Alone.matchesInTime {first : RoomId} {c : Threads ι F} {e : ι × LoopChoice}
    (h : c.Alone first e) : c.MatchesInTime first e := by
  have htime := h.inTime []
  exact ⟨fun p session rest hpc => htime _ rest hpc,
    fun players rest hpc p hp => (htime _ rest hpc p hp).2⟩

/-- Match requests on a server where every player of a new room has the room and the status
InRoom, and every queued player the status Matching and room 0. -/
structure Threads.Matching (first : RoomId) (c : Threads ι F) : Prop where
  linked : c.Linked first none []
  statuses : StatusInv first c.shared.links (c.ahead [])

variable [Axis F]

/-- **A step in time keeps all that.** -/
theorem Threads.Matching.step {first : RoomId} {c : Threads ι F} (h : c.Matching first)
    {e : ι × LoopChoice} (htime : c.MatchesInTime first e) : (c.step e).Matching first := by
  refine ⟨h.linked.step (htime.inTime h.linked), ?_⟩
  have hlinks := h.linked.links
  have hstatuses := h.statuses
  have hserves := h.linked.serves e.1
  rw [c.ahead_eq [] e.1] at hlinks hstatuses
  rw [Threads.ahead_eq [] _ e.1, c.others_step [] e, Sys.step_threads_self, Sys.step_shared]
  generalize c.threads e.1 = t at *
  cases t with
  | handler pc =>
    cases pc with
    | done => exact hstatuses
    | handleMatch session requested =>
      rw [Thread.next, HandlerPc.next]
      dsimp only
      split <;> exact hstatuses
    | matching pc rest =>
      have hafter : (Thread.matched rest (pc.next c.shared).2 : Thread F).ahead [] =
          MatchPc.aheadAfter (pc.next c.shared).2 := by
        cases (pc.next c.shared).2 <;> rfl
      rw [Thread.next_matching, hafter]
      exact MatchPc.statuses_next h.linked.distinct hserves.2 hlinks hstatuses
    | requeue rest =>
      obtain rfl : rest = [] := hserves
      exact hstatuses
    | _ => exact hserves.elim
  | loop pc => exact hserves.elim
  | tail pc =>
    cases pc with
    | none => exact hstatuses
    | some pc => simp [Thread.Serves] at hserves

/-! ## The result -/

/-- The start: match requests of players for themselves that have not begun; whoever is in the
queue already has all that belongs to it. -/
structure Threads.Requesting (c : Threads ι F) : Prop where
  request : ∀ i, (∃ session requested, c.threads i = .handler (.handleMatch session requested) ∧
    c.shared.connectionManager.getByPlayerId (c.shared.actingPlayer session requested) =
      some session) ∨ c.threads i = .handler .done
  distinct : c.shared.SessionsDistinct
  rooms_lt : ∀ r ∈ c.shared.roomManager.rooms, r < c.shared.nextRoomId
  queued : ∀ p ∈ c.shared.matchQueue.queue, c.shared.playerStatus p = .matching ∧
    c.shared.playerRoomId p = 0 ∧ c.shared.sessionRoomId p = some 0

/-- Every player of a room from `first` on has the room and the status InRoom, every player in the
queue has room 0 and the status Matching. -/
structure Server.MatchedFrom (first : RoomId) (s : Server F) : Prop where
  linked : s.LinkedFrom first
  inRoom : ∀ r ∈ s.roomManager.rooms, first ≤ r → ∀ p ∈ (s.roomHeap r).playerIds,
    s.playerStatus p = .inRoom
  queued : ∀ p ∈ s.matchQueue.queue, s.playerStatus p = .matching ∧ s.playerRoomId p = 0 ∧
    s.sessionRoomId p = some 0

omit [DecidableEq ι] [Axis F] in
theorem Threads.Requesting.matching {c : Threads ι F} (hc : c.Requesting) :
    c.Matching c.shared.nextRoomId := by
  have hnew : ∀ {r p}, ¬ c.shared.links.places.New c.shared.nextRoomId r p :=
    fun hn => Int.lt_irrefl _ (Int.lt_of_lt_of_le (hc.rooms_lt _ hn.1) hn.2.1)
  have hahead : ∀ i, (c.threads i).ahead [] = Ahead.none := by
    intro i
    rcases hc.request i with ⟨session, requested, hi, -⟩ | hi <;> rw [hi] <;> rfl
  have hholds : ∀ i p, ¬ ((c.threads i).ahead []).holds p := by
    intro i p
    rw [hahead i]
    exact id
  have hjoins : ∀ i r p, ¬ ((c.threads i).ahead []).joins r p := by
    intro i r p
    rw [hahead i]
    exact id
  have honline : ∀ p ∈ c.shared.matchQueue.queue, c.shared.sessionRoomId p ≠ none := by
    intro p hp
    rw [(hc.queued p hp).2.2]
    simp
  constructor
  · exact {
      distinct := hc.distinct
      serves := by
        intro i
        rcases hc.request i with ⟨session, requested, hi, hserves⟩ | hi
        · rw [hi]; exact hserves
        · rw [hi]; trivial
      links := by
        refine LinkInv.start (l := c.shared.links) hc.rooms_lt honline ?_ ?_
        · rintro p ⟨i, hi⟩
          exact hholds i p hi.2
        · rintro r p ⟨i, hi⟩
          exact hjoins i r p hi.2
      holders := fun i _ p hi _ => absurd hi (hholds i p)
      ended_lt := fun r hr => by simp at hr
      members := fun r hr => by simp at hr }
  · exact {
      member := fun hn => absurd hn hnew
      status := fun hq => Or.inl (hc.queued _ hq).1
      player := fun hq => Or.inl (hc.queued _ hq).2.1
      session := fun hq => Or.inl (hc.queued _ hq).2.2 }

omit [DecidableEq ι] [Axis F] in
/-- When nothing is ahead any more, everything is right. -/
theorem Threads.Matching.matchedFrom {first : RoomId} {c : Threads ι F} (h : c.Matching first)
    (hdone : ∀ i, (c.threads i).isDone = true) : c.shared.MatchedFrom first := by
  have hnone : ∀ {P : Ahead → Prop}, ¬ P Ahead.none →
      ¬ ∃ i, True ∧ P ((c.threads i).ahead []) := by
    rintro P hP ⟨i, -, hi⟩
    rw [Thread.ahead_of_isDone (hdone i)] at hi
    exact hP hi
  constructor
  · exact h.linked.linkedFrom hdone
  · intro r hr hfirst p hp
    exact (h.statuses.member ⟨hr, hfirst, hp⟩).resolve_right (hnone (P := (·.setsInRoom p)) id)
  · intro p hp
    exact ⟨(h.statuses.status hp).resolve_right (hnone (P := (·.setsMatching p)) id),
      (h.statuses.player hp).resolve_right (hnone (P := (·.resetsPlayer p)) id),
      (h.statuses.session hp).resolve_right (hnone (P := (·.resetsSession p)) id)⟩

/--
**Concurrent matching.**

Match requests in any number and any interleaving. When all of them are done, every player of a
new room has the room in all three places and the status InRoom, and every queued player has room 0
and the status Matching, provided that

* a room is created for players whose requests have finished their resets, and
* nobody joins the queue who is in a new room or about to get one.
-/
theorem Threads.matching_settled {c : Threads ι F} (hc : c.Requesting)
    (events : List (ι × LoopChoice))
    (hdone : ∀ i, ((events.foldl step c).threads i).isDone = true)
    (htime : AllSteps step (MatchesInTime c.shared.nextRoomId) c events) :
    (events.foldl step c).shared.MatchedFrom c.shared.nextRoomId :=
  (AllStates.of_allSteps (fun _ _ h => h.step) events hc.matching htime).last.matchedFrom hdone

/-! ## A late write -/

/-- A player who is online and neither in the queue nor in a room. -/
def Server.Idle (s : Server F) (p : PlayerId) : Prop :=
  p ∉ s.matchQueue.queue ∧ s.roomManager.playerRoomMap p = none ∧ s.playerStatus p = .online ∧
    s.playerRoomId p = 0 ∧ s.sessionRoomId p = some 0

/-- Two players who have logged in. -/
def loggedIn : Server Coord :=
  (Server.init 2).run [.accept 0, .accept 0,
    .packet 1 0 (.login ⟨"player_100000", 1000⟩ (some "a")),
    .packet 2 0 (.login ⟨"player_100001", 1000⟩ (some "b"))]

/-- Both ask for a match. -/
def bothMatch : Threads Bool Coord where
  shared := loggedIn
  threads i := if i then .handler (.handleMatch 2 0) else .handler (.handleMatch 1 0)

/-- The first worker stops after its `Push`; the second one makes the room. -/
def lateWrite : List (Bool × LoopChoice) :=
  turns false 2 ++ turns true 17 ++ turns false 6

/-- One request after the other. -/
def oneByOne : List (Bool × LoopChoice) :=
  turns false 8 ++ turns true 17

theorem loggedIn_distinct : loggedIn.SessionsDistinct := by
  have hsessions : loggedIn.connectionManager.playerSessions =
    Function.update (Function.update (fun _ => none) 100000 (some 1)) 100001 (some 2) := rfl
  intro p q session hp hq
  unfold ConnectionManager.getByPlayerId at hp hq
  rw [hsessions] at hp hq
  simp only [Function.update_apply] at hp hq
  grind

theorem bothMatch_requesting : bothMatch.Requesting where
  request i := by
    cases i with
    | false => exact Or.inl ⟨1, 0, rfl, by decide⟩
    | true => exact Or.inl ⟨2, 0, rfl, by decide⟩
  distinct := loggedIn_distinct
  rooms_lt := by decide
  queued := by decide

theorem lateWrite_done (i : Bool) :
    ((lateWrite.foldl Threads.step bothMatch).threads i).isDone = true := by
  revert i
  decide

theorem lateWrite_not_matched :
    ¬ (lateWrite.foldl Threads.step bothMatch).shared.MatchedFrom 1000 := by
  intro h
  have hsession := (h.linked 1000 (by decide) (by decide) 100000 (by decide)).2.1
  exact absurd hsession (by decide)

theorem oneByOne_done (i : Bool) :
    ((oneByOne.foldl Threads.step bothMatch).threads i).isDone = true := by
  revert i
  decide

theorem oneByOne_alone : AllSteps Threads.step (Threads.Alone 1000) bothMatch oneByOne := by
  decide

theorem matching_settled_oneByOne :
    (oneByOne.foldl Threads.step bothMatch).shared.MatchedFrom 1000 :=
  Threads.matching_settled bothMatch_requesting oneByOne oneByOne_done
    (AllSteps.imp (fun _ _ h => h.matchesInTime) oneByOne oneByOne_alone)

theorem bothMatch_idle (i : Bool) (session : SessionId) (requested : PlayerId)
    (hi : bothMatch.threads i = .handler (.handleMatch session requested)) :
    bothMatch.shared.Idle (bothMatch.shared.actingPlayer session requested) := by
  cases i with
  | false =>
    cases hi
    exact ⟨by decide, by decide, by decide, by decide, by decide⟩
  | true =>
    cases hi
    exact ⟨by decide, by decide, by decide, by decide, by decide⟩

/-- Not every interleaving of the match requests of idle players leaves them at their room. -/
theorem matching_counterexample :
    ¬ ∀ (c : Threads Bool Coord) (events : List (Bool × LoopChoice)), c.Requesting →
      (∀ i session requested, c.threads i = .handler (.handleMatch session requested) →
        c.shared.Idle (c.shared.actingPlayer session requested)) →
      (∀ i, ((events.foldl Threads.step c).threads i).isDone = true) →
      (events.foldl Threads.step c).shared.MatchedFrom c.shared.nextRoomId := fun h =>
  lateWrite_not_matched (h bothMatch lateWrite bothMatch_requesting bothMatch_idle lateWrite_done)

end Game
