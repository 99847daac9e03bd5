import GameServer.Server.Places

/-!
# Exclusive placement

`StartMatching` looks for the player in the queue but not in the rooms. A player who asks for a
match while in a room is therefore in two places afterwards, and this is the only way to get there.

## The argument

* All the other events keep everybody in at most one place (`placed_handle`): the only players who
  are put into the queue by them are those of a room that has just been removed, and while they
  are requeued one by one the rest of them is nowhere.
* A match request of a player in a live room leaves the player in that room and in the queue, or
  in that room and in a new one (`Doubled`).
-/

namespace Game

open Infra

namespace Server

variable {F : Type}

/-! ## Matching -/

/-- A player who is nowhere may ask for a match. -/
theorem placed_startMatching {s : Server F} {loose : List PlayerId} {p : PlayerId}
    (h : s.places.Placed loose) (hloose : p ∉ loose) (hroom : ¬ s.places.InRoom p)
    (session : SessionId) (message : String) :
    (s.startMatching p session message).2.places.Placed loose :=
  startMatching_rule (fun h hqueue => h.congr_queue hqueue) (fun h hsplit => h.form hsplit)
    (fun _ => h) (fun hpush => h.push hloose hroom hpush) session message

/-- Requeueing players who are nowhere, one by one. -/
theorem placed_requeuePlayers : ∀ (players : List PlayerId) {s : Server F},
    s.places.Placed players → (players.foldl requeuePlayer s).places.Placed []
  | [], _, h => h
  | p :: players, s, h => by
    refine placed_requeuePlayers players ?_
    have hp : p ∉ players := (List.nodup_cons.mp h.loose_nodup).1
    have hroom : ¬ s.places.InRoom p := h.loose_room p List.mem_cons_self
    have hrest : s.places.Placed players := h.mono (List.sublist_cons_self p players)
    unfold requeuePlayer
    split
    · exact placed_startMatching hrest hp hroom _ _
    · exact hrest

/-! ## The events that are not match requests -/

theorem placed_removeRoom {s : Server F} (h : s.places.Placed []) {roomId : RoomId}
    (hroom : roomId ∈ s.roomManager.rooms) :
    (s.removeRoom roomId).places.Placed (s.roomHeap roomId).playerIds := by
  rw [places_removeRoom]
  exact h.dissolve hroom (s.roomHeap roomId).players.keys_nodup

theorem places_handleCancelMatch (s : Server F) (session : SessionId) (requested : PlayerId) :
    (s.handleCancelMatch session (some requested)).places =
      { s.places with
        queue := (s.matchQueue.remove (s.actingPlayer session requested)).2 } := by
  rw [handleCancelMatch]
  split
  next removed queue hremove =>
  rw [hremove]
  dsimp only
  split <;> rfl

theorem placed_cancel {s : Server F} (h : s.places.Placed []) (session : SessionId)
    (request : Option PlayerId) : (s.handleCancelMatch session request).places.Placed [] := by
  match request with
  | none => exact h
  | some requested =>
    rw [places_handleCancelMatch]
    exact Places.Placed.remove h _

theorem placed_handleLeaveRoom {s : Server F} (h : s.places.Placed []) (session : SessionId)
    (request : Option RoomId) : (s.handleLeaveRoom session request).places.Placed [] := by
  unfold handleLeaveRoom
  split
  · exact h
  · split
    · exact h
    · next roomId hroom =>
      have hmem := getPlayerRoom_mem hroom
      split
      · exact h
      · split
        · -- the others of the room are requeued after it has been removed
          refine placed_requeuePlayers _ (Places.Placed.mono ?_ List.filter_sublist)
          exact placed_removeRoom (s := (s.broadcast _ _).send _ _) h hmem
        · unfold handleLeavePlaying
          split <;> exact h
        · exact h

theorem places_settle (s : Server F) (roomId : RoomId) (state : GameState F) (winnerId : PlayerId)
    (env : TickEnv) :
    (s.settle roomId state winnerId env).places = s.places ∨
      (s.settle roomId state winnerId env).places = s.places.dissolve roomId := by
  have hsettlement : (s.updateRoom roomId Room.setSettlement).places = s.places :=
    places_updateRoom s roomId (Room.playerIds_setSettlement _)
  unfold settle
  dsimp only
  split
  · exact Or.inl hsettlement
  · split
    · exact Or.inl hsettlement
    · rw [finishBattle, places_removeRoom, places_updateRoom _ roomId (Room.playerIds_close _),
        places_broadcast, places_setPending, places_setPending, hsettlement]
      exact Or.inr rfl

/-- A tick leaves everybody where they are, or ends the room. -/
theorem places_tick [Axis F] (s : Server F) (roomId : RoomId) (env : TickEnv) :
    (s.tick roomId env).places = s.places ∨
      (s.tick roomId env).places = s.places.dissolve roomId := by
  have hgame : ∀ {r r'}, s.getGame r = some r' → r' = r := by
    intro r r' h
    unfold getGame at h
    split at h
    · exact (Option.some.inj h).symm
    · simp at h
  unfold tick
  split
  · exact Or.inl rfl
  · next r hr =>
    obtain rfl := hgame hr
    dsimp only
    unfold tickCallback
    split
    · exact Or.inl rfl
    · next r' hr' =>
      obtain rfl := (getRoom_eq_some hr').1
      dsimp only
      split
      · exact Or.inl rfl
      · exact places_settle ((s.updateGame _ _).broadcast _ _) _ _ _ _

theorem placed_tick [Axis F] {s : Server F} (h : s.places.Placed []) (roomId : RoomId)
    (env : TickEnv) : (s.tick roomId env).places.Placed [] := by
  rcases places_tick s roomId env with htick | htick
  · rwa [htick]
  · rw [htick]
    exact h.erase (s.roomHeap roomId).players.keys_nodup

/-! ## A match request of a player in a room -/

/-- `p` is in the live room `r` and in a second place. -/
structure Doubled (w : Places) (p : PlayerId) (r : RoomId) : Prop where
  live : r ∈ w.rooms
  member : p ∈ w.members r
  old : r < w.nextRoomId
  second : p ∈ w.queue.queue ∨ ∃ r' ∈ w.rooms, r' ≠ r ∧ r' < w.nextRoomId ∧ p ∈ w.members r'

theorem Doubled.not_exclusive {w : Places} {p : PlayerId} {r : RoomId} (h : Doubled w p r) :
    ¬ w.Exclusive := by
  intro hex
  rcases h.second with hq | ⟨r', hr', hne, -, hp⟩
  · exact hex.queue_or_room p hq ⟨r, h.live, h.member⟩
  · exact hne (hex.one_room p r' hr' r h.live hp h.member)

/-- Forming a room does not free a player from one of the two places. -/
theorem Doubled.form {w : Places} {p : PlayerId} {r : RoomId} (h : Doubled w p r)
    {players : List PlayerId} {queue : MatchQueue}
    (hsplit : players ++ queue.queue = w.queue.queue) : Doubled (w.form players queue) p r := by
  have hr : r ≠ w.nextRoomId := Int.ne_of_lt h.old
  refine ⟨Finset.mem_insert_of_mem h.live, ?_, Int.lt_trans h.old (Int.lt_succ _), ?_⟩
  · rw [Places.members_form_of_ne hr]
    exact h.member
  · rcases h.second with hq | ⟨r', hr', hne, hold, hp⟩
    · rw [← hsplit, List.mem_append] at hq
      rcases hq with hq | hq
      · refine Or.inr ⟨w.nextRoomId, Finset.mem_insert_self _ _, hr.symm, Int.lt_succ _, ?_⟩
        rwa [Places.members_form_self]
      · exact Or.inl hq
    · refine Or.inr ⟨r', Finset.mem_insert_of_mem hr', hne, Int.lt_trans hold (Int.lt_succ _), ?_⟩
      rwa [Places.members_form_of_ne (Int.ne_of_lt hold)]

theorem Doubled.congr_queue {w : Places} {p : PlayerId} {r : RoomId} (h : Doubled w p r)
    {queue : MatchQueue} (hqueue : queue.queue = w.queue.queue) :
    Doubled { w with queue := queue } p r where
  live := h.live
  member := h.member
  old := h.old
  second := h.second.imp_left fun hq => by
    show p ∈ queue.queue
    rwa [hqueue]

/-- **The request puts the player in a second place.** -/
theorem doubled_startMatching {s : Server F} (h : s.places.Placed []) {p : PlayerId} {r : RoomId}
    (hlive : r ∈ s.places.rooms) (hmember : p ∈ s.places.members r) (session : SessionId)
    (message : String) : Doubled (s.startMatching p session message).2.places p r := by
  have hzero : p ≠ 0 := by
    rintro rfl
    exact h.zero ⟨r, hlive, hmember⟩
  have hnot : p ∉ s.matchQueue.queue := fun hq => h.queue_or_room p hq ⟨r, hlive, hmember⟩
  have hpush : (s.matchQueue.push p).1 = true := MatchQueue.push_eq_true_iff.mpr ⟨hzero, hnot⟩
  refine startMatching_rule (P := fun w => Doubled w p r) (fun h hqueue => h.congr_queue hqueue)
    (fun h hsplit => h.form hsplit) (fun hfalse => ?_) (fun _ => ?_) session message
  · rw [hpush] at hfalse
    simp at hfalse
  · refine ⟨hlive, hmember, h.fresh r hlive, Or.inl ?_⟩
    show p ∈ (s.matchQueue.push p).2.queue
    rw [MatchQueue.queue_push hpush]
    exact List.mem_append_right _ (List.mem_singleton_self p)

/-! ## The result -/

variable [Axis F]

/-- A match request for a player who is in a live room. -/
def Rematches (s : Server F) : Event F → Prop
  | .packet session _ (.match (some requested)) =>
    session < s.nextSessionId ∧ s.places.InRoom (s.actingPlayer session requested)
  | _ => False

/-- **One event keeps everybody placed**, unless it is a match request from a room. -/
theorem placed_handle (s : Server F) (e : Event F) (h : s.places.Placed [])
    (he : ¬ Rematches s e) : (s.handle e).places.Placed [] := by
  cases e with
  | accept nowMs => exact h
  | heartbeatScan nowMs => exact h
  | tick roomId env => exact placed_tick h roomId env
  | close session =>
    rw [handle]
    split
    · rwa [(via_close s session).places (by decide) (by decide)]
    · exact h
  | packet session nowMs request =>
    rw [handle]
    split
    · next hsession =>
      match request with
      | .match none => exact h
      | .match (some requested) =>
        have hroom : ¬ s.places.InRoom (s.actingPlayer session requested) :=
          fun hin => he ⟨hsession, hin⟩
        rw [dispatch, places_handleMatch]
        exact placed_startMatching h List.not_mem_nil hroom session "matching"
      | .cancelMatch request => exact placed_cancel h session request
      | .leaveRoom request => exact placed_handleLeaveRoom h session request
      | .login _ _ | .heartbeat | .reconnect _ | .ready _ | .input _ =>
        exact (congrArg (Places.Placed []) (places_dispatch s session nowMs
          (by simp) (by simp))).mpr h
    · exact h

/-- A match request from a room breaks the placement. -/
theorem not_exclusive_of_rematches (s : Server F) (e : Event F) (h : s.places.Placed [])
    (hex : (s.handle e).places.Exclusive) : ¬ Rematches s e := by
  intro he
  match e, he with
  | .packet session nowMs (.match (some requested)), ⟨hsession, r, hlive, hmember⟩ =>
    refine absurd hex (Doubled.not_exclusive (p := s.actingPlayer session requested) (r := r) ?_)
    rw [handle, if_pos hsession, dispatch, places_handleMatch]
    exact doubled_startMatching h hlive hmember session "matching"

omit [Axis F] in
theorem placed_init (n : Int) : (init n : Server F).places.Placed [] where
  queue_or_room p hp := by simp [places, init, MatchQueue.empty] at hp
  one_room p r₁ hr₁ := by simp [places, init] at hr₁
  loose_nodup := List.nodup_nil
  loose_queue p hp := by simp at hp
  loose_room p hp := by simp at hp
  fresh r hr := by simp [places, init] at hr
  zero := by
    rintro ⟨r, hr, -⟩
    simp [places, init] at hr

/--
**Exclusive placement.**

In every state of a run each player is in at most one place, if and only if no match request of
the run is for a player who is in a live room.
-/
theorem exclusive_iff (n : Int) (events : List (Event F)) :
    AllStates handle (fun s => s.places.Exclusive) (init n) events ↔
      AllSteps handle (fun s e => ¬ Rematches s e) (init n) events :=
  allStates_iff_allSteps (I := fun s => s.places.Placed []) (fun _ h => h.toExclusive)
    placed_handle not_exclusive_of_rematches events (placed_init n)

/-- Two players are matched, and the first of them asks for another match. -/
theorem exclusive_counterexample :
    ¬ ∀ (n : Int) (events : List (Event Coord)),
      AllStates handle (fun s => s.places.Exclusive) (init n) events := by
  intro h
  have hlast := (h 2 [.accept 0, .accept 0,
    .packet 1 0 (.login ⟨"player_100000", 1000⟩ (some "a")),
    .packet 2 0 (.login ⟨"player_100001", 1000⟩ (some "b")),
    .packet 1 0 (.match (some 0)), .packet 2 0 (.match (some 0)),
    .packet 1 0 (.match (some 0))]).last
  exact hlast.queue_or_room 100000 (by decide) ⟨1000, by decide, by decide⟩

end Server
end Game
