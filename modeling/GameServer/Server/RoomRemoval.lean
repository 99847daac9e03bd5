import GameServer.Server.Induction
import GameServer.Server.Links

/-!
# Removing a room

`RemoveRoom` walks the player list of the room, not the map. A player that surrendered is told that
it has left, but stays in that list until the battle is settled; what such a player does in
between is undone when the room goes.
-/

namespace Game

open Infra

/-! ## Map entries -/

namespace Server

variable {F : Type}

/-- Room ids are handed out once, and an entry of the map leads to a room with the player in it. -/
structure Mapped (s : Server F) : Prop where
  rooms : ∀ r ∈ s.roomManager.rooms, r < s.nextRoomId
  entries : ∀ p r, s.roomManager.playerRoomMap p = some r →
    r ∈ s.roomManager.rooms ∧ p ∈ (s.roomHeap r).playerIds

theorem map_enterRooms (roomId : RoomId) : ∀ (players : List PlayerId) (s : Server F)
    (q : PlayerId), (players.foldl (enterRoom roomId) s).roomManager.playerRoomMap q =
      if q ∈ players then some roomId else s.roomManager.playerRoomMap q
  | [], s, q => by simp
  | p :: players, s, q => by
    have henter : (enterRoom roomId s p).roomManager.playerRoomMap =
        Function.update s.roomManager.playerRoomMap p (some roomId) := by
      unfold enterRoom
      dsimp only
      split <;> rfl
    rw [List.foldl_cons, map_enterRooms roomId players, henter, Function.update_apply]
    by_cases hq : q = p
    · simp [hq]
    · simp [hq]

theorem Mapped.createRoom {s : Server F} (h : s.Mapped) {players : List PlayerId}
    (hnd : players.Nodup) : (s.createRoom players).2.Mapped := by
  have hplaces := s.places_createRoom hnd
  have hrooms : (s.createRoom players).2.roomManager.rooms =
      insert s.nextRoomId s.roomManager.rooms := congrArg Places.rooms hplaces
  have hnext : (s.createRoom players).2.nextRoomId = s.nextRoomId + 1 :=
    congrArg Places.nextRoomId hplaces
  have hmembers : ∀ r, ((s.createRoom players).2.roomHeap r).playerIds =
      (s.places.form players s.matchQueue).members r := fun r =>
    congrFun (congrArg Places.members hplaces) r
  constructor
  · intro r hr
    rw [hrooms, Finset.mem_insert] at hr
    rw [hnext]
    rcases hr with rfl | hr
    · exact Int.lt_add_one_of_le le_rfl
    · exact (h.rooms r hr).trans (Int.lt_add_one_of_le le_rfl)
  · intro p r hp
    rw [Server.createRoom, map_enterRooms] at hp
    rw [hrooms, Finset.mem_insert, hmembers]
    split at hp
    · next hmem =>
      cases hp
      refine ⟨Or.inl rfl, ?_⟩
      rw [show s.nextRoomId = s.places.nextRoomId from rfl, Places.members_form_self]
      exact hmem
    · obtain ⟨hr, hmem⟩ := h.entries p r hp
      have hne : r ≠ s.places.nextRoomId := ne_of_lt (h.rooms r hr)
      rw [Places.members_form_of_ne hne]
      exact ⟨Or.inr hr, hmem⟩

theorem mem_eraseRoom (s : Server F) (r : RoomId) (p : PlayerId) :
    p ∈ (s.eraseRoom r).1 ↔ r ∈ s.roomManager.rooms ∧ p ∈ (s.roomHeap r).playerIds := by
  unfold eraseRoom
  dsimp only
  split
  · next hr => exact ⟨fun hp => ⟨hr, hp⟩, And.right⟩
  · next hr => exact ⟨fun hp => (List.not_mem_nil hp).elim, fun hp => (hr hp.1).elim⟩

theorem Mapped.eraseRoom {s : Server F} (h : s.Mapped) (r : RoomId) : (s.eraseRoom r).2.Mapped := by
  constructor
  · intro r' hr'
    exact h.rooms r' (Finset.mem_of_mem_erase hr')
  · intro p r' hp
    have hentry : (if p ∈ (s.eraseRoom r).1 then none else s.roomManager.playerRoomMap p) =
        some r' := hp
    split at hentry
    · cases hentry
    · next hnot =>
      obtain ⟨hr', hmem⟩ := h.entries p r' hentry
      have hne : r' ≠ r := by
        rintro rfl
        exact hnot ((s.mem_eraseRoom r' p).mpr ⟨hr', hmem⟩)
      exact ⟨Finset.mem_erase.mpr ⟨hne, hr'⟩, hmem⟩

theorem keeps_mapped : StepsKeep (Mapped (F := F)) where
  same := by
    intro s s' h hs
    constructor
    · intro r hr
      rw [hs.manager] at hr
      rw [hs.nextRoomId]
      exact h.rooms r hr
    · intro p r hp
      rw [hs.manager] at hp ⊢
      rw [hs.members]
      exact h.entries p r hp
  update _ _ _ h := ⟨h.rooms, h.entries⟩
  online _ _ h := ⟨h.rooms, h.entries⟩
  offline _ h := ⟨h.rooms, h.entries⟩
  create _ hnd h := h.createRoom hnd
  erase r h := h.eraseRoom r

theorem mapped_run [Axis F] (n : Int) (events : List (Event F)) :
    ((init n).run events).Mapped := by
  refine keeps_mapped.run events ⟨?_, ?_⟩
  · intro r hr
    cases hr
  · intro p r hp
    cases hp

/-! ## What RemoveRoom does -/

/-- The status that `RemoveRoom` gives a member. -/
def restStatus (s : Server F) (p : PlayerId) : PlayerStatus :=
  if (s.connectionManager.getByPlayerId p).isSome then .online else .offline

/-- What `RemoveRoom` leaves alone, and what it writes, for the players of a list. -/
structure Reset (s s' : Server F) (players : List PlayerId) : Prop where
  manager : s'.roomManager = s.roomManager
  connections : s'.connectionManager = s.connectionManager
  games : s'.gameLoop = s.gameLoop
  roomId : ∀ q, s'.playerManager.roomId q =
    if q ∈ players then some 0 else s.playerManager.roomId q
  status : ∀ q, s'.playerManager.status q =
    if q ∈ players then some (s.restStatus q) else s.playerManager.status q
  session : ∀ session, (s'.sessionHeap session).roomId =
    if ∃ p ∈ players, s.connectionManager.getByPlayerId p = some session then 0
    else (s.sessionHeap session).roomId

/-- The two setters of `RemoveRoom`. -/
theorem players_rest (s : Server F) (p : PlayerId) (status : PlayerStatus) (q : PlayerId) :
    ((s.setPlayerRoomId p 0).setPlayerStatus p status).playerManager.roomId q =
        (if q = p then some 0 else s.playerManager.roomId q) ∧
      ((s.setPlayerRoomId p 0).setPlayerStatus p status).playerManager.status q =
        (if q = p then some status else s.playerManager.status q) := by
  rw [roomId_setPlayerStatus, status_setPlayerStatus, roomId_setPlayerRoomId,
    status_setPlayerRoomId]
  have hself : (s.setPlayerRoomId p 0).playerRoomId p = 0 := by
    have hlinks := congrFun (congrArg Links.player (links_setPlayerRoomId s p 0)) p
    simpa [links] using hlinks
  rw [hself]
  by_cases hq : q = p
  · simp [hq]
  · simp [hq]

theorem reset_resetMember (s : Server F) (p : PlayerId) : s.Reset (s.resetMember p) [p] := by
  unfold resetMember
  cases hp : s.connectionManager.getByPlayerId p with
  | none =>
    have hstatus : s.restStatus p = .offline := by rw [restStatus, hp]; rfl
    refine ⟨rfl, rfl, rfl, fun q => ?_, fun q => ?_, fun session => ?_⟩
    · simpa using (players_rest s p .offline q).1
    · rw [(players_rest s p .offline q).2, ← hstatus]
      by_cases hq : q = p
      · simp [hq]
      · simp [hq]
    · simp only [List.mem_singleton, exists_eq_left, hp, reduceCtorEq, if_false]
      rfl
  | some session =>
    have hstatus : s.restStatus p = .online := by rw [restStatus, hp]; rfl
    refine ⟨rfl, rfl, rfl, fun q => ?_, fun q => ?_, fun session' => ?_⟩
    · rw [(players_rest (s.setSessionRoomId session 0) p .online q).1]
      simp [setSessionRoomId, updateSession]
    · rw [(players_rest (s.setSessionRoomId session 0) p .online q).2, ← hstatus]
      by_cases hq : q = p
      · simp [hq]
      · simp [hq, setSessionRoomId, updateSession]
    · simp only [List.mem_singleton, exists_eq_left, hp, Option.some.injEq]
      show ((s.setSessionRoomId session 0).sessionHeap session').roomId = _
      unfold setSessionRoomId updateSession
      dsimp only
      rw [Function.update_apply]
      by_cases hs : session' = session
      · simp [hs]
      · rw [if_neg hs, if_neg (Ne.symm hs)]

/-- The members of the list one after the other. -/
theorem Reset.cons {s s' s'' : Server F} {p : PlayerId} {players : List PlayerId}
    (h : s.Reset s' [p]) (h' : s'.Reset s'' players) : s.Reset s'' (p :: players) where
  manager := h'.manager.trans h.manager
  connections := h'.connections.trans h.connections
  games := h'.games.trans h.games
  roomId q := by
    rw [h'.roomId, h.roomId]
    by_cases hq : q ∈ players
    · simp [hq]
    · simp [hq]
  status q := by
    rw [h'.status, h.status, show s'.restStatus q = s.restStatus q by
      rw [restStatus, restStatus, h.connections]]
    by_cases hq : q = p
    · simp [hq]
    · simp [hq]
  session session := by
    rw [h'.session, h.session, h.connections]
    by_cases hp : s.connectionManager.getByPlayerId p = some session
    · simp [hp]
    · simp [hp]

theorem reset_resetMembers : ∀ (players : List PlayerId) (s : Server F),
    s.Reset (players.foldl resetMember s) players
  | [], s => ⟨rfl, rfl, rfl, fun q => by simp, fun q => by simp, fun session => by simp⟩
  | p :: players, s =>
    (s.reset_resetMember p).cons (reset_resetMembers players (s.resetMember p))

/-! ## The room and nothing else -/

/-- The same map entry, session room id, player room id and status of `q`. -/
structure SamePlace (s s' : Server F) (q : PlayerId) : Prop where
  entry : s'.roomManager.playerRoomMap q = s.roomManager.playerRoomMap q
  session : s'.sessionRoomId q = s.sessionRoomId q
  roomId : s'.playerManager.roomId q = s.playerManager.roomId q
  status : s'.playerManager.status q = s.playerManager.status q

/-- `r` is gone, with the entries that lead to it, and nobody else has been touched. -/
structure RemovesOnly (s s' : Server F) (r : RoomId) : Prop where
  others : ∀ q, s.roomManager.playerRoomMap q ≠ some r → s.SamePlace s' q
  room : r ∉ s'.roomManager.rooms
  game : r ∉ s'.gameLoop
  entries : ∀ q, s'.roomManager.playerRoomMap q ≠ some r

/-- In no room and not matching: the state in which `RemoveRoom` leaves a member. -/
structure AtRest (s : Server F) (p : PlayerId) : Prop where
  entry : s.roomManager.playerRoomMap p = none
  roomId : s.playerManager.roomId p = some 0
  status : s.playerManager.status p = some (s.restStatus p)

/-- Every member of `r` that has moved on is at rest, and no member has its session in common with
a player outside whose session is in a room. -/
structure OwnOccupants (s : Server F) (r : RoomId) : Prop where
  atRest : ∀ p ∈ (s.roomHeap r).playerIds, s.roomManager.playerRoomMap p ≠ some r → s.AtRest p
  sessions : ∀ p ∈ (s.roomHeap r).playerIds, ∀ q, s.roomManager.playerRoomMap q ≠ some r →
    ∀ session, s.connectionManager.getByPlayerId p = some session →
      s.connectionManager.getByPlayerId q = some session → (s.sessionHeap session).roomId = 0

/-- The state after `RemoveRoom`, from the state after its locked part. -/
theorem reset_removeRoom (s : Server F) (r : RoomId) :
    ∃ s', s.removeRoom r = s'.removeGame r ∧ (s.eraseRoom r).2.Reset s' (s.eraseRoom r).1 :=
  ⟨_, rfl, reset_resetMembers _ _⟩

theorem sessionRoomId_of_reset {s s' : Server F} {players : List PlayerId}
    (h : s.Reset s' players) (q : PlayerId) : s'.sessionRoomId q =
      (s.connectionManager.getByPlayerId q).map fun session =>
        if ∃ p ∈ players, s.connectionManager.getByPlayerId p = some session then 0
        else (s.sessionHeap session).roomId := by
  unfold sessionRoomId
  rw [h.connections]
  cases s.connectionManager.getByPlayerId q with
  | none => rfl
  | some session => rw [Option.map_some, Option.map_some, h.session]

theorem removesOnly_removeRoom_iff {s : Server F} (h : s.Mapped) (r : RoomId) :
    s.RemovesOnly (s.removeRoom r) r ↔ (r ∈ s.roomManager.rooms → s.OwnOccupants r) := by
  obtain ⟨s', hs', hreset⟩ := s.reset_removeRoom r
  -- What `RemoveRoom` leaves in each of the four places.
  have hentry : ∀ q, (s.removeRoom r).roomManager.playerRoomMap q =
      if q ∈ (s.eraseRoom r).1 then none else s.roomManager.playerRoomMap q := by
    intro q
    rw [hs']
    show s'.roomManager.playerRoomMap q = _
    rw [hreset.manager]
    rfl
  have hroomId : ∀ q, (s.removeRoom r).playerManager.roomId q =
      if q ∈ (s.eraseRoom r).1 then some 0 else s.playerManager.roomId q := by
    intro q
    rw [hs']
    exact hreset.roomId q
  have hstatus : ∀ q, (s.removeRoom r).playerManager.status q =
      if q ∈ (s.eraseRoom r).1 then some (s.restStatus q) else s.playerManager.status q := by
    intro q
    rw [hs']
    exact hreset.status q
  have hsession : ∀ q, (s.removeRoom r).sessionRoomId q =
      (s.connectionManager.getByPlayerId q).map fun session =>
        if ∃ p ∈ (s.eraseRoom r).1, s.connectionManager.getByPlayerId p = some session then 0
        else (s.sessionHeap session).roomId := by
    intro q
    rw [hs']
    exact sessionRoomId_of_reset hreset q
  constructor
  · intro honly hr
    -- A member whose entry is that of another room is reset all the same.
    have herased : ∀ p ∈ (s.roomHeap r).playerIds, p ∈ (s.eraseRoom r).1 := fun p hp =>
      (s.mem_eraseRoom r p).mpr ⟨hr, hp⟩
    constructor
    · intro p hp hmoved
      have hsame := honly.others p hmoved
      refine ⟨?_, ?_, ?_⟩
      · rw [← hsame.entry, hentry, if_pos (herased p hp)]
      · rw [← hsame.roomId, hroomId, if_pos (herased p hp)]
      · rw [← hsame.status, hstatus, if_pos (herased p hp)]
    · intro p hp q hq session hps hqs
      have hsame := (honly.others q hq).session
      have hshared : ∃ p ∈ (s.eraseRoom r).1,
          s.connectionManager.getByPlayerId p = some session := ⟨p, herased p hp, hps⟩
      rw [hsession, sessionRoomId, hqs, Option.map_some, Option.map_some, if_pos hshared] at hsame
      exact (Option.some.inj hsame).symm
  · intro hown
    refine ⟨fun q hq => ?_, ?_, ?_, fun q hq => ?_⟩
    -- Whoever is reset without being an occupant was at rest before.
    · have hrest : q ∈ (s.eraseRoom r).1 → s.AtRest q := fun hmem =>
        have hmember := (s.mem_eraseRoom r q).mp hmem
        (hown hmember.1).atRest q hmember.2 hq
      refine ⟨?_, ?_, ?_, ?_⟩
      · rw [hentry]
        split
        · next hmem => exact (hrest hmem).entry.symm
        · rfl
      · rw [hsession, sessionRoomId]
        cases hqs : s.connectionManager.getByPlayerId q with
        | none => rfl
        | some session =>
          rw [Option.map_some, Option.map_some]
          split
          · next hshared =>
            obtain ⟨p, hp, hps⟩ := hshared
            have hmember := (s.mem_eraseRoom r p).mp hp
            rw [(hown hmember.1).sessions p hmember.2 q hq session hps hqs]
          · rfl
      · rw [hroomId]
        split
        · next hmem => exact (hrest hmem).roomId.symm
        · rfl
      · rw [hstatus]
        split
        · next hmem => exact (hrest hmem).status.symm
        · rfl
    · rw [hs']
      show r ∉ s'.roomManager.rooms
      rw [hreset.manager]
      exact Finset.notMem_erase r _
    · rw [hs']
      exact Finset.notMem_erase r _
    · rw [hentry] at hq
      split at hq
      · cases hq
      · next hnot => exact hnot ((s.mem_eraseRoom r q).mpr (h.entries q r hq))

/--
**RemoveRoom and the occupants of a room.**

In every reachable state, removing `r` removes the room with the entries that lead to it and touches
nobody else, if and only if `r` is not registered, or its members that have moved on are at rest
and share no session with a player in another room.
-/
theorem removesOnly_iff [Axis F] (n : Int) (events : List (Event F)) (r : RoomId) :
    ((init n).run events).RemovesOnly (((init n).run events).removeRoom r) r ↔
      (r ∈ ((init n).run events).roomManager.rooms → ((init n).run events).OwnOccupants r) :=
  removesOnly_removeRoom_iff (mapped_run n events) r

/-- A player surrenders and is matched again while the first battle is still registered. -/
theorem removesOnly_counterexample :
    ¬ ∀ (n : Int) (events : List (Event Coord)) (r : RoomId),
      ((init n).run events).RemovesOnly (((init n).run events).removeRoom r) r := by
  intro h
  have honly := h 2 [.accept 0, .accept 0, .accept 0,
    .packet 1 0 (.login ⟨"player_100000", 1000⟩ (some "a")),
    .packet 2 0 (.login ⟨"player_100001", 1000⟩ (some "b")),
    .packet 3 0 (.login ⟨"player_100002", 1000⟩ (some "c")),
    .packet 1 0 (.match (some 0)), .packet 2 0 (.match (some 0)),
    .packet 1 0 (.ready (some true)), .packet 2 0 (.ready (some true)),
    .packet 1 0 (.leaveRoom (some 0)),
    .packet 1 0 (.match (some 0)), .packet 3 0 (.match (some 0))] 1000
  have hentry := (honly.others 100000 (by decide)).entry
  exact absurd hentry (by decide)

end Server
end Game
