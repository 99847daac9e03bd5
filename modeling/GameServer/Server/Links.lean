import GameServer.Server.Places

/-!
# Links between players and rooms

Where a player is is written down four times: in the player list of the room, in
`player_room_map_`, in `Session::RoomId` and in `Player::RoomId`. This file has the view of the
server that consists of these, what the single steps do to it, and the invariant that makes the
four agree for the players of new rooms.

The invariant speaks of writes that are still ahead of some thread: erasures of map entries,
resets to 0 of the two other room ids, and the write of the new room id at the end of
`TryCreateRoom`. Each rule below (`LinkInv.enqueue` and so on) is one kind of step.
-/

namespace Game

open Infra

/-- Who is where, and what the other three places say about it. -/
structure Links where
  places : Places
  map : PlayerId → Option RoomId
  /-- The room id of the session of the player, if there is one. -/
  session : PlayerId → Option RoomId
  player : PlayerId → RoomId
  status : PlayerId → PlayerStatus

namespace Server

variable {F : Type}

/-- `Session::RoomId` of the session that `GetByPlayerId` returns. -/
def sessionRoomId (s : Server F) (p : PlayerId) : Option RoomId :=
  (s.connectionManager.getByPlayerId p).map fun session => (s.sessionHeap session).roomId

/-- `Player::RoomId` of the player that `GetOrCreatePlayer` returns. -/
def playerRoomId (s : Server F) (p : PlayerId) : RoomId :=
  (s.playerManager.getOrCreatePlayer p "").roomId

/-- `Player::Status` of the player that `GetOrCreatePlayer` returns. -/
def playerStatus (s : Server F) (p : PlayerId) : PlayerStatus :=
  (s.playerManager.getOrCreatePlayer p "").status

/-- The view. -/
def links (s : Server F) : Links where
  places := s.places
  map := s.roomManager.playerRoomMap
  session := s.sessionRoomId
  player := s.playerRoomId
  status := s.playerStatus

/-- No session serves two players. -/
def SessionsDistinct (s : Server F) : Prop :=
  ∀ p q session, s.connectionManager.getByPlayerId p = some session →
    s.connectionManager.getByPlayerId q = some session → p = q

/-! ## Single steps -/

theorem links_updateRoom (s : Server F) (roomId : RoomId) {f : Room → Room}
    (hf : (f (s.roomHeap roomId)).playerIds = (s.roomHeap roomId).playerIds) :
    (s.updateRoom roomId f).links = s.links := by
  unfold links
  rw [places_updateRoom s roomId hf]
  rfl

theorem getOrCreatePlayer_update (pm : PlayerManager) (p q : PlayerId) (f : Player → Player) :
    (pm.update p f).getOrCreatePlayer q "" =
      if q = p then f (pm.getOrCreatePlayer p "") else pm.getOrCreatePlayer q "" := by
  unfold PlayerManager.update PlayerManager.getOrCreatePlayer
  by_cases hq : q = p
  · subst hq
    simp
  · simp [hq]

/-! What setters do to the record of a player that may not exist yet. -/

theorem map_players_update (pm : PlayerManager) {β : Type} (g : Player → β) (p q : PlayerId)
    (f : Player → Player) : ((pm.update p f).players q).map g =
      if q = p then some (g (f (pm.getOrCreatePlayer p ""))) else (pm.players q).map g := by
  unfold PlayerManager.update
  dsimp only
  rw [Function.update_apply]
  split <;> rfl

theorem roomId_setPlayerRoomId (s : Server F) (p : PlayerId) (roomId : RoomId) (q : PlayerId) :
    (s.setPlayerRoomId p roomId).playerManager.roomId q =
      if q = p then some roomId else s.playerManager.roomId q :=
  map_players_update s.playerManager Player.roomId p q ({ · with roomId := roomId })

theorem status_setPlayerRoomId (s : Server F) (p : PlayerId) (roomId : RoomId) (q : PlayerId) :
    (s.setPlayerRoomId p roomId).playerManager.status q =
      if q = p then some (s.playerStatus p) else s.playerManager.status q :=
  map_players_update s.playerManager Player.status p q ({ · with roomId := roomId })

theorem roomId_setPlayerStatus (s : Server F) (p : PlayerId) (status : PlayerStatus)
    (q : PlayerId) : (s.setPlayerStatus p status).playerManager.roomId q =
      if q = p then some (s.playerRoomId p) else s.playerManager.roomId q :=
  map_players_update s.playerManager Player.roomId p q ({ · with status := status })

theorem status_setPlayerStatus (s : Server F) (p : PlayerId) (status : PlayerStatus)
    (q : PlayerId) : (s.setPlayerStatus p status).playerManager.status q =
      if q = p then some status else s.playerManager.status q :=
  map_players_update s.playerManager Player.status p q ({ · with status := status })

theorem links_setPlayerStatus (s : Server F) (p : PlayerId) (status : PlayerStatus) :
    (s.setPlayerStatus p status).links =
      { s.links with status := Function.update s.links.status p status } := by
  have hroom : (s.setPlayerStatus p status).playerRoomId = s.playerRoomId := by
    funext q
    unfold playerRoomId setPlayerStatus updatePlayers
    rw [getOrCreatePlayer_update]
    split
    · next hq => rw [hq]
    · rfl
  have hstatus : (s.setPlayerStatus p status).playerStatus =
      Function.update s.playerStatus p status := by
    funext q
    rw [Function.update_apply]
    unfold playerStatus setPlayerStatus updatePlayers
    rw [getOrCreatePlayer_update]
    split <;> rfl
  unfold links
  rw [hroom, hstatus]
  rfl

theorem links_setPlayerRoomId (s : Server F) (p : PlayerId) (roomId : RoomId) :
    (s.setPlayerRoomId p roomId).links =
      { s.links with player := Function.update s.links.player p roomId } := by
  have hroom : (s.setPlayerRoomId p roomId).playerRoomId =
      Function.update s.playerRoomId p roomId := by
    funext q
    rw [Function.update_apply]
    unfold playerRoomId setPlayerRoomId updatePlayers
    rw [getOrCreatePlayer_update]
    split <;> rfl
  have hstatus : (s.setPlayerRoomId p roomId).playerStatus = s.playerStatus := by
    funext q
    unfold playerStatus setPlayerRoomId updatePlayers
    rw [getOrCreatePlayer_update]
    split
    · next hq => rw [hq]
    · rfl
  unfold links
  rw [hroom, hstatus]
  rfl

/-- The session of `p` is the session of nobody else. -/
theorem sessionRoomId_setSessionRoomId {s : Server F} (hdistinct : s.SessionsDistinct)
    {p : PlayerId} {session : SessionId}
    (hp : s.connectionManager.getByPlayerId p = some session) (roomId : RoomId) :
    (s.setSessionRoomId session roomId).sessionRoomId =
      Function.update s.sessionRoomId p (some roomId) := by
  funext q
  unfold sessionRoomId setSessionRoomId updateSession
  by_cases hq : q = p
  · subst hq
    rw [Function.update_self]
    dsimp only
    rw [hp, Option.map_some, Function.update_self]
  · rw [Function.update_of_ne hq]
    dsimp only
    cases hs : s.connectionManager.getByPlayerId q with
    | none => rfl
    | some session' =>
      have hne : session' ≠ session := by
        rintro rfl
        exact hq (hdistinct q p session' hs hp)
      rw [Option.map_some, Option.map_some, Function.update_of_ne hne]

theorem links_setSessionRoomId {s : Server F} (hdistinct : s.SessionsDistinct) {p : PlayerId}
    {session : SessionId} (hp : s.connectionManager.getByPlayerId p = some session)
    (roomId : RoomId) : (s.setSessionRoomId session roomId).links =
      { s.links with session := Function.update s.links.session p (some roomId) } := by
  unfold links
  rw [sessionRoomId_setSessionRoomId hdistinct hp]
  rfl

theorem connectionManager_enterRoom (roomId : RoomId) (s : Server F) (p : PlayerId) :
    (enterRoom roomId s p).connectionManager = s.connectionManager := by
  unfold enterRoom
  dsimp only
  split <;> rfl

/-- One round of the locked loop of `CreateRoom`. -/
theorem links_enterRoom {s : Server F} (hdistinct : s.SessionsDistinct) (roomId : RoomId)
    (p : PlayerId) : (enterRoom roomId s p).links =
      { s.links with
        map := Function.update s.links.map p (some roomId)
        session := Function.update s.links.session p
          ((s.links.session p).map fun _ => roomId) } := by
  unfold enterRoom
  dsimp only
  split
  · next session hp =>
    have hsession : s.links.session p = some (s.sessionHeap session).roomId := by
      show (s.connectionManager.getByPlayerId p).map _ = _
      rw [show s.connectionManager.getByPlayerId p = some session from hp, Option.map_some]
    rw [links_setSessionRoomId (s := s.mapPlayer p roomId) hdistinct hp, hsession]
    rfl
  · next hp =>
    have hnone : s.links.session p = none := by
      show (s.connectionManager.getByPlayerId p).map _ = _
      rw [show s.connectionManager.getByPlayerId p = none from hp, Option.map_none]
    rw [hnone, Option.map_none, ← hnone, Function.update_eq_self]
    rfl

/-- The whole loop. -/
theorem links_enterRooms (roomId : RoomId) : ∀ (players : List PlayerId) {s : Server F},
    s.SessionsDistinct → (players.foldl (enterRoom roomId) s).links =
      { s.links with
        map := fun p => if p ∈ players then some roomId else s.links.map p
        session := fun p =>
          if p ∈ players then (s.links.session p).map fun _ => roomId else s.links.session p }
  | [], s, _ => by simp
  | q :: players, s, hdistinct => by
    have hdistinct' : (enterRoom roomId s q).SessionsDistinct := by
      unfold SessionsDistinct
      rw [connectionManager_enterRoom]
      exact hdistinct
    rw [List.foldl_cons, links_enterRooms roomId players hdistinct', links_enterRoom hdistinct]
    dsimp only
    congr 1
    · funext p
      by_cases hp : p = q
      · subst hp
        simp
      · simp [hp]
    · funext p
      by_cases hp : p = q
      · subst hp
        cases s.links.session p <;> simp
      · simp [hp]

/-- `CreateRoom`. -/
theorem links_createRoom {s : Server F} (hdistinct : s.SessionsDistinct) {players : List PlayerId}
    (hnd : players.Nodup) : (s.createRoom players).2.links =
      { s.links with
        places := s.places.form players s.matchQueue
        map := fun p => if p ∈ players then some s.nextRoomId else s.links.map p
        session := fun p =>
          if p ∈ players then (s.links.session p).map fun _ => s.nextRoomId
          else s.links.session p } := by
  rw [createRoom]
  dsimp only
  rw [links_enterRooms s.nextRoomId players (s := s.openRoom players) hdistinct]
  have hplaces : (s.openRoom players).places = s.places.form players s.matchQueue := by
    rw [← places_openRoom s hnd]
  unfold links
  rw [hplaces]
  rfl

/-- The locked part of `RemoveRoom`. -/
theorem links_eraseRoom (s : Server F) (roomId : RoomId) : (s.eraseRoom roomId).2.links =
    { s.links with
      places := s.places.dissolve roomId
      map := fun p => if p ∈ (s.eraseRoom roomId).1 then none else s.links.map p } := rfl

end Server

/-! ## The invariant -/

/-- A player of a live room whose id is `first` or later. -/
def Places.New (w : Places) (first r : RoomId) (p : PlayerId) : Prop :=
  r ∈ w.rooms ∧ first ≤ r ∧ p ∈ w.members r

theorem Places.new_form {w : Places} (hrooms : ∀ r ∈ w.rooms, r < w.nextRoomId)
    {first : RoomId} (hfirst : first ≤ w.nextRoomId) {players : List PlayerId} {queue : MatchQueue}
    {r : RoomId} {p : PlayerId} :
    (w.form players queue).New first r p ↔
      (r = w.nextRoomId ∧ p ∈ players) ∨ w.New first r p := by
  by_cases hr : r = w.nextRoomId
  · subst hr
    have hold : ¬ w.New first w.nextRoomId p := fun h => Int.lt_irrefl _ (hrooms _ h.1)
    unfold New
    rw [members_form_self]
    constructor
    · exact fun h => Or.inl ⟨rfl, h.2.2⟩
    · rintro (h | h)
      · exact ⟨Finset.mem_insert_self _ _, hfirst, h.2⟩
      · exact absurd h hold
  · unfold New
    rw [members_form_of_ne hr]
    constructor
    · exact fun h => Or.inr ⟨(Finset.mem_insert.mp h.1).resolve_left hr, h.2⟩
    · rintro (h | h)
      · exact absurd h.1 hr
      · exact ⟨Finset.mem_insert_of_mem h.1, h.2⟩

theorem Places.new_dissolve {w : Places} {first r' : RoomId} (hr' : r' < first) {r : RoomId}
    {p : PlayerId} : (w.dissolve r').New first r p ↔ w.New first r p := by
  constructor
  · exact fun h => ⟨Finset.mem_of_mem_erase h.1, h.2⟩
  · intro h
    have hne : r ≠ r' := fun he => Int.lt_irrefl _ (Int.lt_of_lt_of_le (he ▸ hr') h.2.1)
    exact ⟨Finset.mem_erase.mpr ⟨hne, h.1⟩, h.2⟩

/-- The writes that are still ahead of some thread. -/
structure Ahead where
  /-- The map entry of the player will be erased. -/
  erases : PlayerId → Prop
  /-- The session of the player will be reset. -/
  resetsSession : PlayerId → Prop
  /-- `Player::RoomId` will be reset. -/
  resetsPlayer : PlayerId → Prop
  /-- The player has been popped, and a room will be created for it. -/
  holds : PlayerId → Prop
  /-- `Player::RoomId` will be set to the room. -/
  joins : RoomId → PlayerId → Prop
  /-- The status will be set to Matching. -/
  setsMatching : PlayerId → Prop
  /-- The status will be set to InRoom. -/
  setsInRoom : PlayerId → Prop

/-- The four places agree for every player of a room from `first` on. -/
structure LinkInv (first : RoomId) (l : Links) (a : Ahead) : Prop where
  rooms_lt : ∀ r ∈ l.places.rooms, r < l.places.nextRoomId
  first_le : first ≤ l.places.nextRoomId
  map : ∀ {r p}, l.places.New first r p → l.map p = some r
  session : ∀ {r p}, l.places.New first r p → l.session p = some r
  player : ∀ {r p}, l.places.New first r p →
    (l.player p = r ∧ ¬ a.resetsPlayer p) ∨ a.joins r p
  not_erased : ∀ {r p}, l.places.New first r p → ¬ a.erases p
  not_reset : ∀ {r p}, l.places.New first r p → ¬ a.resetsSession p
  not_queued : ∀ {r p}, l.places.New first r p → p ∉ l.places.queue.queue
  not_held : ∀ {r p}, l.places.New first r p → ¬ a.holds p
  joins : ∀ {r p}, a.joins r p → l.places.New first r p
  held : ∀ {p}, a.holds p → p ∉ l.places.queue.queue ∧ l.session p ≠ none
  queued : ∀ {p}, p ∈ l.places.queue.queue → l.session p ≠ none

namespace LinkInv

variable {first : RoomId} {l : Links} {a a' : Ahead}

/-- At the start there is no new room, and nobody has been popped. -/
theorem start (hrooms : ∀ r ∈ l.places.rooms, r < l.places.nextRoomId)
    (hqueued : ∀ p ∈ l.places.queue.queue, l.session p ≠ none) (hholds : ∀ p, ¬ a.holds p)
    (hjoins : ∀ r p, ¬ a.joins r p) : LinkInv l.places.nextRoomId l a := by
  have hnew : ∀ {r p}, ¬ l.places.New l.places.nextRoomId r p :=
    fun hn => Int.lt_irrefl _ (Int.lt_of_lt_of_le (hrooms _ hn.1) hn.2.1)
  exact {
    rooms_lt := hrooms
    first_le := Int.le_refl _
    map := fun hn => absurd hn hnew
    session := fun hn => absurd hn hnew
    player := fun hn => absurd hn hnew
    not_erased := fun hn => absurd hn hnew
    not_reset := fun hn => absurd hn hnew
    not_queued := fun hn => absurd hn hnew
    not_held := fun hn => absurd hn hnew
    joins := fun hj => absurd hj (hjoins _ _)
    held := fun hh => absurd hh (hholds _)
    queued := fun hq => hqueued _ hq }

/-- A new player is in one new room. -/
theorem one_room (h : LinkInv first l a) {r r' : RoomId} {p : PlayerId}
    (hr : l.places.New first r p) (hr' : l.places.New first r' p) : r = r' :=
  Option.some.inj ((h.map hr).symm.trans (h.map hr'))

/-- Writes may disappear, except those that will set `Player::RoomId`. -/
theorem weaken (h : LinkInv first l a) (herases : ∀ p, a'.erases p → a.erases p)
    (hsession : ∀ p, a'.resetsSession p → a.resetsSession p)
    (hplayer : ∀ p, a'.resetsPlayer p → a.resetsPlayer p)
    (hholds : ∀ p, a'.holds p → a.holds p) (hjoins : ∀ r p, a'.joins r p ↔ a.joins r p) :
    LinkInv first l a' where
  rooms_lt := h.rooms_lt
  first_le := h.first_le
  map := h.map
  session := h.session
  player hn := (h.player hn).imp (fun hp => ⟨hp.1, fun hr => hp.2 (hplayer _ hr)⟩)
    (hjoins _ _).mpr
  not_erased hn he := h.not_erased hn (herases _ he)
  not_reset hn hr := h.not_reset hn (hsession _ hr)
  not_queued := h.not_queued
  not_held hn hh := h.not_held hn (hholds _ hh)
  joins hj := h.joins ((hjoins _ _).mp hj)
  held hh := h.held (hholds _ hh)
  queued := h.queued

/-- `Push` of a player who is neither in a new room nor about to get one. -/
theorem push (h : LinkInv first l a) {p : PlayerId} (hsession : l.session p ≠ none)
    (hnew : ∀ r, ¬ l.places.New first r p) (hheld : ¬ a.holds p) {queue : MatchQueue}
    (hqueue : queue.queue = l.places.queue.queue ++ [p]) :
    LinkInv first { l with places := { l.places with queue := queue } }
      { a with
        resetsSession := fun q => q = p ∨ a.resetsSession q
        resetsPlayer := fun q => q = p ∨ a.resetsPlayer q } := by
  have hmem : ∀ q, q ∈ queue.queue ↔ q ∈ l.places.queue.queue ∨ q = p := by
    intro q
    rw [hqueue, List.mem_append, List.mem_singleton]
  have hne : ∀ {r q}, l.places.New first r q → q ≠ p := by
    rintro r q hn rfl
    exact hnew r hn
  exact {
    rooms_lt := h.rooms_lt
    first_le := h.first_le
    map := h.map
    session := h.session
    player := fun hn => (h.player hn).imp_left fun hp =>
      ⟨hp.1, fun hr => hr.elim (hne hn) hp.2⟩
    not_erased := h.not_erased
    not_reset := fun hn hr => hr.elim (hne hn) (h.not_reset hn)
    not_queued := fun hn hq => ((hmem _).mp hq).elim (h.not_queued hn) (hne hn)
    not_held := h.not_held
    joins := h.joins
    held := fun {q} hh => by
      refine ⟨fun hq => ?_, (h.held hh).2⟩
      rcases (hmem q).mp hq with hq | rfl
      · exact (h.held hh).1 hq
      · exact hheld hh
    queued := fun {q} hq => by
      rcases (hmem q).mp hq with hq | rfl
      · exact h.queued hq
      · exact hsession }

/-- `Contains` finds the player in the queue; the resets will be done again. -/
theorem rematch (h : LinkInv first l a) {p : PlayerId} (hp : p ∈ l.places.queue.queue) :
    LinkInv first l
      { a with
        resetsSession := fun q => q = p ∨ a.resetsSession q
        resetsPlayer := fun q => q = p ∨ a.resetsPlayer q } := by
  have hne : ∀ {r q}, l.places.New first r q → q ≠ p := by
    rintro r q hn rfl
    exact h.not_queued hn hp
  exact { h with
    player := fun hn => (h.player hn).imp_left fun hp =>
      ⟨hp.1, fun hr => hr.elim (hne hn) hp.2⟩
    not_reset := fun hn hr => hr.elim (hne hn) (h.not_reset hn) }

/-- The status does not matter. -/
theorem setStatus (h : LinkInv first l a) (status : PlayerId → PlayerStatus)
    (setsMatching setsInRoom : PlayerId → Prop) :
    LinkInv first { l with status := status }
      { a with setsMatching := setsMatching, setsInRoom := setsInRoom } :=
  { h with }

/-- `Player::SetRoomId(0)`, which was ahead. -/
theorem resetPlayer (h : LinkInv first l a) {p : PlayerId} (hp : a.resetsPlayer p) :
    LinkInv first { l with player := Function.update l.player p 0 } a := by
  refine { h with player := ?_ }
  intro r q hn
  rcases h.player hn with ⟨hroom, hnot⟩ | hj
  · have hne : q ≠ p := fun he => hnot (he ▸ hp)
    refine Or.inl ⟨?_, hnot⟩
    dsimp only
    rw [Function.update_of_ne hne]
    exact hroom
  · exact Or.inr hj

/-- `Session::SetRoomId(0)`, which was ahead. -/
theorem resetSession (h : LinkInv first l a) {p : PlayerId} (hp : a.resetsSession p) :
    LinkInv first { l with session := Function.update l.session p (some 0) } a := by
  have hsome : ∀ q, l.session q ≠ none → Function.update l.session p (some 0) q ≠ none := by
    intro q hq
    rw [Function.update_apply]
    split
    · simp
    · exact hq
  refine { h with session := ?_, held := ?_, queued := ?_ }
  · intro r q hn
    have hne : q ≠ p := fun he => h.not_reset hn (he ▸ hp)
    dsimp only
    rw [Function.update_of_ne hne]
    exact h.session hn
  · exact fun hh => ⟨(h.held hh).1, hsome _ (h.held hh).2⟩
  · exact fun hq => hsome _ (h.queued hq)

/-- `TryPopN` takes players off the queue. -/
theorem pop (h : LinkInv first l a) {players : List PlayerId} {queue : MatchQueue}
    (hsplit : players ++ queue.queue = l.places.queue.queue) :
    LinkInv first { l with places := { l.places with queue := queue } }
      { a with holds := fun q => q ∈ players ∨ a.holds q } := by
  have hnd := l.places.queue.queue_nodup
  rw [← hsplit, List.nodup_append] at hnd
  have hplayers : ∀ {p}, p ∈ players → p ∈ l.places.queue.queue := by
    intro p hp
    rw [← hsplit]
    exact List.mem_append_left _ hp
  have hrest : ∀ {p}, p ∈ queue.queue → p ∈ l.places.queue.queue := by
    intro p hp
    rw [← hsplit]
    exact List.mem_append_right _ hp
  exact { h with
    not_queued := fun hn hq => h.not_queued hn (hrest hq)
    not_held := fun hn hh => hh.elim (fun hp => h.not_queued hn (hplayers hp)) (h.not_held hn)
    held := fun {p} hh => by
      rcases hh with hp | hh
      · exact ⟨fun hq => hnd.2.2 p hp p hq rfl, h.queued (hplayers hp)⟩
      · exact ⟨fun hq => (h.held hh).1 (hrest hq), (h.held hh).2⟩
    queued := fun hq => h.queued (hrest hq) }

/-- `CreateRoom` for players with no resets ahead. -/
theorem create (h : LinkInv first l a) {players : List PlayerId}
    (hheld : ∀ p ∈ players, a.holds p)
    (hclear : ∀ p ∈ players, ¬ a.erases p ∧ ¬ a.resetsSession p) {r : RoomId}
    (hr : r = l.places.nextRoomId) :
    LinkInv first
      { l with
        places := l.places.form players l.places.queue
        map := fun p => if p ∈ players then some r else l.map p
        session := fun p => if p ∈ players then (l.session p).map fun _ => r else l.session p }
      { a with
        holds := fun p => a.holds p ∧ p ∉ players
        joins := fun r' p => (r' = r ∧ p ∈ players) ∨ a.joins r' p } := by
  subst hr
  have hnew : ∀ {r p}, (l.places.form players l.places.queue).New first r p ↔
      (r = l.places.nextRoomId ∧ p ∈ players) ∨ l.places.New first r p :=
    Places.new_form h.rooms_lt h.first_le
  -- the old players of new rooms are not among those who have been popped
  have hold : ∀ {r p}, l.places.New first r p → p ∉ players :=
    fun hn hp => h.not_held hn (hheld _ hp)
  constructor
  · intro r hr
    rcases Finset.mem_insert.mp hr with rfl | hr
    · exact Int.lt_succ _
    · exact Int.lt_trans (h.rooms_lt r hr) (Int.lt_succ _)
  · exact Int.le_trans h.first_le (Int.le_of_lt (Int.lt_succ _))
  · intro r p hn
    dsimp only
    rcases hnew.mp hn with ⟨rfl, hp⟩ | hn
    · rw [if_pos hp]
    · rw [if_neg (hold hn)]
      exact h.map hn
  · intro r p hn
    dsimp only
    rcases hnew.mp hn with ⟨rfl, hp⟩ | hn
    · rw [if_pos hp]
      obtain ⟨r', hr'⟩ := Option.ne_none_iff_exists'.mp (h.held (hheld p hp)).2
      rw [hr', Option.map_some]
    · rw [if_neg (hold hn)]
      exact h.session hn
  · intro r p hn
    rcases hnew.mp hn with hp | hn
    · exact Or.inr (Or.inl hp)
    · exact (h.player hn).imp id Or.inr
  · intro r p hn
    rcases hnew.mp hn with hp | hn
    · exact (hclear p hp.2).1
    · exact h.not_erased hn
  · intro r p hn
    rcases hnew.mp hn with hp | hn
    · exact (hclear p hp.2).2
    · exact h.not_reset hn
  · intro r p hn
    rcases hnew.mp hn with hp | hn
    · exact (h.held (hheld p hp.2)).1
    · exact h.not_queued hn
  · intro r p hn hh
    rcases hnew.mp hn with hp | hn
    · exact hh.2 hp.2
    · exact h.not_held hn hh.1
  · rintro r p (hp | hj)
    · exact hnew.mpr (Or.inl hp)
    · exact hnew.mpr (Or.inr (h.joins hj))
  · intro p hh
    refine ⟨(h.held hh.1).1, ?_⟩
    dsimp only
    rw [if_neg hh.2]
    exact (h.held hh.1).2
  · intro p hq
    dsimp only
    have hp : p ∉ players := fun hp => (h.held (hheld p hp)).1 hq
    rw [if_neg hp]
    exact h.queued hq

/-- `Player::SetRoomId` of the new room, when no reset is ahead. -/
theorem join (h : LinkInv first l a) {r : RoomId} {p : PlayerId} (hj : a.joins r p)
    (hclear : ¬ a.resetsPlayer p) {joins : RoomId → PlayerId → Prop}
    (hjoins : ∀ r' q, a.joins r' q ↔ (r' = r ∧ q = p) ∨ joins r' q) :
    LinkInv first { l with player := Function.update l.player p r } { a with joins := joins } := by
  refine { h with player := ?_, joins := fun hj' => h.joins ((hjoins _ _).mpr (Or.inr hj')) }
  intro r' q hn
  dsimp only
  by_cases hq : q = p
  · subst hq
    rw [Function.update_self]
    exact Or.inl ⟨h.one_room (h.joins hj) hn, hclear⟩
  · rw [Function.update_of_ne hq]
    refine (h.player hn).imp id fun hj' => ?_
    exact ((hjoins r' q).mp hj').resolve_left fun he => hq he.2

/-- The locked part of `RemoveRoom`, which was ahead, of an old room. -/
theorem erase (h : LinkInv first l a) {r : RoomId} (hr : r < first) {players : List PlayerId}
    (hplayers : ∀ p ∈ players, a.erases p) :
    LinkInv first
      { l with
        places := l.places.dissolve r
        map := fun p => if p ∈ players then none else l.map p } a := by
  have hnew : ∀ {r' p}, (l.places.dissolve r).New first r' p ↔ l.places.New first r' p :=
    Places.new_dissolve hr
  exact {
    rooms_lt := fun r' hr' => h.rooms_lt r' (Finset.mem_of_mem_erase hr')
    first_le := h.first_le
    map := fun {r' p} hn => by
      have hp : p ∉ players := fun hp => h.not_erased (hnew.mp hn) (hplayers p hp)
      dsimp only
      rw [if_neg hp]
      exact h.map (hnew.mp hn)
    session := fun hn => h.session (hnew.mp hn)
    player := fun hn => h.player (hnew.mp hn)
    not_erased := fun hn => h.not_erased (hnew.mp hn)
    not_reset := fun hn => h.not_reset (hnew.mp hn)
    not_queued := fun hn => h.not_queued (hnew.mp hn)
    not_held := fun hn => h.not_held (hnew.mp hn)
    joins := fun hj => hnew.mpr (h.joins hj)
    held := h.held
    queued := h.queued }

end LinkInv

end Game
