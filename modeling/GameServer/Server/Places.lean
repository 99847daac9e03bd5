import GameServer.Infra.Run
import GameServer.Server.Updates

/-!
# Who is where

An abstract view of the server: the match queue, the live rooms and who is in them. Every handler
acts on it through four operations (`push`, `drop`, `form` and `dissolve`); all the other things
it does leave the view alone.
-/

namespace Game

open Infra

/-- The queue and the live rooms with their players. -/
structure Places where
  queue : MatchQueue
  rooms : Finset RoomId
  members : RoomId → List PlayerId
  nextRoomId : RoomId

namespace Places

/-- A player of a live room. -/
def InRoom (w : Places) (p : PlayerId) : Prop :=
  ∃ r ∈ w.rooms, p ∈ w.members r

/-- A room for players who have left the queue. -/
def form (w : Places) (players : List PlayerId) (queue : MatchQueue) : Places where
  queue := queue
  rooms := insert w.nextRoomId w.rooms
  members := Function.update w.members w.nextRoomId players
  nextRoomId := w.nextRoomId + 1

@[simp] theorem members_form_self (w : Places) (players : List PlayerId) (queue : MatchQueue) :
    (w.form players queue).members w.nextRoomId = players :=
  Function.update_self ..

@[simp] theorem members_form_of_ne {w : Places} {r : RoomId} (h : r ≠ w.nextRoomId)
    (players : List PlayerId) (queue : MatchQueue) :
    (w.form players queue).members r = w.members r :=
  Function.update_of_ne h ..

/-- The end of a room. -/
def dissolve (w : Places) (r : RoomId) : Places :=
  { w with rooms := w.rooms.erase r }

/-- Nobody is in the queue and in a room, or in two rooms. -/
structure Exclusive (w : Places) : Prop where
  queue_or_room : ∀ p ∈ w.queue.queue, ¬ w.InRoom p
  one_room : ∀ p, ∀ r₁ ∈ w.rooms, ∀ r₂ ∈ w.rooms,
    p ∈ w.members r₁ → p ∈ w.members r₂ → r₁ = r₂

/-- An exclusive placement in which the players of `loose` are in no place at all. -/
structure Placed (loose : List PlayerId) (w : Places) : Prop extends Exclusive w where
  loose_nodup : loose.Nodup
  loose_queue : ∀ p ∈ loose, p ∉ w.queue.queue
  loose_room : ∀ p ∈ loose, ¬ w.InRoom p
  /-- The id of the next room is not in use. -/
  fresh : ∀ r ∈ w.rooms, r < w.nextRoomId
  /-- Nobody plays under the id 0. -/
  zero : ¬ w.InRoom 0

/-! ## The operations keep everybody placed -/

theorem inRoom_form {w : Places} (hfresh : ∀ r ∈ w.rooms, r < w.nextRoomId)
    {players : List PlayerId} {queue : MatchQueue} {p : PlayerId} :
    (w.form players queue).InRoom p ↔ p ∈ players ∨ w.InRoom p := by
  have hold : ∀ r ∈ w.rooms, (w.form players queue).members r = w.members r := by
    intro r hr
    exact members_form_of_ne (Int.ne_of_lt (hfresh r hr)) players queue
  constructor
  · rintro ⟨r, hr, hp⟩
    rcases Finset.mem_insert.mp hr with rfl | hr
    · rw [members_form_self] at hp
      exact Or.inl hp
    · rw [hold r hr] at hp
      exact Or.inr ⟨r, hr, hp⟩
  · rintro (hp | ⟨r, hr, hp⟩)
    · exact ⟨_, Finset.mem_insert_self _ _, by rwa [members_form_self]⟩
    · exact ⟨r, Finset.mem_insert_of_mem hr, by rwa [hold r hr]⟩

theorem Placed.mono {w : Places} {loose loose' : List PlayerId} (h : w.Placed loose)
    (hsub : loose'.Sublist loose) : w.Placed loose' where
  toExclusive := h.toExclusive
  loose_nodup := h.loose_nodup.sublist hsub
  loose_queue p hp := h.loose_queue p (hsub.subset hp)
  loose_room p hp := h.loose_room p (hsub.subset hp)
  fresh := h.fresh
  zero := h.zero

theorem Placed.congr_queue {w : Places} {loose : List PlayerId} (h : w.Placed loose)
    {queue : MatchQueue} (hqueue : queue.queue = w.queue.queue) :
    { w with queue := queue }.Placed loose where
  queue_or_room p hp := h.queue_or_room p (hqueue ▸ hp)
  one_room := h.one_room
  loose_nodup := h.loose_nodup
  loose_queue p hp hm := h.loose_queue p hp (hqueue ▸ hm)
  loose_room := h.loose_room
  fresh := h.fresh
  zero := h.zero

/-- A player who was nowhere may join the queue. -/
theorem Placed.push {w : Places} {loose : List PlayerId} {p : PlayerId}
    (h : w.Placed loose) (hloose : p ∉ loose) (hroom : ¬ w.InRoom p)
    (hpush : (w.queue.push p).1 = true) : { w with queue := (w.queue.push p).2 }.Placed loose := by
  have hmem : ∀ q, q ∈ (w.queue.push p).2.queue ↔ q ∈ w.queue.queue ∨ q = p := by
    intro q
    rw [MatchQueue.queue_push hpush, List.mem_append, List.mem_singleton]
  constructor
  · constructor
    · intro q hq
      rcases (hmem q).mp hq with hm | rfl
      · exact h.queue_or_room q hm
      · exact hroom
    · exact h.one_room
  · exact h.loose_nodup
  · intro q hq hm
    rcases (hmem q).mp hm with hm | rfl
    · exact h.loose_queue q hq hm
    · exact hloose hq
  · exact h.loose_room
  · exact h.fresh
  · exact h.zero

theorem Placed.remove {w : Places} {loose : List PlayerId} (h : w.Placed loose) (p : PlayerId) :
    { w with queue := (w.queue.remove p).2 }.Placed loose where
  queue_or_room q hq := h.queue_or_room q (MatchQueue.mem_queue_remove.mp hq).1
  one_room := h.one_room
  loose_nodup := h.loose_nodup
  loose_queue q hq hm := h.loose_queue q hq (MatchQueue.mem_queue_remove.mp hm).1
  loose_room := h.loose_room
  fresh := h.fresh
  zero := h.zero

/-- Players who leave the queue together get a room of their own. -/
theorem Placed.form {w : Places} {loose players : List PlayerId} {queue : MatchQueue}
    (h : w.Placed loose) (hsplit : players ++ queue.queue = w.queue.queue) :
    (w.form players queue).Placed loose := by
  have hplayers : ∀ p ∈ players, p ∈ w.queue.queue := by
    intro p hp
    rw [← hsplit]
    exact List.mem_append_left _ hp
  have hrest : ∀ p ∈ queue.queue, p ∈ w.queue.queue := by
    intro p hp
    rw [← hsplit]
    exact List.mem_append_right _ hp
  have hnd := w.queue.queue_nodup
  rw [← hsplit, List.nodup_append] at hnd
  have hroom : ∀ {p}, (w.form players queue).InRoom p → p ∈ players ∨ w.InRoom p :=
    fun hp => (inRoom_form h.fresh).mp hp
  constructor
  · constructor
    · intro p hp hin
      rcases hroom hin with hin | hin
      · exact hnd.2.2 p hin p hp rfl
      · exact h.queue_or_room p (hrest p hp) hin
    · intro p r₁ hr₁ r₂ hr₂ hp₁ hp₂
      -- a player of the new room was in the queue, hence in no other room
      have hcase : ∀ r, r ∈ (w.form players queue).rooms → p ∈ (w.form players queue).members r →
          (r = w.nextRoomId ∧ p ∈ players) ∨ (r ∈ w.rooms ∧ p ∈ w.members r) := by
        intro r hr hp
        by_cases he : r = w.nextRoomId
        · rw [he, members_form_self] at hp
          exact Or.inl ⟨he, hp⟩
        · rw [members_form_of_ne he] at hp
          exact Or.inr ⟨(Finset.mem_insert.mp hr).resolve_left he, hp⟩
      rcases hcase r₁ hr₁ hp₁ with ⟨h₁, hq₁⟩ | ⟨h₁, hq₁⟩ <;>
        rcases hcase r₂ hr₂ hp₂ with ⟨h₂, hq₂⟩ | ⟨h₂, hq₂⟩
      · exact h₁.trans h₂.symm
      · exact absurd ⟨r₂, h₂, hq₂⟩ (h.queue_or_room p (hplayers p hq₁))
      · exact absurd ⟨r₁, h₁, hq₁⟩ (h.queue_or_room p (hplayers p hq₂))
      · exact h.one_room p r₁ h₁ r₂ h₂ hq₁ hq₂
  · exact h.loose_nodup
  · intro p hp hm
    exact h.loose_queue p hp (hrest p hm)
  · intro p hp hin
    rcases hroom hin with hin | hin
    · exact h.loose_queue p hp (hplayers p hin)
    · exact h.loose_room p hp hin
  · intro r hr
    show r < w.nextRoomId + 1
    rcases Finset.mem_insert.mp hr with rfl | hr
    · exact Int.lt_succ _
    · exact Int.lt_trans (h.fresh r hr) (Int.lt_succ _)
  · intro hin
    rcases hroom hin with hin | hin
    · exact w.queue.zero_notMem (hplayers 0 hin)
    · exact h.zero hin

/-- The players of a room that ends are nowhere. -/
theorem Placed.dissolve {w : Places} (h : w.Placed []) {r : RoomId} (hr : r ∈ w.rooms)
    (hnd : (w.members r).Nodup) : (w.dissolve r).Placed (w.members r) where
  queue_or_room := by
    rintro p hp ⟨r', hr', hp'⟩
    exact h.queue_or_room p hp ⟨r', Finset.mem_of_mem_erase hr', hp'⟩
  one_room p r₁ hr₁ r₂ hr₂ :=
    h.one_room p r₁ (Finset.mem_of_mem_erase hr₁) r₂ (Finset.mem_of_mem_erase hr₂)
  loose_nodup := hnd
  loose_queue p hp hq := h.queue_or_room p hq ⟨r, hr, hp⟩
  loose_room := by
    rintro p hp ⟨r', hr', hp'⟩
    obtain ⟨hne, hr'⟩ := Finset.mem_erase.mp hr'
    exact hne (h.one_room p r' hr' r hr hp' hp)
  fresh r' hr' := h.fresh r' (Finset.mem_of_mem_erase hr')
  zero := by
    rintro ⟨r', hr', hp'⟩
    exact h.zero ⟨r', Finset.mem_of_mem_erase hr', hp'⟩

theorem Placed.erase {w : Places} (h : w.Placed []) {r : RoomId} (hnd : (w.members r).Nodup) :
    (w.dissolve r).Placed [] := by
  by_cases hr : r ∈ w.rooms
  · exact (h.dissolve hr hnd).mono (List.nil_sublist _)
  · rwa [Places.dissolve, Finset.erase_eq_of_notMem hr]

end Places

/-! ## The view of the server -/

namespace Server

variable {F : Type}

/-- The abstract view. -/
def places (s : Server F) : Places where
  queue := s.matchQueue
  rooms := s.roomManager.rooms
  members r := (s.roomHeap r).playerIds
  nextRoomId := s.nextRoomId

@[simp] theorem places_broadcast (s : Server F) (roomId : RoomId) (msg : Message F) :
    (s.broadcast roomId msg).places = s.places := rfl

@[simp] theorem places_setPending (s : Server F) (roomId : RoomId)
    (pending : Option PendingSettlement) : (s.setPending roomId pending).places = s.places := rfl

@[simp] theorem places_setSessionRoomId (s : Server F) (session : SessionId) (roomId : RoomId) :
    (s.setSessionRoomId session roomId).places = s.places := rfl

@[simp] theorem places_removeGame (s : Server F) (roomId : RoomId) :
    (s.removeGame roomId).places = s.places := rfl

/-- A section of a room that neither adds nor removes players. -/
theorem places_updateRoom (s : Server F) (roomId : RoomId) {f : Room → Room}
    (hf : (f (s.roomHeap roomId)).playerIds = (s.roomHeap roomId).playerIds) :
    (s.updateRoom roomId f).places = s.places := by
  unfold places updateRoom
  congr 1
  funext r
  by_cases hr : r = roomId
  · subst hr
    dsimp only
    rw [Function.update_self, hf]
  · dsimp only
    rw [Function.update_of_ne hr]

/-- What is neither about the queue nor about the rooms leaves everybody in place. -/
theorem Via.places {about : List Matter} {s s' : Server F} (h : Via about s s')
    (hqueue : .queue ∉ about) (hrooms : .rooms ∉ about) : s'.places = s.places := by
  refine h.view fun {matter t t'} hmem hupdate => ?_
  cases hupdate with
  | updateRoom _ roomId f hf => exact places_updateRoom t roomId hf
  | send | broadcast | setSessionRoomId | updatePlayer | setPending | updateGame | addGame
  | removeGame | answer | record | accounts | bindSession | closeSession | updateConnections
  | setOnline | setOffline | updateHeartbeatTime => rfl
  | withQueue => exact absurd hmem hqueue
  | createRoom | eraseRoom => exact absurd hmem hrooms

theorem places_dispatch [Axis F] (s : Server F) (session : SessionId) (nowMs : Int)
    {request : Request F} (hqueue : .queue ∉ request.about) (hrooms : .rooms ∉ request.about) :
    (s.dispatch session nowMs request).places = s.places :=
  (via_dispatch s session nowMs request).places
    (List.not_mem_cons_of_ne_of_not_mem (by decide) hqueue)
    (List.not_mem_cons_of_ne_of_not_mem (by decide) hrooms)

/-- `RemoveRoom` ends the room. -/
@[simp] theorem places_removeRoom (s : Server F) (roomId : RoomId) :
    (s.removeRoom roomId).places = s.places.dissolve roomId := by
  have hreset : ∀ (s : Server F) p, (s.resetMember p).places = s.places := fun s p =>
    (via_resetMember s p).places (by decide) (by decide)
  rw [removeRoom, places_removeGame, foldl_frame hreset]
  rfl

/-- Adding distinct players to a new room, one by one. -/
theorem playerIds_addPlayers : ∀ (players : List PlayerId) (room : Room),
    room.state = .waiting → (room.playerIds ++ players).Nodup →
    (players.foldl Room.addPlayer room).playerIds = room.playerIds ++ players
  | [], room, _, _ => (List.append_nil _).symm
  | p :: players, room, hstate, hnd => by
    have hp : p ∉ room.players.keys := by
      intro hm
      exact (List.nodup_append.mp hnd).2.2 p hm p List.mem_cons_self rfl
    have hadd : (room.addPlayer p).playerIds = room.playerIds ++ [p] := by
      rw [Room.addPlayer, if_neg (not_not.mpr hstate)]
      exact UMap.keys_insert_of_notMem hp {}
    have hwait : (room.addPlayer p).state = .waiting := by
      rw [Room.addPlayer, if_neg (not_not.mpr hstate)]
      exact hstate
    rw [List.foldl_cons, playerIds_addPlayers players _ hwait, hadd, List.append_assoc]
    · rfl
    · rwa [hadd, List.append_assoc]

theorem state_addPlayers : ∀ (players : List PlayerId) (room : Room),
    (players.foldl Room.addPlayer room).state = room.state
  | [], _ => rfl
  | p :: players, room => by
    rw [List.foldl_cons, state_addPlayers players]
    unfold Room.addPlayer
    split <;> rfl

theorem places_openRoom (s : Server F) {players : List PlayerId} (hnd : players.Nodup) :
    (s.openRoom players).places = s.places.form players s.matchQueue := by
  unfold places openRoom Places.form
  congr 1
  funext r
  dsimp only
  by_cases hr : r = s.nextRoomId
  · rw [hr, Function.update_self, Function.update_self]
    rw [playerIds_addPlayers players {} rfl (by simpa [Room.playerIds] using hnd)]
    rfl
  · rw [Function.update_of_ne hr, Function.update_of_ne hr]

/-- `CreateRoom` forms a room. -/
theorem places_createRoom (s : Server F) {players : List PlayerId} (hnd : players.Nodup) :
    (s.createRoom players).2.places = s.places.form players s.matchQueue := by
  have hsame : (s.createRoom players).2.places = (s.openRoom players).places :=
    view_enterRooms places (fun _ _ _ => rfl) (fun _ _ _ => rfl) s.nextRoomId players _
  exact hsame.trans (places_openRoom s hnd)

/-- The loop after it leaves everybody in place. -/
theorem places_formRoom (s : Server F) {players : List PlayerId} (hnd : players.Nodup) :
    (s.formRoom players).places = s.places.form players s.matchQueue := by
  have hjoin : ∀ (t : Server F) p, (joinRoom s.nextRoomId players t p).places = t.places :=
    fun t p => (via_joinRoom _ players t p).places (by decide) (by decide)
  exact (foldl_frame hjoin players _).trans (s.places_createRoom hnd)

/-! ## Matching -/

/-- What a section of the queue that leaves the players alone and the forming of a room keep, the
loop of `TryCreateRoom` keeps. -/
theorem tryCreateRoomLoop_rule {P : Places → Prop}
    (hsame : ∀ {w : Places} {queue : MatchQueue}, P w → queue.queue = w.queue.queue →
      P { w with queue := queue })
    (hform : ∀ {w : Places} {players : List PlayerId} {queue : MatchQueue}, P w →
      players ++ queue.queue = w.queue.queue → P (w.form players queue)) :
    ∀ (fuel : Nat) {s : Server F}, P s.places → P (tryCreateRoomLoop fuel s).places
  | 0, _, h => h
  | fuel + 1, s, h => by
    have hsplit := s.matchQueue.tryPopN_append s.needCount
    have hnd := s.matchQueue.queue_nodup
    rw [← hsplit, List.nodup_append] at hnd
    rw [tryCreateRoomLoop]
    split
    next players queue hpop =>
    rw [hpop] at hsplit hnd
    dsimp only at hsplit hnd ⊢
    split
    · next hnil =>
      rw [hnil] at hsplit
      exact hsame h hsplit
    · refine tryCreateRoomLoop_rule hsame hform fuel ?_
      rw [places_formRoom _ hnd.1]
      exact hform (w := s.places) h hsplit

/-- The same for `StartMatching`, after the player has been pushed. -/
theorem startMatching_rule {P : Places → Prop}
    (hsame : ∀ {w : Places} {queue : MatchQueue}, P w → queue.queue = w.queue.queue →
      P { w with queue := queue })
    (hform : ∀ {w : Places} {players : List PlayerId} {queue : MatchQueue}, P w →
      players ++ queue.queue = w.queue.queue → P (w.form players queue))
    {s : Server F} {p : PlayerId} (hkeep : (s.matchQueue.push p).1 = false → P s.places)
    (hpush : (s.matchQueue.push p).1 = true →
      P { s.places with queue := (s.matchQueue.push p).2 })
    (session : SessionId) (message : String) :
    P (s.startMatching p session message).2.places := by
  unfold startMatching
  split
  · next hzero =>
    refine hkeep ?_
    rw [← Bool.not_eq_true, MatchQueue.push_eq_true_iff]
    exact fun h => h.1 hzero
  · have hstays := @MatchQueue.push_of_false s.matchQueue p
    split
    next pushed queue hp =>
    rw [hp] at hkeep hpush hstays
    dsimp only at hkeep hpush hstays ⊢
    split
    · next hfalse =>
      have hqueue : queue = s.matchQueue := hstays hfalse
      subst hqueue
      split <;> exact hkeep hfalse
    · next htrue =>
      exact tryCreateRoomLoop_rule hsame hform _ (hpush (by simpa using htrue))

/-- `HandleMatch` does to the places what `StartMatching` does. -/
theorem places_handleMatch (s : Server F) (session : SessionId) (requested : PlayerId) :
    (s.handleMatch session (some requested)).places =
      (s.startMatching (s.actingPlayer session requested) session "matching").2.places := by
  rw [handleMatch]
  split
  · next hzero => rw [startMatching, if_pos hzero]
  · split
    · next heq =>
      rw [heq]
      rfl
    · next heq => rw [heq]

/-- `GetPlayerRoom` only returns registered rooms. -/
theorem getPlayerRoom_mem {s : Server F} {p : PlayerId} {roomId : RoomId}
    (h : s.getPlayerRoom p = some roomId) : roomId ∈ s.roomManager.rooms := by
  obtain ⟨r, -, hr⟩ := Option.bind_eq_some_iff.mp h
  obtain ⟨rfl, hmem⟩ := getRoom_eq_some hr
  exact hmem

end Server
end Game
