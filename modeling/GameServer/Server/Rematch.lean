import GameServer.Server.MatchingThreads

/-!
# Rematch after a game

The tick callback of an ended room tells the players that the game is over, and only then closes
the room and removes it. A player who asks for a new match at once may get the new room before the
old one has been cleaned up. The cleanup then erases the entry of the new room in
`player_room_map_` and puts the room ids back to 0.

`rematch_linked` says when this does not happen.
-/

namespace Game

open Infra

variable {ι F : Type} [DecidableEq ι]

/-- `player_room_map_`, `Session::RoomId` and `Player::RoomId` point to the room, for each player
of each live room from `first` on. -/
def Server.LinkedFrom (first : RoomId) (s : Server F) : Prop :=
  ∀ r ∈ s.roomManager.rooms, first ≤ r → ∀ p ∈ (s.roomHeap r).playerIds,
    s.roomManager.playerRoomMap p = some r ∧ s.sessionRoomId p = some r ∧ s.playerRoomId p = r

/-- The start: the settlement of the room has succeeded, and match requests come in. -/
structure Threads.Settled (ended : RoomId) (c : Threads (Option ι) F) : Prop where
  tail : ∃ winnerId losers, c.threads none = .tail (some (.announce ended winnerId losers))
  request : ∀ i, (∃ session requested, c.threads (some i) = .handler (.handleMatch session requested) ∧
    c.shared.connectionManager.getByPlayerId (c.shared.actingPlayer session requested) =
      some session) ∨ c.threads (some i) = .handler .done
  distinct : c.shared.SessionsDistinct
  room : ended ∈ c.shared.roomManager.rooms
  rooms_lt : ∀ r ∈ c.shared.roomManager.rooms, r < c.shared.nextRoomId
  online : ∀ p ∈ c.shared.matchQueue.queue, c.shared.sessionRoomId p ≠ none

/-- The session of a match request that has not begun. -/
def Thread.requests : Thread F → Option SessionId
  | .handler (.handleMatch session _) => some session
  | _ => none

/-- `GameOverNotify` of the room. -/
def Message.isGameOver (roomId : RoomId) : Message F → Bool
  | .gameOverNotify r _ _ => r = roomId
  | _ => false

/-- No match request begins before its player has been sent `GameOverNotify`. -/
def Threads.Invited (ended : RoomId) (c : Threads (Option ι) F) (e : Option ι × LoopChoice) : Prop :=
  ∀ session ∈ (c.threads e.1).requests,
    ∃ sent ∈ c.shared.out, sent.1 = session ∧ sent.2.isGameOver ended = true

instance (ended : RoomId) (c : Threads (Option ι) F) (e : Option ι × LoopChoice) :
    Decidable (c.Invited ended e) :=
  inferInstanceAs (Decidable (∀ session ∈ (c.threads e.1).requests,
    ∃ sent ∈ c.shared.out, sent.1 = session ∧ sent.2.isGameOver ended = true))

omit [DecidableEq ι] in
/-- Nothing is linked yet, so nothing is linked wrongly. -/
theorem Threads.Settled.linked {ended : RoomId} {c : Threads (Option ι) F} (hc : c.Settled ended) :
    c.Linked c.shared.nextRoomId (some ended) (c.shared.roomHeap ended).playerIds := by
  obtain ⟨winnerId, losers, htail⟩ := hc.tail
  have hlt := hc.rooms_lt ended hc.room
  -- only the end of the tick callback has anything ahead of it
  have hahead : ∀ i, (c.threads (some i)).ahead (c.shared.roomHeap ended).playerIds = Ahead.none := by
    intro i
    rcases hc.request i with ⟨session, requested, hi, -⟩ | hi <;> rw [hi] <;> rfl
  have hholds : ∀ i p, ¬ ((c.threads i).ahead (c.shared.roomHeap ended).playerIds).holds p := by
    intro i p
    cases i with
    | none => rw [htail]; exact id
    | some i => rw [hahead i]; exact id
  have hjoins : ∀ i r p, ¬ ((c.threads i).ahead (c.shared.roomHeap ended).playerIds).joins r p := by
    intro i r p
    cases i with
    | none => rw [htail]; exact id
    | some i => rw [hahead i]; exact id
  exact {
    distinct := hc.distinct
    serves := by
      intro i
      cases i with
      | none => rw [htail]; exact rfl
      | some i =>
        rcases hc.request i with ⟨session, requested, hi, hserves⟩ | hi
        · rw [hi]; exact hserves
        · rw [hi]; trivial
    links := by
      refine LinkInv.start (l := c.shared.links) hc.rooms_lt hc.online ?_ ?_
      · rintro p ⟨i, hi⟩
        exact hholds i p hi.2
      · rintro r p ⟨i, hi⟩
        exact hjoins i r p hi.2
    holders := fun i _ p hi _ => absurd hi (hholds i p)
    ended_lt := by
      rintro r ⟨⟩
      exact hlt
    members := by
      rintro r ⟨⟩
      rfl }

omit [DecidableEq ι] in
/-- When nothing is ahead any more, the links are right. -/
theorem Threads.Linked.linkedFrom {first : RoomId} {ended : Option RoomId} {old : List PlayerId}
    {c : Threads ι F} (h : c.Linked first ended old)
    (hdone : ∀ i, (c.threads i).isDone = true) : c.shared.LinkedFrom first := by
  intro r hr hfirst p hp
  have hnew : c.shared.links.places.New first r p := ⟨hr, hfirst, hp⟩
  refine ⟨h.links.map hnew, h.links.session hnew, ?_⟩
  rcases h.links.player hnew with ⟨hroom, -⟩ | ⟨i, -, hi⟩
  · exact hroom
  · dsimp only at hi
    rw [Thread.ahead_of_isDone (hdone i)] at hi
    exact hi.elim

variable [Axis F]

/--
**Rematch after game over.**

The end of the tick callback of a room and match requests in any number and any interleaving. When
all of them are done, the three room ids of every player of a new room are right, provided that

* a room is created for players whose entries and sessions no other thread has still to reset,
* `Player::RoomId` is set to the new room when no other thread has still to reset it, and
* nobody joins the queue who is in a new room or about to get one.
-/
theorem Threads.rematch_linked {ended : RoomId} {c : Threads (Option ι) F} (hc : c.Settled ended)
    (events : List (Option ι × LoopChoice))
    (hdone : ∀ i, ((events.foldl step c).threads i).isDone = true)
    (htime : AllSteps step (InTime c.shared.nextRoomId (c.shared.roomHeap ended).playerIds) c
      events) :
    (events.foldl step c).shared.LinkedFrom c.shared.nextRoomId := by
  have hlast := (AllStates.of_allSteps (fun _ _ h => h.step) events hc.linked htime).last
  exact hlast.linkedFrom hdone

/-! ## A rematch that comes too soon -/

/-- Two players whose battle is over. -/
def surrendered : Server Coord :=
  ((Server.init 2).run [.accept 0, .accept 0,
    .packet 1 0 (.login ⟨"player_100000", 1000⟩ (some "a")),
    .packet 2 0 (.login ⟨"player_100001", 1000⟩ (some "b")),
    .packet 1 0 (.match (some 0)), .packet 2 0 (.match (some 0)),
    .packet 1 0 (.ready (some true)), .packet 2 0 (.ready (some true)),
    .packet 1 0 (.leaveRoom (some 0))]).updateRoom 1000 Room.setSettlement

/-- The second player has won; both ask for another match. -/
def rematch : Threads (Option Bool) Coord where
  shared := surrendered
  threads
    | none => .tail (some (.announce 1000 100001 [100000]))
    | some false => .handler (.handleMatch 1 0)
    | some true => .handler (.handleMatch 2 0)

theorem surrendered_playerSessions : surrendered.connectionManager.playerSessions =
    Function.update (Function.update (fun _ => none) 100000 (some 1)) 100001 (some 2) := rfl

theorem surrendered_distinct : surrendered.SessionsDistinct := by
  intro p q session hp hq
  unfold ConnectionManager.getByPlayerId at hp hq
  rw [surrendered_playerSessions] at hp hq
  simp only [Function.update_apply] at hp hq
  grind

theorem rematch_settled : rematch.Settled 1000 where
  tail := ⟨_, _, rfl⟩
  request i := by
    cases i with
    | false => exact Or.inl ⟨1, 0, rfl, by decide⟩
    | true => exact Or.inl ⟨2, 0, rfl, by decide⟩
  distinct := surrendered_distinct
  room := by decide
  rooms_lt := by decide
  online := by decide

/-- Both have got the new room before the old one is removed. -/
def tooSoon : List (Option Bool × LoopChoice) :=
  turns none 3 ++ turns (some false) 8 ++ turns (some true) 17 ++ turns none 12

/-- The old room is removed first. -/
def inOrder : List (Option Bool × LoopChoice) :=
  turns none 15 ++ turns (some false) 8 ++ turns (some true) 17

theorem tooSoon_done : ∀ i, ((tooSoon.foldl Threads.step rematch).threads i).isDone = true := by
  decide

theorem tooSoon_invited : AllSteps Threads.step (Threads.Invited 1000) rematch tooSoon := by
  decide

theorem tooSoon_not_linked :
    ¬ (tooSoon.foldl Threads.step rematch).shared.LinkedFrom 1001 := by
  intro h
  have hmap := (h 1001 (by decide) (by decide) 100000 (by decide)).1
  exact absurd hmap (by decide)

theorem inOrder_done : ∀ i, ((inOrder.foldl Threads.step rematch).threads i).isDone = true := by
  decide

theorem inOrder_alone : AllSteps Threads.step (Threads.Alone 1001) rematch inOrder := by
  decide

theorem rematch_linked_inOrder : (inOrder.foldl Threads.step rematch).shared.LinkedFrom 1001 :=
  Threads.rematch_linked rematch_settled inOrder inOrder_done
    (AllSteps.imp (fun _ _ h => h.inTime _) inOrder inOrder_alone)

theorem rematch_counterexample :
    ¬ ∀ (ended : RoomId) (c : Threads (Option Bool) Coord) (events : List (Option Bool × LoopChoice)),
      c.Settled ended → AllSteps Threads.step (Threads.Invited ended) c events →
      (∀ i, ((events.foldl Threads.step c).threads i).isDone = true) →
      (events.foldl Threads.step c).shared.LinkedFrom c.shared.nextRoomId := fun h =>
  tooSoon_not_linked (h 1000 rematch tooSoon rematch_settled tooSoon_invited tooSoon_done)

end Game
