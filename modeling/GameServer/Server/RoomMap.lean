import GameServer.Server.RoomRemoval
import GameServer.Server.Threads

/-!
# Concurrent calls of CreateRoom and RemoveRoom

`CreateRoom` takes an id and builds the room before it locks `mutex_`, so the calls may register
their rooms in another order than that of the ids. `RemoveRoom` erases the entries of the players
of the room without looking at where they lead, and the lists of different calls may overlap.

## Why no entry dangles

An entry leads to a registered room with the player in it (`Server.Mapped`). So the entries that
lead to a room are among those of its players, and `RemoveRoom` erases all of these. That it may
erase entries to other rooms as well does no harm.
-/

namespace Game

open Infra

variable {ι F : Type}

/-! ## The calls -/

namespace Server

/-- The first part of `CreateRoom`: the id, and the room with its players, which nobody else has
yet. -/
def buildRoom (s : Server F) (playerIds : List PlayerId) : RoomId × Server F :=
  (s.nextRoomId,
    { s with
      nextRoomId := s.nextRoomId + 1
      roomHeap := Function.update s.roomHeap s.nextRoomId (playerIds.foldl Room.addPlayer {}) })

/-- The locked part of `CreateRoom`. -/
def registerRoom (s : Server F) (roomId : RoomId) (playerIds : List PlayerId) : Server F :=
  playerIds.foldl (enterRoom roomId)
    { s with roomManager := { s.roomManager with rooms := insert roomId s.roomManager.rooms } }

/-- The two parts with nothing in between. -/
theorem createRoom_eq (s : Server F) (playerIds : List PlayerId) : s.createRoom playerIds =
    let (roomId, s) := s.buildRoom playerIds
    (roomId, s.registerRoom roomId playerIds) := rfl

end Server

/-- A call of `RoomManager`, from any thread. -/
inductive RoomManagerCall where
  | createRoom (playerIds : List PlayerId)
  | removeRoom (roomId : RoomId)

/-- Where a call is. -/
inductive RoomManagerPc where
  | build (playerIds : List PlayerId)
  | register (roomId : RoomId) (playerIds : List PlayerId)
  | removing (pc : RemovePc)
  | done

def RoomManagerCall.start : RoomManagerCall → RoomManagerPc
  | .createRoom playerIds => .build playerIds
  | .removeRoom roomId => .removing (.erase roomId)

/-- One step of a call. -/
def RoomManagerPc.next (s : Server F) : RoomManagerPc → Server F × RoomManagerPc
  | .build playerIds =>
    let (roomId, s) := s.buildRoom playerIds
    (s, .register roomId playerIds)
  | .register roomId playerIds => (s.registerRoom roomId playerIds, .done)
  | .removing pc =>
    match pc.next s with
    | (s, some pc) => (s, .removing pc)
    | (s, none) => (s, .done)
  | .done => (s, .done)

/-- Calls over one server. -/
abbrev RoomManagerCalls (ι F : Type) := Sys ι (Server F) RoomManagerPc

namespace RoomManagerCalls

/-- One step of the call `e.1`; the environment has nothing to choose. -/
abbrev step [DecidableEq ι] (c : RoomManagerCalls ι F) (e : ι × Unit) : RoomManagerCalls ι F :=
  Sys.step (fun _ => RoomManagerPc.next) c e

/-- The calls before the first step, on a server whose `RoomManager` is new. -/
def start (s : Server F) (calls : ι → RoomManagerCall) : RoomManagerCalls ι F :=
  { shared := { s with roomManager := {} }, threads := fun i => (calls i).start }

/-- The map is sound, and a room that has been built has its players and waits to be registered by
one call. -/
structure Sound (c : RoomManagerCalls ι F) : Prop where
  mapped : c.shared.Mapped
  built : ∀ i r players, c.threads i = .register r players →
    r < c.shared.nextRoomId ∧ r ∉ c.shared.roomManager.rooms ∧
      ∀ p ∈ players, p ∈ (c.shared.roomHeap r).playerIds
  unique : ∀ i j r players players', c.threads i = .register r players →
    c.threads j = .register r players' → i = j

end RoomManagerCalls

/-! ## What a step leaves alone -/

theorem mem_playerIds_addPlayers {p : PlayerId} : ∀ (players : List PlayerId) {room : Room},
    room.state = .waiting → (p ∈ (players.foldl Room.addPlayer room).playerIds ↔
      p ∈ room.playerIds ∨ p ∈ players)
  | [], room, _ => by simp
  | q :: players, room, hwait => by
    have hadd : room.addPlayer q = { room with players := room.players.insert q {} } :=
      if_neg (not_not.mpr hwait)
    have hmem : p ∈ (room.addPlayer q).playerIds ↔ p = q ∨ p ∈ room.playerIds := by
      rw [hadd]
      exact UMap.mem_keys_insert
    rw [List.foldl_cons, mem_playerIds_addPlayers players (by rw [hadd]; exact hwait), hmem,
      List.mem_cons]
    tauto

namespace Server

theorem registerRoom_rooms (s : Server F) (r : RoomId) (players : List PlayerId) :
    (s.registerRoom r players).roomManager.rooms = insert r s.roomManager.rooms ∧
      (s.registerRoom r players).roomHeap = s.roomHeap ∧
      (s.registerRoom r players).nextRoomId = s.nextRoomId := by
  have hsame {α : Type} (view : Server F → α) (hmap hsession) :=
    view_enterRooms view hmap hsession r players
      { s with roomManager := { s.roomManager with rooms := insert r s.roomManager.rooms } }
  exact ⟨hsame (·.roomManager.rooms) (fun _ _ _ => rfl) fun _ _ _ => rfl,
    hsame roomHeap (fun _ _ _ => rfl) fun _ _ _ => rfl,
    hsame nextRoomId (fun _ _ _ => rfl) fun _ _ _ => rfl⟩

/-- What the map and the rooms depend on. -/
structure SameTables (s s' : Server F) : Prop where
  manager : s'.roomManager = s.roomManager
  heap : s'.roomHeap = s.roomHeap
  nextRoomId : s'.nextRoomId = s.nextRoomId

/-- After its locked part `RemoveRoom` is done with the rooms. -/
theorem sameTables_remove (s : Server F) {pc : RemovePc} (h : ∀ r, pc ≠ .erase r) :
    s.SameTables (pc.next s).1 := by
  cases pc with
  | erase r => exact absurd rfl (h r)
  | resetSession r todo =>
    cases todo with
    | nil => exact ⟨rfl, rfl, rfl⟩
    | cons p todo =>
      dsimp only [RemovePc.next]
      split
      · exact ⟨rfl, rfl, rfl⟩
      · exact ⟨rfl, rfl, rfl⟩
  | resetRoom | resetStatus | removeGame => exact ⟨rfl, rfl, rfl⟩

end Server

/-! ## One step -/

namespace RoomManagerCalls

variable [DecidableEq ι] {c : RoomManagerCalls ι F} {e : ι × Unit}

theorem step_of_next {s : Server F} {pc : RoomManagerPc}
    (h : RoomManagerPc.next c.shared (c.threads e.1) = (s, pc)) :
    (c.step e).shared = s ∧ ∀ j, (c.step e).threads j = if j = e.1 then pc else c.threads j :=
  Sys.step_of_next h

/-- A call that goes on to nothing that is to be registered. -/
theorem Sound.quiet (h : c.Sound) {s : Server F} {pc : RoomManagerPc}
    (hnext : RoomManagerPc.next c.shared (c.threads e.1) = (s, pc)) (hs : s.Mapped)
    (hpc : ∀ r players, pc ≠ .register r players)
    (hbuilt : ∀ i r players, i ≠ e.1 → c.threads i = .register r players →
      r < s.nextRoomId ∧ r ∉ s.roomManager.rooms ∧ ∀ p ∈ players, p ∈ (s.roomHeap r).playerIds) :
    (c.step e).Sound := by
  obtain ⟨hshared, hthreads⟩ := step_of_next hnext
  have hother : ∀ i r players, (c.step e).threads i = .register r players →
      i ≠ e.1 ∧ c.threads i = .register r players := by
    intro i r players hi
    rw [hthreads i] at hi
    split at hi
    · exact absurd hi (hpc r players)
    · next hne => exact ⟨hne, hi⟩
  constructor
  · rw [hshared]
    exact hs
  · intro i r players hi
    obtain ⟨hne, hi⟩ := hother i r players hi
    rw [hshared]
    exact hbuilt i r players hne hi
  · intro i j r players players' hi hj
    exact h.unique i j r players players' (hother i r players hi).2 (hother j r players' hj).2

theorem sound_build (h : c.Sound) {players : List PlayerId}
    (hpc : c.threads e.1 = .build players) : (c.step e).Sound := by
  have hnext : RoomManagerPc.next c.shared (c.threads e.1) =
      ((c.shared.buildRoom players).2, .register c.shared.nextRoomId players) := by
    rw [hpc]
    rfl
  obtain ⟨hshared, hthreads⟩ := step_of_next hnext
  have hlt := Int.lt_add_one_of_le (le_refl c.shared.nextRoomId)
  -- The rooms there are have smaller ids than the new one.
  have hheap : ∀ r, r < c.shared.nextRoomId →
      (c.shared.buildRoom players).2.roomHeap r = c.shared.roomHeap r :=
    fun r hr => Function.update_of_ne hr.ne ..
  constructor
  · rw [hshared]
    refine ⟨fun r hr => (h.mapped.rooms r hr).trans hlt, fun p r hp => ?_⟩
    obtain ⟨hr, hmem⟩ := h.mapped.entries p r hp
    refine ⟨hr, ?_⟩
    rw [hheap r (h.mapped.rooms r hr)]
    exact hmem
  · intro i r players' hi
    rw [hthreads i] at hi
    rw [hshared]
    split at hi
    · cases hi
      refine ⟨hlt, fun hr => absurd (h.mapped.rooms _ hr) (lt_irrefl _), fun p hp => ?_⟩
      show p ∈ (Function.update c.shared.roomHeap c.shared.nextRoomId
        (players.foldl Room.addPlayer {}) c.shared.nextRoomId).playerIds
      rw [Function.update_self, mem_playerIds_addPlayers players rfl]
      exact Or.inr hp
    · obtain ⟨hr, hnew, hmem⟩ := h.built i r players' hi
      refine ⟨hr.trans hlt, hnew, ?_⟩
      rw [hheap r hr]
      exact hmem
  · intro i j r players₁ players₂ hi hj
    have hold : ∀ k players', c.threads k = .register r players' → r ≠ c.shared.nextRoomId :=
      fun k players' hk => (h.built k r players' hk).1.ne
    rw [hthreads] at hi hj
    split at hi <;> split at hj
    · next hi' hj' => rw [hi', hj']
    · cases hi
      exact absurd rfl (hold j players₂ hj)
    · cases hj
      exact absurd rfl (hold i players₁ hi)
    · exact h.unique i j r players₁ players₂ hi hj

theorem sound_register (h : c.Sound) {r : RoomId} {players : List PlayerId}
    (hpc : c.threads e.1 = .register r players) : (c.step e).Sound := by
  obtain ⟨hlt, hnew, hplayers⟩ := h.built e.1 r players hpc
  obtain ⟨hrooms, hheap, hnext⟩ := c.shared.registerRoom_rooms r players
  have hdone : RoomManagerPc.next c.shared (c.threads e.1) =
      (c.shared.registerRoom r players, .done) := by
    rw [hpc]
    rfl
  refine h.quiet hdone ⟨fun r' hr' => ?_, fun p r' hp => ?_⟩ (fun _ _ => nofun)
    fun i r' players' hi hpc' => ?_
  · rw [hrooms, Finset.mem_insert] at hr'
    rw [hnext]
    rcases hr' with rfl | hr'
    · exact hlt
    · exact h.mapped.rooms r' hr'
  · rw [Server.registerRoom, Server.map_enterRooms] at hp
    rw [hrooms, hheap, Finset.mem_insert]
    split at hp
    · next hmem =>
      cases hp
      exact ⟨Or.inl rfl, hplayers p hmem⟩
    · obtain ⟨hr', hmem⟩ := h.mapped.entries p r' hp
      exact ⟨Or.inr hr', hmem⟩
  · obtain ⟨hlt', hnew', hplayers'⟩ := h.built i r' players' hpc'
    rw [hrooms, hheap, hnext, Finset.mem_insert, not_or]
    refine ⟨hlt', ⟨?_, hnew'⟩, hplayers'⟩
    -- The other call has a room of its own.
    rintro rfl
    exact hi (h.unique i e.1 _ players' players hpc' hpc)

theorem sound_erase (h : c.Sound) {r : RoomId} (hpc : c.threads e.1 = .removing (.erase r)) :
    (c.step e).Sound := by
  have hnext : RoomManagerPc.next c.shared (c.threads e.1) =
      ((c.shared.eraseRoom r).2, .removing (.resetSession r (c.shared.eraseRoom r).1)) := by
    rw [hpc]
    rfl
  refine h.quiet hnext (h.mapped.eraseRoom r) (fun _ _ => nofun) fun i r' players' _ hpc' => ?_
  obtain ⟨hlt, hnew, hplayers⟩ := h.built i r' players' hpc'
  exact ⟨hlt, fun hr' => hnew (Finset.mem_of_mem_erase hr'), hplayers⟩

/-- A step that has nothing to do with the rooms. -/
theorem sound_same (h : c.Sound) {s : Server F} {pc : RoomManagerPc}
    (hnext : RoomManagerPc.next c.shared (c.threads e.1) = (s, pc))
    (hpc : ∀ r players, pc ≠ .register r players) (hs : c.shared.SameTables s) :
    (c.step e).Sound := by
  obtain ⟨hmanager, hheap, hnextId⟩ := hs
  refine h.quiet hnext ⟨?_, ?_⟩ hpc fun i r players _ hi => ?_
  · rw [hmanager, hnextId]
    exact h.mapped.rooms
  · rw [hmanager, hheap]
    exact h.mapped.entries
  · rw [hmanager, hheap, hnextId]
    exact h.built i r players hi

/-- **One step of one call.** -/
theorem sound_step (h : c.Sound) : (c.step e).Sound := by
  cases hpc : c.threads e.1 with
  | build players => exact sound_build h hpc
  | register r players => exact sound_register h hpc
  | done =>
    have hnext : RoomManagerPc.next c.shared (c.threads e.1) = (c.shared, .done) := by
      rw [hpc]
      rfl
    exact sound_same h hnext (fun _ _ => nofun) ⟨rfl, rfl, rfl⟩
  | removing pc =>
    by_cases herase : ∃ r, pc = .erase r
    · obtain ⟨r, rfl⟩ := herase
      exact sound_erase h hpc
    · have hsame := c.shared.sameTables_remove fun r hr => herase ⟨r, hr⟩
      obtain ⟨pc', hnext, hpc'⟩ : ∃ pc',
          RoomManagerPc.next c.shared (c.threads e.1) = ((pc.next c.shared).1, pc') ∧
            ∀ r players, pc' ≠ .register r players := by
        rw [hpc, RoomManagerPc.next]
        rcases pc.next c.shared with ⟨s, _ | pc'⟩
        · exact ⟨.done, rfl, fun _ _ => nofun⟩
        · exact ⟨.removing pc', rfl, fun _ _ => nofun⟩
      exact sound_same h hnext hpc' hsame

omit [DecidableEq ι] in
theorem sound_start (s : Server F) (calls : ι → RoomManagerCall) : (start s calls).Sound := by
  have hnot : ∀ i r players, (calls i).start ≠ .register r players := by
    intro i r players
    cases calls i <;> exact nofun
  refine ⟨⟨?_, ?_⟩, ?_, ?_⟩
  · intro r hr
    cases hr
  · intro p r hp
    cases hp
  · intro i r players hi
    exact absurd hi (hnot i r players)
  · intro i j r players players' hi
    exact absurd hi (hnot i r players)

/--
**`player_room_map_` never dangles.**

Any calls of `CreateRoom` and `RemoveRoom`, with any lists of players and any ids, interleaved in any
way. Every entry leads to a registered room with the player in it; and `GetPlayerRoom` finds no entry
or returns such a room.
-/
theorem map_never_dangles (s : Server F) (calls : ι → RoomManagerCall) (es : List (ι × Unit)) :
    let w := (es.foldl step (start s calls)).shared
    (∀ p r, w.roomManager.playerRoomMap p = some r →
      r ∈ w.roomManager.rooms ∧ p ∈ (w.roomHeap r).playerIds) ∧
    ∀ p, (w.getPlayerRoom p = none ∧ w.roomManager.playerRoomMap p = none) ∨
      ∃ r, w.getPlayerRoom p = some r ∧ p ∈ (w.roomHeap r).playerIds := by
  intro w
  have hsound : (es.foldl step (start s calls)).Sound :=
    last_of_stable (fun _ _ h => sound_step h) es (sound_start s calls)
  have hentries := hsound.mapped.entries
  refine ⟨hentries, fun p => ?_⟩
  cases hp : w.roomManager.playerRoomMap p with
  | none => exact Or.inl ⟨by rw [Server.getPlayerRoom, hp, Option.bind_none], rfl⟩
  | some r =>
    obtain ⟨hr, hmem⟩ := hentries p r hp
    refine Or.inr ⟨r, ?_, hmem⟩
    rw [Server.getPlayerRoom, hp, Option.bind_some, Server.getRoom, if_pos hr]

end RoomManagerCalls
end Game
