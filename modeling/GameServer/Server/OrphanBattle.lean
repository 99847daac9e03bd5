import GameServer.Server.Roles

/-!
# Orphan battles

`HandleReady` switches a room to Playing in one section and registers its battle in another.
`HandleLeaveRoom` looks at the state in one section and removes the room in others. A leaver that
has seen the room Waiting may finish before the battle is registered, and then nobody takes the
battle off any more.

## The argument

* A registered battle has its room, or somebody who saw the room Waiting has yet to take the battle
  off (`Consistent.battle`). Every move keeps this, except a registration that comes too late.
* A battle that is registered too late stays an orphan (`Orphan`): its room has left Waiting, so
  nobody else will dissolve it.
-/

namespace Game

open Infra

/-! ## The invariant on the abstract view -/

/-- What holds of rooms, battles and the roles of the workers at any time. -/
structure Consistent {ι : Type} (v : Battles) (role : ι → Role) : Prop where
  rooms_lt : ∀ r ∈ v.rooms, r < v.nextRoomId
  games_lt : ∀ r ∈ v.games, r < v.nextRoomId
  about_lt : ∀ i r, (role i).about r → r < v.nextRoomId
  erased : ∀ i r, role i = .erased r → r ∉ v.rooms
  starts : ∀ i r, (role i).starts r → v.state r = .playing
  battle : ∀ r ∈ v.games, (v.state r = .playing ∨ v.state r = .settlement) ∧
    (r ∈ v.rooms ∨ ∃ i, (role i).unregisters r)
  playing : ∀ r ∈ v.rooms, v.state r = .playing → r ∈ v.games ∨ ∃ i, (role i).starts r

/-- A registered battle without a room and without anybody who will take it off. -/
structure Orphan {ι : Type} (v : Battles) (role : ι → Role) (r : RoomId) : Prop where
  game : r ∈ v.games
  no_room : r ∉ v.rooms
  old : r < v.nextRoomId
  started : v.state r ≠ .waiting
  nobody : ∀ i, ¬ (role i).unregisters r

theorem Role.about_of_starts {r : RoomId} {a : Role} (h : a.starts r) : a.about r := by
  cases a with
  | starting r' => exact h
  | registering r' => exact h
  | idle => exact h
  | leaving r' => exact h.elim
  | erased r' => exact h.elim

section Moves

variable {ι : Type} [DecidableEq ι] {v v' : Battles} {role : ι → Role} {i : ι} {a : Role}

/-- What every worker meets it still does, if the one that moves does. -/
theorem forall_update {Q : Role → Prop} (h : ∀ j, Q (role j)) (ha : Q a) (j : ι) :
    Q (Function.update role i a j) := by
  by_cases hji : j = i
  · subst hji
    rwa [Function.update_self]
  · rw [Function.update_of_ne hji]
    exact h j

/--
**A move keeps the view consistent**, if no battle is registered whose room is gone and that
nobody will take off.
-/
theorem Consistent.move (h : Consistent v role) (hmove : Move v (role i) v' a)
    (hguard : ∀ r, role i = .registering r → r ∈ v.rooms ∨ ∃ j, (role j).unregisters r) :
    Consistent v' (Function.update role i a) := by
  obtain ⟨hrooms, hgames, habout, herased, hstarts, hbattle, hplaying⟩ := h
  have habout' : ∀ j r, (role j).starts r → r < v.nextRoomId :=
    fun j r hj => habout j r (Role.about_of_starts hj)
  have hiabout := habout i
  have histarts := hstarts i
  generalize hb : role i = b at hmove hguard hiabout histarts
  cases hmove with
  | stay =>
    rw [← hb, Function.update_eq_self]
    exact ⟨hrooms, hgames, habout, herased, hstarts, hbattle, hplaying⟩
  | openRoom =>
    -- the new id is above all the ids in use
    rw [← hb, Function.update_eq_self]
    exact {
      rooms_lt := by grind
      games_lt := by grind
      about_lt := by grind
      erased := by grind [Role.about]
      starts := by grind
      battle := by grind
      playing := by grind }
  | start r hr hstate =>
    exact {
      rooms_lt := hrooms
      games_lt := hgames
      about_lt := by grind [Role.about]
      erased := by grind
      starts := by grind [Role.starts]
      battle := by simp only [Function.update_apply]; grind [Role.unregisters]
      playing := by simp only [Function.update_apply]; grind [Role.starts] }
  | snapshot r =>
    have hr : r < v.nextRoomId := hiabout r rfl
    have hstate : v.state r = .playing := histarts r rfl
    exact {
      rooms_lt := hrooms
      games_lt := hgames
      about_lt := by grind [Role.about]
      erased := by grind
      starts := by grind [Role.starts]
      battle := by simp only [Function.update_apply]; grind [Role.unregisters]
      playing := by simp only [Function.update_apply]; grind [Role.starts] }
  | register r =>
    have hr : r < v.nextRoomId := hiabout r rfl
    have hstate : v.state r = .playing := histarts r rfl
    exact {
      rooms_lt := hrooms
      games_lt := by grind [Role.about]
      about_lt := by grind [Role.about]
      erased := by grind
      starts := by grind [Role.starts]
      battle := by simp only [Function.update_apply]; grind [Role.starts, Role.unregisters]
      playing := by simp only [Function.update_apply]; grind [Role.starts] }
  | leave r hr hstate =>
    exact {
      rooms_lt := hrooms
      games_lt := hgames
      about_lt := by grind [Role.about]
      erased := by grind
      starts := by grind [Role.starts]
      battle := by simp only [Function.update_apply]; grind [Role.unregisters]
      playing := by simp only [Function.update_apply]; grind [Role.starts] }
  | erase r =>
    have hr : r < v.nextRoomId := hiabout r rfl
    exact {
      rooms_lt := by grind
      games_lt := hgames
      about_lt := by grind [Role.about]
      erased := by grind
      starts := by grind [Role.starts]
      battle := by simp only [Function.update_apply]; grind [Role.unregisters]
      playing := by simp only [Function.update_apply]; grind [Role.starts] }
  | unregister r =>
    have hr : r < v.nextRoomId := hiabout r rfl
    exact {
      rooms_lt := hrooms
      games_lt := by grind
      about_lt := by grind [Role.about]
      erased := by grind
      starts := by grind [Role.starts]
      battle := by simp only [Function.update_apply]; grind [Role.unregisters]
      playing := by simp only [Function.update_apply]; grind [Role.starts] }

/-- **An orphan stays one.** -/
theorem Orphan.move {r : RoomId} (h : Orphan v role r) (hmove : Move v (role i) v' a) :
    Orphan v' (Function.update role i a) r := by
  obtain ⟨hgame, hroom, hold, hstarted, hnobody⟩ := h
  have hi := hnobody i
  have hkeep : ∀ {a}, ¬ Role.unregisters r a → ∀ j, ¬ (Function.update role i a j).unregisters r :=
    fun ha => forall_update (Q := fun a => ¬ Role.unregisters r a) hnobody ha
  generalize hb : role i = b at hmove hi
  cases hmove with
  | stay => exact ⟨hgame, hroom, hold, hstarted, hkeep hi⟩
  | openRoom =>
    have hne : r ≠ v.nextRoomId := Int.ne_of_lt hold
    refine ⟨hgame, ?_, Int.lt_trans hold (Int.lt_succ _), ?_, hkeep hi⟩
    · rw [Finset.mem_insert]
      exact fun hr => hr.elim hne hroom
    · dsimp only
      rwa [Function.update_of_ne hne]
  | start r' hr' hstate =>
    refine ⟨hgame, hroom, hold, ?_, hkeep id⟩
    by_cases hr : r = r'
    · rw [hr]
      simp
    · dsimp only
      rwa [Function.update_of_ne hr]
  | snapshot r' => exact ⟨hgame, hroom, hold, hstarted, hkeep id⟩
  | register r' => exact ⟨Finset.mem_insert_of_mem hgame, hroom, hold, hstarted, hkeep id⟩
  | leave r' hr' hstate =>
    -- a room that has left Waiting is not seen Waiting
    have hne : ¬ r' = r := fun he => hstarted (he ▸ hstate)
    exact ⟨hgame, hroom, hold, hstarted, hkeep hne⟩
  | erase r' =>
    exact ⟨hgame, fun hr => hroom (Finset.mem_of_mem_erase hr), hold, hstarted, hkeep hi⟩
  | unregister r' =>
    have hne : r ≠ r' := fun he => hi he.symm
    exact ⟨Finset.mem_erase.mpr ⟨hne, hgame⟩, hroom, hold, hstarted, hkeep id⟩

/-- A registration that comes too late makes an orphan. -/
theorem Consistent.orphan (h : Consistent v role) {r : RoomId}
    (hi : role i = .registering r) (hroom : r ∉ v.rooms)
    (hnobody : ∀ j, ¬ (role j).unregisters r) :
    Orphan { v with games := insert r v.games } (Function.update role i .idle) r where
  game := Finset.mem_insert_self _ _
  no_room := hroom
  old := h.about_lt i r (by rw [hi]; rfl)
  started := by
    show v.state r ≠ .waiting
    rw [h.starts i r (by rw [hi]; rfl)]
    simp
  nobody := forall_update (Q := fun a => ¬ Role.unregisters r a) hnobody id

end Moves

/-! ## The threads -/

variable {ι F : Type} [DecidableEq ι]

/-- The role of a thread. -/
def Thread.role : Thread F → Role
  | .handler pc => pc.role
  | _ => .idle

/-- The room that a thread has looked up and not acted on yet. -/
def Thread.found : Thread F → Option RoomId
  | .handler pc => pc.found
  | _ => none

/-- The roles of all threads. -/
def Threads.roles (c : Threads ι F) (i : ι) : Role :=
  (c.threads i).role

/-- Some request has seen the room Waiting and has `GameLoop::RemoveRoom` still ahead of it. -/
def Threads.RemovesGame (c : Threads ι F) (r : RoomId) : Prop :=
  ∃ i, (c.roles i).unregisters r

/-- Workers only, and no room id that has not been given out. -/
structure Threads.Known (c : Threads ι F) : Prop where
  handlers : ∀ i, ∃ pc, c.threads i = .handler pc
  found_lt : ∀ i r, (c.threads i).found = some r → r < c.shared.nextRoomId
  rooms_lt : ∀ r ∈ c.shared.battles.rooms, r < c.shared.battles.nextRoomId

/-- Every registered battle has its room, and every room that is Playing has its battle. -/
structure NoOrphan (s : Server F) : Prop where
  room : ∀ r ∈ s.gameLoop, r ∈ s.roomManager.rooms ∧
    ((s.roomHeap r).state = .playing ∨ (s.roomHeap r).state = .settlement)
  battle : ∀ r ∈ s.roomManager.rooms, (s.roomHeap r).state = .playing → r ∈ s.gameLoop

/-- The start: ready and leave requests that have not begun, on a server without orphans. -/
structure Threads.Requested (c : Threads ι F) : Prop where
  request : ∀ i, (∃ session ready, c.threads i = .handler (.handleReady session ready)) ∨
    (∃ session roomId, c.threads i = .handler (.handleLeave session roomId)) ∨
    c.threads i = .handler .done
  no_orphan : NoOrphan c.shared
  rooms_lt : ∀ r ∈ c.shared.roomManager.rooms, r < c.shared.nextRoomId

/-- The step does not register a battle whose room is gone, unless a leaver that saw the room
Waiting has yet to take the battle off. -/
def Threads.RegistersInTime (c : Threads ι F) (e : ι × LoopChoice) : Prop :=
  ∀ r players, c.threads e.1 = .handler (.addGame r players) →
    r ∈ c.shared.roomManager.rooms ∨ c.RemovesGame r

theorem HandlerPc.role_registering {pc : HandlerPc F} {r : RoomId}
    (h : pc.role = .registering r) : ∃ players, pc = .addGame r players := by
  cases pc with
  | addGame r' players =>
    cases h
    exact ⟨players, rfl⟩
  | readyNotify p r' ready started => cases started <;> simp [role] at h
  | removing pc rest => cases pc <;> simp [role, RemovePc.role] at h
  | _ => simp [role] at h

variable [Axis F]

theorem Threads.roles_step {c : Threads ι F} {e : ι × LoopChoice} {pc : HandlerPc F}
    (h : c.threads e.1 = .handler pc) :
    (c.step e).roles = Function.update c.roles e.1 (pc.next c.shared).2.role := by
  funext j
  by_cases hj : j = e.1
  · subst hj
    rw [Function.update_self, roles, Sys.step_threads_self, h]
    rfl
  · rw [Function.update_of_ne hj, roles, Sys.step_threads_of_ne hj]
    rfl

theorem Threads.Known.move {c : Threads ι F} (h : c.Known) {e : ι × LoopChoice}
    {pc : HandlerPc F} (hpc : c.threads e.1 = .handler pc) :
    Move c.shared.battles (c.roles e.1) (c.step e).shared.battles
      (pc.next c.shared).2.role := by
  have hmove : Move c.shared.battles pc.role (pc.next c.shared).1.battles
      (pc.next c.shared).2.role := by
    refine pc.move fun r hr => h.found_lt e.1 r ?_
    rw [hpc]
    exact hr
  rw [Threads.roles, Sys.step_shared, hpc]
  exact hmove

theorem Move.nextRoomId_le {v v' : Battles} {a a' : Role} (h : Move v a v' a') :
    v.nextRoomId ≤ v'.nextRoomId := by
  cases h with
  | openRoom => exact Int.le_of_lt (Int.lt_succ _)
  | _ => exact Int.le_refl _

theorem Move.rooms_lt {v v' : Battles} {a a' : Role} (h : Move v a v' a')
    (hrooms : ∀ r ∈ v.rooms, r < v.nextRoomId) : ∀ r ∈ v'.rooms, r < v'.nextRoomId := by
  cases h with
  | openRoom =>
    intro r hr
    rcases Finset.mem_insert.mp hr with rfl | hr
    · exact Int.lt_succ _
    · exact Int.lt_trans (hrooms r hr) (Int.lt_succ _)
  | erase r' => exact fun r hr => hrooms r (Finset.mem_of_mem_erase hr)
  | _ => exact hrooms

/-- Every step keeps the ids known. -/
theorem Threads.Known.step {c : Threads ι F} (h : c.Known) (e : ι × LoopChoice) :
    (c.step e).Known := by
  obtain ⟨pc, hpc⟩ := h.handlers e.1
  have hmove := h.move hpc
  have hle : c.shared.nextRoomId ≤ (c.step e).shared.nextRoomId := hmove.nextRoomId_le
  have hmoved : (c.step e).threads e.1 = .handler (pc.next c.shared).2 := by
    rw [Sys.step_threads_self, hpc]
    rfl
  refine ⟨fun j => ?_, fun j r hfound => ?_, hmove.rooms_lt h.rooms_lt⟩
  · by_cases hj : j = e.1
    · exact ⟨_, hj ▸ hmoved⟩
    · rw [Sys.step_threads_of_ne hj]
      exact h.handlers j
  · by_cases hj : j = e.1
    · rw [hj, hmoved] at hfound
      obtain ⟨p, hp⟩ := HandlerPc.found_next hfound
      exact Int.lt_of_lt_of_le (h.rooms_lt r (Server.getPlayerRoom_mem hp)) hle
    · rw [Sys.step_threads_of_ne hj] at hfound
      exact Int.lt_of_lt_of_le (h.found_lt j r hfound) hle

/-- The workers on a consistent view. -/
def Threads.Orderly (c : Threads ι F) : Prop :=
  c.Known ∧ Consistent c.shared.battles c.roles

/-- The workers on a view with an orphan. -/
def Threads.Orphaned (c : Threads ι F) : Prop :=
  c.Known ∧ ∃ r, Orphan c.shared.battles c.roles r

/-- **A step in time keeps the threads orderly.** -/
theorem Threads.Orderly.step {c : Threads ι F} {e : ι × LoopChoice} (h : c.Orderly)
    (htime : c.RegistersInTime e) : (c.step e).Orderly := by
  obtain ⟨hknown, hcons⟩ := h
  obtain ⟨pc, hpc⟩ := hknown.handlers e.1
  refine ⟨hknown.step e, ?_⟩
  rw [roles_step hpc]
  refine hcons.move (hknown.move hpc) fun r hr => ?_
  have hrole : pc.role = .registering r := by
    rwa [Threads.roles, hpc] at hr
  obtain ⟨players, rfl⟩ := HandlerPc.role_registering hrole
  exact htime r players hpc

/-- A step that comes too late leaves an orphan. -/
theorem Threads.Orderly.orphaned {c : Threads ι F} {e : ι × LoopChoice} (h : c.Orderly)
    (htime : ¬ c.RegistersInTime e) : (c.step e).Orphaned := by
  obtain ⟨hknown, hcons⟩ := h
  refine ⟨hknown.step e, ?_⟩
  unfold RegistersInTime at htime
  push Not at htime
  obtain ⟨r, players, hpc, hroom, hnobody⟩ := htime
  refine ⟨r, ?_⟩
  rw [roles_step hpc, Sys.step_shared, hpc]
  refine hcons.orphan ?_ hroom fun j hj => hnobody ⟨j, hj⟩
  rw [Threads.roles, hpc]
  rfl

/-- An orphan stays, whatever the workers do. -/
theorem Threads.Orphaned.step {c : Threads ι F} (e : ι × LoopChoice) (h : c.Orphaned) :
    (c.step e).Orphaned := by
  obtain ⟨hknown, r, horphan⟩ := h
  obtain ⟨pc, hpc⟩ := hknown.handlers e.1
  refine ⟨hknown.step e, r, ?_⟩
  rw [roles_step hpc]
  exact horphan.move (hknown.move hpc)

omit [DecidableEq ι] [Axis F] in
theorem Threads.Requested.orderly {c : Threads ι F} (h : c.Requested) : c.Orderly := by
  have hidle : ∀ i, (∃ pc, c.threads i = .handler pc) ∧ (c.threads i).found = none ∧
      c.roles i = .idle := by
    intro i
    rcases h.request i with ⟨_, _, hi⟩ | ⟨_, _, hi⟩ | hi
    all_goals
      refine ⟨⟨_, hi⟩, ?_, ?_⟩
      · rw [hi]; rfl
      · rw [roles, hi]; rfl
  refine ⟨⟨fun i => (hidle i).1, ?_, h.rooms_lt⟩, ?_⟩
  · intro i r hfound
    rw [(hidle i).2.1] at hfound
    simp at hfound
  · exact {
      rooms_lt := h.rooms_lt
      games_lt := fun r hr => h.rooms_lt r (h.no_orphan.room r hr).1
      about_lt := fun i r hi => by rw [(hidle i).2.2] at hi; exact hi.elim
      erased := fun i r hi => by rw [(hidle i).2.2] at hi; simp at hi
      starts := fun i r hi => by rw [(hidle i).2.2] at hi; exact hi.elim
      battle := fun r hr => ⟨(h.no_orphan.room r hr).2, Or.inl (h.no_orphan.room r hr).1⟩
      playing := fun r hr hstate => Or.inl (h.no_orphan.battle r hr hstate) }

/-! ## The result -/

omit [DecidableEq ι] [Axis F] in
theorem Threads.roles_done {c : Threads ι F} (hdone : ∀ i, (c.threads i).isDone = true) (i : ι) :
    c.roles i = .idle := by
  have hi := hdone i
  unfold roles
  unfold Thread.isDone at hi
  split at hi
  · next heq => rw [heq]; rfl
  · next heq => rw [heq]; rfl
  · simp at hi

omit [DecidableEq ι] [Axis F] in
theorem Threads.Orderly.noOrphan {c : Threads ι F} (h : c.Orderly)
    (hdone : ∀ i, (c.threads i).isDone = true) : NoOrphan c.shared := by
  have hidle := roles_done hdone
  constructor
  · intro r hr
    obtain ⟨hstate, hroom⟩ := h.2.battle r hr
    refine ⟨hroom.resolve_right ?_, hstate⟩
    rintro ⟨i, hi⟩
    rw [hidle i] at hi
    exact hi
  · intro r hr hstate
    refine (h.2.playing r hr hstate).resolve_right ?_
    rintro ⟨i, hi⟩
    rw [hidle i] at hi
    exact hi

/--
**No orphan battle.**

Ready and leave requests in any number and any interleaving, on a server without orphans. When all
of them are done there is still no orphan, if and only if each battle of the run was registered
while its room was registered, or while a leaver that saw the room Waiting had yet to take the
battle off.
-/
theorem Threads.noOrphan_iff {c : Threads ι F} (hc : c.Requested) (events : List (ι × LoopChoice))
    (hdone : ∀ i, ((events.foldl step c).threads i).isDone = true) :
    NoOrphan (events.foldl step c).shared ↔ AllSteps step RegistersInTime c events := by
  rcases last_of_guard (I := Orderly) (B := Orphaned) (fun _ _ => Orderly.step)
    (fun _ _ => Orderly.orphaned) (fun _ => Orphaned.step) events hc.orderly with
    ⟨hall, hlast⟩ | ⟨hall, -, r, horphan⟩
  · exact iff_of_true (hlast.noOrphan hdone) hall
  · refine iff_of_false (fun hno => ?_) hall
    exact horphan.no_room (hno.room r horphan.game).1

/-! ## The late start -/

/-- Two players who have been matched; the first of them is ready. -/
def matchedPair : Server Coord :=
  (Server.init 2).run [.accept 0, .accept 0,
    .packet 1 0 (.login ⟨"player_100000", 1000⟩ (some "a")),
    .packet 2 0 (.login ⟨"player_100001", 1000⟩ (some "b")),
    .packet 1 0 (.match (some 0)), .packet 2 0 (.match (some 0)),
    .packet 1 0 (.ready (some true))]

/-- The second player is ready too (`false`), and the first one leaves (`true`). -/
def readyAndLeave : Threads Bool Coord where
  shared := matchedPair
  threads i := if i then .handler (.handleLeave 1 0) else .handler (.handleReady 2 true)

/-- The leaver sees the room Waiting, the other player starts it, the leaver removes it, and then
the battle is registered. -/
def lateStart : List (Bool × LoopChoice) :=
  turns true 2 ++ turns false 2 ++ turns true 24 ++ turns false 9

theorem readyAndLeave_requested : readyAndLeave.Requested where
  request i := by
    cases i with
    | false => exact Or.inl ⟨2, true, rfl⟩
    | true => exact Or.inr (Or.inl ⟨1, 0, rfl⟩)
  no_orphan := ⟨by decide, by decide⟩
  rooms_lt := by decide

theorem lateStart_done (i : Bool) :
    ((lateStart.foldl Threads.step readyAndLeave).threads i).isDone = true := by
  revert i
  decide

theorem lateStart_orphan : ¬ NoOrphan (lateStart.foldl Threads.step readyAndLeave).shared := by
  intro h
  exact absurd (h.room 1000 (by decide)).1 (by decide)

/-- The registration of that run comes too late. -/
theorem noOrphan_iff_lateStart :
    ¬ AllSteps Threads.step Threads.RegistersInTime readyAndLeave lateStart := fun h =>
  lateStart_orphan ((Threads.noOrphan_iff readyAndLeave_requested lateStart lateStart_done).mpr h)

/-- Not every interleaving of a ready and a leave request avoids orphans. -/
theorem noOrphan_counterexample :
    ¬ ∀ (c : Threads Bool Coord) (events : List (Bool × LoopChoice)), c.Requested →
      (∀ i, ((events.foldl Threads.step c).threads i).isDone = true) →
      NoOrphan (events.foldl Threads.step c).shared := fun h =>
  lateStart_orphan (h readyAndLeave lateStart readyAndLeave_requested lateStart_done)

end Game
