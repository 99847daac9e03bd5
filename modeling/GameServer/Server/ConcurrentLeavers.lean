import GameServer.Server.Leavers
import GameServer.Server.MatchingThreads

/-!
# Leaving a waiting room at the same time

Members of a room that has not started send `LeaveRoomRequest`s, in any number and any
interleaving. `leavers_iff` says when everybody ends up where they should: exactly when no request
looks its room up between the lookup and the `RemoveRoom` of another one. Otherwise the two put
each other back into the queue.
-/

namespace Game

open Infra

variable {ι F : Type}

/-- The answer to a player who has left a waiting room. -/
def Message.isLeft : Message F → Bool
  | .leaveRoomResponse code message => code = 0 ∧ message = "left room"
  | _ => false

/-! ## What a step of the server does to the hall -/

namespace Server

/-- The queue, the rooms and the map. -/
def hall (s : Server F) : Hall where
  queue := s.matchQueue.queue
  rooms := s.roomManager.rooms
  members r := (s.roomHeap r).playerIds
  map := s.roomManager.playerRoomMap
  nextRoomId := s.nextRoomId

theorem hall_push {s : Server F} {p : PlayerId} (hp : p ≠ 0) :
    (s.withQueue (s.matchQueue.push p).2).hall = s.hall.push p := by
  unfold hall Hall.push
  congr 1
  by_cases hpush : (s.matchQueue.push p).1 = true
  · rw [if_neg (MatchQueue.push_eq_true_iff.mp hpush).2]
    exact MatchQueue.queue_push hpush
  · have hmem : p ∈ s.matchQueue.queue := by
      by_contra hmem
      exact hpush (MatchQueue.push_eq_true_iff.mpr ⟨hp, hmem⟩)
    rw [if_pos hmem]
    exact congrArg MatchQueue.queue (MatchQueue.push_of_false (by simpa using hpush))

theorem hall_enterRooms (r : RoomId) : ∀ (players : List PlayerId) (s : Server F),
    (players.foldl (enterRoom r) s).hall =
      { s.hall with map := fun q => if q ∈ players then some r else s.hall.map q }
  | [], s => by simp
  | p :: players, s => by
    have hone : (enterRoom r s p).hall =
        { s.hall with map := Function.update s.hall.map p (some r) } := by
      unfold enterRoom
      dsimp only
      split <;> rfl
    rw [List.foldl_cons, hall_enterRooms r players, hone]
    dsimp only
    congr 1
    funext q
    by_cases hq : q = p
    · subst hq
      simp
    · simp [hq]

theorem hall_createRoom (s : Server F) {players : List PlayerId} (hnd : players.Nodup) :
    (s.createRoom players).2.hall = s.hall.create players := by
  have hopen : (s.openRoom players).hall =
      { s.hall with
        rooms := insert s.nextRoomId s.roomManager.rooms
        members := Function.update s.hall.members s.nextRoomId players
        nextRoomId := s.nextRoomId + 1 } :=
    congrArg (fun w : Places =>
      ({ queue := s.matchQueue.queue, rooms := w.rooms, members := w.members,
         map := s.roomManager.playerRoomMap, nextRoomId := w.nextRoomId } : Hall))
      (places_openRoom s hnd)
  rw [createRoom]
  dsimp only
  rw [hall_enterRooms, hopen]
  rfl

theorem hall_eraseRoom (s : Server F) (r : RoomId) :
    (s.eraseRoom r).2.hall = s.hall.erase r := by
  unfold eraseRoom hall Hall.erase
  dsimp only
  congr 1
  funext q
  split <;> simp_all

/-- How many times the session has been told "left room". -/
def leftAnswers (s : Server F) (session : SessionId) : Nat :=
  s.out.countP fun answer => answer.1 = session ∧ answer.2.isLeft

end Server

/-! ## A thread that leaves -/

/-- The players whom a call of `StartMatching` has taken off the queue or is to put there. -/
def MatchPc.hand : MatchPc → List PlayerId
  | .push p _ => [p]
  | .createRoom players => players
  | _ => []

/-- How far a request is; `left` says whether it has been answered with "left room". -/
def HandlerPc.stage (left : Bool) : HandlerPc F → Stage
  | .handleLeave _ _ => .asking
  | .ifWaiting _ _ roomId => .inside roomId none
  | .ifPlaying _ _ roomId => .inside roomId none
  | .leaveSnapshot _ _ roomId => .inside roomId none
  | .leaveNotify _ _ roomId rest => .inside roomId (some rest)
  | .removing (.erase roomId) rest => .inside roomId (some rest)
  | .removing _ rest => .after left rest
  | .requeue todo => .after left todo
  | .matching pc rest => .after left (pc.hand ++ rest)
  | _ => .after left []

/-- A request of the player `p` to leave the room `r₀`, on the session that had received
`answers` answers. -/
def HandlerPc.Leaves (s : Server F) (r₀ : RoomId) (session : SessionId) (p : PlayerId)
    (answers : Nat) : HandlerPc F → Prop
  | .handleLeave session' requested =>
    session' = session ∧ (requested = 0 ∨ requested = r₀) ∧ s.leftAnswers session = answers
  | .ifWaiting session' p' roomId =>
    session' = session ∧ p' = p ∧ (s.roomHeap roomId).state = .waiting ∧
      s.leftAnswers session = answers
  | .leaveSnapshot session' p' _ =>
    session' = session ∧ p' = p ∧ s.leftAnswers session = answers
  | .leaveNotify session' _ _ _ => session' = session ∧ s.leftAnswers session = answers
  | .removing (.erase _) _ => answers < s.leftAnswers session
  | .removing _ _ => True
  | .requeue _ => True
  | .matching pc _ => ∀ players, pc = .createRoom players → players.Nodup
  | .done => True
  | _ => False

/-! ## What a step leaves alone -/

/-- What no step of a leaver changes for the others: the connections, the players of the sessions
and the rooms that wait. -/
structure Server.Keeps (s s' : Server F) : Prop where
  bindings : s'.bindings = s.bindings
  waiting : ∀ r, (s.roomHeap r).state = .waiting → (s'.roomHeap r).state = .waiting
  map : ∀ q r, s'.roomManager.playerRoomMap q = some r →
    s.roomManager.playerRoomMap q = some r ∨ (s'.roomHeap r).state = .waiting

theorem Server.Keeps.same {s s' : Server F} (hbindings : s'.bindings = s.bindings)
    (hrooms : s'.roomHeap = s.roomHeap) (hmap : s'.roomManager = s.roomManager) :
    s.Keeps s' where
  bindings := hbindings
  waiting r hr := by rwa [hrooms]
  map q r hq := by
    rw [hmap] at hq
    exact Or.inl hq

theorem Server.leftAnswers_send (s : Server F) (session session' : SessionId) (msg : Message F) :
    (s.send session msg).leftAnswers session' =
      s.leftAnswers session' + if session = session' ∧ msg.isLeft then 1 else 0 := by
  unfold leftAnswers send
  rw [List.countP_append, List.countP_singleton]
  simp

theorem Server.leftAnswers_broadcast (s : Server F) (r : RoomId) (session : SessionId)
    {msg : Message F} (hmsg : msg.isLeft = false) :
    (s.broadcast r msg).leftAnswers session = s.leftAnswers session := by
  unfold leftAnswers broadcast
  rw [List.countP_append, Nat.add_eq_left, List.countP_eq_zero]
  intro answer hanswer
  obtain ⟨receiver, -, rfl⟩ := List.mem_map.mp hanswer
  simp [hmsg]

theorem Server.keeps_createRoom (s : Server F) (players : List PlayerId) :
    s.Keeps (s.createRoom players).2 := by
  have hheap : (s.createRoom players).2.roomHeap =
      Function.update s.roomHeap s.nextRoomId (players.foldl Room.addPlayer {}) :=
    view_enterRooms roomHeap (fun _ _ _ => rfl) (fun _ _ _ => rfl) _ players
      (s.openRoom players)
  have hnew : (players.foldl Room.addPlayer {}).state = .waiting := state_addPlayers players {}
  have hmap := congrArg Hall.map (hall_enterRooms s.nextRoomId players (s.openRoom players))
  refine ⟨s.bindings_createRoom players, fun r hr => ?_, fun q r hq => ?_⟩
  · rw [hheap]
    by_cases h : r = s.nextRoomId
    · rw [h, Function.update_self, hnew]
    · rwa [Function.update_of_ne h]
  · change (s.createRoom players).2.hall.map q = some r at hq
    rw [show (s.createRoom players).2.hall.map = _ from hmap] at hq
    dsimp only at hq
    split at hq
    · cases hq
      refine Or.inr ?_
      rw [hheap, Function.update_self, hnew]
    · exact Or.inl hq

theorem Server.leftAnswers_createRoom (s : Server F) (players : List PlayerId)
    (session : SessionId) : (s.createRoom players).2.leftAnswers session = s.leftAnswers session :=
  view_createRoom (leftAnswers · session) (fun _ _ => rfl) (fun _ _ _ => rfl) (fun _ _ _ => rfl) s
    players

theorem MatchPc.keeps_next (s : Server F) (pc : MatchPc) : s.Keeps (pc.next s).1 := by
  have hsame := fun h₁ h₂ => Server.Keeps.same (pc.bindings_next s) h₁ h₂
  cases pc with
  | push p session =>
    rw [next]
    split <;> exact .same rfl rfl rfl
  | reply session pushed =>
    rw [next]
    split <;> exact .same rfl rfl rfl
  | createRoom players => exact s.keeps_createRoom players
  | joinStatus r players todo => cases todo <;> exact .same rfl rfl rfl
  | joinNotify r players p todo =>
    rw [next]
    dsimp only
    split <;> exact .same rfl rfl rfl
  | _ => exact hsame rfl rfl

theorem MatchPc.leftAnswers_next (s : Server F) (pc : MatchPc) (session : SessionId) :
    (pc.next s).1.leftAnswers session = s.leftAnswers session := by
  have hsend : ∀ (s : Server F) (session' : SessionId) (msg : Message F), msg.isLeft = false →
      (s.send session' msg).leftAnswers session = s.leftAnswers session := by
    intro s session' msg hmsg
    simp [Server.leftAnswers_send, hmsg]
  cases pc with
  | push p session =>
    rw [next]
    split
    · exact hsend s _ _ rfl
    · rfl
  | reply session pushed =>
    rw [next]
    split <;> exact hsend s _ _ rfl
  | createRoom players => exact s.leftAnswers_createRoom players session
  | joinStatus r players todo => cases todo <;> rfl
  | joinNotify r players p todo =>
    rw [next]
    dsimp only
    split
    · exact hsend s _ _ rfl
    · rfl
  | _ => rfl

/-- A new group consists of different players. -/
theorem MatchPc.nodup_next {s : Server F} {pc : MatchPc} {players : List PlayerId}
    (hpc : (pc.next s).2 = some (.createRoom players)) : players.Nodup := by
  cases pc with
  | push p session =>
    rw [next] at hpc
    split at hpc
    · cases hpc
    · dsimp only at hpc
      split at hpc <;> cases hpc
  | contains p session =>
    rw [next] at hpc
    split at hpc <;> cases hpc
  | reply session pushed =>
    rw [next] at hpc
    split at hpc <;> cases hpc
  | tryPop =>
    rw [next] at hpc
    dsimp only at hpc
    split at hpc
    · cases hpc
    · cases hpc
      have hnd := s.matchQueue.queue_nodup
      rw [← s.matchQueue.tryPopN_append s.needCount] at hnd
      exact hnd.of_append_left
  | joinStatus r players todo => cases todo <;> cases hpc
  | _ => cases hpc

theorem MatchPc.move_next {s : Server F} {pc : MatchPc}
    (hnd : ∀ players, pc = .createRoom players → players.Nodup) (r₀ : RoomId)
    (online : PlayerId → Prop) (p : PlayerId) (left : Bool) (rest : List PlayerId) :
    LeaveMove r₀ online p s.hall (.after left (pc.hand ++ rest)) (pc.next s).1.hall
      (.after left (((pc.next s).2.map hand).getD [] ++ rest)) := by
  cases pc with
  | push q session =>
    rw [next]
    split
    · next h => exact .drop left q rest fun _ => h
    · next h =>
      dsimp only
      rw [Server.hall_push h]
      split <;> exact .push left q rest
  | contains q session =>
    rw [next]
    split <;> exact .stay
  | reply session pushed =>
    rw [next]
    split <;> exact .stay
  | tryPop =>
    have happ := s.matchQueue.tryPopN_append s.needCount
    rw [next]
    dsimp only
    split
    · next h =>
      rw [h] at happ
      exact .pop left rest [] _ happ.symm
    · exact .pop left rest _ _ happ.symm
  | createRoom players =>
    rw [next]
    dsimp only
    rw [Server.hall_createRoom s (hnd players rfl)]
    exact .create left rest players (hnd players rfl)
  | joinStatus r players todo => cases todo <;> exact .stay
  | joinNotify r players q todo =>
    rw [next]
    dsimp only
    split <;> exact .stay
  | _ => exact .stay

theorem RemovePc.keeps_next (s : Server F) (pc : RemovePc) : s.Keeps (pc.next s).1 := by
  have hsame := fun h₁ h₂ => Server.Keeps.same (pc.bindings_next s) h₁ h₂
  cases pc with
  | erase r =>
    refine ⟨rfl, fun _ hr => hr, fun q r' hq => Or.inl ?_⟩
    have hmap := congrFun (congrArg Hall.map (s.hall_eraseRoom r)) q
    have hq' := hmap.symm.trans hq
    unfold Hall.erase at hq'
    dsimp only at hq'
    split at hq'
    · cases hq'
    · exact hq'
  | resetSession r todo =>
    cases todo with
    | nil => exact hsame rfl rfl
    | cons q todo =>
      rw [next] at hsame ⊢
      split at hsame <;> exact hsame rfl rfl
  | _ => exact hsame rfl rfl

theorem RemovePc.leftAnswers_next (s : Server F) (pc : RemovePc) (session : SessionId) :
    (pc.next s).1.leftAnswers session = s.leftAnswers session := by
  cases pc with
  | resetSession r todo =>
    cases todo with
    | nil => rfl
    | cons q todo =>
      rw [next]
      split <;> rfl
  | _ => rfl

/-- After the locked part the rest of `RemoveRoom` has nothing to do with the hall. -/
theorem RemovePc.hall_next {s : Server F} {pc : RemovePc} (hne : ∀ r, pc ≠ .erase r) :
    (pc.next s).1.hall = s.hall ∧ ∀ r, (pc.next s).2 ≠ some (.erase r) := by
  cases pc with
  | erase r => exact absurd rfl (hne r)
  | resetSession r todo =>
    cases todo with
    | nil => exact ⟨rfl, fun _ h => by cases h⟩
    | cons q todo =>
      rw [next]
      split <;> exact ⟨rfl, fun _ h => by cases h⟩
  | resetRoom r q online todo => exact ⟨rfl, fun _ h => by cases h⟩
  | resetStatus r q online todo => exact ⟨rfl, fun _ h => by cases h⟩
  | removeGame r => exact ⟨rfl, fun _ h => by cases h⟩

/-! ## A step of a request -/

variable [Axis F] {s : Server F} {r₀ : RoomId} {session : SessionId} {p : PlayerId} {answers : Nat}

/-- What one step of a request does. -/
structure HandlerPc.LeaveStep (s : Server F) (r₀ : RoomId) (session : SessionId) (p : PlayerId)
    (answers : Nat) (pc : HandlerPc F) (s' : Server F) (pc' : HandlerPc F) : Prop where
  move : LeaveMove r₀ (fun q => (s.connectionManager.getByPlayerId q).isSome) p
    s.hall (pc.stage (answers < s.leftAnswers session))
    s'.hall (pc'.stage (answers < s'.leftAnswers session))
  keeps : s.Keeps s'
  leaves : pc'.Leaves s' r₀ session p answers
  others : ∀ session', session' ≠ session → s'.leftAnswers session' = s.leftAnswers session'

omit [Axis F] in
theorem hall_getPlayerRoom {r : RoomId} : s.getPlayerRoom p = some r ↔
    r ∈ s.hall.rooms ∧ s.hall.map p = some r := by
  unfold Server.getPlayerRoom Server.getRoom Server.hall
  rw [Option.bind_eq_some_iff]
  constructor
  · rintro ⟨r', hmap, hr⟩
    split at hr
    · next hmem => cases hr; exact ⟨hmem, hmap⟩
    · cases hr
  · rintro ⟨hmem, hmap⟩
    exact ⟨r, hmap, if_pos hmem⟩

theorem HandlerPc.leaveStep_matching {pc : MatchPc} {rest : List PlayerId}
    (hL : (matching pc rest : HandlerPc F).Leaves s r₀ session p answers) :
    LeaveStep s r₀ session p answers (.matching pc rest) ((matching pc rest).next s).1
      ((matching pc rest).next s).2 := by
  have hmove := MatchPc.move_next (s := s) hL r₀
    (fun q => (s.connectionManager.getByPlayerId q).isSome) p (answers < s.leftAnswers session)
    rest
  have hkeeps := pc.keeps_next s
  have hanswers := pc.leftAnswers_next s
  have hnd := fun players (h : (pc.next s).2 = some (.createRoom players)) => MatchPc.nodup_next h
  rw [next]
  generalize pc.next s = w at *
  obtain ⟨s', pc'⟩ := w
  cases pc' with
  | none =>
    refine ⟨?_, hkeeps, trivial, fun _ _ => hanswers _⟩
    simpa [stage, hanswers] using hmove
  | some pc' =>
    refine ⟨?_, hkeeps, fun players h => hnd players (congrArg some h), fun _ _ => hanswers _⟩
    simpa [stage, hanswers] using hmove

omit [Axis F] in
theorem HandlerPc.stage_removing {pc : RemovePc} (hne : ∀ r, pc ≠ .erase r) (left : Bool)
    (rest : List PlayerId) : (removing pc rest : HandlerPc F).stage left = .after left rest := by
  cases pc with
  | erase r => exact absurd rfl (hne r)
  | _ => rfl

omit [Axis F] in
theorem HandlerPc.leaves_removing {pc : RemovePc} (hne : ∀ r, pc ≠ .erase r)
    {rest : List PlayerId} : (removing pc rest : HandlerPc F).Leaves s r₀ session p answers := by
  cases pc with
  | erase r => exact absurd rfl (hne r)
  | _ => trivial

theorem HandlerPc.leaveStep_removing {pc : RemovePc} {rest : List PlayerId}
    (hL : (removing pc rest : HandlerPc F).Leaves s r₀ session p answers) :
    LeaveStep s r₀ session p answers (.removing pc rest) ((removing pc rest).next s).1
      ((removing pc rest).next s).2 := by
  have hkeeps := pc.keeps_next s
  have hanswers := pc.leftAnswers_next s
  by_cases herase : ∃ r, pc = .erase r
  · obtain ⟨r, rfl⟩ := herase
    refine ⟨?_, hkeeps, trivial, fun _ _ => hanswers _⟩
    have htrue : decide (answers < s.leftAnswers session) = true := decide_eq_true hL
    change LeaveMove r₀ _ p s.hall (.inside r (some rest)) (s.eraseRoom r).2.hall
      (.after (decide (answers < s.leftAnswers session)) rest)
    rw [htrue, Server.hall_eraseRoom]
    exact .erase r rest
  · rw [not_exists] at herase
    obtain ⟨hhall, hnext⟩ := RemovePc.hall_next (s := s) herase
    rw [next]
    generalize pc.next s = w at *
    obtain ⟨s', pc'⟩ := w
    cases pc' with
    | none =>
      refine ⟨?_, hkeeps, trivial, fun _ _ => hanswers _⟩
      rw [stage_removing herase, hhall, hanswers]
      exact .stay
    | some pc' =>
      have hne : ∀ r, pc' ≠ .erase r := fun r h => hnext r (congrArg some h)
      refine ⟨?_, hkeeps, leaves_removing hne, fun _ _ => hanswers _⟩
      rw [stage_removing herase, stage_removing hne, hhall, hanswers]
      exact .stay

/-- **One step of a request.** It is one of the moves of somebody who leaves. -/
theorem HandlerPc.leaveStep {pc : HandlerPc F}
    (hL : pc.Leaves s r₀ session p answers) (hp : (s.sessionHeap session).playerId = p)
    (hwaiting : ∀ r, s.roomManager.playerRoomMap p = some r → (s.roomHeap r).state = .waiting) :
    LeaveStep s r₀ session p answers pc (pc.next s).1 (pc.next s).2 := by
  have hsame : s.Keeps s := .same rfl rfl rfl
  cases pc with
  | done => exact ⟨.stay, hsame, trivial, fun _ _ => rfl⟩
  | matching pc rest => exact leaveStep_matching hL
  | removing pc rest => exact leaveStep_removing hL
  | requeue todo =>
    cases todo with
    | nil => exact ⟨.stay, hsame, trivial, fun _ _ => rfl⟩
    | cons q todo =>
      rw [next]
      split
      · exact ⟨.stay, hsame, fun _ h => (by cases h), fun _ _ => rfl⟩
      · next h => exact ⟨.drop _ q todo fun hon => by simp [h] at hon, hsame, trivial, fun _ _ => rfl⟩
  | handleLeave session' requested =>
    obtain ⟨rfl, hrequested, hanswers⟩ := hL
    have hrefuse : ¬ (r₀ ∈ s.hall.rooms ∧ s.hall.map p = some r₀) → LeaveStep s r₀ session' p answers
        (.handleLeave session' requested) (s.send session' (.leaveRoomResponse 2 "not in room"))
        .done := by
      intro hno
      have hsend := (s.leftAnswers_send session' · (.leaveRoomResponse 2 "not in room"))
      refine ⟨?_, .same rfl rfl rfl, trivial, fun session _ => ?_⟩
      · change LeaveMove r₀ _ p s.hall .asking s.hall (.after (decide (answers < _)) [])
        rw [hsend, hanswers, decide_eq_false (by simp [Message.isLeft])]
        exact .refuse hno
      · rw [hsend]
        simp [Message.isLeft]
    rw [next, hp]
    cases hr : s.getPlayerRoom p with
    | none =>
      refine hrefuse fun hno => ?_
      rw [← hall_getPlayerRoom, hr] at hno
      cases hno
    | some r =>
      obtain ⟨hmem, hmap⟩ := hall_getPlayerRoom.mp hr
      dsimp only
      split
      · next hne =>
        refine hrefuse fun hno => hne.2 ?_
        rw [hmap, Option.some.injEq] at hno
        exact (hrequested.resolve_left hne.1).trans hno.2.symm
      · exact ⟨.enter r hmem hmap, hsame, ⟨rfl, rfl, hwaiting r hmap, hanswers⟩, fun _ _ => rfl⟩
  | ifWaiting session' p' r =>
    obtain ⟨rfl, rfl, hr, hanswers⟩ := hL
    rw [next, if_pos hr]
    exact ⟨.stay, hsame, ⟨rfl, rfl, hanswers⟩, fun _ _ => rfl⟩
  | leaveSnapshot session' p' r =>
    obtain ⟨rfl, rfl, hanswers⟩ := hL
    exact ⟨.snapshot r, hsame, ⟨rfl, hanswers⟩, fun _ _ => rfl⟩
  | leaveNotify session' p' r rest =>
    obtain ⟨rfl, hanswers⟩ := hL
    have hbroadcast : ∀ session,
        (s.broadcast r (.playerLeaveRoomNotify r p' 1)).leftAnswers session =
          s.leftAnswers session :=
      fun session => s.leftAnswers_broadcast r session rfl
    have hsend := ((s.broadcast r (.playerLeaveRoomNotify r p' 1)).leftAnswers_send session' ·
      (.leaveRoomResponse 0 "left room"))
    refine ⟨.stay, .same rfl rfl rfl, ?_, fun session hne => ?_⟩
    · change answers < Server.leftAnswers (Server.send _ _ _) _
      rw [hsend, hbroadcast, hanswers]
      simp [Message.isLeft]
    · rw [next, hsend, hbroadcast]
      simp [hne.symm]
  | _ => exact hL.elim

omit [Axis F] in
theorem HandlerPc.Leaves.keep {s' : Server F} {pc : HandlerPc F}
    (h : pc.Leaves s r₀ session p answers) (hkeeps : s.Keeps s')
    (hanswers : s'.leftAnswers session = s.leftAnswers session) :
    pc.Leaves s' r₀ session p answers := by
  cases pc with
  | handleLeave session' requested => exact ⟨h.1, h.2.1, hanswers.trans h.2.2⟩
  | ifWaiting session' p' r =>
    exact ⟨h.1, h.2.1, hkeeps.waiting r h.2.2.1, hanswers.trans h.2.2.2⟩
  | leaveSnapshot session' p' r => exact ⟨h.1, h.2.1, hanswers.trans h.2.2⟩
  | leaveNotify session' p' r rest => exact ⟨h.1, hanswers.trans h.2⟩
  | removing pc rest =>
    cases pc with
    | erase r => exact lt_of_lt_of_eq h hanswers.symm
    | _ => trivial
  | matching pc rest => exact h
  | requeue todo => trivial
  | done => trivial
  | _ => exact h.elim

/-! ## All requests together -/

/-- The room that a request has looked up and has not removed yet. -/
def HandlerPc.leaving : HandlerPc F → Option RoomId
  | .ifWaiting _ _ roomId => some roomId
  | .ifPlaying _ _ roomId => some roomId
  | .leaveSnapshot _ _ roomId => some roomId
  | .leaveNotify _ _ roomId _ => some roomId
  | .removing (.erase roomId) _ => some roomId
  | _ => none

/-- The same for a thread. -/
def Thread.leaving : Thread F → Option RoomId
  | .handler pc => pc.leaving
  | _ => none

/-- The stage of a thread. -/
def Thread.stage (left : Bool) : Thread F → Stage
  | .handler pc => pc.stage left
  | _ => .after left []

omit [Axis F] in
theorem Thread.leaving_iff {t : Thread F} {left : Bool} {r : RoomId} :
    t.leaving = some r ↔ ∃ rest, t.stage left = .inside r rest := by
  cases t with
  | handler pc =>
    cases pc with
    | removing pc rest =>
      cases pc <;> simp [leaving, stage, HandlerPc.leaving, HandlerPc.stage]
    | _ => simp [leaving, stage, HandlerPc.leaving, HandlerPc.stage]
  | _ => simp [leaving, stage]

section

variable {session : ι → SessionId}

/-- In how many places a player is: the queue, and every live room that lists it. -/
def Server.placeCount (s : Server F) (q : PlayerId) : Nat :=
  s.matchQueue.queue.count q + ∑ r ∈ s.roomManager.rooms, (s.roomHeap r).playerIds.count q

/-- Members of the waiting room `r₀`, connected and different, with a request to leave it each. The
members of `r₀` are registered there and are in no other place. -/
structure Threads.Leaving (r₀ : RoomId) (session : ι → SessionId) (c : Threads ι F) : Prop where
  request : ∀ i, ∃ requested, c.threads i = .handler (.handleLeave (session i) requested) ∧
    (requested = 0 ∨ requested = r₀)
  live : r₀ ∈ c.shared.roomManager.rooms
  waiting : (c.shared.roomHeap r₀).state = .waiting
  member : ∀ i, (c.shared.sessionHeap (session i)).playerId ∈ (c.shared.roomHeap r₀).playerIds
  different : ∀ i j, (c.shared.sessionHeap (session i)).playerId =
    (c.shared.sessionHeap (session j)).playerId → i = j
  online : ∀ i, (c.shared.connectionManager.getByPlayerId
    (c.shared.sessionHeap (session i)).playerId).isSome
  zero : 0 ∉ (c.shared.roomHeap r₀).playerIds
  map : ∀ q ∈ (c.shared.roomHeap r₀).playerIds, c.shared.roomManager.playerRoomMap q = some r₀
  queue : ∀ q ∈ (c.shared.roomHeap r₀).playerIds, q ∉ c.shared.matchQueue.queue
  one_room : ∀ q ∈ (c.shared.roomHeap r₀).playerIds, ∀ r ∈ c.shared.roomManager.rooms,
    q ∈ (c.shared.roomHeap r).playerIds → r = r₀
  rooms_lt : ∀ r ∈ c.shared.roomManager.rooms, r < c.shared.nextRoomId

/-- Where everybody should be when the requests have been handled. -/
structure Server.LeftRoom (r₀ : RoomId) (session : ι → SessionId) (before after : Server F) :
    Prop where
  gone : r₀ ∉ after.roomManager.rooms
  left : ∀ i, before.leftAnswers (session i) < after.leftAnswers (session i) →
    after.placeCount (before.sessionHeap (session i)).playerId = 0
  others : ∀ q ∈ (before.roomHeap r₀).playerIds, (after.connectionManager.getByPlayerId q).isSome →
    (∀ i, (before.sessionHeap (session i)).playerId = q →
      after.leftAnswers (session i) ≤ before.leftAnswers (session i)) →
    after.placeCount q = 1 ∧ ∀ r ∈ after.roomManager.rooms,
      q ∈ (after.roomHeap r).playerIds → before.nextRoomId ≤ r

/-- A request looks up a room, if that is what it does now, that nobody else is about to remove. -/
def Threads.LeavesAlone (c : Threads ι F) (e : ι × LoopChoice) : Prop :=
  ∀ session requested r, c.threads e.1 = .handler (.handleLeave session requested) →
    c.shared.getPlayerRoom (c.shared.sessionHeap session).playerId = some r →
    requested = 0 ∨ requested = r → ∀ j, (c.threads j).leaving ≠ some r

/-! ## The invariant of a run -/

/-- The player of each request. -/
def Server.leaver (before : Server F) (session : ι → SessionId) (i : ι) : PlayerId :=
  (before.sessionHeap (session i)).playerId

/-- How far each request is. -/
def Threads.stages (before : Server F) (session : ι → SessionId) (c : Threads ι F) (i : ι) : Stage :=
  (c.threads i).stage (before.leftAnswers (session i) < c.shared.leftAnswers (session i))

/-- The players who are online. -/
def Server.online (before : Server F) (q : PlayerId) : Prop :=
  (before.connectionManager.getByPlayerId q).isSome

/-- What holds of a run of requests in any case. -/
structure Threads.Underway (before : Server F) (r₀ : RoomId) (session : ι → SessionId)
    (c : Threads ι F) : Prop where
  leaves : ∀ i, ∃ pc, c.threads i = .handler pc ∧ pc.Leaves c.shared r₀ (session i)
    (before.leaver session i) (before.leftAnswers (session i))
  bindings : c.shared.bindings = before.bindings
  waiting : ∀ i r, c.shared.roomManager.playerRoomMap (before.leaver session i) = some r →
    (c.shared.roomHeap r).state = .waiting
  since : before.hall.Since c.shared.hall
  hall : HallInv (before.leaver session) c.shared.hall (c.stages before session)

variable [DecidableEq ι] {before : Server F} {c : Threads ι F}

/-- **One step** is a move of the thread that takes it. -/
theorem Threads.Underway.step (h : c.Underway before r₀ session)
    (hinj : Function.Injective (before.leaver session)) (e : ι × LoopChoice) :
    (c.step e).Underway before r₀ session ∧
      (∀ j, (c.step e).stages before session j = if j = e.1
        then (c.step e).stages before session e.1 else c.stages before session j) ∧
      LeaveMove r₀ before.online (before.leaver session e.1) c.shared.hall
        (c.stages before session e.1) (c.step e).shared.hall
        ((c.step e).stages before session e.1) := by
  obtain ⟨i, ch⟩ := e
  obtain ⟨pc, hpc, hL⟩ := h.leaves i
  have hcm : c.shared.connectionManager = before.connectionManager := congrArg Prod.fst h.bindings
  have hplayer : ∀ σ, (c.shared.sessionHeap σ).playerId = (before.sessionHeap σ).playerId :=
    congrFun (congrArg Prod.snd h.bindings)
  obtain ⟨hmove, hkeeps, hL', hothers⟩ := HandlerPc.leaveStep hL (hplayer _) (h.waiting i)
  have hnext : Thread.next ch c.shared (c.threads i) =
      ((pc.next c.shared).1, .handler (pc.next c.shared).2) := by
    rw [hpc]
    rfl
  obtain ⟨hshared, hthreads⟩ := Sys.step_of_next hnext
  have hsession : ∀ j, j ≠ i → session j ≠ session i := by
    intro j hj hsame
    refine hj (hinj ?_)
    rw [Server.leaver, Server.leaver, hsame]
  -- The stage of another thread depends on its own place and its own answers only.
  have hstage : ∀ j, j ≠ i → (c.step (i, ch)).stages before session j =
      c.stages before session j := by
    intro j hj
    unfold stages
    rw [hthreads, if_neg hj, hshared, hothers _ (hsession j hj)]
  have hi : (c.step (i, ch)).stages before session i = (pc.next c.shared).2.stage
      (before.leftAnswers (session i) < (pc.next c.shared).1.leftAnswers (session i)) := by
    unfold stages
    rw [hthreads, if_pos rfl, hshared]
    rfl
  have hi₀ : c.stages before session i =
      pc.stage (before.leftAnswers (session i) < c.shared.leftAnswers (session i)) := by
    unfold stages
    rw [hpc]
    rfl
  have honline : before.online =
      fun q => (c.shared.connectionManager.getByPlayerId q).isSome = true := by
    unfold Server.online
    rw [hcm]
  have hmove' : LeaveMove r₀ before.online (before.leaver session i) c.shared.hall
      (c.stages before session i) (c.step (i, ch)).shared.hall
      ((c.step (i, ch)).stages before session i) := by
    rw [hi, hi₀, hshared, honline]
    exact hmove
  have hstages : ∀ j, (c.step (i, ch)).stages before session j = if j = i
      then (c.step (i, ch)).stages before session i else c.stages before session j := by
    intro j
    split
    · next hj => rw [hj]
    · next hj => exact hstage j hj
  refine ⟨⟨fun j => ?_, ?_, fun j r hr => ?_, h.since.step hmove', h.hall.step hstages hmove'⟩,
    hstages, hmove'⟩
  · rw [hthreads, hshared]
    split
    · next hj => exact ⟨_, rfl, hj ▸ hL'⟩
    · next hj =>
      obtain ⟨pc', hpc', hL''⟩ := h.leaves j
      exact ⟨pc', hpc', hL''.keep hkeeps (hothers _ (hsession j hj))⟩
  · rw [hshared]
    exact hkeeps.bindings.trans h.bindings
  · rw [hshared] at hr ⊢
    rcases hkeeps.map _ _ hr with hr | hr
    · exact hkeeps.waiting r (h.waiting j r hr)
    · exact hr

/-- When a request comes to be about to remove a room. -/
theorem HandlerPc.looksUp {s : Server F} {session : SessionId} {requested : RoomId} {left : Bool}
    {r : RoomId} : (next s (.handleLeave session requested)).2.stage left = .inside r none ↔
      s.getPlayerRoom (s.sessionHeap session).playerId = some r ∧
        (requested = 0 ∨ requested = r) := by
  rw [next]
  cases hr : s.getPlayerRoom (s.sessionHeap session).playerId with
  | none => simp [stage]
  | some r' =>
    dsimp only
    split
    · next hne =>
      simp only [stage, reduceCtorEq, Option.some.injEq, false_iff]
      rintro ⟨rfl, hreq⟩
      exact hreq.elim hne.1 hne.2
    · next hne =>
      have hreq : requested = 0 ∨ requested = r' := by
        by_contra h
        exact hne (not_or.mp h)
      simp only [stage, Stage.inside.injEq, Option.some.injEq]
      constructor
      · rintro ⟨rfl, -⟩
        exact ⟨rfl, hreq⟩
      · rintro ⟨rfl, -⟩
        exact ⟨rfl, trivial⟩

omit [Axis F] [DecidableEq ι] in
theorem Thread.asking {t : Thread F} {left : Bool} (h : t.stage left = .asking) :
    ∃ session requested, t = .handler (.handleLeave session requested) := by
  cases t with
  | handler pc =>
    cases pc with
    | handleLeave session requested => exact ⟨session, requested, rfl⟩
    | removing pc rest => cases pc <;> cases h
    | _ => cases h
  | _ => cases h

theorem Threads.leavesAlone_iff {e : ι × LoopChoice} :
    c.LeavesAlone e ↔ EntersAlone (c.stages before session) e.1
      ((c.step e).stages before session e.1) := by
  have hmoved : (c.step e).stages before session e.1 =
      (Thread.next e.2 c.shared (c.threads e.1)).2.stage (before.leftAnswers (session e.1) <
        (c.step e).shared.leftAnswers (session e.1)) :=
    congrArg (Thread.stage _) Sys.step_threads_self
  constructor
  · intro halone r hask hin j rest hj
    obtain ⟨session', requested, hth⟩ := Thread.asking hask
    rw [hmoved, hth] at hin
    obtain ⟨hroom, hreq⟩ := HandlerPc.looksUp.mp hin
    exact halone session' requested r hth hroom hreq j (Thread.leaving_iff.mpr ⟨rest, hj⟩)
  · intro halone session' requested r hth hroom hreq j hleaving
    obtain ⟨rest, hj⟩ := Thread.leaving_iff.mp hleaving
    refine halone r ?_ ?_ j rest hj
    · unfold stages
      rw [hth]
      rfl
    · rw [hmoved, hth]
      exact HandlerPc.looksUp.mpr ⟨hroom, hreq⟩

/-- A run that has gone well so far. -/
structure Threads.LeavesWell (before : Server F) (r₀ : RoomId) (session : ι → SessionId)
    (c : Threads ι F) : Prop where
  underway : c.Underway before r₀ session
  place : InOnePlace r₀ (before.roomHeap r₀).playerIds before.online (before.leaver session)
    c.shared.hall (c.stages before session)

/-- A run that has gone wrong. -/
structure Threads.LeavesBadly (before : Server F) (r₀ : RoomId) (session : ι → SessionId)
    (c : Threads ι F) : Prop where
  underway : c.Underway before r₀ session
  recalled : Recalled before.online (before.leaver session) c.shared.hall
    (c.stages before session)

omit [DecidableEq ι] [Axis F] in
theorem Threads.Leaving.leavesWell (h : c.Leaving r₀ session) :
    c.LeavesWell c.shared r₀ session := by
  have hasking : ∀ i, c.stages c.shared session i = .asking := by
    intro i
    obtain ⟨requested, hth, -⟩ := h.request i
    unfold stages
    rw [hth]
    rfl
  have hnohand : ∀ i, (c.stages c.shared session i).hand = [] := by
    intro i
    rw [hasking]
    rfl
  have hhall : HallInv (c.shared.leaver session) c.shared.hall (c.stages c.shared session) := by
    refine ⟨h.rooms_lt, c.shared.matchQueue.queue_nodup, fun r =>
      (c.shared.roomHeap r).players.keys_nodup, fun i r rest hi => ?_⟩
    rw [hasking] at hi
    cases hi
  refine ⟨⟨fun i => ?_, rfl, fun i r hr => ?_, ⟨le_rfl, fun _ hr _ => hr, fun _ _ => rfl⟩, hhall⟩,
    ⟨hhall, rfl, h.rooms_lt r₀ h.live, ?_, ?_, ?_, ?_, ?_, ?_, ?_, ?_⟩⟩
  · obtain ⟨requested, hth, hreq⟩ := h.request i
    exact ⟨_, hth, rfl, hreq, rfl⟩
  · cases (h.map _ (h.member i)).symm.trans hr
    exact h.waiting
  · have hroom : ∀ q ∈ (c.shared.roomHeap r₀).playerIds, ∀ x,
        c.shared.hall.At (c.stages c.shared session) q x → x = .room r₀ := by
      rintro q hq (_ | r | j) hx
      · exact absurd hx (h.queue q hq)
      · rw [h.one_room q hq r hx.1 hx.2]
      · rw [Hall.At, hnohand] at hx
        cases hx
    exact fun q hq x y hx hy => (hroom q hq x hx).trans (hroom q hq y hy).symm
  · intro q _ i
    rw [hnohand]
    exact Nat.zero_le 1
  · intro q hq r
    constructor
    · intro hr
      cases (h.map q hq).symm.trans hr
      exact ⟨h.live, hq⟩
    · rintro ⟨hr, hmem⟩
      rw [h.one_room q hq r hr hmem]
      exact h.map q hq
  · intro i j r rest rest' hi
    rw [hasking] at hi
    cases hi
  · intro i r rest hi
    rw [hasking] at hi
    cases hi
  · intro i hand x hi
    rw [hasking] at hi
    cases hi
  · exact fun q hq _ _ => ⟨.room r₀, h.live, hq⟩
  · exact fun _ i => Or.inl (hasking i)

omit [Axis F] [DecidableEq ι] in
theorem Threads.Underway.stage_done (h : c.Underway before r₀ session)
    (hdone : ∀ i, (c.threads i).isDone = true) (i : ι) : c.stages before session i =
      .after (before.leftAnswers (session i) < c.shared.leftAnswers (session i)) [] := by
  obtain ⟨pc, hpc, -⟩ := h.leaves i
  have hd := hdone i
  rw [hpc] at hd
  have hpc' : pc = .done := by
    cases pc with
    | done => rfl
    | _ => cases hd
  unfold stages
  rw [hpc, hpc']
  rfl

omit [Axis F] [DecidableEq ι] in
/-- What is promised of the hall is what is promised of the server. -/
theorem Threads.Underway.leftRoom_iff (h : c.Underway before r₀ session)
    (hone : ∀ q ∈ (before.roomHeap r₀).playerIds, ∀ r ∈ before.roomManager.rooms,
      q ∈ (before.roomHeap r).playerIds → r = r₀)
    (hdone : ∀ i, (c.threads i).isDone = true) :
    Server.LeftRoom r₀ session before c.shared ↔
      Promised r₀ (before.roomHeap r₀).playerIds before.online (before.leaver session)
        c.shared.hall (c.stages before session) := by
  have hstage := h.stage_done hdone
  have hcm : c.shared.connectionManager = before.connectionManager := congrArg Prod.fst h.bindings
  have hleft : ∀ i, c.stages before session i = .after true [] ↔
      before.leftAnswers (session i) < c.shared.leftAnswers (session i) := by
    intro i
    rw [hstage]
    simp
  constructor
  · rintro ⟨hgone, hl, hothers⟩
    refine ⟨hgone, fun i hi => hl i ((hleft i).mp hi), fun q hq hon hnot => ?_⟩
    refine (hothers q hq (by rw [hcm]; exact hon) fun i hi => ?_).1
    exact not_lt.mp fun hlt => hnot i hi ((hleft i).mpr hlt)
  · rintro ⟨hgone, hl, hothers⟩
    refine ⟨hgone, fun i hi => hl i ((hleft i).mpr hi), fun q hq hon hnot => ⟨?_, ?_⟩⟩
    · refine hothers q hq (by rw [hcm] at hon; exact hon) fun i hi hst => ?_
      exact absurd ((hleft i).mp hst) (not_lt.mpr (hnot i hi))
    · intro r hr hmem
      by_contra hlt
      rw [not_le] at hlt
      have hold := h.since.rooms r hr hlt
      have hmem' : q ∈ before.hall.members r := h.since.members r hlt ▸ hmem
      exact hgone (hone q hq r hold hmem' ▸ hr)

/-- **Leaving at the same time.** When all requests have been handled, everybody is where they
should be exactly if no request looked up a room between the lookup and the removal of the same
room by another request. -/
theorem Threads.leavers_iff [Nonempty ι] (h : c.Leaving r₀ session)
    (events : List (ι × LoopChoice))
    (hdone : ∀ i, ((events.foldl step c).threads i).isDone = true) :
    Server.LeftRoom r₀ session c.shared (events.foldl step c).shared ↔
      AllSteps step LeavesAlone c events := by
  have hinj : Function.Injective (c.shared.leaver session) := fun i j => h.different i j
  have hzero : ∀ i, c.shared.leaver session i ≠ 0 := fun i h0 => h.zero (h0 ▸ h.member i)
  have hrun := last_of_guard (I := LeavesWell c.shared r₀ session)
    (B := LeavesBadly c.shared r₀ session) (G := LeavesAlone)
    (fun c' e hI hG => by
      obtain ⟨hU, hst, hmove⟩ := hI.underway.step hinj e
      exact ⟨hU, hI.place.step h.member h.zero hst hmove (leavesAlone_iff.mp hG)⟩)
    (fun c' e hI hG => by
      obtain ⟨hU, hst, hmove⟩ := hI.underway.step hinj e
      exact ⟨hU, hI.place.recalled h.online hst hmove (leavesAlone_iff.not.mp hG)⟩)
    (fun c' e hB => by
      obtain ⟨hU, hst, hmove⟩ := hB.underway.step hinj e
      exact ⟨hU, hB.recalled.step hinj hzero hB.underway.hall hst hmove⟩)
    events h.leavesWell
  rcases hrun with ⟨hall, hI⟩ | ⟨hnot, hB⟩
  · refine iff_of_true ((hI.underway.leftRoom_iff h.one_room hdone).mpr ?_) hall
    exact hI.place.promised fun i => ⟨_, hI.underway.stage_done hdone i⟩
  · refine iff_of_false (fun hleft => ?_) hnot
    exact hB.recalled.not_promised (fun i => ⟨_, hB.underway.stage_done hdone i⟩)
      ((hB.underway.leftRoom_iff h.one_room hdone).mp hleft)

end

/-! ## Two members -/

/-- Two players in a waiting room. -/
def waitingRoom : Server Coord :=
  (Server.init 2).run [.accept 0, .accept 0,
    .packet 1 0 (.login ⟨"player_100000", 1000⟩ (some "a")),
    .packet 2 0 (.login ⟨"player_100001", 1000⟩ (some "b")),
    .packet 1 0 (.match (some 0)), .packet 2 0 (.match (some 0))]

/-- The session of each. -/
def memberSession (i : Bool) : SessionId :=
  if i then 2 else 1

/-- Both ask to leave. -/
def bothLeave : Threads Bool Coord where
  shared := waitingRoom
  threads i := .handler (.handleLeave (memberSession i) 0)

theorem bothLeave_leaving : bothLeave.Leaving 1000 memberSession where
  request i := ⟨0, rfl, Or.inl rfl⟩
  live := by decide
  waiting := by decide
  member := by decide
  different := by decide
  online := by decide
  zero := by decide
  map := by decide
  queue := by decide
  one_room := by decide
  rooms_lt := by decide

/-- Both have read the players of the room before it is removed. -/
def crossing : List (Bool × LoopChoice) :=
  turns false 3 ++ turns true 3 ++ turns false 18 ++ turns true 24

/-- One request after the other. -/
def inTurn : List (Bool × LoopChoice) :=
  turns false 21 ++ turns true 1

theorem leavers_iff_inTurn : AllSteps Threads.step Threads.LeavesAlone bothLeave inTurn :=
  (Threads.leavers_iff bothLeave_leaving inTurn (by decide +kernel)).mp
    ⟨by decide +kernel, by decide +kernel, by decide +kernel⟩

theorem leavers_counterexample :
    ¬ ∀ (c : Threads Bool Coord) (events : List (Bool × LoopChoice)),
      c.Leaving 1000 memberSession →
      (∀ i, ((events.foldl Threads.step c).threads i).isDone = true) →
      Server.LeftRoom 1000 memberSession c.shared (events.foldl Threads.step c).shared := by
  intro h
  have hleft := (h bothLeave crossing bothLeave_leaving (by decide +kernel)).left false (by decide +kernel)
  exact absurd hleft (by decide +kernel)

end Game
