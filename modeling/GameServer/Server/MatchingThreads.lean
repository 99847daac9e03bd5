import GameServer.Server.Links
import GameServer.Server.Threads
import Mathlib.Data.Fintype.Option

/-!
# Match requests and the end of a room

`StartMatching` publishes a player in the queue before it writes the player's status and room ids,
and the tick callback invites the players of an ended room to a rematch before it cleans up what
they have from the old one. Both may come after the room ids of the new room and put them back
to 0, or take the new entry off `player_room_map_`.

This file says what is still ahead of each thread, and which steps are in time: those keep the four
places of `Links` together (`Threads.Linked.step`).
-/

namespace Game

open Infra

/-! ## What is ahead of a thread -/

namespace Ahead

/-- Nothing. -/
def none : Ahead where
  erases _ := False
  resetsSession _ := False
  resetsPlayer _ := False
  holds _ := False
  joins _ _ := False
  setsMatching _ := False
  setsInRoom _ := False

/-- What is ahead of one thread or of the others. -/
def or (a b : Ahead) : Ahead where
  erases p := a.erases p ∨ b.erases p
  resetsSession p := a.resetsSession p ∨ b.resetsSession p
  resetsPlayer p := a.resetsPlayer p ∨ b.resetsPlayer p
  holds p := a.holds p ∨ b.holds p
  joins r p := a.joins r p ∨ b.joins r p
  setsMatching p := a.setsMatching p ∨ b.setsMatching p
  setsInRoom p := a.setsInRoom p ∨ b.setsInRoom p

/-- What is ahead of some thread with property `Q`. -/
def any {ι : Type} (Q : ι → Prop) (a : ι → Ahead) : Ahead where
  erases p := ∃ i, Q i ∧ (a i).erases p
  resetsSession p := ∃ i, Q i ∧ (a i).resetsSession p
  resetsPlayer p := ∃ i, Q i ∧ (a i).resetsPlayer p
  holds p := ∃ i, Q i ∧ (a i).holds p
  joins r p := ∃ i, Q i ∧ (a i).joins r p
  setsMatching p := ∃ i, Q i ∧ (a i).setsMatching p
  setsInRoom p := ∃ i, Q i ∧ (a i).setsInRoom p

/-- A thread and the others are all threads. -/
theorem any_eq {ι : Type} (a : ι → Ahead) (i : ι) :
    any (fun _ => True) a = (a i).or (any (· ≠ i) a) := by
  have hsplit : ∀ P : ι → Prop, (∃ j, True ∧ P j) = (P i ∨ ∃ j, j ≠ i ∧ P j) := by
    intro P
    refine propext ⟨?_, ?_⟩
    · rintro ⟨j, -, hj⟩
      by_cases hji : j = i
      · exact Or.inl (hji ▸ hj)
      · exact Or.inr ⟨j, hji, hj⟩
    · rintro (hi | ⟨j, -, hj⟩)
      · exact ⟨i, trivial, hi⟩
      · exact ⟨j, trivial, hj⟩
  unfold any or
  simp only [hsplit]

theorem any_congr {ι : Type} {Q : ι → Prop} {a b : ι → Ahead} (h : ∀ i, Q i → a i = b i) :
    any Q a = any Q b := by
  have hab : ∀ P : Ahead → Prop, (∃ i, Q i ∧ P (a i)) = (∃ i, Q i ∧ P (b i)) := by
    intro P
    refine propext (exists_congr fun i => and_congr_right fun hi => ?_)
    rw [h i hi]
  unfold any
  congr 1
  · exact funext fun p => hab (·.erases p)
  · exact funext fun p => hab (·.resetsSession p)
  · exact funext fun p => hab (·.resetsPlayer p)
  · exact funext fun p => hab (·.holds p)
  · exact funext fun r => funext fun p => hab (·.joins r p)
  · exact funext fun p => hab (·.setsMatching p)
  · exact funext fun p => hab (·.setsInRoom p)

end Ahead

/-- What is ahead of a thread in `StartMatching` for certain. -/
def MatchPc.ahead : MatchPc → Ahead
  | .setStatus p _ _ =>
    { Ahead.none with
      resetsSession := (· = p)
      resetsPlayer := (· = p)
      setsMatching := (· = p) }
  | .setPlayerRoom p _ _ => { Ahead.none with resetsSession := (· = p), resetsPlayer := (· = p) }
  | .setSessionRoom p _ _ => { Ahead.none with resetsSession := (· = p) }
  | .createRoom players => { Ahead.none with holds := (· ∈ players) }
  | .joinStatus r _ todo =>
    { Ahead.none with joins := fun r' p => r' = r ∧ p ∈ todo, setsInRoom := (· ∈ todo) }
  | .joinRoom r _ q todo =>
    { Ahead.none with joins := fun r' p => r' = r ∧ p ∈ q :: todo, setsInRoom := (· ∈ todo) }
  | .joinNotify r _ _ todo =>
    { Ahead.none with joins := fun r' p => r' = r ∧ p ∈ todo, setsInRoom := (· ∈ todo) }
  | _ => Ahead.none

/-- What is ahead of the cleanup of a room with the players `old`. -/
def RemovePc.ahead (old : List PlayerId) : RemovePc → Ahead
  | .erase _ =>
    { Ahead.none with erases := (· ∈ old), resetsSession := (· ∈ old), resetsPlayer := (· ∈ old) }
  | .resetSession _ todo =>
    { Ahead.none with resetsSession := (· ∈ todo), resetsPlayer := (· ∈ todo) }
  | .resetRoom _ p _ todo =>
    { Ahead.none with resetsSession := (· ∈ todo), resetsPlayer := (· ∈ p :: todo) }
  | .resetStatus _ _ _ todo =>
    { Ahead.none with resetsSession := (· ∈ todo), resetsPlayer := (· ∈ todo) }
  | .removeGame _ => Ahead.none

/-- What is ahead of the end of the tick callback. -/
def TailPc.ahead (old : List PlayerId) : TailPc → Ahead
  | .removing pc => pc.ahead old
  | pc => (RemovePc.erase pc.roomId).ahead old

variable {F : Type}

/-- What is ahead of a thread. -/
def Thread.ahead (old : List PlayerId) : Thread F → Ahead
  | .handler (.matching pc _) => pc.ahead
  | .tail (some pc) => pc.ahead old
  | _ => Ahead.none

/-! ## Which threads take part -/

/-- A match handler works for the player of its session, and has popped nobody twice. -/
def MatchPc.Serves (cm : ConnectionManager) : MatchPc → Prop
  | .push p session => cm.getByPlayerId p = some session
  | .contains p session => cm.getByPlayerId p = some session
  | .setStatus p session _ => cm.getByPlayerId p = some session
  | .setPlayerRoom p session _ => cm.getByPlayerId p = some session
  | .setSessionRoom p session _ => cm.getByPlayerId p = some session
  | .createRoom players => players.Nodup
  | _ => True

/-- A match request of a player for itself, or the end of the tick callback of the ended room. -/
def Thread.Serves (s : Server F) (ended : Option RoomId) : Thread F → Prop
  | .handler (.handleMatch session requested) =>
    s.connectionManager.getByPlayerId (s.actingPlayer session requested) = some session
  | .handler (.matching pc rest) => rest = [] ∧ pc.Serves s.connectionManager
  | .handler (.requeue rest) => rest = []
  | .handler .done => True
  | .tail (some pc) => ended = some pc.roomId
  | .tail none => True
  | _ => False

/-- The session of each player and the player of each session. -/
def Server.bindings (s : Server F) : ConnectionManager × (SessionId → PlayerId) :=
  (s.connectionManager, fun session => (s.sessionHeap session).playerId)

theorem Thread.Serves.congr {s s' : Server F} {ended : Option RoomId} {t : Thread F}
    (h : t.Serves s ended) (hs : s'.bindings = s.bindings) : t.Serves s' ended := by
  have hcm : s'.connectionManager = s.connectionManager := congrArg Prod.fst hs
  have hplayer : ∀ session, (s'.sessionHeap session).playerId = (s.sessionHeap session).playerId :=
    congrFun (congrArg Prod.snd hs)
  have hacting : ∀ session requested,
      s'.actingPlayer session requested = s.actingPlayer session requested := by
    intro session requested
    unfold Server.actingPlayer
    rw [hplayer]
  unfold Serves at h ⊢
  simpa only [hcm, hacting] using h

/-! ## No step changes a binding -/

namespace Server

@[simp] theorem bindings_setSessionRoomId (s : Server F) (session : SessionId) (r : RoomId) :
    (s.setSessionRoomId session r).bindings = s.bindings := by
  unfold bindings setSessionRoomId updateSession
  congr 1
  funext session'
  by_cases h : session' = session
  · subst h
    dsimp only
    rw [Function.update_self]
  · dsimp only
    rw [Function.update_of_ne h]

theorem bindings_createRoom (s : Server F) (players : List PlayerId) :
    (s.createRoom players).2.bindings = s.bindings :=
  view_createRoom bindings (fun _ _ => rfl) (fun _ _ _ => rfl) bindings_setSessionRoomId s players

@[simp] theorem bindings_logRemoval (s : Server F) (pc : RemovePc) :
    (s.logRemoval pc).bindings = s.bindings := by
  cases pc <;> rfl

@[simp] theorem links_logRemoval (s : Server F) (pc : RemovePc) :
    (s.logRemoval pc).links = s.links := by
  cases pc <;> rfl

end Server

theorem MatchPc.bindings_next (s : Server F) (pc : MatchPc) :
    (pc.next s).1.bindings = s.bindings := by
  cases pc with
  | push p session =>
    rw [next]
    split <;> rfl
  | setSessionRoom p session pushed => exact s.bindings_setSessionRoomId session 0
  | reply session pushed =>
    rw [next]
    split <;> rfl
  | createRoom players => exact s.bindings_createRoom players
  | joinStatus r players todo => cases todo <;> rfl
  | joinNotify r players p todo =>
    rw [next]
    dsimp only
    split <;> rfl
  | _ => rfl

theorem RemovePc.bindings_next (s : Server F) (pc : RemovePc) :
    (pc.next s).1.bindings = s.bindings := by
  cases pc with
  | resetSession r todo =>
    cases todo with
    | nil => rfl
    | cons p todo =>
      rw [next]
      split
      · exact s.bindings_setSessionRoomId _ 0
      · rfl
  | _ => rfl

theorem TailPc.bindings_next (s : Server F) (pc : TailPc) :
    (pc.next s).1.bindings = s.bindings := by
  cases pc with
  | notify r winnerId losers todo =>
    cases todo with
    | nil => rfl
    | cons p todo =>
      rw [next]
      dsimp only
      split <;> rfl
  | removing pc => exact (pc.bindings_next _).trans (s.bindings_logRemoval pc)
  | _ => rfl

theorem MatchPc.Serves.next {s : Server F} {cm : ConnectionManager} {pc pc' : MatchPc}
    (h : pc.Serves cm) (hpc : (pc.next s).2 = some pc') : pc'.Serves cm := by
  cases pc with
  | push p session =>
    rw [MatchPc.next] at hpc
    split at hpc
    · simp at hpc
    · cases hpc
      dsimp only
      split <;> exact h
  | contains p session =>
    cases hpc
    split
    · exact h
    · trivial
  | setStatus p session pushed =>
    cases hpc
    exact h
  | setPlayerRoom p session pushed =>
    cases hpc
    exact h
  | setSessionRoom p session pushed =>
    cases hpc
    trivial
  | reply session pushed =>
    rw [MatchPc.next] at hpc
    split at hpc
    · cases hpc
      trivial
    · simp at hpc
  | tryPop =>
    rw [MatchPc.next] at hpc
    dsimp only at hpc
    split at hpc
    · simp at hpc
    · cases hpc
      have hnd := s.matchQueue.queue_nodup
      rw [← s.matchQueue.tryPopN_append s.needCount] at hnd
      exact (List.nodup_append.mp hnd).1
  | createRoom players =>
    cases hpc
    trivial
  | joinStatus r players todo =>
    cases todo with
    | nil => cases hpc; trivial
    | cons p todo => cases hpc; trivial
  | joinRoom r players p todo =>
    cases hpc
    trivial
  | joinNotify r players p todo =>
    cases hpc
    trivial

/-! ## Steps in time -/

/-- What the rest of the server has to grant a step of `StartMatching`. -/
def MatchPc.InTime (first : RoomId) (l : Links) (o : Ahead) : MatchPc → Prop
  | .push p _ => p ∈ l.places.queue.queue ∨ (∀ r, ¬ l.places.New first r p) ∧ ¬ o.holds p
  | .createRoom players => ∀ p ∈ players, ¬ o.erases p ∧ ¬ o.resetsSession p
  | .joinRoom _ _ p _ => ¬ o.resetsPlayer p
  | _ => True

/-- What is ahead after a step of `StartMatching`. -/
def MatchPc.aheadAfter : Option MatchPc → Ahead
  | some pc => pc.ahead
  | none => Ahead.none

/-- **A step of `StartMatching` in time keeps the links.** -/
theorem MatchPc.links_next {first : RoomId} {s : Server F} {pc : MatchPc} {o : Ahead}
    (hdistinct : s.SessionsDistinct) (hserves : pc.Serves s.connectionManager)
    (h : LinkInv first s.links (pc.ahead.or o)) (htime : pc.InTime first s.links o)
    (hheld : ∀ p, pc.ahead.holds p → ¬ o.holds p) :
    LinkInv first (pc.next s).1.links ((aheadAfter (pc.next s).2).or o) := by
  have hsession : ∀ {p session}, s.connectionManager.getByPlayerId p = some session →
      s.links.session p ≠ none := by
    intro p session hp
    show (s.connectionManager.getByPlayerId p).map _ ≠ none
    rw [hp]
    simp
  cases pc with
  | push p session =>
    rw [MatchPc.next]
    split
    · exact h
    · next hp =>
      dsimp only
      cases hpush : (s.matchQueue.push p).1 with
      | false =>
        rw [if_neg (by simp), MatchQueue.push_of_false hpush]
        exact h
      | true =>
        -- A player who is new to the queue is in no new room, and no other thread holds it.
        have hnot : p ∉ s.links.places.queue.queue := (MatchQueue.push_eq_true_iff.mp hpush).2
        obtain ⟨hnew, hfree⟩ := htime.resolve_left hnot
        rw [if_pos rfl]
        refine (h.push (hsession hserves) hnew ?_ (MatchQueue.queue_push hpush)).weaken
          ?_ ?_ ?_ ?_ ?_ <;> simp [Ahead.or, Ahead.none, ahead, aheadAfter, hfree]
  | contains p session =>
    rw [MatchPc.next]
    dsimp only
    split
    · next hp =>
      refine (h.rematch (p := p) (MatchQueue.contains_iff.mp hp)).weaken ?_ ?_ ?_ ?_ ?_ <;>
        simp [Ahead.or, Ahead.none, ahead, aheadAfter]
    · exact h
  | setStatus p session pushed =>
    rw [MatchPc.next]
    dsimp only
    rw [Server.links_setPlayerStatus]
    exact h.setStatus _ _ _
  | setPlayerRoom p session pushed =>
    rw [MatchPc.next]
    dsimp only
    rw [Server.links_setPlayerRoomId]
    refine (h.resetPlayer (Or.inl rfl)).weaken ?_ ?_ ?_ ?_ ?_ <;>
      simp +contextual [Ahead.or, Ahead.none, ahead, aheadAfter]
  | setSessionRoom p session pushed =>
    rw [MatchPc.next]
    dsimp only
    rw [Server.links_setSessionRoomId hdistinct hserves]
    refine (h.resetSession (Or.inl rfl)).weaken ?_ ?_ ?_ ?_ ?_ <;>
      simp +contextual [Ahead.or, Ahead.none, ahead, aheadAfter]
  | reply session pushed =>
    rw [MatchPc.next]
    split <;> exact h
  | tryPop =>
    have hpop := h.pop (s.matchQueue.tryPopN_append s.needCount)
    rw [MatchPc.next]
    dsimp only
    split
    · refine hpop.weaken ?_ ?_ ?_ ?_ ?_ <;> simp +contextual [Ahead.or, Ahead.none, ahead, aheadAfter]
    · refine hpop.weaken ?_ ?_ ?_ ?_ ?_ <;> simp +contextual [Ahead.or, Ahead.none, ahead, aheadAfter]
  | createRoom players =>
    rw [MatchPc.next]
    dsimp only
    rw [Server.links_createRoom hdistinct hserves]
    -- In time: no other thread is about to erase or to reset the popped players.
    have hclear : ∀ p ∈ players, ¬ ((createRoom players).ahead.or o).erases p ∧
        ¬ ((createRoom players).ahead.or o).resetsSession p := by
      intro p hp
      have hp' := htime p hp
      exact ⟨fun hor => hor.elim id hp'.1, fun hor => hor.elim id hp'.2⟩
    have hcreate := h.create (fun p hp => Or.inl hp) hclear rfl
    refine hcreate.weaken ?_ ?_ ?_ ?_ ?_
    · exact fun p hor => hor.elim False.elim Or.inr
    · exact fun p hor => hor.elim False.elim Or.inr
    · exact fun p hor => hor.elim False.elim Or.inr
    · rintro p (hno | ho)
      · exact hno.elim
      · exact ⟨Or.inr ho, fun hp => hheld p hp ho⟩
    · intro r p
      have hroom : (s.createRoom players).1 = s.links.places.nextRoomId := rfl
      simp [Ahead.or, Ahead.none, ahead, aheadAfter, hroom]
  | joinStatus r players todo =>
    cases todo with
    | nil =>
      refine h.weaken ?_ ?_ ?_ ?_ ?_ <;> simp [Ahead.or, Ahead.none, ahead, aheadAfter, next]
    | cons p todo =>
      rw [MatchPc.next]
      dsimp only
      rw [Server.links_setPlayerStatus]
      exact h.setStatus _ _ _
  | joinRoom r players p todo =>
    rw [MatchPc.next]
    dsimp only
    rw [Server.links_setPlayerRoomId]
    have hclear : ¬ ((joinRoom r players p todo).ahead.or o).resetsPlayer p :=
      fun hor => hor.elim id htime
    show LinkInv first _ { (joinRoom r players p todo).ahead.or o with
      joins := ((joinNotify r players p todo).ahead.or o).joins }
    refine h.join (Or.inl ⟨rfl, List.mem_cons_self⟩) hclear fun r' q => ?_
    simp only [Ahead.or, ahead, List.mem_cons]
    tauto
  | joinNotify r players p todo =>
    rw [MatchPc.next]
    dsimp only
    split <;> exact h

/-- What is ahead after a step of `RemoveRoom`. -/
def RemovePc.aheadAfter (old : List PlayerId) : Option RemovePc → Ahead
  | some pc => pc.ahead old
  | none => Ahead.none

/-- **The cleanup of an old room keeps the links**, whenever it comes. -/
theorem RemovePc.links_next {first : RoomId} {s : Server F} {pc : RemovePc} {o : Ahead}
    {old : List PlayerId} (hdistinct : s.SessionsDistinct) (hlt : pc.roomId < first)
    (hold : s.links.places.members pc.roomId = old)
    (h : LinkInv first s.links ((pc.ahead old).or o)) :
    LinkInv first (pc.next s).1.links ((aheadAfter old (pc.next s).2).or o) := by
  cases pc with
  | erase r =>
    have hplayers : ∀ p ∈ (s.eraseRoom r).1, p ∈ old := by
      intro p hp
      rw [← hold]
      unfold Server.eraseRoom at hp
      dsimp only at hp
      split at hp
      · exact hp
      · simp at hp
    rw [RemovePc.next]
    dsimp only
    rw [Server.links_eraseRoom]
    refine (h.erase hlt fun p hp => Or.inl (hplayers p hp)).weaken ?_ ?_ ?_ ?_ ?_
    · exact fun p hor => hor.elim False.elim Or.inr
    · exact fun p hor => hor.imp_left (hplayers p)
    · exact fun p hor => hor.imp_left (hplayers p)
    · exact fun p hor => hor
    · exact fun r' p => Iff.rfl
  | resetSession r todo =>
    cases todo with
    | nil =>
      refine h.weaken ?_ ?_ ?_ ?_ ?_ <;> simp [Ahead.or, Ahead.none, ahead, aheadAfter, next]
    | cons p todo =>
      have hafter : LinkInv first s.links ((ahead old (.resetRoom r p true todo)).or o) := by
        refine h.weaken ?_ ?_ ?_ ?_ ?_ <;> simp +contextual [Ahead.or, Ahead.none, ahead, or_imp]
      rw [RemovePc.next]
      split
      · next session hp =>
        dsimp only
        rw [Server.links_setSessionRoomId hdistinct hp]
        refine (h.resetSession (Or.inl List.mem_cons_self)).weaken ?_ ?_ ?_ ?_ ?_ <;>
          simp +contextual [Ahead.or, Ahead.none, ahead, aheadAfter, or_imp]
      · exact hafter
  | resetRoom r p online todo =>
    rw [RemovePc.next]
    dsimp only
    rw [Server.links_setPlayerRoomId]
    refine (h.resetPlayer (Or.inl List.mem_cons_self)).weaken ?_ ?_ ?_ ?_ ?_ <;>
      simp +contextual [Ahead.or, Ahead.none, ahead, aheadAfter, or_imp]
  | resetStatus r p online todo =>
    rw [RemovePc.next]
    dsimp only
    rw [Server.links_setPlayerStatus]
    exact h.setStatus _ _ _
  | removeGame r => exact h

/-- What is ahead after a step of the end of the tick callback. -/
def TailPc.aheadAfter (old : List PlayerId) : Option TailPc → Ahead
  | some pc => pc.ahead old
  | none => Ahead.none

theorem TailPc.links_next {first : RoomId} {s : Server F} {pc : TailPc} {o : Ahead}
    {old : List PlayerId} (hdistinct : s.SessionsDistinct) (hlt : pc.roomId < first)
    (hold : s.links.places.members pc.roomId = old)
    (h : LinkInv first s.links ((pc.ahead old).or o)) :
    LinkInv first (pc.next s).1.links ((aheadAfter old (pc.next s).2).or o) := by
  cases pc with
  | announce r winnerId losers => exact h
  | notify r winnerId losers todo =>
    cases todo with
    | nil => exact h
    | cons p todo =>
      rw [TailPc.next]
      dsimp only
      split <;> exact h
  | close r =>
    rw [TailPc.next]
    dsimp only
    rw [Server.links_updateRoom s r rfl]
    exact h
  | removing pc =>
    have hlinks := s.links_logRemoval pc
    have hafter : aheadAfter old ((pc.next (s.logRemoval pc)).2.map TailPc.removing) =
        RemovePc.aheadAfter old (pc.next (s.logRemoval pc)).2 := by
      cases (pc.next (s.logRemoval pc)).2 <;> rfl
    rw [TailPc.next]
    dsimp only
    rw [hafter]
    refine RemovePc.links_next ?_ hlt (hlinks ▸ hold) (hlinks ▸ h)
    cases pc <;> exact hdistinct

/-! ## What else the steps leave alone -/

/-- Only a new room gets players. -/
theorem MatchPc.members_next {s : Server F} {pc : MatchPc} (hserves : pc.Serves s.connectionManager)
    {r : RoomId} (hr : r < s.nextRoomId) :
    (pc.next s).1.places.members r = s.places.members r := by
  cases pc with
  | push p session =>
    rw [next]
    split <;> rfl
  | reply session pushed =>
    rw [next]
    split <;> rfl
  | createRoom players =>
    rw [next]
    dsimp only
    rw [s.places_createRoom hserves]
    exact Places.members_form_of_ne (Int.ne_of_lt hr) players s.matchQueue
  | joinStatus r players todo => cases todo <;> rfl
  | joinNotify r players p todo =>
    rw [next]
    dsimp only
    split <;> rfl
  | _ => rfl

theorem RemovePc.members_next (s : Server F) (pc : RemovePc) (r : RoomId) :
    (pc.next s).1.places.members r = s.places.members r := by
  cases pc with
  | resetSession r' todo =>
    cases todo with
    | nil => rfl
    | cons p todo =>
      rw [next]
      split <;> rfl
  | _ => rfl

theorem TailPc.members_next (s : Server F) (pc : TailPc) (r : RoomId) :
    (pc.next s).1.places.members r = s.places.members r := by
  cases pc with
  | notify r' winnerId losers todo =>
    cases todo with
    | nil => rfl
    | cons p todo =>
      rw [next]
      dsimp only
      split <;> rfl
  | close r' =>
    rw [next]
    dsimp only
    rw [Server.places_updateRoom s r' rfl]
  | removing pc =>
    refine (pc.members_next _ r).trans ?_
    cases pc <;> rfl
  | _ => rfl

/-- Only players of the queue are popped. -/
theorem MatchPc.holds_next {s : Server F} {pc : MatchPc} {p : PlayerId}
    (h : (aheadAfter (pc.next s).2).holds p) : p ∈ s.matchQueue.queue := by
  cases pc with
  | tryPop =>
    rw [next] at h
    dsimp only at h
    split at h
    · exact h.elim
    · rw [← s.matchQueue.tryPopN_append s.needCount]
      exact List.mem_append_left _ h
  | push p' session =>
    rw [next] at h
    split at h
    · exact h.elim
    · dsimp only at h
      split at h <;> exact h.elim
  | contains p' session =>
    rw [next] at h
    dsimp only at h
    split at h <;> exact h.elim
  | reply session pushed =>
    rw [next] at h
    split at h <;> exact h.elim
  | joinStatus r players todo => cases todo <;> exact h.elim
  | _ => exact h.elim

/-! ## The threads -/

variable [Axis F]

/-- The thread after a step of `StartMatching` for a request with the players `rest` to requeue. -/
def Thread.matched (rest : List PlayerId) : Option MatchPc → Thread F
  | some pc => .handler (.matching pc rest)
  | none => .handler (.requeue rest)

theorem Thread.next_matching (ch : LoopChoice) (s : Server F) (pc : MatchPc)
    (rest : List PlayerId) : Thread.next ch s (.handler (.matching pc rest)) =
      ((pc.next s).1, matched rest (pc.next s).2) := by
  rw [Thread.next, HandlerPc.next]
  rcases pc.next s with ⟨s', _ | pc'⟩ <;> rfl

/-- A thread that serves goes on serving, and binds or removes no session. -/
theorem Thread.Serves.next {s : Server F} {ended : Option RoomId} {t : Thread F}
    (h : t.Serves s ended) (ch : LoopChoice) :
    (t.next ch s).1.bindings = s.bindings ∧ (t.next ch s).2.Serves s ended := by
  cases t with
  | handler pc =>
    cases pc with
    | done => exact ⟨rfl, trivial⟩
    | handleMatch session requested =>
      rw [Thread.next, HandlerPc.next]
      dsimp only
      split
      · exact ⟨rfl, trivial⟩
      · exact ⟨rfl, rfl, h⟩
    | matching pc rest =>
      obtain ⟨rfl, hpc⟩ := h
      rw [Thread.next_matching]
      refine ⟨pc.bindings_next s, ?_⟩
      cases hpc' : (pc.next s).2 with
      | none => exact rfl
      | some pc' => exact ⟨rfl, hpc.next hpc'⟩
    | requeue rest =>
      subst h
      exact ⟨rfl, trivial⟩
    | _ => exact h.elim
  | loop pc => exact h.elim
  | tail pc =>
    cases pc with
    | none => exact ⟨rfl, trivial⟩
    | some pc =>
      refine ⟨pc.bindings_next s, ?_⟩
      show Thread.Serves s ended (.tail (pc.next s).2)
      cases hpc : (pc.next s).2 with
      | none => trivial
      | some pc' => exact h.trans (congrArg some (TailPc.roomId_next hpc).symm)

variable {ι : Type}

/-- What is ahead of some thread. -/
def Threads.ahead (old : List PlayerId) (c : Threads ι F) : Ahead :=
  Ahead.any (fun _ => True) fun i => (c.threads i).ahead old

/-- What is ahead of some thread other than `i`. -/
def Threads.others (old : List PlayerId) (c : Threads ι F) (i : ι) : Ahead :=
  Ahead.any (· ≠ i) fun j => (c.threads j).ahead old

omit [Axis F] in
theorem Threads.ahead_eq (old : List PlayerId) (c : Threads ι F) (i : ι) :
    c.ahead old = ((c.threads i).ahead old).or (c.others old i) :=
  Ahead.any_eq _ i

variable [DecidableEq ι]

theorem Threads.others_step (old : List PlayerId) (c : Threads ι F) (e : ι × LoopChoice) :
    (c.step e).others old e.1 = c.others old e.1 := by
  refine Ahead.any_congr fun j hj => ?_
  rw [Sys.step_threads_of_ne hj]

/-- The step is one that keeps the links. -/
def Threads.InTime (first : RoomId) (old : List PlayerId) (c : Threads ι F)
    (e : ι × LoopChoice) : Prop :=
  ∀ pc rest, c.threads e.1 = .handler (.matching pc rest) →
    pc.InTime first c.shared.links (c.others old e.1)

/-- Match requests, and perhaps the end of the tick callback of a room with the players `old`,
on a server whose links are right for all rooms from `first` on. -/
structure Threads.Linked (first : RoomId) (ended : Option RoomId) (old : List PlayerId)
    (c : Threads ι F) : Prop where
  distinct : c.shared.SessionsDistinct
  serves : ∀ i, (c.threads i).Serves c.shared ended
  links : LinkInv first c.shared.links (c.ahead old)
  holders : ∀ i j p, ((c.threads i).ahead old).holds p → ((c.threads j).ahead old).holds p → i = j
  ended_lt : ∀ r, ended = some r → r < first
  members : ∀ r, ended = some r → c.shared.places.members r = old

/-- A step of a thread, with what the other threads have ahead of them. -/
theorem Thread.links_next {first : RoomId} {ended : Option RoomId} {old : List PlayerId}
    {s : Server F} {t : Thread F} {o : Ahead} (hdistinct : s.SessionsDistinct)
    (hserves : t.Serves s ended) (hlt : ∀ r, ended = some r → r < first)
    (hmembers : ∀ r, ended = some r → s.places.members r = old)
    (h : LinkInv first s.links ((t.ahead old).or o))
    (htime : ∀ pc rest, t = .handler (.matching pc rest) → pc.InTime first s.links o)
    (hheld : ∀ p, (t.ahead old).holds p → ¬ o.holds p) (ch : LoopChoice) :
    LinkInv first (t.next ch s).1.links (((t.next ch s).2.ahead old).or o) := by
  cases t with
  | handler pc =>
    cases pc with
    | done => exact h
    | handleMatch session requested =>
      rw [Thread.next, HandlerPc.next]
      dsimp only
      split <;> exact h
    | matching pc rest =>
      have hafter : (matched rest (pc.next s).2 : Thread F).ahead old =
          MatchPc.aheadAfter (pc.next s).2 := by
        cases (pc.next s).2 <;> rfl
      rw [Thread.next_matching, hafter]
      exact MatchPc.links_next hdistinct hserves.2 h (htime pc rest rfl) hheld
    | requeue rest =>
      obtain rfl : rest = [] := hserves
      exact h
    | _ => exact hserves.elim
  | loop pc => exact hserves.elim
  | tail pc =>
    cases pc with
    | none => exact h
    | some pc =>
      have hafter : (tail (pc.next s).2 : Thread F).ahead old =
          TailPc.aheadAfter old (pc.next s).2 := by
        cases (pc.next s).2 <;> rfl
      show LinkInv first (pc.next s).1.links (((tail (pc.next s).2 : Thread F).ahead old).or o)
      rw [hafter]
      exact TailPc.links_next hdistinct (hlt _ hserves) (hmembers _ hserves) h

theorem Thread.members_next {ended : Option RoomId} {s : Server F} {t : Thread F}
    (hserves : t.Serves s ended) {r : RoomId} (hr : r < s.nextRoomId) (ch : LoopChoice) :
    (t.next ch s).1.places.members r = s.places.members r := by
  cases t with
  | handler pc =>
    cases pc with
    | done => rfl
    | handleMatch session requested =>
      rw [Thread.next, HandlerPc.next]
      dsimp only
      split <;> rfl
    | matching pc rest =>
      rw [Thread.next_matching]
      exact MatchPc.members_next hserves.2 hr
    | requeue rest =>
      obtain rfl : rest = [] := hserves
      rfl
    | _ => exact hserves.elim
  | loop pc => exact hserves.elim
  | tail pc =>
    cases pc with
    | none => rfl
    | some pc => exact pc.members_next s r

theorem Thread.holds_next {ended : Option RoomId} {old : List PlayerId} {s : Server F}
    {t : Thread F} (hserves : t.Serves s ended) {ch : LoopChoice} {p : PlayerId}
    (h : ((t.next ch s).2.ahead old).holds p) : p ∈ s.matchQueue.queue := by
  cases t with
  | handler pc =>
    cases pc with
    | done => exact h.elim
    | handleMatch session requested =>
      rw [Thread.next, HandlerPc.next] at h
      dsimp only at h
      split at h <;> exact h.elim
    | matching pc rest =>
      rw [Thread.next_matching] at h
      suffices hholds : (MatchPc.aheadAfter (pc.next s).2).holds p from MatchPc.holds_next hholds
      cases hpc : (pc.next s).2 with
      | none => rw [hpc] at h; exact h.elim
      | some pc' => rw [hpc] at h; exact h
    | requeue rest =>
      obtain rfl : rest = [] := hserves
      exact h.elim
    | _ => exact hserves.elim
  | loop pc => exact hserves.elim
  | tail pc =>
    cases pc with
    | none => exact h.elim
    | some pc =>
      have hno : ∀ pc' : TailPc, ¬ (pc'.ahead old).holds p := by
        intro pc' hp
        cases pc' with
        | removing pc' => cases pc' <;> exact hp.elim
        | _ => exact hp.elim
      change ((tail (pc.next s).2 : Thread F).ahead old).holds p at h
      cases hpc : (pc.next s).2 with
      | none => rw [hpc] at h; exact h.elim
      | some pc' => rw [hpc] at h; exact absurd h (hno pc')

/-- **A step in time keeps the links.** -/
theorem Threads.Linked.step {first : RoomId} {ended : Option RoomId} {old : List PlayerId}
    {c : Threads ι F} (h : c.Linked first ended old) {e : ι × LoopChoice}
    (htime : c.InTime first old e) : (c.step e).Linked first ended old := by
  have hbind : (c.step e).shared.bindings = c.shared.bindings := ((h.serves e.1).next e.2).1
  have hcm : (c.step e).shared.connectionManager = c.shared.connectionManager :=
    congrArg Prod.fst hbind
  have hheld : ∀ p, ((c.threads e.1).ahead old).holds p → ¬ (c.others old e.1).holds p := by
    rintro p hp ⟨j, hj, hjp⟩
    exact hj (h.holders j e.1 p hjp hp)
  have hlinks := h.links
  rw [c.ahead_eq old e.1] at hlinks
  refine ⟨?_, ?_, ?_, ?_, h.ended_lt, ?_⟩
  · unfold Server.SessionsDistinct
    rw [hcm]
    exact h.distinct
  · refine Sys.forall_step (A := Thread.Serves (c.step e).shared ended) ?_ fun j _ => ?_
    · exact ((h.serves e.1).next e.2).2.congr hbind
    · exact (h.serves j).congr hbind
  · rw [Threads.ahead_eq old _ e.1, c.others_step old e, Sys.step_threads_self]
    exact Thread.links_next h.distinct (h.serves e.1) h.ended_lt h.members hlinks
      (fun pc rest ht => htime pc rest ht) hheld e.2
  · -- whoever has been popped is not in the queue
    have hnew : ∀ j p, j ≠ e.1 → ((c.threads j).ahead old).holds p →
        ¬ (((c.step e).threads e.1).ahead old).holds p := by
      intro j p hj hp hmoved
      rw [Sys.step_threads_self] at hmoved
      exact (h.links.held ⟨j, trivial, hp⟩).1 (Thread.holds_next (h.serves e.1) hmoved)
    intro i j p hi hj
    by_cases hie : i = e.1
    · by_cases hje : j = e.1
      · exact hie.trans hje.symm
      · subst hie
        rw [Sys.step_threads_of_ne hje] at hj
        exact absurd hi (hnew j p hje hj)
    · rw [Sys.step_threads_of_ne hie] at hi
      by_cases hje : j = e.1
      · subst hje
        exact absurd hj (hnew i p hie hi)
      · rw [Sys.step_threads_of_ne hje] at hj
        exact h.holders i j p hi hj
  · intro r hr
    have hlt : r < c.shared.nextRoomId := Int.lt_of_lt_of_le (h.ended_lt r hr) h.links.first_le
    exact (Thread.members_next (h.serves e.1) hlt e.2).trans (h.members r hr)

/-! ## One thread after the other -/

/-- A thread that has not begun or is done. -/
def Thread.isIdle : Thread F → Bool
  | .handler (.handleMatch _ _) => true
  | t => t.isDone

/-- The player that a thread is about to push. -/
def Thread.pushes : Thread F → Option PlayerId
  | .handler (.matching (.push p _) _) => some p
  | _ => none

/-- The other threads are idle, and nobody is pushed who has got a new room. -/
def Threads.Alone (first : RoomId) (c : Threads ι F) (e : ι × LoopChoice) : Prop :=
  (∀ j, j ≠ e.1 → (c.threads j).isIdle = true) ∧
    ∀ p ∈ (c.threads e.1).pushes, ∀ r ∈ c.shared.roomManager.rooms, first ≤ r →
      p ∉ (c.shared.roomHeap r).playerIds

instance [Fintype ι] (first : RoomId) (c : Threads ι F) (e : ι × LoopChoice) :
    Decidable (c.Alone first e) :=
  inferInstanceAs (Decidable ((∀ j, j ≠ e.1 → (c.threads j).isIdle = true) ∧
    ∀ p ∈ (c.threads e.1).pushes, ∀ r ∈ c.shared.roomManager.rooms, first ≤ r →
      p ∉ (c.shared.roomHeap r).playerIds))

omit [Axis F] in
theorem Thread.ahead_of_isDone {t : Thread F} (h : t.isDone = true) (old : List PlayerId) :
    t.ahead old = Ahead.none := by
  unfold isDone at h
  split at h
  · rfl
  · rfl
  · simp at h

omit [Axis F] in
theorem Thread.ahead_of_isIdle {t : Thread F} (h : t.isIdle = true) (old : List PlayerId) :
    t.ahead old = Ahead.none := by
  unfold isIdle at h
  split at h
  · rfl
  · exact ahead_of_isDone h old

omit [DecidableEq ι] [Axis F] in
/-- **A thread that runs alone is in time.** -/
theorem Threads.Alone.inTime {first : RoomId} {c : Threads ι F} {e : ι × LoopChoice}
    (h : c.Alone first e) (old : List PlayerId) : c.InTime first old e := by
  intro pc rest hpc
  have hothers : ∀ {P : Ahead → Prop}, ¬ P Ahead.none →
      ¬ ∃ j, j ≠ e.1 ∧ P ((c.threads j).ahead old) := by
    rintro P hP ⟨j, hj, hjP⟩
    rw [Thread.ahead_of_isIdle (h.1 j hj)] at hjP
    exact hP hjP
  cases pc with
  | push p session =>
    refine Or.inr ⟨?_, hothers (P := (·.holds p)) id⟩
    rintro r ⟨hr, hfirst, hp⟩
    exact h.2 p (by rw [hpc]; rfl) r hr hfirst hp
  | createRoom players =>
    exact fun p _ => ⟨hothers (P := (·.erases p)) id, hothers (P := (·.resetsSession p)) id⟩
  | joinRoom r players p todo => exact hothers (P := (·.resetsPlayer p)) id
  | _ => trivial

end Game
