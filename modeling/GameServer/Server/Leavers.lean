import GameServer.Infra.Run
import GameServer.Game.GameState
import Mathlib.Algebra.BigOperators.Group.Finset.Basic
import Mathlib.Data.List.Count

/-!
# Players who leave a waiting room, in the abstract

Several players leave rooms that have not started. Each takes the room apart and puts the others
back into the queue, from where they may come into new rooms. `Hall` is what they share, `Stage` is
how far one of them is, and `LeaveMove` says what one step can do.

`InOnePlace` holds as long as nobody enters a room that somebody else is about to take apart;
`Recalled` says that somebody who leaves is put back into the queue by another one, and that cannot
be undone.
-/

namespace Game

open Infra

/-! ## Steps -/

/-- The queue, the live rooms with their players, and the map from players to rooms. -/
structure Hall where
  queue : List PlayerId
  rooms : Finset RoomId
  members : RoomId → List PlayerId
  map : PlayerId → Option RoomId
  nextRoomId : RoomId

/-- How far somebody who leaves is. -/
inductive Stage where
  | asking
  /-- About to take the room apart, with the players to put back once they have been read. -/
  | inside (r : RoomId) (rest : Option (List PlayerId))
  /-- `left` says whether the answer was "left room"; `hand` are the players to put back and those
  on the way to a new room. -/
  | after (left : Bool) (hand : List PlayerId)

/-- The players who are in nobody's place but in the hands of this thread. -/
def Stage.hand : Stage → List PlayerId
  | .after _ hand => hand
  | _ => []

/-- `RemoveRoom`, as far as it goes for somebody who leaves. -/
def Hall.erase (h : Hall) (r : RoomId) : Hall :=
  { h with
    rooms := h.rooms.erase r
    map := fun q => if r ∈ h.rooms ∧ q ∈ h.members r then none else h.map q }

/-- `MatchQueue::Push`. -/
def Hall.push (h : Hall) (q : PlayerId) : Hall :=
  { h with queue := if q ∈ h.queue then h.queue else h.queue ++ [q] }

/-- `CreateRoom`. -/
def Hall.create (h : Hall) (players : List PlayerId) : Hall :=
  { h with
    rooms := insert h.nextRoomId h.rooms
    members := Function.update h.members h.nextRoomId players
    map := fun q => if q ∈ players then some h.nextRoomId else h.map q
    nextRoomId := h.nextRoomId + 1 }

/-- One step of `p`, who leaves the room `r₀` or another one; `online` are the players who can be
put back into the queue. -/
inductive LeaveMove (r₀ : RoomId) (online : PlayerId → Prop) (p : PlayerId) :
    Hall → Stage → Hall → Stage → Prop where
  | stay {h st} : LeaveMove r₀ online p h st h st
  | refuse {h} (hno : ¬ (r₀ ∈ h.rooms ∧ h.map p = some r₀)) :
      LeaveMove r₀ online p h .asking h (.after false [])
  | enter {h} (r : RoomId) (hr : r ∈ h.rooms) (hmap : h.map p = some r) :
      LeaveMove r₀ online p h .asking h (.inside r none)
  | snapshot {h} (r : RoomId) : LeaveMove r₀ online p h (.inside r none) h
      (.inside r (some ((h.members r).filter (· ≠ p))))
  | erase {h} (r : RoomId) (rest : List PlayerId) :
      LeaveMove r₀ online p h (.inside r (some rest)) (h.erase r) (.after true rest)
  | drop {h} (left : Bool) (q : PlayerId) (hand : List PlayerId) (hq : online q → q = 0) :
      LeaveMove r₀ online p h (.after left (q :: hand)) h (.after left hand)
  | push {h} (left : Bool) (q : PlayerId) (hand : List PlayerId) :
      LeaveMove r₀ online p h (.after left (q :: hand)) (h.push q) (.after left hand)
  | pop {h} (left : Bool) (hand players queue : List PlayerId)
      (hqueue : h.queue = players ++ queue) :
      LeaveMove r₀ online p h (.after left hand) { h with queue := queue }
        (.after left (players ++ hand))
  | create {h} (left : Bool) (hand players : List PlayerId) (hnd : players.Nodup) :
      LeaveMove r₀ online p h (.after left (players ++ hand)) (h.create players)
        (.after left hand)

variable {ι : Type} {r₀ : RoomId} {online : PlayerId → Prop} {P : ι → PlayerId} {h h' : Hall}
  {stages stages' : ι → Stage} {i : ι} {st' : Stage}

/-- What holds whatever the threads do. -/
structure HallInv (P : ι → PlayerId) (h : Hall) (stages : ι → Stage) : Prop where
  fresh : ∀ r ∈ h.rooms, r < h.nextRoomId
  queue_nodup : h.queue.Nodup
  members_nodup : ∀ r, (h.members r).Nodup
  inside : ∀ i r rest, stages i = .inside r rest → r < h.nextRoomId ∧
    ∀ players, rest = some players → players = (h.members r).filter (· ≠ P i)

/-- The rooms of `h₀` and their players are as they were, or gone. -/
structure Hall.Since (h₀ h : Hall) : Prop where
  next : h₀.nextRoomId ≤ h.nextRoomId
  rooms : ∀ r ∈ h.rooms, r < h₀.nextRoomId → r ∈ h₀.rooms
  members : ∀ r < h₀.nextRoomId, h.members r = h₀.members r

theorem Hall.Since.refl (h : Hall) : h.Since h :=
  ⟨Int.le_refl _, fun _ hr _ => hr, fun _ _ => rfl⟩

theorem Hall.Since.step {h₀ : Hall} {p : PlayerId} {st : Stage} (hS : h₀.Since h)
    (hmove : LeaveMove r₀ online p h st h' st') : h₀.Since h' := by
  obtain ⟨h₁, h₂, h₃⟩ := hS
  cases hmove with
  | erase r rest => exact ⟨h₁, fun r' hr' => h₂ r' (Finset.mem_of_mem_erase hr'), h₃⟩
  | create left hand players hnd =>
    refine ⟨h₁.trans (Int.lt_succ _).le, fun r hr hlt => ?_, fun r hlt => ?_⟩
    · rcases Finset.mem_insert.mp hr with rfl | hr
      · exact absurd hlt h₁.not_gt
      · exact h₂ r hr hlt
    · exact (Function.update_of_ne (hlt.trans_le h₁).ne ..).trans (h₃ r hlt)
  | _ => exact ⟨h₁, h₂, h₃⟩

/-- A thread moves, and the old rooms keep their players. -/
theorem HallInv.moved [DecidableEq ι] (hI : HallInv P h stages) (hS : h.Since h')
    (hth : ∀ j, stages' j = if j = i then st' else stages j)
    (hin : ∀ r rest, st' = .inside r rest → r < h.nextRoomId ∧
      ∀ players, rest = some players → players = (h.members r).filter (· ≠ P i))
    (hfresh : ∀ r ∈ h'.rooms, r < h'.nextRoomId) (hqueue : h'.queue.Nodup)
    (hmembers : ∀ r, (h'.members r).Nodup) : HallInv P h' stages' where
  fresh := hfresh
  queue_nodup := hqueue
  members_nodup := hmembers
  inside j r rest hj := by
    have hold : r < h.nextRoomId ∧
        ∀ players, rest = some players → players = (h.members r).filter (· ≠ P j) := by
      rw [hth] at hj
      split at hj
      · next hji => exact hji ▸ hin r rest hj
      · exact hI.inside j r rest hj
    exact ⟨lt_of_lt_of_le hold.1 hS.next, by rw [hS.members r hold.1]; exact hold.2⟩

theorem HallInv.step [DecidableEq ι] (hI : HallInv P h stages)
    (hth : ∀ j, stages' j = if j = i then st' else stages j)
    (hmove : LeaveMove r₀ online (P i) h (stages i) h' st') : HallInv P h' stages' := by
  have hS := (Hall.Since.refl h).step hmove
  have hi := hI.inside i
  generalize hst : stages i = st at hmove hi
  cases hmove with
  | stay =>
    exact hI.moved hS hth hi hI.fresh hI.queue_nodup hI.members_nodup
  | refuse hno =>
    exact hI.moved hS hth (fun _ _ h => by cases h) hI.fresh hI.queue_nodup hI.members_nodup
  | enter r hr hmap =>
    refine hI.moved hS hth (fun r' rest h => ?_) hI.fresh hI.queue_nodup hI.members_nodup
    cases h
    exact ⟨hI.fresh r hr, fun _ h => by cases h⟩
  | snapshot r =>
    refine hI.moved hS hth (fun r' rest h => ?_) hI.fresh hI.queue_nodup hI.members_nodup
    cases h
    exact ⟨(hi r none rfl).1, fun _ h => by cases h; rfl⟩
  | erase r rest =>
    exact hI.moved hS hth (fun _ _ h => by cases h)
      (fun r' hr' => hI.fresh r' (Finset.mem_of_mem_erase hr')) hI.queue_nodup hI.members_nodup
  | drop left q hand hq =>
    exact hI.moved hS hth (fun _ _ h => by cases h) hI.fresh hI.queue_nodup hI.members_nodup
  | push left q hand =>
    refine hI.moved hS hth (fun _ _ h => by cases h) hI.fresh ?_ hI.members_nodup
    unfold Hall.push
    dsimp only
    split
    · exact hI.queue_nodup
    · next hq => exact hI.queue_nodup.append (List.nodup_singleton q) (by simpa using hq)
  | pop left hand players queue hqueue =>
    have hnodup := hI.queue_nodup
    rw [hqueue] at hnodup
    exact hI.moved hS hth (fun _ _ h => by cases h) hI.fresh hnodup.of_append_right
      hI.members_nodup
  | create left hand players hnd =>
    refine hI.moved hS hth (fun _ _ h => by cases h) (fun r hr => ?_) hI.queue_nodup fun r => ?_
    · rcases Finset.mem_insert.mp hr with rfl | hr
      · exact Int.lt_succ _
      · exact (hI.fresh r hr).trans (Int.lt_succ _)
    · change (Function.update h.members h.nextRoomId players r).Nodup
      rw [Function.update_apply]
      split
      · exact hnd
      · exact hI.members_nodup r

/-! ## In time -/

/-- Where a player can be. -/
inductive Spot (ι : Type) where
  | queue
  | room (r : RoomId)
  | hand (i : ι)
  deriving DecidableEq

/-- The player is there. -/
def Hall.At (h : Hall) (stages : ι → Stage) (q : PlayerId) : Spot ι → Prop
  | .queue => q ∈ h.queue
  | .room r => r ∈ h.rooms ∧ q ∈ h.members r
  | .hand i => q ∈ (stages i).hand

/-- What holds of the players `members` of the room `r₀` as long as everybody enters in time. -/
structure InOnePlace (r₀ : RoomId) (members : List PlayerId) (online : PlayerId → Prop)
    (P : ι → PlayerId) (h : Hall) (stages : ι → Stage) : Prop extends HallInv P h stages where
  home : h.members r₀ = members
  home_lt : r₀ < h.nextRoomId
  once : ∀ q ∈ members, ∀ x y, h.At stages q x → h.At stages q y → x = y
  single : ∀ q ∈ members, ∀ i, (stages i).hand.count q ≤ 1
  map : ∀ q ∈ members, ∀ r, h.map q = some r ↔ r ∈ h.rooms ∧ q ∈ h.members r
  /-- Nobody is on the way to a room that is not there, and nobody is there with another one. -/
  sole : ∀ i j r rest rest', stages i = .inside r rest → stages j = .inside r rest' → i = j
  live : ∀ i r rest, stages i = .inside r rest → r ∈ h.rooms ∧ P i ∈ h.members r
  gone : ∀ i hand x, stages i = .after true hand → ¬ h.At stages (P i) x
  kept : ∀ q ∈ members, online q → (∀ i hand, P i = q → stages i ≠ .after true hand) →
    ∃ x, h.At stages q x
  asked : r₀ ∈ h.rooms → ∀ i, stages i = .asking ∨ ∃ rest, stages i = .inside r₀ rest

/-- Nobody else is about to take the room apart that this step enters. -/
def EntersAlone (stages : ι → Stage) (i : ι) (st' : Stage) : Prop :=
  ∀ r, stages i = .asking → st' = .inside r none → ∀ j rest, stages j ≠ .inside r rest

section

variable [DecidableEq ι] {members : List PlayerId}

/-- Whoever is somewhere after the step was there before, or has come from `a` to `b`. -/
def Carried (h : Hall) (stages : ι → Stage) (h' : Hall) (stages' : ι → Stage) (q : PlayerId)
    (a b : Spot ι) : Prop :=
  ∀ y, h'.At stages' q y → (y ≠ a ∧ h.At stages q y) ∨ (y = b ∧ h.At stages q a)

omit [DecidableEq ι] in
theorem Carried.refl {q : PlayerId} (a : Spot ι)
    (hsame : ∀ y, h'.At stages' q y → h.At stages q y) : Carried h stages h' stages' q a a := by
  intro y hy
  by_cases hya : y = a
  · subst hya
    exact Or.inr ⟨rfl, hsame y hy⟩
  · exact Or.inl ⟨hya, hsame y hy⟩

omit [DecidableEq ι] in
theorem Carried.once {q : PlayerId} {a b : Spot ι} (hc : Carried h stages h' stages' q a b)
    (honce : ∀ x y, h.At stages q x → h.At stages q y → x = y) :
    ∀ x y, h'.At stages' q x → h'.At stages' q y → x = y := by
  intro x y hx hy
  rcases hc x hx with ⟨hxa, hx⟩ | ⟨rfl, hx⟩ <;> rcases hc y hy with ⟨hya, hy⟩ | ⟨rfl, hy⟩
  · exact honce _ _ hx hy
  · exact absurd (honce _ _ hx hy) hxa
  · exact absurd (honce _ _ hy hx) hya
  · rfl

omit [DecidableEq ι] in
theorem Carried.gone {q : PlayerId} {a b : Spot ι} (hc : Carried h stages h' stages' q a b)
    (hgone : ∀ x, ¬ h.At stages q x) (x : Spot ι) : ¬ h'.At stages' q x := by
  intro hx
  rcases hc x hx with ⟨-, hx⟩ | ⟨-, hx⟩
  · exact hgone _ hx
  · exact hgone _ hx

theorem hand_eq {st' : Stage} (hth : ∀ j, stages' j = if j = i then st' else stages j) (j : ι) :
    (stages' j).hand = if j = i then st'.hand else (stages j).hand := by
  rw [hth]
  split <;> rfl

/-- A step that carries nobody anywhere. -/
theorem InOnePlace.quiet (hI : InOnePlace r₀ members online P h stages)
    (hbase : HallInv P h stages') (hth : ∀ j, stages' j = if j = i then st' else stages j)
    (hhand : st'.hand = (stages i).hand) (hleft : ∀ hand, st' ≠ .after true hand)
    (hwas : ∀ hand, stages i ≠ .after true hand)
    (hask : r₀ ∈ h.rooms → st' = .asking ∨ ∃ rest, st' = .inside r₀ rest)
    (hin : ∀ r rest, st' = .inside r rest → (r ∈ h.rooms ∧ P i ∈ h.members r) ∧
      ∀ j rest', j ≠ i → stages j ≠ .inside r rest') :
    InOnePlace r₀ members online P h stages' := by
  have hsame : ∀ j, (stages' j).hand = (stages j).hand := by
    intro j
    rw [hand_eq hth]
    split
    · next h => rw [h, hhand]
    · rfl
  have hat : ∀ q x, h.At stages' q x ↔ h.At stages q x := by
    rintro q (_ | _ | j) <;> simp only [Hall.At, hsame]
  obtain ⟨-, h₁, h₂, h₃, h₄, h₅, h₆, h₇, h₈, h₉, h₁₀⟩ := hI
  refine ⟨hbase, h₁, h₂, ?_, ?_, h₅, ?_, ?_, ?_, ?_, ?_⟩ <;> grind

theorem InOnePlace.erase (hP : ∀ i, P i ∈ members)
    (hI : InOnePlace r₀ members online P h stages) {r : RoomId} {rest : List PlayerId}
    (hst : stages i = .inside r (some rest)) (hbase : HallInv P (h.erase r) stages')
    (hth : ∀ j, stages' j = if j = i then .after true rest else stages j) :
    InOnePlace r₀ members online P (h.erase r) stages' := by
  obtain ⟨hr, hmem⟩ := hI.live i r _ hst
  have hrest := (hI.inside i r _ hst).2 rest rfl
  have hat : ∀ q y, (h.erase r).At stages' q y ↔
      (y ≠ .room r ∧ h.At stages q y) ∨ (y = .hand i ∧ q ∈ h.members r ∧ q ≠ P i) := by
    rintro q (_ | r' | j)
    · simp [Hall.At, Hall.erase]
    · simp [Hall.At, Hall.erase, and_assoc]
    · simp only [Hall.At, hand_eq hth]
      grind [Stage.hand]
  have hc : ∀ q, Carried h stages (h.erase r) stages' q (.room r) (.hand i) := by
    intro q y hy
    rcases (hat q y).mp hy with hy | ⟨rfl, hq, -⟩
    · exact Or.inl hy
    · exact Or.inr ⟨rfl, hr, hq⟩
  have hsole : ∀ j rest', stages j = .inside r rest' → j = i :=
    fun j rest' hj => hI.sole j i r rest' _ hj hst
  refine ⟨hbase, hI.home, hI.home_lt, fun q hq => (hc q).once (hI.once q hq), ?_, ?_, ?_, ?_, ?_,
    ?_, ?_⟩
  · intro q hq j
    rw [hand_eq hth]
    split
    · rw [Stage.hand, hrest]
      exact List.nodup_iff_count_le_one.mp ((hI.members_nodup r).filter _) q
    · exact hI.single q hq j
  · intro q hq r'
    have honce := hI.once q hq (.room r) (.room r')
    have hmap := hI.map q hq r'
    simp only [Hall.At] at honce
    simp only [Hall.erase]
    grind
  · intro j k r' rest' rest'' hj hk
    exact hI.sole j k r' rest' rest'' (by grind) (by grind)
  · intro j r' rest' hj
    have hne : r' ≠ r := by grind
    have := hI.live j r' rest' (by grind)
    exact ⟨Finset.mem_erase.mpr ⟨hne, this.1⟩, this.2⟩
  · intro j hand x hj
    by_cases hji : j = i
    · subst hji
      intro hx
      rcases (hat _ x).mp hx with ⟨hne, hx⟩ | ⟨-, -, hne⟩
      · exact hne (hI.once (P j) (hP j) _ _ hx ⟨hr, hmem⟩)
      · exact hne rfl
    · rw [hth, if_neg hji] at hj
      exact (hc _).gone (fun x => hI.gone j hand x hj) x
  · intro q hq hon hnot
    obtain ⟨x, hx⟩ := hI.kept q hq hon (by
      intro j hand hj hjst
      refine hnot j hand hj ?_
      rw [hth, if_neg (by grind), hjst])
    by_cases hxr : x = .room r
    · subst hxr
      refine ⟨.hand i, (hat _ _).mpr (Or.inr ⟨rfl, hx.2, ?_⟩)⟩
      rintro rfl
      exact hnot i rest rfl (by rw [hth, if_pos rfl])
    · exact ⟨x, (hat _ _).mpr (Or.inl ⟨hxr, hx⟩)⟩
  · intro hr₀ j
    have hr₀' := Finset.mem_erase.mp hr₀
    rcases hI.asked hr₀'.2 i with hi | ⟨rest', hi⟩ <;> grind

/-- What a step keeps of the threads that are after their removal. -/
theorem InOnePlace.after (hI : InOnePlace r₀ members online P h stages) {left : Bool}
    {hand hand' : List PlayerId} (hst : stages i = .after left hand)
    (hbase : HallInv P h' stages')
    (hth : ∀ j, stages' j = if j = i then .after left hand' else stages j)
    (hP : ∀ i, P i ∈ members)
    (hhome : h'.members r₀ = members) (hlt : r₀ < h'.nextRoomId)
    (hc : ∀ q ∈ members, ∃ a b, Carried h stages h' stages' q a b)
    (hsingle : ∀ q ∈ members, hand'.count q ≤ 1)
    (hmap : ∀ q ∈ members, ∀ r, h'.map q = some r ↔ r ∈ h'.rooms ∧ q ∈ h'.members r)
    (hlive : ∀ r, r ∈ h.rooms → r ∈ h'.rooms ∧ h'.members r = h.members r)
    (hkept : ∀ q ∈ members, online q → (∃ x, h.At stages q x) → ∃ x, h'.At stages' q x)
    (hr₀ : r₀ ∈ h'.rooms → r₀ ∈ h.rooms) :
    InOnePlace r₀ members online P h' stages' := by
  refine ⟨hbase, hhome, hlt, ?_, ?_, hmap, ?_, ?_, ?_, ?_, ?_⟩
  · intro q hq
    obtain ⟨a, b, hc⟩ := hc q hq
    exact hc.once (hI.once q hq)
  · intro q hq j
    rw [hand_eq hth]
    split
    · exact hsingle q hq
    · exact hI.single q hq j
  · intro j k r rest rest' hj hk
    exact hI.sole j k r rest rest' (by grind) (by grind)
  · intro j r rest hj
    have := hI.live j r rest (by grind)
    have hr := hlive r this.1
    exact ⟨hr.1, hr.2 ▸ this.2⟩
  · intro j hand₁ x hj
    obtain ⟨a, b, hc⟩ := hc (P j) (hP j)
    obtain ⟨hand₂, hj'⟩ : ∃ hand₂, stages j = .after true hand₂ := by grind
    exact hc.gone (fun x => hI.gone j hand₂ x hj') x
  · intro q hq hon hnot
    exact hkept q hq hon (hI.kept q hq hon (by grind))
  · intro hr j
    have := hI.asked (hr₀ hr) i
    grind

theorem InOnePlace.drop (hP : ∀ i, P i ∈ members) (h0 : 0 ∉ members)
    (hI : InOnePlace r₀ members online P h stages) {left : Bool} {q : PlayerId}
    {hand : List PlayerId} (hst : stages i = .after left (q :: hand)) (hq : online q → q = 0)
    (hbase : HallInv P h stages')
    (hth : ∀ j, stages' j = if j = i then .after left hand else stages j) :
    InOnePlace r₀ members online P h stages' := by
  refine hI.after hst hbase hth hP hI.home hI.home_lt ?_ ?_ hI.map (fun r hr => ⟨hr, rfl⟩) ?_ id
  · refine fun q' _ => ⟨.queue, .queue, .refl _ ?_⟩
    rintro (_ | r | j) <;> simp only [Hall.At, hand_eq hth] <;> grind [Stage.hand]
  · intro q' hq'
    have := hI.single q' hq' i
    rw [hst, Stage.hand, List.count_cons] at this
    omega
  · rintro q' hq' hon ⟨x, hx⟩
    have hne : q' ≠ q := by
      rintro rfl
      exact h0 (hq hon ▸ hq')
    refine ⟨x, ?_⟩
    cases x with
    | queue => exact hx
    | room r => exact hx
    | hand j => grind [Hall.At, hand_eq hth, Stage.hand]

theorem InOnePlace.push (hP : ∀ i, P i ∈ members)
    (hI : InOnePlace r₀ members online P h stages) {left : Bool} {q : PlayerId}
    {hand : List PlayerId} (hst : stages i = .after left (q :: hand))
    (hbase : HallInv P (h.push q) stages')
    (hth : ∀ j, stages' j = if j = i then .after left hand else stages j) :
    InOnePlace r₀ members online P (h.push q) stages' := by
  have hqueue : ∀ q', q' ∈ (h.push q).queue ↔ q' = q ∨ q' ∈ h.queue := by
    intro q'
    simp only [Hall.push]
    grind
  have hold : q ∈ (stages i).hand := by rw [hst]; exact List.mem_cons_self
  refine hI.after hst hbase hth hP hI.home hI.home_lt ?_ ?_ hI.map (fun r hr => ⟨hr, rfl⟩) ?_ id
  · intro q' hq'
    by_cases hne : q' = q
    · subst hne
      refine ⟨.hand i, .queue, ?_⟩
      have hnot : q' ∉ hand := by
        have := hI.single q' hq' i
        rw [hst, Stage.hand, List.count_cons_self] at this
        exact List.count_eq_zero.mp (by omega)
      rintro (_ | r | j) hy
      · exact Or.inr ⟨rfl, hold⟩
      · exact Or.inl ⟨by simp, hy⟩
      · grind [Hall.At, hand_eq hth, Stage.hand]
    · refine ⟨.queue, .queue, .refl _ ?_⟩
      rintro (_ | r | j) <;> simp only [Hall.At, hand_eq hth, hqueue] <;> grind [Stage.hand, Hall.push]
  · intro q' hq'
    have := hI.single q' hq' i
    rw [hst, Stage.hand, List.count_cons] at this
    omega
  · rintro q' hq' hon ⟨x, hx⟩
    by_cases hne : q' = q
    · exact ⟨.queue, (hqueue q').mpr (Or.inl hne)⟩
    · refine ⟨x, ?_⟩
      cases x with
      | queue => exact (hqueue q').mpr (Or.inr hx)
      | room r => exact hx
      | hand j => grind [Hall.At, hand_eq hth, Stage.hand]

theorem InOnePlace.pop (hP : ∀ i, P i ∈ members)
    (hI : InOnePlace r₀ members online P h stages) {left : Bool}
    {hand players queue : List PlayerId} (hst : stages i = .after left hand)
    (hqueue : h.queue = players ++ queue) (hbase : HallInv P { h with queue := queue } stages')
    (hth : ∀ j, stages' j = if j = i then .after left (players ++ hand) else stages j) :
    InOnePlace r₀ members online P { h with queue := queue } stages' := by
  have hnd := hI.queue_nodup
  rw [hqueue, List.nodup_append] at hnd
  refine hI.after hst hbase hth hP hI.home hI.home_lt ?_ ?_ hI.map (fun r hr => ⟨hr, rfl⟩) ?_ id
  · intro q hq
    by_cases hmem : q ∈ players
    · refine ⟨.queue, .hand i, ?_⟩
      rintro (_ | r | j) hy
      · grind [Hall.At]
      · exact Or.inl ⟨by simp, hy⟩
      · simp only [Hall.At, hand_eq hth] at hy ⊢
        grind [Stage.hand]
    · refine ⟨.queue, .queue, .refl _ ?_⟩
      rintro (_ | r | j) <;> simp only [Hall.At, hand_eq hth] <;> grind [Stage.hand]
  · intro q hq
    have hone := hI.single q hq i
    have honce := hI.once q hq .queue (.hand i)
    rw [hst, Stage.hand] at hone
    rw [List.count_append]
    by_cases hmem : q ∈ players
    · have : q ∉ hand := by
        intro hin
        have := honce (by rw [Hall.At, hqueue]; exact List.mem_append_left _ hmem)
          (by rw [Hall.At, hst]; exact hin)
        cases this
      rw [List.count_eq_zero.mpr this]
      exact List.nodup_iff_count_le_one.mp hnd.1 q
    · rw [List.count_eq_zero.mpr hmem]
      omega
  · rintro q hq hon ⟨x, hx⟩
    cases x with
    | queue =>
      rw [Hall.At, hqueue] at hx
      rcases List.mem_append.mp hx with hx | hx
      · refine ⟨.hand i, ?_⟩
        rw [Hall.At, hand_eq hth, if_pos rfl]
        exact List.mem_append_left _ hx
      · exact ⟨.queue, hx⟩
    | room r => exact ⟨.room r, hx⟩
    | hand j =>
      refine ⟨.hand j, ?_⟩
      simp only [Hall.At, hand_eq hth] at hx ⊢
      grind [Stage.hand]

theorem InOnePlace.create (hP : ∀ i, P i ∈ members)
    (hI : InOnePlace r₀ members online P h stages) {left : Bool}
    {hand players : List PlayerId} (hst : stages i = .after left (players ++ hand))
    (hbase : HallInv P (h.create players) stages')
    (hth : ∀ j, stages' j = if j = i then .after left hand else stages j) :
    InOnePlace r₀ members online P (h.create players) stages' := by
  have hlt := hI.home_lt
  have hfresh := hI.fresh
  have hroom : ∀ r ∈ h.rooms, (h.create players).members r = h.members r := by
    intro r hr
    exact Function.update_of_ne (hfresh r hr).ne ..
  have hnew : (h.create players).members h.nextRoomId = players := Function.update_self ..
  have hrooms : ∀ r, r ∈ (h.create players).rooms ↔ r = h.nextRoomId ∨ r ∈ h.rooms :=
    fun r => Finset.mem_insert
  refine hI.after hst hbase hth hP ?_ (Int.lt_add_one_of_le hlt.le) ?_ ?_ ?_
    (fun r hr => ⟨(hrooms r).mpr (Or.inr hr), hroom r hr⟩) ?_ ?_
  · exact (Function.update_of_ne hlt.ne ..).trans hI.home
  · intro q hq
    have honce := hI.once q hq
    by_cases hmem : q ∈ players
    -- A player of the new room leaves the hand of `i` for it; the hand held it once.
    · have hheld : h.At stages q (.hand i) := by
        rw [Hall.At, hst]
        exact List.mem_append_left _ hmem
      have hnot : q ∉ hand := by
        intro hin
        have hone := hI.single q hq i
        rw [hst, Stage.hand, List.count_append] at hone
        have := List.count_pos_iff.mpr hmem
        have := List.count_pos_iff.mpr hin
        omega
      refine ⟨.hand i, .room h.nextRoomId, ?_⟩
      rintro (_ | r | j) hy
      · exact Or.inl ⟨by simp, hy⟩
      · rcases (hrooms r).mp hy.1 with rfl | hr
        · exact Or.inr ⟨rfl, hheld⟩
        · exact Or.inl ⟨by simp, hr, hroom r hr ▸ hy.2⟩
      · simp only [Hall.At, hand_eq hth] at hy ⊢
        grind [Stage.hand]
    · refine ⟨.queue, .queue, .refl _ ?_⟩
      rintro (_ | r | j) hy
      · exact hy
      · rcases (hrooms r).mp hy.1 with rfl | hr
        · exact absurd (hnew ▸ hy.2) hmem
        · exact ⟨hr, hroom r hr ▸ hy.2⟩
      · simp only [Hall.At, hand_eq hth] at hy ⊢
        grind [Stage.hand]
  · intro q hq
    have := hI.single q hq i
    rw [hst, Stage.hand, List.count_append] at this
    omega
  · intro q hq r
    have hmap := hI.map q hq r
    have honce := hI.once q hq (.hand i) (.room r)
    have hmap' : (h.create players).map q =
        if q ∈ players then some h.nextRoomId else h.map q := rfl
    rw [hmap', hrooms]
    simp only [Hall.At, hst, Stage.hand] at honce
    -- The id is new, so no entry and no room has it yet.
    by_cases hr : r = h.nextRoomId
    · subst hr
      have := hfresh h.nextRoomId
      grind
    · have hsame : (h.create players).members r = h.members r := Function.update_of_ne hr ..
      rw [hsame]
      grind
  · rintro q hq hon ⟨x, hx⟩
    cases x with
    | queue => exact ⟨.queue, hx⟩
    | room r => exact ⟨.room r, (hrooms r).mpr (Or.inr hx.1), (hroom r hx.1).symm ▸ hx.2⟩
    | hand j =>
      by_cases hmem : j = i ∧ q ∈ players
      · exact ⟨.room h.nextRoomId, (hrooms _).mpr (Or.inl rfl), hnew.symm ▸ hmem.2⟩
      · refine ⟨.hand j, ?_⟩
        simp only [Hall.At, hand_eq hth] at hx ⊢
        grind [Stage.hand]
  · intro hr
    exact ((hrooms r₀).mp hr).resolve_left hlt.ne

/-- **One step.** Somebody who enters in time keeps everybody in one place. -/
theorem InOnePlace.step (hP : ∀ i, P i ∈ members) (h0 : 0 ∉ members)
    (hI : InOnePlace r₀ members online P h stages)
    (hth : ∀ j, stages' j = if j = i then st' else stages j)
    (hmove : LeaveMove r₀ online (P i) h (stages i) h' st')
    (hG : EntersAlone stages i st') : InOnePlace r₀ members online P h' stages' := by
  have hbase := hI.toHallInv.step hth hmove
  generalize hst : stages i = st at hmove
  cases hmove with
  | stay =>
    have hsame : stages' = stages := by
      funext j
      rw [hth]
      split
      · next h => rw [h, hst]
      · rfl
    rw [hsame]
    exact hI
  | refuse hno =>
    refine hI.quiet hbase hth (by rw [hst]; rfl) (by simp) (by simp [hst]) ?_ (by simp)
    intro hr
    exact absurd ⟨hr, (hI.map _ (hP i) _).mpr ⟨hr, hI.home ▸ hP i⟩⟩ hno
  | enter r hr hmap =>
    have hmem := (hI.map _ (hP i) r).mp hmap
    refine hI.quiet hbase hth (by rw [hst]; rfl) (by simp) (by simp [hst]) ?_ ?_
    · intro hr₀
      have := (hI.map _ (hP i) r₀).mpr ⟨hr₀, hI.home ▸ hP i⟩
      rw [hmap, Option.some.injEq] at this
      exact Or.inr ⟨none, this ▸ rfl⟩
    · rintro r' rest hr'
      cases hr'
      exact ⟨hmem, fun j rest' _ => hG r hst rfl j rest'⟩
  | snapshot r =>
    refine hI.quiet hbase hth (by rw [hst]; rfl) (by simp) (by simp [hst]) ?_ ?_
    · intro hr₀
      have := hI.asked hr₀ i
      grind
    · rintro r' rest hr'
      cases hr'
      refine ⟨hI.live i r none hst, fun j rest' hj hin => hj ?_⟩
      exact hI.sole j i r _ _ hin hst
  | erase r rest => exact hI.erase hP hst hbase hth
  | drop left q hand hq => exact hI.drop hP h0 hst hq hbase hth
  | push left q hand => exact hI.push hP hst hbase hth
  | pop left hand players queue hqueue => exact hI.pop hP hst hqueue hbase hth
  | create left hand players hnd => exact hI.create hP hst hbase hth

end

/-! ## Too late -/

/-- Somebody who leaves is with somebody else, who will put it back, or is back already. -/
def Recalled (online : PlayerId → Prop) (P : ι → PlayerId) (h : Hall) (stages : ι → Stage) : Prop :=
  ∃ j, online (P j) ∧
    ((∃ r rest, stages j = .inside r rest) ∨ ∃ hand, stages j = .after true hand) ∧
    ((∃ i r rest, i ≠ j ∧ stages i = .inside r rest ∧ P j ∈ h.members r) ∨
      P j ∈ h.queue ∨ (∃ i, P j ∈ (stages i).hand) ∨
      ∃ r ∈ h.rooms, P j ∈ h.members r ∧ ∀ rest, stages j ≠ .inside r rest)

section

variable [DecidableEq ι] {members : List PlayerId}

/-- **Nobody is called off.** -/
theorem Recalled.step (hinj : Function.Injective P) (h0 : ∀ i, P i ≠ 0) (hI : HallInv P h stages)
    (hth : ∀ j, stages' j = if j = i then st' else stages j)
    (hmove : LeaveMove r₀ online (P i) h (stages i) h' st') (hR : Recalled online P h stages) :
    Recalled online P h' stages' := by
  obtain ⟨j, hon, hleaves, hwhere⟩ := hR
  have hne : ∀ k, k ≠ j → P j ≠ P k := fun k hk hP => hk (hinj hP.symm)
  have hhand := hand_eq hth
  have hin := hI.inside
  have hfresh := hI.fresh
  have hj0 := h0 j
  generalize hst : stages i = st at hmove
  refine ⟨j, hon, ?_, ?_⟩
  · cases hmove <;> grind
  -- In each move: `j` is in a room to be erased, in the queue, in a hand, or in a room it
  -- has not asked to leave.
  cases hmove with
  | stay => grind
  | refuse hno => grind [Stage.hand]
  | enter r hr hmap => grind [Stage.hand]
  | snapshot r => grind [Stage.hand]
  | erase r rest =>
    have hrest := (hin i r _ hst).2 rest rfl
    have hmem : ∀ q, q ∈ rest ↔ q ∈ h.members r ∧ q ≠ P i := by
      rw [hrest]
      simp
    rcases hwhere with ⟨k, r', rest', hk, hkst, hmem'⟩ | hq | ⟨k, hk⟩ | ⟨r', hr', hmem', hnot⟩
    · by_cases hki : k = i
      · subst hki
        exact Or.inr (Or.inr (Or.inl ⟨k, by grind [Stage.hand]⟩))
      · exact Or.inl ⟨k, r', rest', hk, by grind, hmem'⟩
    · exact Or.inr (Or.inl hq)
    · exact Or.inr (Or.inr (Or.inl ⟨k, by grind [Stage.hand]⟩))
    · by_cases hr : r' = r
      · exact Or.inr (Or.inr (Or.inl ⟨i, by grind [Stage.hand]⟩))
      · refine Or.inr (Or.inr (Or.inr ⟨r', Finset.mem_erase.mpr ⟨hr, hr'⟩, hmem', ?_⟩))
        grind
  | drop left q hand hq => grind [Stage.hand]
  | push left q hand =>
    have hqueue : ∀ q', q' ∈ (h.push q).queue ↔ q' = q ∨ q' ∈ h.queue := by
      intro q'
      simp only [Hall.push]
      grind
    rcases hwhere with ⟨k, r', rest', hk, hkst, hmem'⟩ | hq | ⟨k, hk⟩ | ⟨r', hr', hmem', hnot⟩
    · exact Or.inl ⟨k, r', rest', hk, by grind, hmem'⟩
    · exact Or.inr (Or.inl ((hqueue _).mpr (Or.inr hq)))
    · by_cases hjq : P j = q
      · exact Or.inr (Or.inl ((hqueue _).mpr (Or.inl hjq)))
      · exact Or.inr (Or.inr (Or.inl ⟨k, by grind [Stage.hand]⟩))
    · exact Or.inr (Or.inr (Or.inr ⟨r', hr', hmem', by grind⟩))
  | pop left hand players queue hqueue =>
    rcases hwhere with ⟨k, r', rest', hk, hkst, hmem'⟩ | hq | ⟨k, hk⟩ | ⟨r', hr', hmem', hnot⟩
    · exact Or.inl ⟨k, r', rest', hk, by grind, hmem'⟩
    · rw [hqueue] at hq
      rcases List.mem_append.mp hq with hq | hq
      · exact Or.inr (Or.inr (Or.inl ⟨i, by grind [Stage.hand]⟩))
      · exact Or.inr (Or.inl hq)
    · exact Or.inr (Or.inr (Or.inl ⟨k, by grind [Stage.hand]⟩))
    · exact Or.inr (Or.inr (Or.inr ⟨r', hr', hmem', by grind⟩))
  | create left hand players hnd =>
    have hsame : ∀ r, r < h.nextRoomId → (h.create players).members r = h.members r :=
      fun r hr => Function.update_of_ne hr.ne ..
    rcases hwhere with ⟨k, r', rest', hk, hkst, hmem'⟩ | hq | ⟨k, hk⟩ | ⟨r', hr', hmem', hnot⟩
    · refine Or.inl ⟨k, r', rest', hk, by grind, ?_⟩
      rwa [hsame r' (hin k r' rest' hkst).1]
    · exact Or.inr (Or.inl hq)
    · by_cases hjp : k = i ∧ P j ∈ players
      · refine Or.inr (Or.inr (Or.inr ⟨h.nextRoomId, Finset.mem_insert_self .., ?_, ?_⟩))
        · have hnew : (h.create players).members h.nextRoomId = players :=
            Function.update_self ..
          rw [hnew]
          exact hjp.2
        · intro rest hj
          have := (hin j h.nextRoomId rest (by grind)).1
          exact lt_irrefl _ this
      · exact Or.inr (Or.inr (Or.inl ⟨k, by grind [Stage.hand]⟩))
    · refine Or.inr (Or.inr (Or.inr ⟨r', Finset.mem_insert_of_mem hr', ?_, by grind⟩))
      rwa [hsame r' (hfresh r' hr')]

/-- Who enters a room that somebody else is taking apart will be recalled, or will recall the
other one. -/
theorem InOnePlace.recalled (hon : ∀ i, online (P i))
    (hI : InOnePlace r₀ members online P h stages)
    (hth : ∀ j, stages' j = if j = i then st' else stages j)
    (hmove : LeaveMove r₀ online (P i) h (stages i) h' st')
    (hG : ¬ EntersAlone stages i st') : Recalled online P h' stages' := by
  unfold EntersAlone at hG
  push Not at hG
  obtain ⟨r, hst, rfl, j, rest, hj⟩ := hG
  rw [hst] at hmove
  cases hmove with
  | enter _ hr hmap =>
    have hne : i ≠ j := by
      rintro rfl
      rw [hst] at hj
      cases hj
    refine ⟨j, hon j, Or.inl ⟨r, rest, ?_⟩, Or.inl ⟨i, r, none, hne, ?_, (hI.live j r rest hj).2⟩⟩
    · rw [hth, if_neg hne.symm, hj]
    · rw [hth, if_pos rfl]

end

/-! ## The end -/

/-- In how many places a player is: the queue, and every live room with it. -/
def Hall.count (h : Hall) (q : PlayerId) : Nat :=
  h.queue.count q + ∑ r ∈ h.rooms, (h.members r).count q

theorem Hall.count_eq_zero {q : PlayerId} :
    h.count q = 0 ↔ q ∉ h.queue ∧ ∀ r ∈ h.rooms, q ∉ h.members r := by
  simp [Hall.count, List.count_eq_zero]

theorem Hall.count_eq_one {q : PlayerId} (hqueue : h.queue.Nodup)
    (hmembers : ∀ r, (h.members r).Nodup)
    (honce : ∀ x y, h.At stages q x → h.At stages q y → x = y)
    (hsome : q ∈ h.queue ∨ ∃ r ∈ h.rooms, q ∈ h.members r) : h.count q = 1 := by
  rcases hsome with hq | ⟨r, hr, hq⟩
  · have hnone : ∀ r ∈ h.rooms, (h.members r).count q = 0 := by
      intro r hr
      rw [List.count_eq_zero]
      intro hmem
      cases honce .queue (.room r) hq ⟨hr, hmem⟩
    rw [Hall.count, Finset.sum_eq_zero hnone, List.count_eq_one_of_mem hqueue hq, Nat.add_zero]
  · have hnone : h.queue.count q = 0 := by
      rw [List.count_eq_zero]
      intro hmem
      cases honce .queue (.room r) hmem ⟨hr, hq⟩
    have hothers : ∀ r' ∈ h.rooms, r' ≠ r → (h.members r').count q = 0 := by
      intro r' hr' hne
      rw [List.count_eq_zero]
      intro hmem
      cases honce (.room r') (.room r) ⟨hr', hmem⟩ ⟨hr, hq⟩
      exact hne rfl
    rw [Hall.count, Finset.sum_eq_single_of_mem r hr hothers, hnone,
      List.count_eq_one_of_mem (hmembers r) hq, Nat.zero_add]

/-- Everybody is done. -/
def Settled (stages : ι → Stage) : Prop :=
  ∀ i, ∃ left, stages i = .after left []

/-- What is promised when everybody is done. -/
structure Promised (r₀ : RoomId) (members : List PlayerId) (online : PlayerId → Prop)
    (P : ι → PlayerId) (h : Hall) (stages : ι → Stage) : Prop where
  gone : r₀ ∉ h.rooms
  left : ∀ i, stages i = .after true [] → h.count (P i) = 0
  others : ∀ q ∈ members, online q → (∀ i, P i = q → stages i ≠ .after true []) → h.count q = 1

theorem InOnePlace.promised [Nonempty ι] {members : List PlayerId}
    (hI : InOnePlace r₀ members online P h stages) (hdone : Settled stages) :
    Promised r₀ members online P h stages where
  gone := by
    intro hr
    obtain ⟨i⟩ := (inferInstance : Nonempty ι)
    obtain ⟨left, hi⟩ := hdone i
    rcases hI.asked hr i with h | ⟨rest, h⟩ <;> · rw [hi] at h; cases h
  left := by
    intro i hi
    rw [Hall.count_eq_zero]
    exact ⟨fun hq => hI.gone i [] .queue hi hq, fun r hr hq => hI.gone i [] (.room r) hi ⟨hr, hq⟩⟩
  others := by
    intro q hq hon hnot
    refine Hall.count_eq_one hI.queue_nodup hI.members_nodup (hI.once q hq) ?_
    obtain ⟨x, hx⟩ := hI.kept q hq hon (by
      intro i hand hi hst
      obtain ⟨left, hst'⟩ := hdone i
      rw [hst', Stage.after.injEq] at hst
      obtain ⟨rfl, -⟩ := hst
      exact hnot i hi hst')
    cases x with
    | queue => exact Or.inl hx
    | room r => exact Or.inr ⟨r, hx⟩
    | hand i =>
      obtain ⟨left, hst⟩ := hdone i
      rw [Hall.At, hst] at hx
      cases hx

theorem Recalled.not_promised {members : List PlayerId} (hR : Recalled online P h stages)
    (hdone : Settled stages) : ¬ Promised r₀ members online P h stages := by
  rintro ⟨-, hleft, -⟩
  obtain ⟨j, hon, hleaves, hwhere⟩ := hR
  obtain ⟨left, hj⟩ := hdone j
  have htrue : left = true := by grind
  subst htrue
  obtain ⟨hqueue, hrooms⟩ := Hall.count_eq_zero.mp (hleft j hj)
  rcases hwhere with ⟨k, r, rest, -, hk, -⟩ | hq | ⟨k, hk⟩ | ⟨r, hr, hmem, -⟩
  · obtain ⟨left', hk'⟩ := hdone k
    rw [hk'] at hk
    cases hk
  · exact hqueue hq
  · obtain ⟨left', hk'⟩ := hdone k
    rw [hk'] at hk
    cases hk
  · exact hrooms r hr hmem

end Game
