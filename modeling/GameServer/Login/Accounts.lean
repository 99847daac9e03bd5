import GameServer.Infra.Interleave
import GameServer.Login.LoginService
import Mathlib.Data.Fintype.Defs

/-!
# Accounts of concurrent logins

`LoginService::GetOrCreatePlayerId` looks an account up and enters a new one in two sections, and
takes an id between them. Any number of calls, interleaved: when all of them have returned, each
account has one player exactly if no call looked an unknown account up while another call for it
was between its lookup and its entry.

A call with an empty account is a call for the guest name that it makes up: the name goes into the
same table.
-/

namespace Game

open Infra

variable {ι F : Type}

/-! ## The calls -/

/-- Where a call of `GetOrCreatePlayerId` is. -/
inductive AccountPc where
  | start (account : String)
  | find (key : String)
  | takeId (key : String)
  | enter (key : String) (playerId : PlayerId)
  | createPlayer (key : String) (playerId : PlayerId)
  /-- `created` says whether the call went through `CreatePlayer`. -/
  | done (key : String) (playerId : PlayerId) (created : Bool)
  deriving DecidableEq

/-- `account_players_[key] = player_id`. -/
def Server.enterAccount (s : Server F) (key : String) (playerId : PlayerId) : Server F :=
  { s with
    loginService := { s.loginService with
      accountPlayers := Function.update s.loginService.accountPlayers key (some playerId) } }

/-- One step of a call. -/
def AccountPc.next (s : Server F) : AccountPc → Server F × AccountPc
  | .start account =>
    if account = "" then
      ({ s with nextPlayerId := s.nextPlayerId + 1 }, .find ("guest_" ++ toString s.nextPlayerId))
    else (s, .find account)
  | .find key =>
    match s.loginService.accountPlayers key with
    | some playerId => (s, .done key playerId false)
    | none => (s, .takeId key)
  | .takeId key => ({ s with nextPlayerId := s.nextPlayerId + 1 }, .enter key s.nextPlayerId)
  | .enter key playerId => (s.enterAccount key playerId, .createPlayer key playerId)
  | .createPlayer key playerId => (s, .done key playerId true)
  | .done key playerId created => (s, .done key playerId created)

theorem AccountPc.next_find_some {s : Server F} {key : String} {playerId : PlayerId}
    (h : s.loginService.accountPlayers key = some playerId) :
    next s (.find key) = (s, .done key playerId false) := by
  simp only [next, h]

theorem AccountPc.next_find_none {s : Server F} {key : String}
    (h : s.loginService.accountPlayers key = none) : next s (.find key) = (s, .takeId key) := by
  simp only [next, h]

/-- A call that has returned. -/
def AccountPc.isDone : AccountPc → Bool
  | .done _ _ _ => true
  | _ => false

/-- Calls of `GetOrCreatePlayerId` over one server. -/
abbrev Accounts (ι F : Type) := Sys ι (Server F) AccountPc

/-- One step of the call `e.1`; the environment has nothing to choose. -/
abbrev Accounts.step [DecidableEq ι] (c : Accounts ι F) (e : ι × Unit) : Accounts ι F :=
  Sys.step (fun _ => AccountPc.next) c e

/-- The calls of `accounts` before the first step. -/
def Accounts.start (s : Server F) (accounts : ι → String) : Accounts ι F :=
  { shared := s, threads := fun i => .start (accounts i) }

theorem AccountPc.iterate_next_find (s : Server F) (key : String) :
    (fun w : Server F × AccountPc => next w.1 w.2)^[4] (s, .find key) =
      match s.loginService.accountPlayers key with
      | some playerId => (s, .done key playerId false)
      | none =>
        ({ s with nextPlayerId := s.nextPlayerId + 1 }.enterAccount key s.nextPlayerId,
          .done key s.nextPlayerId true) := by
  cases hf : s.loginService.accountPlayers key with
  | none => simp only [Function.iterate_succ_apply, Function.iterate_zero_apply, next, hf]
  | some playerId => simp only [Function.iterate_succ_apply, Function.iterate_zero_apply, next, hf]

/-- A call that nobody interrupts does what `getOrCreatePlayerId` says. -/
theorem AccountPc.iterate_next (s : Server F) (account : String) :
    ∃ key created, (fun w : Server F × AccountPc => next w.1 w.2)^[5] (s, .start account) =
      ((s.getOrCreatePlayerId account).2,
        .done key (s.getOrCreatePlayerId account).1 created) := by
  rw [Function.iterate_succ_apply]
  by_cases ha : account = ""
  · have hstart : next s (.start account) = ({ s with nextPlayerId := s.nextPlayerId + 1 },
        .find ("guest_" ++ toString s.nextPlayerId)) := if_pos ha
    rw [hstart, iterate_next_find, Server.getOrCreatePlayerId, if_pos ha]
    cases hf : s.loginService.accountPlayers ("guest_" ++ toString s.nextPlayerId) with
    | none =>
      simp only [hf]
      exact ⟨_, _, rfl⟩
    | some playerId =>
      simp only [hf]
      exact ⟨_, _, rfl⟩
  · have hstart : next s (.start account) = (s, .find account) := if_neg ha
    rw [hstart, iterate_next_find, Server.getOrCreatePlayerId, if_neg ha]
    cases hf : s.loginService.accountPlayers account with
    | none =>
      simp only [hf]
      exact ⟨_, _, rfl⟩
    | some playerId =>
      simp only [hf]
      exact ⟨_, _, rfl⟩

/-! ## One player for each account -/

/-- The account that a call is for, once it has a name for it. -/
def AccountPc.key : AccountPc → Option String
  | .start _ => none
  | .find key => some key
  | .takeId key => some key
  | .enter key _ => some key
  | .createPlayer key _ => some key
  | .done key _ _ => some key

/-- The account that the next step of a call looks up. -/
def AccountPc.looksUp : AccountPc → Option String
  | .find key => some key
  | _ => none

/-- A call that has not found `key` and has not entered it yet. -/
def AccountPc.Missed (key : String) : AccountPc → Prop
  | .takeId k => k = key
  | .enter k _ => k = key
  | _ => False

instance (key : String) : (pc : AccountPc) → Decidable (pc.Missed key)
  | .takeId k => inferInstanceAs (Decidable (k = key))
  | .enter k _ => inferInstanceAs (Decidable (k = key))
  | .start _ | .find _ | .createPlayer _ _ | .done _ _ _ => isFalse id

/-- A call that creates, or has created, the player of `key`. -/
def AccountPc.Creates (key : String) : AccountPc → Prop
  | .takeId k => k = key
  | .enter k _ => k = key
  | .createPlayer k _ => k = key
  | .done k _ created => k = key ∧ created = true
  | _ => False

/-- A call that returns `playerId` for `key`. -/
def AccountPc.Returns (key : String) (playerId : PlayerId) : AccountPc → Prop
  | .createPlayer k p => k = key ∧ p = playerId
  | .done k p _ => k = key ∧ p = playerId
  | _ => False

theorem AccountPc.Missed.creates {key : String} {pc : AccountPc} (h : pc.Missed key) :
    pc.Creates key := by
  cases pc <;> first | exact h | exact h.elim

theorem AccountPc.Creates.missed_or_returns {key : String} {pc : AccountPc} (h : pc.Creates key) :
    pc.Missed key ∨ ∃ p, pc.Returns key p := by
  cases pc with
  | takeId k => exact Or.inl h
  | enter k p => exact Or.inl h
  | createPlayer k p => exact Or.inr ⟨p, h, rfl⟩
  | done k p created => exact Or.inr ⟨p, h.1, rfl⟩
  | _ => exact h.elim

namespace Accounts

/-- Of the calls that have returned: one player for each account, and one `CreatePlayer` for each
account that `known` does not have. -/
structure OnePlayer (known : String → Option PlayerId) (c : Accounts ι F) : Prop where
  agree : ∀ i j key p q a b, c.threads i = .done key p a → c.threads j = .done key q b → p = q
  created : ∀ i key p a, known key = none → c.threads i = .done key p a →
    ∃! j, ∃ q, c.threads j = .done key q true
  found : ∀ i key p a, known key ≠ none → c.threads i = .done key p a → a = false

/-- The step is not the lookup of an unknown account that another call is about to enter. -/
def SoleEntry (c : Accounts ι F) (e : ι × Unit) : Prop :=
  ∀ key ∈ (c.threads e.1).looksUp, c.shared.loginService.accountPlayers key = none →
    ∀ j, ¬ (c.threads j).Missed key

instance [Fintype ι] (c : Accounts ι F) (e : ι × Unit) : Decidable (SoleEntry c e) :=
  inferInstanceAs (Decidable (∀ key ∈ (c.threads e.1).looksUp,
    c.shared.loginService.accountPlayers key = none → ∀ j, ¬ (c.threads j).Missed key))

/-- What holds as long as no two calls enter the same account. -/
structure OneCreator (known : String → Option PlayerId) (c : Accounts ι F) : Prop where
  unknown : ∀ key, c.shared.loginService.accountPlayers key = none →
    known key = none ∧ ∀ i p, ¬ (c.threads i).Returns key p
  entered : ∀ key p, c.shared.loginService.accountPlayers key = some p →
    ∀ i, ¬ (c.threads i).Missed key ∧ ∀ q, (c.threads i).Returns key q → q = p
  unique : ∀ key i j, (c.threads i).Creates key → (c.threads j).Creates key → i = j
  fresh : ∀ key i, (c.threads i).Creates key → known key = none
  creator : ∀ key, known key = none → c.shared.loginService.accountPlayers key ≠ none →
    ∃ i, (c.threads i).Creates key

/-- Two calls create a player for the same account. -/
def TwoCreators (c : Accounts ι F) : Prop :=
  ∃ key i j, i ≠ j ∧ (c.threads i).Creates key ∧ (c.threads j).Creates key

variable [DecidableEq ι] {known : String → Option PlayerId} {c : Accounts ι F} {e : ι × Unit}

/-- A call that creates a player goes on to do so. -/
theorem creates_step {key : String} {i : ι} (h : (c.threads i).Creates key) :
    ((c.step e).threads i).Creates key := by
  by_cases hi : i = e.1
  · subst hi
    rw [Sys.step_threads_self]
    cases hpc : c.threads e.1 <;> simp_all [AccountPc.Creates, AccountPc.next]
  · rwa [Sys.step_threads_of_ne hi]

theorem twoCreators_step (h : TwoCreators c) : TwoCreators (c.step e) := by
  obtain ⟨key, i, j, hne, hi, hj⟩ := h
  exact ⟨key, i, j, hne, creates_step hi, creates_step hj⟩

/-- A lookup without the guard makes a second creator. -/
theorem twoCreators_of_not_soleEntry (h : ¬ SoleEntry c e) : TwoCreators (c.step e) := by
  simp only [SoleEntry, not_forall, not_not] at h
  obtain ⟨key, hlooks, hnone, j, hj⟩ := h
  have hpc : c.threads e.1 = .find key := by
    cases hpc : c.threads e.1 <;> simp_all [AccountPc.looksUp]
  have hne : e.1 ≠ j := by
    rintro rfl
    rw [hpc] at hj
    exact hj
  refine ⟨key, e.1, j, hne, ?_, creates_step ?_⟩
  · rw [Sys.step_threads_self, hpc]
    simp [AccountPc.next, hnone, AccountPc.Creates]
  · cases hj' : c.threads j <;> rw [hj'] at hj <;> first | exact hj | exact hj.elim

omit [DecidableEq ι] in
theorem oneCreator_start (s : Server F) (accounts : ι → String) :
    OneCreator s.loginService.accountPlayers (start s accounts) := by
  constructor <;> simp [start, AccountPc.Missed, AccountPc.Creates, AccountPc.Returns]

theorem step_of_next {i : ι} {u : Unit} {s : Server F} {pc : AccountPc}
    (h : AccountPc.next c.shared (c.threads i) = (s, pc)) :
    (c.step (i, u)).shared = s ∧
      ∀ j, (c.step (i, u)).threads j = if j = i then pc else c.threads j :=
  Sys.step_of_next h

theorem oneCreator_startCall {i : ι} {u : Unit} {account : String} (hI : OneCreator known c)
    (hpc : c.threads i = .start account) : OneCreator known (c.step (i, u)) := by
  obtain ⟨h₁, h₂, h₃, h₄, h₅⟩ := hI
  obtain ⟨s, key, hnext, htable⟩ : ∃ s key, AccountPc.next c.shared (c.threads i) = (s, .find key) ∧
      s.loginService.accountPlayers = c.shared.loginService.accountPlayers := by
    rw [hpc, AccountPc.next]
    split <;> exact ⟨_, _, rfl, rfl⟩
  obtain ⟨hshared, hth⟩ := step_of_next hnext (u := u)
  rw [← hshared] at htable
  constructor <;> grind [AccountPc.Missed, AccountPc.Creates, AccountPc.Returns]

theorem oneCreator_find {i : ι} {u : Unit} {key : String} (hI : OneCreator known c)
    (hG : SoleEntry c (i, u)) (hpc : c.threads i = .find key) :
    OneCreator known (c.step (i, u)) := by
  obtain ⟨h₁, h₂, h₃, h₄, h₅⟩ := hI
  cases hkey : c.shared.loginService.accountPlayers key with
  | some p =>
    obtain ⟨hshared, hth⟩ := step_of_next (u := u) (hpc ▸ AccountPc.next_find_some hkey)
    constructor <;> grind [AccountPc.Missed, AccountPc.Creates, AccountPc.Returns]
  | none =>
    -- by the guard nobody is about to enter the account, and nobody has entered it
    have hcreator : ∀ j, ¬ (c.threads j).Creates key := by
      intro j hj
      rcases hj.missed_or_returns with hj | ⟨p, hj⟩
      · exact hG key (by rw [hpc]; rfl) hkey j hj
      · exact (h₁ key hkey).2 j p hj
    obtain ⟨hshared, hth⟩ := step_of_next (u := u) (hpc ▸ AccountPc.next_find_none hkey)
    constructor <;> grind [AccountPc.Missed, AccountPc.Creates, AccountPc.Returns]

theorem oneCreator_takeId {i : ι} {u : Unit} {key : String} (hI : OneCreator known c)
    (hpc : c.threads i = .takeId key) : OneCreator known (c.step (i, u)) := by
  obtain ⟨h₁, h₂, h₃, h₄, h₅⟩ := hI
  obtain ⟨hshared, hth⟩ := step_of_next (c := c) (i := i) (u := u)
    (by rw [hpc, AccountPc.next])
  have htable := congrArg (·.loginService.accountPlayers) hshared
  constructor <;> grind [AccountPc.Missed, AccountPc.Creates, AccountPc.Returns]

theorem oneCreator_enter {i : ι} {u : Unit} {key : String} {p : PlayerId}
    (hI : OneCreator known c) (hpc : c.threads i = .enter key p) :
    OneCreator known (c.step (i, u)) := by
  obtain ⟨h₁, h₂, h₃, h₄, h₅⟩ := hI
  obtain ⟨hshared, hth⟩ := step_of_next (c := c) (i := i) (u := u)
    (by rw [hpc, AccountPc.next])
  have htable : ∀ k, (c.step (i, u)).shared.loginService.accountPlayers k =
      if k = key then some p else c.shared.loginService.accountPlayers k := by
    intro k
    rw [hshared]
    exact Function.update_apply ..
  -- nobody else has missed the account, and nobody has entered it
  have hmissed : (c.threads i).Missed key := by rw [hpc]; rfl
  have hkey : c.shared.loginService.accountPlayers key = none := by
    cases hk : c.shared.loginService.accountPlayers key with
    | none => rfl
    | some q => exact absurd hmissed (h₂ key q hk i).1
  have hother : ∀ j, (c.threads j).Missed key → j = i :=
    fun j hj => h₃ key j i hj.creates hmissed.creates
  constructor <;> grind [AccountPc.Missed, AccountPc.Creates, AccountPc.Returns]

theorem oneCreator_createPlayer {i : ι} {u : Unit} {key : String} {p : PlayerId}
    (hI : OneCreator known c) (hpc : c.threads i = .createPlayer key p) :
    OneCreator known (c.step (i, u)) := by
  obtain ⟨h₁, h₂, h₃, h₄, h₅⟩ := hI
  obtain ⟨hshared, hth⟩ := step_of_next (c := c) (i := i) (u := u)
    (by rw [hpc, AccountPc.next])
  have hreturns : (c.threads i).Returns key p := by rw [hpc]; exact ⟨rfl, rfl⟩
  have hcreates : (c.threads i).Creates key := by rw [hpc]; rfl
  constructor <;> grind [AccountPc.Missed, AccountPc.Creates, AccountPc.Returns]

/-- **One step of one call.** Only a lookup of an unknown account makes a new creator. -/
theorem oneCreator_step (hI : OneCreator known c) (hG : SoleEntry c e) :
    OneCreator known (c.step e) := by
  obtain ⟨i, u⟩ := e
  cases hpc : c.threads i with
  | start account => exact oneCreator_startCall hI hpc
  | find key => exact oneCreator_find hI hG hpc
  | takeId key => exact oneCreator_takeId hI hpc
  | enter key p => exact oneCreator_enter hI hpc
  | createPlayer key p => exact oneCreator_createPlayer hI hpc
  | done key p created =>
    have hsame : c.step (i, u) = c := by
      simp only [Sys.step, hpc, AccountPc.next]
      rw [← hpc, Function.update_eq_self]
    rw [hsame]
    exact hI

omit [DecidableEq ι] in
/-- The invariant gives the property: whoever has returned has the id that was entered. -/
theorem OneCreator.onePlayer (hI : OneCreator known c)
    (hdone : ∀ i, (c.threads i).isDone) : OnePlayer known c := by
  have hentered : ∀ {i key p a}, c.threads i = .done key p a →
      c.shared.loginService.accountPlayers key = some p := by
    intro i key p a hi
    have hreturns : (c.threads i).Returns key p := by rw [hi]; exact ⟨rfl, rfl⟩
    cases hk : c.shared.loginService.accountPlayers key with
    | none => exact absurd hreturns ((hI.unknown key hk).2 i p)
    | some q => rw [(hI.entered key q hk i).2 p hreturns]
  refine ⟨?_, ?_, ?_⟩
  · intro i j key p q a b hi hj
    exact Option.some.inj ((hentered hi).symm.trans (hentered hj))
  · intro i key p a hknown hi
    have hne : c.shared.loginService.accountPlayers key ≠ none := by simp [hentered hi]
    obtain ⟨j, hj⟩ := hI.creator key hknown hne
    refine ⟨j, ?_, ?_⟩
    · have hj' := hdone j
      cases hpc : c.threads j <;> rw [hpc] at hj hj' <;> simp_all [AccountPc.Creates, AccountPc.isDone]
    · rintro j' ⟨q, hj'⟩
      exact hI.unique key j' j (by rw [hj']; exact ⟨rfl, rfl⟩) hj
  · intro i key p a hknown hi
    cases a with
    | false => rfl
    | true => exact absurd (hI.fresh key i (by rw [hi]; exact ⟨rfl, rfl⟩)) hknown

omit [DecidableEq ι] in
/-- Two creators contradict the property. -/
theorem TwoCreators.not_onePlayer (h : TwoCreators c) (hdone : ∀ i, (c.threads i).isDone) :
    ¬ OnePlayer known c := by
  intro hP
  obtain ⟨key, i, j, hne, hi, hj⟩ := h
  have hcreated : ∀ {i}, (c.threads i).Creates key → ∃ p, c.threads i = .done key p true := by
    intro i hi
    have hi' := hdone i
    cases hpc : c.threads i <;> rw [hpc] at hi hi' <;> simp_all [AccountPc.Creates, AccountPc.isDone]
  obtain ⟨p, hi⟩ := hcreated hi
  obtain ⟨q, hj⟩ := hcreated hj
  by_cases hknown : known key = none
  · exact hne ((hP.created i key p true hknown hi).unique ⟨p, hi⟩ ⟨q, hj⟩)
  · exact absurd (hP.found i key p true hknown hi) (by simp)

/-- A call for a named account is for that account throughout. -/
def ForAccount (account : String) (pc : AccountPc) : Prop :=
  pc = .start account ∨ pc.key = some account

theorem forAccount_step {i : ι} {account : String} (hne : account ≠ "")
    (h : ForAccount account (c.threads i)) : ForAccount account ((c.step e).threads i) := by
  by_cases hi : i = e.1
  · subst hi
    rw [Sys.step_threads_self]
    rcases h with h | h
    · rw [h, AccountPc.next, if_neg hne]
      exact Or.inr rfl
    · right
      cases hpc : c.threads e.1 with
      | find key =>
        rw [hpc] at h
        rw [AccountPc.next]
        split <;> exact h
      | _ => simp_all [AccountPc.next, AccountPc.key]
  · rwa [Sys.step_threads_of_ne hi]

/--
**One account, one player.**

When all calls have returned, each account has one player and, if it is a new one, one
`CreatePlayer`, exactly if no lookup missed an account that another call was about to enter. A call
with a non-empty account is a call for that account.
-/
theorem onePlayer_iff (s : Server F) (accounts : ι → String) (es : List (ι × Unit))
    (hdone : ∀ i, ((es.foldl step (start s accounts)).threads i).isDone) :
    (OnePlayer s.loginService.accountPlayers (es.foldl step (start s accounts)) ↔
      AllSteps step SoleEntry (start s accounts) es) ∧
    ∀ i, accounts i ≠ "" →
      ((es.foldl step (start s accounts)).threads i).key = some (accounts i) := by
  constructor
  · rcases last_of_guard (fun _ _ => oneCreator_step) (fun _ _ _ => twoCreators_of_not_soleEntry)
      (fun _ _ => twoCreators_step) es (oneCreator_start s accounts) with ⟨hG, hI⟩ | ⟨hG, hB⟩
    · exact iff_of_true (hI.onePlayer hdone) hG
    · exact iff_of_false (hB.not_onePlayer hdone) hG
  · intro i hne
    have hrun : ∀ (es : List (ι × Unit)) (c : Accounts ι F),
        ForAccount (accounts i) (c.threads i) →
          ForAccount (accounts i) ((es.foldl step c).threads i) :=
      fun es _ => last_of_stable (B := fun c : Accounts ι F =>
        ForAccount (accounts i) (c.threads i)) (fun _ _ => forAccount_step hne) es
    rcases hrun es (start s accounts) (Or.inl rfl) with h | h
    · have := hdone i
      rw [h] at this
      exact absurd this (by simp [AccountPc.isDone])
    · exact h

/-- Two calls for a new account, one after the other. -/
theorem onePlayer_iff_witness :
    let c := start (F := Unit) {} fun _ : Bool => "alice"
    let es := List.replicate 5 (false, ()) ++ List.replicate 5 (true, ())
    OnePlayer (fun _ => none) (es.foldl step c) ∧
      (es.foldl step c).threads true = .done "alice" 100000 false :=
  ⟨(onePlayer_iff {} (fun _ : Bool => "alice") _ (by decide)).1.mpr (by decide), by decide⟩

/-- Two calls look the new account up before either enters it, and return different players. -/
theorem onePlayer_counterexample :
    let c := start (F := Unit) {} fun _ : Bool => "alice"
    let es := (List.replicate 5 [(false, ()), (true, ())]).flatten
    (∀ i, ((es.foldl step c).threads i).isDone) ∧ ¬ OnePlayer (fun _ => none) (es.foldl step c) := by
  refine ⟨by decide, fun h => ?_⟩
  exact absurd (h.agree false true "alice" 100000 100001 true true (by decide) (by decide))
    (by decide)

end Accounts
end Game
