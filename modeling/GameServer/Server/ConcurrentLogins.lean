import GameServer.Server.LoginThreads
import Mathlib.Data.Fintype.Defs

/-!
# Concurrent logins of one account

Any number of `HandleLogin` executions for one known account on different sessions, interleaved.
The token table and the map of the connections are written in different sections, and the old
session is looked up before the new one is bound.

`Seat` is what the logins compete for, and `Takes` says what one step of a login does to it.
-/

namespace Game

open Infra

variable {ι F : Type}

/-! ## The logins -/

/-- Logins over one server. -/
abbrev Logins (ι F : Type) := Sys ι (Server F) LoginPc

/-- One step of the login `e.1`. -/
abbrev Logins.step [DecidableEq ι] (c : Logins ι F) (e : ι × LoginChoice) : Logins ι F :=
  Sys.step LoginPc.next c e

/-- Logins for `account` on `sessions` before the first step. -/
def Logins.start (s : Server F) (account : String) (sessions : ι → SessionId) : Logins ι F :=
  { shared := s, threads := fun i => .account (sessions i) (.start account) }

/-- A login that has sent its response. -/
def LoginPc.isDone : LoginPc → Bool
  | .done _ _ _ => true
  | _ => false

/-- The token that a login has stored. -/
def LoginPc.token : LoginPc → Option String
  | .closeOther _ _ token => some token
  | .bindPlayerId _ _ token => token
  | .bindPlayer _ _ token => token
  | .setScore _ _ token => some token
  | .setOnline _ _ answer | .findRoom _ _ answer | .onReconnect _ _ answer _
  | .setSessionRoom _ _ answer _ | .setPlayerRoom _ _ answer _ | .readState _ _ answer _
  | .setStatus _ _ answer _ _ | .clearRoom _ _ answer | .respond _ _ answer _
  | .done _ _ answer => answer.map Prod.snd
  | _ => none

/-- A login that is past `BindPlayer`. -/
def LoginPc.bound : LoginPc → Bool
  | .account _ _ | .storeToken _ _ | .closeOther _ _ _ | .checkToken _ _ _ | .bindPlayerId _ _ _
  | .bindPlayer _ _ _ | .refused _ _ => false
  | _ => true

/-- The token of a login that is at `BindPlayer`. -/
def LoginPc.binds : LoginPc → Option String
  | .bindPlayer _ _ token => token
  | _ => none

/-- A login of `p` for `account` on `session`. -/
def LoginPc.IsLogin (account : String) (session : SessionId) (p : PlayerId) : LoginPc → Prop
  | .account σ call =>
    σ = session ∧ (call = .start account ∨ call = .find account ∨ call = .done account p false)
  | .storeToken σ q | .closeOther σ q _ | .setScore σ q _ => σ = session ∧ q = p
  | .bindPlayerId σ q token | .bindPlayer σ q token => σ = session ∧ q = p ∧ token.isSome
  | .setOnline σ q answer | .findRoom σ q answer | .onReconnect σ q answer _
  | .setSessionRoom σ q answer _ | .setPlayerRoom σ q answer _ | .readState σ q answer _
  | .setStatus σ q answer _ _ | .clearRoom σ q answer | .respond σ q answer _
  | .done σ q answer => σ = session ∧ q = p ∧ answer.isSome
  | .checkToken _ _ _ | .getPlayer _ _ | .refused _ _ => False

/-! ## What the logins compete for -/

/-- The token of a player, the session under the player, and the sessions asked to close. -/
@[ext]
structure Seat where
  token : Option String
  owner : Option SessionId
  closing : SessionId → Bool

/-- The seat of a player. -/
def Presence.seat (w : Presence) (p : PlayerId) : Seat where
  token := w.login.sessionTokens p
  owner := w.connections.getByPlayerId p
  closing := w.closing

/-- What a step of a login on `session` does to the seat of its player. -/
inductive LoginPc.Takes (session : SessionId) : Seat → LoginPc → Seat → LoginPc → Prop where
  | quiet {seat pc pc'} (hbinds : pc.binds = none) (hbound : pc'.bound = pc.bound)
      (htoken : pc'.token = pc.token) : Takes session seat pc seat pc'
  | store {seat pc pc'} (token : String) (hbinds : pc.binds = none) (hbound : pc.bound = false)
      (hbound' : pc'.bound = false) (htoken : pc'.token = some token) :
      Takes session seat pc { seat with token := some token } pc'
  | close {seat pc pc'} (hbinds : pc.binds = none) (hbound : pc.bound = false)
      (hbound' : pc'.bound = false) (htoken : pc'.token = pc.token) :
      Takes session seat pc
        { seat with closing := fun σ =>
            seat.closing σ || decide (seat.owner = some σ ∧ σ ≠ session) } pc'
  | bind {seat pc pc'} (token : String) (hbinds : pc.binds = some token)
      (hbound : pc.bound = false) (hbound' : pc'.bound = true) (htoken : pc.token = some token)
      (htoken' : pc'.token = some token) :
      Takes session seat pc { seat with owner := some session } pc'

section

variable {account : String} {session : SessionId} {p : PlayerId} {s : Server F} {pc : LoginPc}
  {ch : LoginChoice}

/-- What one step of a login does. -/
theorem LoginPc.IsLogin.takes (hne : account ≠ "")
    (hknown : s.loginService.accountPlayers account = some p) (h : pc.IsLogin account session p) :
    (pc.next ch s).2.IsLogin account session p ∧
      Takes session (s.presence.seat p) pc ((pc.next ch s).1.presence.seat p) (pc.next ch s).2 ∧
      (pc.next ch s).1.loginService.accountPlayers = s.loginService.accountPlayers := by
  cases pc with
  | account σ call =>
    obtain ⟨rfl, rfl | rfl | rfl⟩ := h
    · simp only [next, AccountPc.next, if_neg hne]
      exact ⟨⟨rfl, Or.inr (Or.inl rfl)⟩, .quiet rfl rfl rfl, trivial⟩
    · simp only [next, AccountPc.next_find_some hknown]
      exact ⟨⟨rfl, Or.inr (Or.inr rfl)⟩, .quiet rfl rfl rfl, trivial⟩
    · exact ⟨⟨rfl, rfl⟩, .quiet rfl rfl rfl, rfl⟩
  | storeToken σ q =>
    obtain ⟨rfl, rfl⟩ := h
    -- `StoreToken` writes the token of the seat, `BindPlayer` its owner; the rest is quiet.
    have hseat : ((s.storeToken q (Server.generateSessionToken q ch.nowMs)).presence.seat q) =
        { s.presence.seat q with token := some (Server.generateSessionToken q ch.nowMs) } := by
      ext1
      · exact Function.update_self ..
      · rfl
      · rfl
    refine ⟨⟨rfl, rfl⟩, ?_, rfl⟩
    rw [next, hseat]
    exact .store _ rfl rfl rfl rfl
  | closeOther σ q token =>
    obtain ⟨rfl, rfl⟩ := h
    refine ⟨⟨rfl, rfl, rfl⟩, ?_, ?_⟩
    · rw [next, Server.presence_closeOther]
      exact .close rfl rfl rfl rfl
    · exact congrArg (·.login.accountPlayers) (Server.presence_closeOther s q σ)
  | bindPlayerId σ q token =>
    obtain ⟨rfl, rfl, htoken⟩ := h
    obtain ⟨token, rfl⟩ := Option.isSome_iff_exists.mp htoken
    refine ⟨⟨rfl, rfl, rfl⟩, ?_, rfl⟩
    rw [next, Server.presence_bindSession s σ rfl rfl]
    exact .quiet rfl rfl rfl
  | bindPlayer σ q token =>
    obtain ⟨rfl, rfl, htoken⟩ := h
    obtain ⟨token, rfl⟩ := Option.isSome_iff_exists.mp htoken
    have hseat : ((s.updateConnections (·.bindPlayer q σ)).presence.seat q) =
        { s.presence.seat q with owner := some σ } := by
      ext1
      · rfl
      · exact Function.update_self ..
      · rfl
    refine ⟨⟨rfl, rfl⟩, ?_, rfl⟩
    rw [next, hseat]
    exact .bind token rfl rfl rfl rfl rfl
  | setScore σ q token =>
    obtain ⟨rfl, rfl⟩ := h
    exact ⟨⟨rfl, rfl, rfl⟩, .quiet rfl rfl rfl, rfl⟩
  | setOnline σ q answer =>
    obtain ⟨rfl, rfl, hanswer⟩ := h
    obtain ⟨⟨name, token⟩, rfl⟩ := Option.isSome_iff_exists.mp hanswer
    exact ⟨⟨rfl, rfl, rfl⟩, .quiet rfl rfl rfl, rfl⟩
  | findRoom σ q answer =>
    cases hroom : s.getPlayerRoom q with
    | none =>
      simp only [next, hroom]
      exact ⟨h, .quiet rfl rfl rfl, trivial⟩
    | some roomId =>
      simp only [next, hroom]
      exact ⟨h, .quiet rfl rfl rfl, trivial⟩
  | setSessionRoom σ q answer roomId =>
    refine ⟨h, ?_, rfl⟩
    rw [next, Server.presence_setSessionRoomId]
    exact .quiet rfl rfl rfl
  | onReconnect σ q answer roomId => exact ⟨h, .quiet rfl rfl rfl, rfl⟩
  | setPlayerRoom σ q answer roomId => exact ⟨h, .quiet rfl rfl rfl, rfl⟩
  | readState σ q answer roomId => exact ⟨h, .quiet rfl rfl rfl, rfl⟩
  | setStatus σ q answer roomId status => exact ⟨h, .quiet rfl rfl rfl, rfl⟩
  | clearRoom σ q answer => exact ⟨h, .quiet rfl rfl rfl, rfl⟩
  | respond σ q answer roomId => exact ⟨h, .quiet rfl rfl rfl, rfl⟩
  | done σ q answer => exact ⟨h, .quiet rfl rfl rfl, rfl⟩
  -- These are steps of a reconnection.
  | checkToken _ _ _ => exact h.elim
  | getPlayer _ _ => exact h.elim
  | refused _ _ => exact h.elim

end

/-! ## One owner -/

namespace Logins

/-- One of the sessions is the one of the player, its login has answered with the token that is
stored, and the others have been asked to close. -/
def OneOwner (p : PlayerId) (sessions : ι → SessionId) (c : Logins ι F) : Prop :=
  ∃ i name token, c.threads i = .done (sessions i) p (some (name, token)) ∧
    c.shared.connectionManager.getByPlayerId p = some (sessions i) ∧
    c.shared.loginService.sessionTokens p = some token ∧
    ∀ j, j ≠ i → (c.shared.sessionHeap (sessions j)).closing

/-- A `BindPlayer` does not drop the session of another login that has not been asked to close, and
the last one comes from the login whose token is stored. -/
def BindsInTurn (p : PlayerId) (sessions : ι → SessionId) (c : Logins ι F)
    (e : ι × LoginChoice) : Prop :=
  ∀ token ∈ (c.threads e.1).binds,
    (∀ j, j ≠ e.1 → (c.threads j).bound →
      c.shared.connectionManager.getByPlayerId p = some (sessions j) →
      (c.shared.sessionHeap (sessions j)).closing) ∧
    ((∀ j, j ≠ e.1 → (c.threads j).bound) → c.shared.loginService.sessionTokens p = some token)

instance [Fintype ι] [DecidableEq ι] (p : PlayerId) (sessions : ι → SessionId) (c : Logins ι F)
    (e : ι × LoginChoice) : Decidable (BindsInTurn p sessions c e) :=
  inferInstanceAs (Decidable (∀ token ∈ (c.threads e.1).binds,
    (∀ j, j ≠ e.1 → (c.threads j).bound →
      c.shared.connectionManager.getByPlayerId p = some (sessions j) →
      (c.shared.sessionHeap (sessions j)).closing) ∧
    ((∀ j, j ≠ e.1 → (c.threads j).bound) → c.shared.loginService.sessionTokens p = some token)))

/-- The threads are logins of `p` for `account` on the sessions. -/
structure Racing (account : String) (p : PlayerId) (sessions : ι → SessionId) (c : Logins ι F) :
    Prop where
  known : c.shared.loginService.accountPlayers account = some p
  login : ∀ i, (c.threads i).IsLogin account (sessions i) p

/-- What holds of the seat as long as every `BindPlayer` comes in turn. -/
structure InTurn (sessions : ι → SessionId) (seat : Seat) (threads : ι → LoginPc) : Prop where
  closing : ∀ j, (threads j).bound → seat.owner = some (sessions j) ∨ seat.closing (sessions j)
  token : (∀ j, (threads j).bound) →
    ∃ i, seat.owner = some (sessions i) ∧ (threads i).token = seat.token

/-- What cannot be repaired after a `BindPlayer` out of turn: a session that is neither the owner
nor asked to close, or an owner with another token than the stored one. -/
def OutOfTurn (sessions : ι → SessionId) (seat : Seat) (threads : ι → LoginPc) : Prop :=
  (∃ j, (threads j).bound ∧ seat.owner ≠ some (sessions j) ∧ ¬ seat.closing (sessions j)) ∨
    (∀ j, (threads j).bound) ∧ ∃ i, seat.owner = some (sessions i) ∧ (threads i).token ≠ seat.token

section

variable [DecidableEq ι] {sessions : ι → SessionId} {seat seat' : Seat} {i : ι} {pc' : LoginPc}
  {threads threads' : ι → LoginPc}

theorem InTurn.step (hsessions : sessions.Injective) (hI : InTurn sessions seat threads)
    (hth : ∀ j, threads' j = if j = i then pc' else threads j)
    (hstep : LoginPc.Takes (sessions i) seat (threads i) seat' pc')
    (hG : ∀ token, (threads i).binds = some token →
      (∀ j, j ≠ i → (threads j).bound → seat.owner = some (sessions j) →
        seat.closing (sessions j)) ∧
      ((∀ j, j ≠ i → (threads j).bound) → seat.token = some token)) :
    InTurn sessions seat' threads' := by
  obtain ⟨hclosing, htoken⟩ := hI
  cases hstep with
  | quiet hbinds hbound htoken' => constructor <;> grind
  | store token hbinds hbound hbound' htoken' => constructor <;> grind
  | close hbinds hbound hbound' htoken' => constructor <;> grind
  | bind token hbinds hbound hbound' htoken htoken' =>
    obtain ⟨hfirst, hlast⟩ := hG token hbinds
    constructor <;> grind

theorem OutOfTurn.step (hsessions : sessions.Injective) (hB : OutOfTurn sessions seat threads)
    (hth : ∀ j, threads' j = if j = i then pc' else threads j)
    (hstep : LoginPc.Takes (sessions i) seat (threads i) seat' pc') :
    OutOfTurn sessions seat' threads' := by
  rcases hB with ⟨j, hj, howner, hclosing⟩ | ⟨hall, k, howner, htoken⟩
  · left
    refine ⟨j, ?_⟩
    cases hstep with
    | quiet hbinds hbound htoken' => grind
    | store token hbinds hbound hbound' htoken' => grind
    | close hbinds hbound hbound' htoken' => grind
    | bind token hbinds hbound hbound' htoken htoken' =>
      have hne : j ≠ i := by
        rintro rfl
        simp [hbound] at hj
      refine ⟨by rw [hth, if_neg hne]; exact hj, ?_, hclosing⟩
      exact fun h => hne (hsessions (Option.some.inj h)).symm
  · -- all logins are bound, so that the step is a quiet one
    right
    cases hstep with
    | quiet hbinds hbound htoken' => grind
    | store token hbinds hbound => simp [hall i] at hbound
    | close hbinds hbound => simp [hall i] at hbound
    | bind token hbinds hbound => simp [hall i] at hbound

/-- A `BindPlayer` out of turn. -/
theorem outOfTurn_of_not {token : String} (hsessions : sessions.Injective)
    (hth : ∀ j, threads' j = if j = i then pc' else threads j)
    (hstep : LoginPc.Takes (sessions i) seat (threads i) seat' pc')
    (hbinds : (threads i).binds = some token)
    (hG : ¬ ((∀ j, j ≠ i → (threads j).bound → seat.owner = some (sessions j) →
        seat.closing (sessions j)) ∧
      ((∀ j, j ≠ i → (threads j).bound) → seat.token = some token))) :
    OutOfTurn sessions seat' threads' := by
  cases hstep with
  | quiet hnone => simp [hbinds] at hnone
  | store _ hnone => simp [hbinds] at hnone
  | close hnone => simp [hbinds] at hnone
  | bind token' hbinds' hbound hbound' htoken htoken' =>
    obtain rfl : token = token' := Option.some.inj (hbinds.symm.trans hbinds')
    by_cases hfirst : ∀ j, j ≠ i → (threads j).bound → seat.owner = some (sessions j) →
        seat.closing (sessions j)
    · right
      obtain ⟨hall, hne⟩ := Classical.not_imp.mp fun hlast => hG ⟨hfirst, hlast⟩
      refine ⟨fun j => ?_, i, rfl, ?_⟩
      · by_cases hj : j = i
        · rw [hth, if_pos hj]
          exact hbound'
        · rw [hth, if_neg hj]
          exact hall j hj
      · rw [hth, if_pos rfl, htoken']
        exact Ne.symm hne
    · left
      simp only [not_forall] at hfirst
      obtain ⟨j, hji, hj, -, hclosing⟩ := hfirst
      refine ⟨j, by rw [hth, if_neg hji]; exact hj, ?_, hclosing⟩
      exact fun h => hji (hsessions (Option.some.inj h)).symm

end

variable [DecidableEq ι] {account : String} {p : PlayerId} {sessions : ι → SessionId}
  {c : Logins ι F} {e : ι × LoginChoice}

omit [DecidableEq ι] in
theorem racing_start {s : Server F} (hknown : s.loginService.accountPlayers account = some p) :
    Racing account p sessions (start s account sessions) :=
  ⟨hknown, fun _ => ⟨rfl, Or.inl rfl⟩⟩

omit [DecidableEq ι] in
theorem inTurn_start [Nonempty ι] (s : Server F) (seat : Seat) :
    InTurn sessions seat (start s account sessions).threads where
  closing j hj := absurd hj (by simp [start, LoginPc.bound])
  token hall := absurd (hall (Classical.arbitrary ι)) (by simp [start, LoginPc.bound])

theorem racing_step (hne : account ≠ "") (hI : Racing account p sessions c) :
    Racing account p sessions (c.step e) := by
  obtain ⟨hlogin, -, haccount⟩ :
      ((c.threads e.1).next e.2 c.shared).2.IsLogin account (sessions e.1) p ∧ _ ∧ _ :=
    (hI.login e.1).takes hne hI.known
  refine ⟨(congrFun haccount account).trans hI.known, ?_⟩
  exact Sys.forall_index_step (A := fun i (pc : LoginPc) => pc.IsLogin account (sessions i) p)
    hlogin fun j _ => hI.login j

/-- What one step does to the seat, and to the threads. -/
theorem takes_step (hne : account ≠ "") (hI : Racing account p sessions c) :
    ∃ pc', (∀ j, (c.step e).threads j = if j = e.1 then pc' else c.threads j) ∧
      LoginPc.Takes (sessions e.1) (c.shared.presence.seat p) (c.threads e.1)
        ((c.step e).shared.presence.seat p) pc' :=
  ⟨_, (Sys.step_of_next (c := c) rfl).2, ((hI.login e.1).takes hne hI.known).2.1⟩

omit [DecidableEq ι] in
theorem isDone_shape {i : ι} (hI : Racing account p sessions c) (hdone : (c.threads i).isDone) :
    ∃ name token, c.threads i = .done (sessions i) p (some (name, token)) := by
  have hlogin := hI.login i
  cases hpc : c.threads i with
  | done σ q answer =>
    rw [hpc] at hlogin
    obtain ⟨rfl, rfl, hanswer⟩ := hlogin
    obtain ⟨⟨name, token⟩, rfl⟩ := Option.isSome_iff_exists.mp hanswer
    exact ⟨name, token, rfl⟩
  | _ => simp [hpc, LoginPc.isDone] at hdone

omit [DecidableEq ι] in
theorem bound_of_isDone (hI : Racing account p sessions c) (hdone : ∀ i, (c.threads i).isDone)
    (j : ι) : (c.threads j).bound := by
  obtain ⟨name, token, hj⟩ := isDone_shape hI (hdone j)
  rw [hj]
  rfl

omit [DecidableEq ι] in
theorem InTurn.oneOwner (hsessions : sessions.Injective) (hR : Racing account p sessions c)
    (hI : InTurn sessions (c.shared.presence.seat p) c.threads)
    (hdone : ∀ i, (c.threads i).isDone) : OneOwner p sessions c := by
  obtain ⟨i, howner, htoken⟩ := hI.token (bound_of_isDone hR hdone)
  obtain ⟨name, token, hi⟩ := isDone_shape hR (hdone i)
  rw [hi] at htoken
  refine ⟨i, name, token, hi, howner, htoken.symm, fun j hj => ?_⟩
  rcases hI.closing j (bound_of_isDone hR hdone j) with h | h
  · exact absurd (hsessions (Option.some.inj (h.symm.trans howner))) hj
  · exact h

omit [DecidableEq ι] in
theorem OutOfTurn.not_oneOwner (hsessions : sessions.Injective)
    (hB : OutOfTurn sessions (c.shared.presence.seat p) c.threads) : ¬ OneOwner p sessions c := by
  rintro ⟨i, name, token, hi, howner, htoken, hclosing⟩
  rcases hB with ⟨j, -, hj, hopen⟩ | ⟨-, k, hk, htoken'⟩
  · have hne : j ≠ i := by
      rintro rfl
      exact hj howner
    exact hopen (hclosing j hne)
  · obtain rfl : k = i := hsessions (Option.some.inj (hk.symm.trans howner))
    rw [hi] at htoken'
    exact htoken' htoken.symm

/-! ## The responses -/

/-- Messages are never taken back. -/
theorem mem_out_next {ch : LoginChoice} {s : Server F} {pc : LoginPc} {m : SessionId × Message F}
    (h : m ∈ s.out) : m ∈ (pc.next ch s).1.out := by
  cases pc with
  | account σ call =>
    cases call with
    | start account =>
      simp only [LoginPc.next, AccountPc.next]
      split <;> exact h
    | find key =>
      simp only [LoginPc.next, AccountPc.next]
      split <;> exact h
    | _ => exact h
  | closeOther σ q token =>
    simp only [LoginPc.next, Server.closeOther]
    split
    · split <;> exact h
    · exact h
  | checkToken σ q token =>
    simp only [LoginPc.next]
    split
    · exact List.mem_append_left _ h
    · exact h
  | bindPlayerId σ q token => cases token <;> exact h
  | findRoom σ q answer =>
    simp only [LoginPc.next]
    split <;> exact h
  | respond σ q answer roomId => exact List.mem_append_left _ h
  | _ => exact h

/-- A handler finishes with its response. -/
theorem next_eq_done {ch : LoginChoice} {s : Server F} {pc : LoginPc} {σ : SessionId}
    {q : PlayerId} {answer : Option (String × String)} (h : (pc.next ch s).2 = .done σ q answer) :
    pc = .done σ q answer ∨ ∃ roomId, pc = .respond σ q answer roomId := by
  cases pc with
  | done σ' q' answer' => exact Or.inl h
  | respond σ' q' answer' roomId =>
    cases h
    exact Or.inr ⟨roomId, rfl⟩
  | account σ' call => cases call <;> cases h
  | checkToken σ' q' token =>
    simp only [LoginPc.next] at h
    split at h <;> cases h
  | bindPlayerId σ' q' token => cases token <;> cases h
  | bindPlayer σ' q' token => cases token <;> cases h
  | setOnline σ' q' answer' => cases answer' <;> cases h
  | findRoom σ' q' answer' =>
    simp only [LoginPc.next] at h
    split at h <;> cases h
  | _ => cases h

/-- A login that is done has sent its response. -/
def Answered (c : Logins ι F) : Prop :=
  ∀ i σ q name token, c.threads i = .done σ q (some (name, token)) →
    (σ, .loginResponse 0 q name token) ∈ c.shared.out

theorem answered_step (h : Answered c) : Answered (c.step e) := by
  intro i σ q name token hi
  by_cases hie : i = e.1
  · subst hie
    rw [Sys.step_threads_self] at hi
    rcases next_eq_done hi with hpc | ⟨roomId, hpc⟩
    · exact mem_out_next (h e.1 σ q name token hpc)
    · rw [Sys.step_shared, hpc]
      exact List.mem_append_right _ (List.mem_singleton.mpr rfl)
  · rw [Sys.step_threads_of_ne hie] at hi
    exact mem_out_next (h i σ q name token hi)

/--
**Concurrent logins of one account agree on a single owner.**

When all logins have finished, the player has one session, its login has answered with the stored
token and all others have been asked to close, exactly if every `BindPlayer` came in turn. Each
login has sent the response that its state says.
-/
theorem oneOwner_iff [Nonempty ι] (s : Server F) {account : String} {p : PlayerId}
    (sessions : ι → SessionId) (es : List (ι × LoginChoice)) (hne : account ≠ "")
    (hknown : s.loginService.accountPlayers account = some p) (hsessions : sessions.Injective)
    (hdone : ∀ i, ((es.foldl step (start s account sessions)).threads i).isDone) :
    (OneOwner p sessions (es.foldl step (start s account sessions)) ↔
      AllSteps step (BindsInTurn p sessions) (start s account sessions) es) ∧
    Answered (es.foldl step (start s account sessions)) := by
  refine ⟨?_, last_of_stable (fun _ _ => answered_step) es (by simp [Answered, start])⟩
  have hkeep : ∀ (c : Logins ι F) e, (Racing account p sessions c ∧
      InTurn sessions (c.shared.presence.seat p) c.threads) → BindsInTurn p sessions c e →
      Racing account p sessions (c.step e) ∧
        InTurn sessions ((c.step e).shared.presence.seat p) (c.step e).threads := by
    rintro c e ⟨hR, hI⟩ hG
    obtain ⟨pc', hth, hstep⟩ := takes_step (e := e) hne hR
    exact ⟨racing_step hne hR, hI.step hsessions hth hstep fun token hbinds => hG token hbinds⟩
  have hbad : ∀ (c : Logins ι F) e, (Racing account p sessions c ∧
      InTurn sessions (c.shared.presence.seat p) c.threads) → ¬ BindsInTurn p sessions c e →
      Racing account p sessions (c.step e) ∧
        OutOfTurn sessions ((c.step e).shared.presence.seat p) (c.step e).threads := by
    rintro c e ⟨hR, -⟩ hG
    obtain ⟨pc', hth, hstep⟩ := takes_step (e := e) hne hR
    simp only [BindsInTurn, not_forall] at hG
    obtain ⟨token, hbinds, hG⟩ := hG
    exact ⟨racing_step hne hR, outOfTurn_of_not hsessions hth hstep hbinds hG⟩
  have hstable : ∀ (c : Logins ι F) e, (Racing account p sessions c ∧
      OutOfTurn sessions (c.shared.presence.seat p) c.threads) →
      Racing account p sessions (c.step e) ∧
        OutOfTurn sessions ((c.step e).shared.presence.seat p) (c.step e).threads := by
    rintro c e ⟨hR, hB⟩
    obtain ⟨pc', hth, hstep⟩ := takes_step (e := e) hne hR
    exact ⟨racing_step hne hR, hB.step hsessions hth hstep⟩
  rcases last_of_guard hkeep hbad hstable es ⟨racing_start hknown, inTurn_start s _⟩ with
    ⟨hG, hR, hI⟩ | ⟨hG, -, hB⟩
  · exact iff_of_true (hI.oneOwner hsessions hR hdone) hG
  · exact iff_of_false (hB.not_oneOwner hsessions) hG

/-- A server that knows the account `"alice"` of the player 7. -/
def known : Server Unit :=
  ({} : Server Unit).enterAccount "alice" 7

/-- The two sessions of the examples. -/
def twoSessions : Bool → SessionId
  | false => 1
  | true => 2

/-- `n` steps of a login at the time `nowMs`. -/
def turnsAt (i : Bool) (nowMs : Int) (n : Nat) : List (Bool × LoginChoice) :=
  List.replicate n (i, { nowMs := nowMs })

/-- Two logins, one after the other. -/
theorem oneOwner_iff_witness :
    OneOwner 7 twoSessions ((turnsAt false 1 12 ++ turnsAt true 2 12).foldl step
      (start known "alice" twoSessions)) :=
  (oneOwner_iff known twoSessions _ (by decide) rfl (by decide) (by decide)).1.mpr (by decide)

/-- Both logins look for an old session before either is bound: neither session is closed. -/
theorem oneOwner_counterexample :
    let c := (turnsAt false 1 5 ++ turnsAt true 2 5 ++ turnsAt false 1 7 ++ turnsAt true 2 7).foldl
      step (start known "alice" twoSessions)
    (∀ i, (c.threads i).isDone) ∧ ¬ OneOwner 7 twoSessions c := by
  refine ⟨by decide, ?_⟩
  rintro ⟨i, name, token, -, -, -, hclosing⟩
  cases i
  · exact absurd (hclosing true (by decide)) (by decide)
  · exact absurd (hclosing false (by decide)) (by decide)

end Logins
end Game
