import GameServer.Server.ConcurrentLogins
import Mathlib.Data.Fintype.Option

/-!
# A player who comes back while the old connection closes

One `HandleLogin` or `HandleReconnect` of a player on a new session, interleaved with any number of
close callbacks of old sessions of the same player. The connections and the players are two
managers with a mutex each: the callback asks the first whether a newer session has taken over and
then marks the player offline in the second.

`Standing` is what both sides write. When all have finished, the managers agree exactly if every
`SetOffline` came before the `SetOnline`.
-/

namespace Game

open Infra

variable {κ F : Type}

/-! ## The threads -/

/-- The handler of the new session, or the close callback of an old one. -/
inductive PresencePc where
  | enter (pc : LoginPc)
  | leave (pc : ClosePc)

/-- One step of a thread. -/
def PresencePc.next (ch : LoginChoice) (s : Server F) : PresencePc → Server F × PresencePc
  | .enter pc => let (s, pc) := pc.next ch s; (s, .enter pc)
  | .leave pc => let (s, pc) := pc.next s; (s, .leave pc)

/-- The handler is the thread `none`, the close callbacks are the threads `some k`. -/
abbrev Encounter (κ F : Type) := Sys (Option κ) (Server F) PresencePc

/-- One step of the thread `e.1`. -/
abbrev Encounter.step [DecidableEq κ] (c : Encounter κ F) (e : Option κ × LoginChoice) :
    Encounter κ F :=
  Sys.step PresencePc.next c e

/-- The handler at `pc`, and a close callback for each of the sessions `old`. -/
def Encounter.start (s : Server F) (pc : LoginPc) (old : κ → SessionId) : Encounter κ F where
  shared := s
  threads
    | none => .enter pc
    | some k => .leave (.remove (old k))

/-- A thread that has finished. -/
def PresencePc.isDone : PresencePc → Bool
  | .enter pc => pc.isDone
  | .leave (.done _) => true
  | .leave _ => false

/-- A login for a known account of the player, or a reconnect of the player with the stored token.
The player is in memory since the login that stored the token. -/
inductive LoginPc.Starts (s : Server F) (session : SessionId) (p : PlayerId) : LoginPc → Prop where
  | login {account : String} (hne : account ≠ "")
      (hknown : s.loginService.accountPlayers account = some p) :
      Starts s session p (.account session (.start account))
  | reconnect {token : String} (htoken : s.loginService.sessionTokens p = some token)
      (hplayer : (s.playerManager.players p).isSome) :
      Starts s session p (.checkToken session p token)

/-- The session under the player, the session of the player that is online, and the status. -/
@[ext]
structure Standing where
  owner : Option SessionId
  online : Option SessionId
  status : Option PlayerStatus

/-- What the two managers say about a player. -/
def Server.standing (s : Server F) (p : PlayerId) : Standing where
  owner := s.connectionManager.getByPlayerId p
  online := s.playerManager.onlineSessions p
  status := s.playerManager.status p

/-- `IsOnline` says what `GetByPlayerId` says, and the status is `Offline` only without session. -/
def Server.PresenceAgrees (s : Server F) (p : PlayerId) : Prop :=
  (s.playerManager.isOnline p = true ↔ s.connectionManager.getByPlayerId p ≠ none) ∧
    (s.playerManager.status p = some .offline → s.connectionManager.getByPlayerId p = none)

/-! ## The new session -/

/-- A handler that is past `SetOnline`. -/
def LoginPc.isOn : LoginPc → Bool
  | .account _ _ | .storeToken _ _ | .closeOther _ _ _ | .checkToken _ _ _ | .bindPlayerId _ _ _
  | .bindPlayer _ _ _ | .setScore _ _ _ | .setOnline _ _ _ | .refused _ _ => false
  | _ => true

/-- A handler that gets through for `p` on `session`. From `SetOnline` on, the player exists. -/
def LoginPc.Enters (s : Server F) (session : SessionId) (p : PlayerId) : LoginPc → Prop
  | .account σ call =>
    σ = session ∧ ∃ account, account ≠ "" ∧ s.loginService.accountPlayers account = some p ∧
      (call = .start account ∨ call = .find account ∨ call = .done account p false)
  | .checkToken σ q token =>
    σ = session ∧ q = p ∧ s.loginService.sessionTokens p = some token ∧
      (s.playerManager.players p).isSome
  | .storeToken σ q | .closeOther σ q _ | .setScore σ q _ | .bindPlayerId σ q (some _)
  | .bindPlayer σ q (some _) => σ = session ∧ q = p
  | .bindPlayerId σ q none | .bindPlayer σ q none | .setOnline σ q _ | .getPlayer σ q
  | .findRoom σ q _ | .onReconnect σ q _ _ | .setSessionRoom σ q _ _ | .setPlayerRoom σ q _ _
  | .readState σ q _ _ | .clearRoom σ q _ | .respond σ q _ _ | .done σ q _ =>
    σ = session ∧ q = p ∧ (s.playerManager.players p).isSome
  | .setStatus σ q _ _ status =>
    σ = session ∧ q = p ∧ (s.playerManager.players p).isSome ∧ status ≠ .offline
  | .refused _ _ => False

/-- What a step of the handler does to the standing. -/
inductive LoginPc.Raises (session : SessionId) : Standing → LoginPc → Standing → LoginPc → Prop
    where
  | quiet {st pc pc'} (status : Option PlayerStatus) (hbound : pc'.bound = pc.bound)
      (hon : pc'.isOn = pc.isOn)
      (hstatus : pc.isOn → status = st.status ∨ status ≠ some .offline) :
      Raises session st pc { st with status := status } pc'
  | bind {st pc pc'} (hon : pc.isOn = false) (hbound' : pc'.bound = true)
      (hon' : pc'.isOn = false) : Raises session st pc { st with owner := some session } pc'
  | online {st pc pc'} (status : Option PlayerStatus) (hbound : pc.bound = true)
      (hon : pc.isOn = false) (hbound' : pc'.bound = true) (hon' : pc'.isOn = true)
      (hstatus : status ≠ some .offline) :
      Raises session st pc { st with online := some session, status := status } pc'

section

variable {s : Server F} {session : SessionId} {p : PlayerId} {pc : LoginPc} {ch : LoginChoice}

theorem Server.players_update (s : Server F) (p : PlayerId) (f : Player → Player) (name : String) :
    (s.updatePlayers (·.update p f name)).playerManager.players p =
      some (f (s.playerManager.getOrCreatePlayer p name)) :=
  Function.update_self ..

/-- Setters that keep the status keep the standing of a player in memory. -/
theorem Server.standing_update {f : Player → Player} {name : String}
    (hf : ∀ player, (f player).status = player.status) (h : (s.playerManager.players p).isSome) :
    (s.updatePlayers (·.update p f name)).standing p = s.standing p := by
  obtain ⟨player, hplayer⟩ := Option.isSome_iff_exists.mp h
  ext1
  · rfl
  · rfl
  · simp only [standing, PlayerManager.status, players_update, PlayerManager.getOrCreatePlayer,
      hplayer, Option.getD_some, Option.map_some, hf]

theorem Server.standing_setPlayerStatus (s : Server F) (p : PlayerId) (status : PlayerStatus) :
    (s.setPlayerStatus p status).standing p = { s.standing p with status := some status } := by
  ext1
  · rfl
  · rfl
  · simp [standing, PlayerManager.status, setPlayerStatus, players_update]

theorem Server.players_setOnline (s : Server F) (p : PlayerId) (session : SessionId) :
    (s.updatePlayers (·.setOnline p session)).playerManager.players p =
      (s.playerManager.players p).map ({ · with status := .online }) :=
  Function.update_self ..

theorem Server.standing_setOnline (p : PlayerId) (session : SessionId)
    (h : (s.playerManager.players p).isSome) :
    (s.updatePlayers (·.setOnline p session)).standing p =
      { s.standing p with online := some session, status := some .online } := by
  obtain ⟨player, hplayer⟩ := Option.isSome_iff_exists.mp h
  ext1
  · rfl
  · exact Function.update_self ..
  · simp [standing, PlayerManager.status, players_setOnline, hplayer]

theorem Server.standing_bindPlayer (s : Server F) (p : PlayerId) (session : SessionId) :
    (s.updateConnections (·.bindPlayer p session)).standing p =
      { s.standing p with owner := some session } := by
  ext1
  · exact Function.update_self ..
  · rfl
  · rfl

theorem LoginPc.Starts.enters (h : pc.Starts s session p) : pc.Enters s session p := by
  cases h with
  | login hne hknown => exact ⟨rfl, _, hne, hknown, Or.inl rfl⟩
  | reconnect htoken hplayer => exact ⟨rfl, rfl, htoken, hplayer⟩

/-- A step that leaves the standing alone. -/
theorem LoginPc.Raises.same {st st' : Standing} {pc' : LoginPc} (hst : st' = st)
    (hbound : pc'.bound = pc.bound) (hon : pc'.isOn = pc.isOn) :
    Raises session st pc st' pc' := by
  subst hst
  exact .quiet st'.status hbound hon fun _ => Or.inl rfl

/-- What one step of the handler does. -/
theorem LoginPc.Enters.next (h : pc.Enters s session p) :
    (pc.next ch s).2.Enters (pc.next ch s).1 session p ∧
      Raises session (s.standing p) pc ((pc.next ch s).1.standing p) (pc.next ch s).2 := by
  cases pc with
  | account σ call =>
    obtain ⟨rfl, account, hne, hknown, rfl | rfl | rfl⟩ := h
    · simp only [LoginPc.next, AccountPc.next, if_neg hne]
      exact ⟨⟨rfl, account, hne, hknown, Or.inr (Or.inl rfl)⟩, .same rfl rfl rfl⟩
    · simp only [LoginPc.next, AccountPc.next_find_some hknown]
      exact ⟨⟨rfl, account, hne, hknown, Or.inr (Or.inr rfl)⟩, .same rfl rfl rfl⟩
    · exact ⟨⟨rfl, rfl⟩, .same rfl rfl rfl⟩
  | storeToken σ q => exact ⟨h, .same rfl rfl rfl⟩
  | closeOther σ q token =>
    -- The bindings of the other connection are left to its close callback.
    refine ⟨h, .same ?_ rfl rfl⟩
    simp only [LoginPc.next, Server.closeOther]
    split
    · split <;> rfl
    · rfl
  | checkToken σ q token =>
    obtain ⟨hσ, hq, htoken, hplayer⟩ := h
    subst hq
    simp only [LoginPc.next, htoken, ne_eq, not_true_eq_false, if_false]
    exact ⟨⟨hσ, rfl, hplayer⟩, .same rfl rfl rfl⟩
  | bindPlayerId σ q token => cases token <;> exact ⟨h, .same rfl rfl rfl⟩
  | bindPlayer σ q token =>
    cases token with
    | none =>
      obtain ⟨rfl, rfl, hplayer⟩ := h
      rw [LoginPc.next, Server.standing_bindPlayer]
      exact ⟨⟨rfl, rfl, hplayer⟩, .bind rfl rfl rfl⟩
    | some token =>
      obtain ⟨rfl, rfl⟩ := h
      rw [LoginPc.next, Server.standing_bindPlayer]
      exact ⟨⟨rfl, rfl⟩, .bind rfl rfl rfl⟩
  | setScore σ q token =>
    obtain ⟨rfl, rfl⟩ := h
    refine ⟨⟨rfl, rfl, ?_⟩, ?_⟩
    · rw [LoginPc.next, Server.players_update]
      rfl
    · exact .quiet _ rfl rfl fun h => absurd h (by simp [isOn])
  | setOnline σ q answer =>
    obtain ⟨rfl, rfl, hplayer⟩ := h
    -- `SetOnline` needs the entry of the player, which the login has made.
    have hplayer' : ((s.updatePlayers (·.setOnline q σ)).playerManager.players q).isSome := by
      rw [Server.players_setOnline, Option.isSome_map]
      exact hplayer
    have hst := Server.standing_setOnline q σ hplayer
    cases answer with
    | none =>
      rw [LoginPc.next, hst]
      exact ⟨⟨rfl, rfl, hplayer'⟩, .online _ rfl rfl rfl rfl (by simp)⟩
    | some answer =>
      rw [LoginPc.next, hst]
      exact ⟨⟨rfl, rfl, hplayer'⟩, .online _ rfl rfl rfl rfl (by simp)⟩
  | getPlayer σ q =>
    obtain ⟨rfl, rfl, hplayer⟩ := h
    refine ⟨⟨rfl, rfl, ?_⟩, .same (Server.standing_update (fun _ => rfl) hplayer) rfl rfl⟩
    rw [LoginPc.next, Server.players_update]
    rfl
  | findRoom σ q answer =>
    cases hroom : s.getPlayerRoom q with
    | none =>
      simp only [LoginPc.next, hroom]
      exact ⟨h, .same rfl rfl rfl⟩
    | some roomId =>
      simp only [LoginPc.next, hroom]
      exact ⟨h, .same rfl rfl rfl⟩
  | onReconnect σ q answer roomId => exact ⟨h, .same rfl rfl rfl⟩
  | setSessionRoom σ q answer roomId => exact ⟨h, .same rfl rfl rfl⟩
  | setPlayerRoom σ q answer roomId =>
    obtain ⟨rfl, rfl, hplayer⟩ := h
    refine ⟨⟨rfl, rfl, ?_⟩, .same (Server.standing_update (fun _ => rfl) hplayer) rfl rfl⟩
    rw [LoginPc.next, Server.setPlayerRoomId, Server.players_update]
    rfl
  | readState σ q answer roomId =>
    obtain ⟨rfl, rfl, hplayer⟩ := h
    refine ⟨⟨rfl, rfl, hplayer, ?_⟩, .same rfl rfl rfl⟩
    split <;> simp
  | setStatus σ q answer roomId status =>
    obtain ⟨rfl, rfl, hplayer, hstatus⟩ := h
    refine ⟨⟨rfl, rfl, ?_⟩, ?_⟩
    · rw [LoginPc.next, Server.setPlayerStatus, Server.players_update]
      rfl
    · rw [LoginPc.next, Server.standing_setPlayerStatus]
      exact .quiet _ rfl rfl fun _ => Or.inr (by simpa using hstatus)
  | clearRoom σ q answer =>
    obtain ⟨rfl, rfl, hplayer⟩ := h
    refine ⟨⟨rfl, rfl, ?_⟩, .same (Server.standing_update (fun _ => rfl) hplayer) rfl rfl⟩
    rw [LoginPc.next, Server.setPlayerRoomId, Server.players_update]
    rfl
  | respond σ q answer roomId => exact ⟨h, .same rfl rfl rfl⟩
  | done σ q answer => exact ⟨h, .same rfl rfl rfl⟩
  | refused σ q => exact h.elim

theorem LoginPc.Enters.sessionPlayer_next {old : SessionId} (h : pc.Enters s session p)
    (hold : old ≠ session) :
    ((pc.next ch s).1.sessionHeap old).playerId = (s.sessionHeap old).playerId := by
  have hset : ∀ (f : Session → Session), ((s.updateSession session f).sessionHeap old) =
      s.sessionHeap old := fun f => Function.update_of_ne hold ..
  cases pc with
  | account σ call =>
    obtain ⟨rfl, account, hne, hknown, rfl | rfl | rfl⟩ := h
    · simp only [LoginPc.next, AccountPc.next, if_neg hne]
    · simp only [LoginPc.next, AccountPc.next_find_some hknown]
    · rfl
  | closeOther σ q token =>
    exact congrFun (congrArg Presence.sessionPlayer (Server.presence_closeOther s q σ)) old
  | checkToken σ q token =>
    simp only [LoginPc.next]
    split <;> rfl
  | bindPlayerId σ q token =>
    cases token with
    | none =>
      obtain ⟨rfl, -⟩ := h
      rw [LoginPc.next, hset]
    | some token =>
      obtain ⟨rfl, -⟩ := h
      rw [LoginPc.next, hset]
  | setSessionRoom σ q answer roomId =>
    obtain ⟨rfl, -⟩ := h
    rw [LoginPc.next, Server.setSessionRoomId, hset]
  | findRoom σ q answer =>
    simp only [LoginPc.next]
    split <;> rfl
  | _ => rfl

/-- What a handler needs is left alone by whatever keeps the accounts, the tokens and the players. -/
theorem LoginPc.Enters.congr {s' : Server F} (h : pc.Enters s session p)
    (hlogin : s'.loginService = s.loginService)
    (hplayer : (s'.playerManager.players p).isSome = (s.playerManager.players p).isSome) :
    pc.Enters s' session p := by
  cases pc with
  | account σ call =>
    rw [Enters, hlogin]
    exact h
  | checkToken σ q token =>
    rw [Enters, hlogin, hplayer]
    exact h
  | bindPlayerId σ q token =>
    cases token with
    | none => rw [Enters, hplayer]; exact h
    | some token => exact h
  | bindPlayer σ q token =>
    cases token with
    | none => rw [Enters, hplayer]; exact h
    | some token => exact h
  | storeToken σ q => exact h
  | closeOther σ q token => exact h
  | setScore σ q token => exact h
  | refused σ q => exact h
  | _ => rw [Enters, hplayer]; exact h

end

/-! ## The old sessions -/

/-- The session whose connection closes. -/
def ClosePc.session : ClosePc → SessionId
  | .remove session | .check session | .setOffline session | .findRoom session
  | .onDisconnect session _ | .done session => session

/-- A callback that is at `SetOffline`. -/
def ClosePc.setsOffline : ClosePc → Bool
  | .setOffline _ => true
  | _ => false

/-- What a step of a close callback does to the standing of its player. -/
inductive ClosePc.Lowers (old : SessionId) : Standing → ClosePc → Standing → Prop where
  | remove {st pc} (owner : Option SessionId) (hpc : pc.setsOffline = false)
      (howner : owner = st.owner ∨ st.owner = some old) :
      Lowers old st pc { st with owner := owner }
  | offline {st pc} (status : Option PlayerStatus) (hpc : pc.setsOffline = true) :
      Lowers old st pc { st with online := none, status := status }

/-- A step that leaves the standing alone. -/
theorem ClosePc.Lowers.same {old : SessionId} {st st' : Standing} {pc : ClosePc} (hst : st' = st)
    (hpc : pc.setsOffline = false) : Lowers old st pc st' := by
  subst hst
  exact .remove st'.owner hpc (Or.inl rfl)

/-- What one step of a close callback does. -/
theorem ClosePc.lowers_next {s : Server F} {pc : ClosePc} {p : PlayerId}
    (hp : (s.sessionHeap pc.session).playerId = p) :
    (pc.next s).2.session = pc.session ∧
      Lowers pc.session (s.standing p) pc ((pc.next s).1.standing p) := by
  cases pc with
  | remove σ =>
    refine ⟨rfl, .remove _ rfl ?_⟩
    simp only [session] at hp ⊢
    simp only [next, Server.updateConnections, ConnectionManager.remove, hp, Server.standing,
      ConnectionManager.getByPlayerId]
    split
    · next h => exact Or.inr h.2
    · exact Or.inl rfl
  | check σ =>
    simp only [next]
    split
    · exact ⟨rfl, .same rfl rfl⟩
    · split
      · refine ⟨?_, .same rfl rfl⟩
        dsimp only
        split <;> rfl
      · exact ⟨rfl, .same rfl rfl⟩
  | setOffline σ =>
    simp only [session] at hp
    refine ⟨rfl, ?_⟩
    have hst : (s.updatePlayers (·.setOffline p)).standing p =
        { s.standing p with
          online := none
          status := (s.updatePlayers (·.setOffline p)).playerManager.status p } := by
      ext1
      · rfl
      · exact Function.update_self ..
      · rfl
    rw [next, hp, hst]
    exact .offline _ rfl
  | findRoom σ =>
    simp only [next]
    split
    · split <;> exact ⟨rfl, .same rfl rfl⟩
    · exact ⟨rfl, .same rfl rfl⟩
  | onDisconnect σ roomId => exact ⟨rfl, .same rfl rfl⟩
  | done σ => exact ⟨rfl, .same rfl rfl⟩

theorem ClosePc.frame_next (s : Server F) (pc : ClosePc) (p : PlayerId) :
    (pc.next s).1.sessionHeap = s.sessionHeap ∧ (pc.next s).1.loginService = s.loginService ∧
      ((pc.next s).1.playerManager.players p).isSome = (s.playerManager.players p).isSome := by
  cases pc with
  | check σ =>
    simp only [next]
    split
    · exact ⟨rfl, rfl, rfl⟩
    · split <;> exact ⟨rfl, rfl, rfl⟩
  | setOffline σ =>
    refine ⟨rfl, rfl, ?_⟩
    simp only [next, Server.updatePlayers, PlayerManager.setOffline, PlayerManager.setStatus,
      Function.update_apply]
    split
    · next h => rw [Option.isSome_map, h]
    · rfl
  | findRoom σ =>
    simp only [next]
    split
    · split <;> exact ⟨rfl, rfl, rfl⟩
    · exact ⟨rfl, rfl, rfl⟩
  | _ => exact ⟨rfl, rfl, rfl⟩

/-! ## Both together -/

/-- A thread that is at `SetOffline`. -/
def PresencePc.setsOffline : PresencePc → Bool
  | .enter _ => false
  | .leave pc => pc.setsOffline

namespace Encounter

/-- A handler that is past `SetOnline`. -/
def isOn (c : Encounter κ F) : Bool :=
  match c.threads none with
  | .enter pc => pc.isOn
  | .leave _ => false

/-- `SetOffline` does not come after the `SetOnline` of the handler. -/
def OfflineFirst (c : Encounter κ F) (e : Option κ × LoginChoice) : Prop :=
  (c.threads e.1).setsOffline → c.isOn = false

instance (c : Encounter κ F) (e : Option κ × LoginChoice) : Decidable (OfflineFirst c e) :=
  inferInstanceAs (Decidable (_ → _))

/-- The threads are those of a handler for `p` on `session` and of close callbacks for `old`. -/
structure Meets (p : PlayerId) (session : SessionId) (old : κ → SessionId) (c : Encounter κ F) :
    Prop where
  enter : ∃ pc, c.threads none = .enter pc ∧ pc.Enters c.shared session p ∧
    (pc.bound → (c.shared.standing p).owner = some session)
  leave : ∀ k, ∃ pc, c.threads (some k) = .leave pc ∧ pc.session = old k
  player : ∀ k, (c.shared.sessionHeap (old k)).playerId = p

/-- The handler has marked the player online for good. -/
def Online (p : PlayerId) (c : Encounter κ F) : Prop :=
  c.isOn → (c.shared.standing p).online ≠ none ∧ (c.shared.standing p).status ≠ some .offline

/-- A callback has marked the player offline for good. -/
def Dropped (p : PlayerId) (c : Encounter κ F) : Prop :=
  c.isOn ∧ (c.shared.standing p).online = none

variable [DecidableEq κ] {p : PlayerId} {session : SessionId} {old : κ → SessionId}
  {c : Encounter κ F} {e : Option κ × LoginChoice}

omit [DecidableEq κ] in
theorem meets_start {s : Server F} {pc : LoginPc} (hstart : pc.Starts s session p)
    (hplayer : ∀ k, (s.sessionHeap (old k)).playerId = p) :
    Meets p session old (start s pc old) ∧ (start s pc old).isOn = false := by
  refine ⟨⟨⟨pc, rfl, hstart.enters, ?_⟩, fun k => ⟨_, rfl, rfl⟩, hplayer⟩, ?_⟩
  · cases hstart <;> simp [LoginPc.bound]
  · cases hstart <;> rfl

/-- What one step does: the handler raises the standing of the player, a callback lowers it. -/
theorem Meets.step (hold : ∀ k, old k ≠ session) (h : Meets p session old c) :
    Meets p session old (c.step e) ∧
      ((∃ pc pc', c.threads e.1 = .enter pc ∧ c.threads none = .enter pc ∧
          (c.step e).threads none = .enter pc' ∧
          LoginPc.Raises session (c.shared.standing p) pc ((c.step e).shared.standing p) pc') ∨
        (∃ k pc, c.threads e.1 = .leave pc ∧ (c.step e).threads none = c.threads none ∧
          ClosePc.Lowers (old k) (c.shared.standing p) pc ((c.step e).shared.standing p))) := by
  obtain ⟨⟨pc, hpc, henters, hbound⟩, hleave, hplayer⟩ := h
  obtain ⟨t, ch⟩ := e
  cases t with
  | none =>
    obtain ⟨henters', hraises⟩ :
        (pc.next ch c.shared).2.Enters (pc.next ch c.shared).1 session p ∧ _ := henters.next
    have hnext : PresencePc.next ch c.shared (c.threads none) =
        ((pc.next ch c.shared).1, .enter (pc.next ch c.shared).2) := by rw [hpc]; rfl
    obtain ⟨hshared, hth⟩ := Sys.step_of_next hnext
    have hmoved : (c.step (none, ch)).threads none = .enter (pc.next ch c.shared).2 := by
      rw [hth, if_pos rfl]
    rw [← hshared] at henters' hraises
    refine ⟨⟨⟨_, hmoved, henters', ?_⟩, fun k => ?_, fun k => ?_⟩,
      Or.inl ⟨pc, _, hpc, hpc, hmoved, hraises⟩⟩
    · -- `BindPlayer` makes the session the owner, and no other step changes it
      generalize (pc.next ch c.shared).2 = pc' at hraises ⊢
      generalize (c.step (none, ch)).shared.standing p = st' at hraises ⊢
      intro hb
      cases hraises with
      | quiet status hbound' => exact hbound (hbound' ▸ hb)
      | bind => rfl
      | online status hbound' => exact hbound hbound'
    · rw [hth, if_neg (by simp)]
      exact hleave k
    · rw [hshared, henters.sessionPlayer_next (hold k)]
      exact hplayer k
  | some k =>
    obtain ⟨pcₖ, hk, hsession⟩ := hleave k
    have hp : (c.shared.sessionHeap pcₖ.session).playerId = p := by
      rw [hsession]
      exact hplayer k
    obtain ⟨hsession', hlowers⟩ := ClosePc.lowers_next hp
    obtain ⟨hheap, hlogin, hplayers⟩ := ClosePc.frame_next c.shared pcₖ p
    have hnext : PresencePc.next ch c.shared (c.threads (some k)) =
        ((pcₖ.next c.shared).1, .leave (pcₖ.next c.shared).2) := by rw [hk]; rfl
    obtain ⟨hshared, hth⟩ := Sys.step_of_next hnext
    have hstays : (c.step (some k, ch)).threads none = c.threads none := by
      rw [hth, if_neg (by simp)]
    rw [← hshared] at hheap hlogin hplayers hlowers
    rw [hsession] at hlowers
    refine ⟨⟨⟨pc, hstays.trans hpc, henters.congr hlogin hplayers, ?_⟩, fun j => ?_, fun j => ?_⟩,
      Or.inr ⟨k, pcₖ, hk, hstays, hlowers⟩⟩
    · -- `Remove` drops the entry of its own session only
      intro hb
      have howner := hbound hb
      generalize (c.step (some k, ch)).shared.standing p = st' at hlowers ⊢
      cases hlowers with
      | remove owner _ hkept =>
        rcases hkept with rfl | hold'
        · exact howner
        · exact absurd (Option.some.inj (hold'.symm.trans howner)) (hold k)
      | offline => exact howner
    · by_cases hj : j = k
      · subst hj
        exact ⟨_, by rw [hth, if_pos rfl], hsession'.trans hsession⟩
      · rw [hth, if_neg (by simpa using hj)]
        exact hleave j
    · rw [hheap]
      exact hplayer j

omit [DecidableEq κ] in
theorem isOn_of_enter {pc : LoginPc} (h : c.threads none = .enter pc) : c.isOn = pc.isOn := by
  rw [isOn, h]

/-- **One step of one thread.** The guard keeps a `SetOffline` from undoing the `SetOnline`. -/
theorem online_step (hold : ∀ k, old k ≠ session) (h : Meets p session old c) (hI : Online p c)
    (hG : OfflineFirst c e) : Online p (c.step e) := by
  rcases (h.step (e := e) hold).2 with
    ⟨pc, pc', -, hnone, hnone', hraises⟩ | ⟨k, pc, hk, hnone, hlowers⟩
  · rw [Online, isOn_of_enter hnone] at hI
    rw [Online, isOn_of_enter hnone']
    generalize (c.step e).shared.standing p = st' at hraises ⊢
    intro hon
    cases hraises with
    | quiet status hbound hon' hstatus =>
      obtain ⟨honline, hst⟩ := hI (hon' ▸ hon)
      refine ⟨honline, ?_⟩
      rcases hstatus (hon' ▸ hon) with rfl | hstatus
      · exact hst
      · exact hstatus
    | bind _ _ hon' => exact absurd hon (by simp [hon'])
    | online status _ _ _ _ hstatus => exact ⟨by simp, hstatus⟩
  · have hon : (c.step e).isOn = c.isOn := by rw [isOn, hnone, isOn]
    rw [Online, hon]
    generalize (c.step e).shared.standing p = st' at hlowers ⊢
    cases hlowers with
    | remove owner => exact hI
    | offline status hpc =>
      intro hon
      rw [OfflineFirst, hk] at hG
      exact absurd hon (by simp [hG hpc])

/-- A `SetOffline` after the `SetOnline`. -/
theorem dropped_of_late (hold : ∀ k, old k ≠ session) (h : Meets p session old c)
    (hG : ¬ OfflineFirst c e) : Dropped p (c.step e) := by
  obtain ⟨hsets, hon⟩ := Classical.not_imp.mp hG
  rcases (h.step (e := e) hold).2 with ⟨pc, pc', hpc, -⟩ | ⟨k, pc, hk, hnone, hlowers⟩
  · rw [hpc] at hsets
    exact absurd hsets (by simp [PresencePc.setsOffline])
  · rw [hk] at hsets
    refine ⟨by rw [isOn, hnone]; simpa [isOn] using hon, ?_⟩
    generalize (c.step e).shared.standing p = st' at hlowers ⊢
    cases hlowers with
    | remove owner hpc => exact absurd hsets (by simp [PresencePc.setsOffline, hpc])
    | offline => rfl

/-- Nothing brings the player back online. -/
theorem dropped_step (hold : ∀ k, old k ≠ session) (h : Meets p session old c)
    (hB : Dropped p c) : Dropped p (c.step e) := by
  obtain ⟨hon, honline⟩ := hB
  rcases (h.step (e := e) hold).2 with
    ⟨pc, pc', -, hnone, hnone', hraises⟩ | ⟨k, pc, hk, hnone, hlowers⟩
  · rw [isOn_of_enter hnone] at hon
    rw [Dropped, isOn_of_enter hnone']
    generalize (c.step e).shared.standing p = st' at hraises ⊢
    cases hraises with
    | quiet status hbound hon' => exact ⟨hon'.trans hon, honline⟩
    | bind hoff => simp [hoff] at hon
    | online status hbound hoff => simp [hoff] at hon
  · refine ⟨by rw [isOn, hnone]; exact hon, ?_⟩
    generalize (c.step e).shared.standing p = st' at hlowers ⊢
    cases hlowers with
    | remove owner => exact honline
    | offline => rfl

omit [DecidableEq κ] in
/-- At the end the session of the handler is the one of the player. -/
theorem Meets.owner (h : Meets p session old c) (hdone : (c.threads none).isDone) :
    c.isOn ∧ (c.shared.standing p).owner = some session := by
  obtain ⟨pc, hpc, -, hbound⟩ := h.enter
  rw [hpc] at hdone
  have hpc' : pc.isOn ∧ pc.bound := by
    cases pc <;> first | exact ⟨rfl, rfl⟩ | cases hdone
  exact ⟨(isOn_of_enter hpc).trans hpc'.1, hbound hpc'.2⟩

/--
**Presence agreement.**

A player comes back on a new session while connections of old sessions close. When all threads have
finished, the two managers agree exactly if no `SetOffline` came after the `SetOnline` of the new
session, and the new session is the one of the player in any case.
-/
theorem presenceAgrees_iff {s : Server F} {pc : LoginPc} (old : κ → SessionId)
    (es : List (Option κ × LoginChoice)) (hstart : pc.Starts s session p)
    (hold : ∀ k, old k ≠ session) (hplayer : ∀ k, (s.sessionHeap (old k)).playerId = p)
    (hdone : ∀ t, ((es.foldl step (start s pc old)).threads t).isDone) :
    ((es.foldl step (start s pc old)).shared.PresenceAgrees p ↔
      AllSteps step OfflineFirst (start s pc old) es) ∧
    (es.foldl step (start s pc old)).shared.connectionManager.getByPlayerId p = some session := by
  have hkeep : ∀ (c : Encounter κ F) e, (Meets p session old c ∧ Online p c) → OfflineFirst c e →
      Meets p session old (c.step e) ∧ Online p (c.step e) :=
    fun c e h hG => ⟨(h.1.step hold).1, online_step hold h.1 h.2 hG⟩
  have hbad : ∀ (c : Encounter κ F) e, (Meets p session old c ∧ Online p c) → ¬ OfflineFirst c e →
      Meets p session old (c.step e) ∧ Dropped p (c.step e) :=
    fun c e h hG => ⟨(h.1.step hold).1, dropped_of_late hold h.1 hG⟩
  have hstable : ∀ (c : Encounter κ F) e, (Meets p session old c ∧ Dropped p c) →
      Meets p session old (c.step e) ∧ Dropped p (c.step e) :=
    fun c e h => ⟨(h.1.step hold).1, dropped_step hold h.1 h.2⟩
  obtain ⟨hmeets, hoff⟩ : Meets p session old (start s pc old) ∧ _ := meets_start hstart hplayer
  have hI : Online p (start s pc old) := fun h => absurd h (by simp [hoff])
  rcases last_of_guard hkeep hbad hstable es ⟨hmeets, hI⟩ with ⟨hG, hM, hI⟩ | ⟨hG, hM, -, hB⟩
  · obtain ⟨hon, howner⟩ := hM.owner (hdone none)
    obtain ⟨honline, hstatus⟩ := hI hon
    refine ⟨iff_of_true ⟨?_, fun h => absurd h hstatus⟩ hG, howner⟩
    exact iff_of_true (Option.isSome_iff_ne_none.mpr honline)
      (Option.ne_none_iff_exists'.mpr ⟨session, howner⟩)
  · obtain ⟨-, howner⟩ := hM.owner (hdone none)
    refine ⟨iff_of_false (fun h => ?_) hG, howner⟩
    have honline := h.1.mpr (Option.ne_none_iff_exists'.mpr ⟨session, howner⟩)
    have hnone : (es.foldl step (start s pc old)).shared.playerManager.onlineSessions p = none := hB
    simp [PlayerManager.isOnline, hnone] at honline

/-- The player 7 of the account `"alice"` is online on session 1, and session 2 is connected. -/
def onlineOnOne : Server Unit :=
  ((((Server.init 2).accept 0).accept 0).enterAccount "alice" 7).handleLogin 1 0
    { name := "alice", score := 1000 } (some "alice")

/-- `n` steps of the close callback of session 1. -/
def closeTurns (n : Nat) : List (Option Unit × LoginChoice) :=
  List.replicate n (some (), {})

/-- `n` steps of the login on session 2. -/
def loginTurns (n : Nat) : List (Option Unit × LoginChoice) :=
  List.replicate n (none, {})

/-- The old connection closes before the login. -/
theorem presenceAgrees_iff_witness :
    ((closeTurns 5 ++ loginTurns 12).foldl step
      (start onlineOnOne (.account 2 (.start "alice")) fun _ => 1)).shared.PresenceAgrees 7 :=
  (presenceAgrees_iff (fun _ => 1) _ (.login (by decide) rfl) (by decide) (by decide)
    (by decide)).1.mpr (by decide)

/-- The callback finds no newer session, the player logs in, and the callback marks the player
offline. -/
theorem presenceAgrees_counterexample :
    let c := (closeTurns 2 ++ loginTurns 12 ++ closeTurns 3).foldl step
      (start onlineOnOne (.account 2 (.start "alice")) fun _ => 1)
    (∀ t, (c.threads t).isDone) ∧ ¬ c.shared.PresenceAgrees 7 := by
  refine ⟨by decide, ?_⟩
  rintro ⟨honline, -⟩
  exact absurd (honline.mpr (by decide)) (by decide)

end Encounter
end Game
