import GameServer.Infra.Machine
import GameServer.Server.EndedGames
import GameServer.Server.News
import GameServer.Storage.Replays
import GameServer.Storage.Recorded

/-!
# Results that clients are told

The server and its storage together. The game loop calls `CreateBattle` and `SettleBattle` as
programs of the storage, which fails and hangs up as it likes, among any other threads that use the
tables; and it waits for their results while all other tasks of the server go on.

Whatever happens, nobody is told the result of a battle that is not in the database
(`announced_durable`).
-/

namespace Game

open Infra BattleRepository SettlementService

variable {ι κ ν F : Type}

/-! ## The calls of the game loop -/

/-- What the tick callback asks of the storage. -/
inductive StorageCall where
  | createBattle (roomId : RoomId)
  | settleBattle (battleId : BattleId) (roomId : RoomId) (winnerId : PlayerId)
      (losers : List PlayerId)
  deriving DecidableEq

/-- `battle_repository_` and `settlement_service_`, with the mutex of the service. -/
structure Stores where
  battleRepository : BattleRepository
  settlementService : SettlementService
  mutex : ServiceId

/-- The call, with its result as the loop goes on from it. -/
def StorageCall.run (stores : Stores) : StorageCall → StorageM LoopChoice
  | createBattle roomId => do
    let battleId ← stores.battleRepository.createBattle roomId
    return { battleId }
  | settleBattle battleId roomId winnerId losers => do
    let settled ← stores.settlementService.settleBattle stores.mutex battleId roomId winnerId losers
    return { settled }

/-- The call that comes next in the loop. -/
def LoopPc.call (s : Server F) : LoopPc F → Option StorageCall
  | .createBattle roomId _ _ _ =>
    if (s.pending roomId).battleId = 0 then some (.createBattle roomId) else none
  | .settleBattle roomId winnerId losers _ =>
    let battleId := (s.pending roomId).battleId
    if battleId = 0 then none else some (.settleBattle battleId roomId winnerId losers)
  | _ => none

def Task.call (s : Server F) : Task F → Option StorageCall
  | .loop pc => pc.call s
  | _ => none

/-- The call that the game loop waits for. -/
def Tasks.call (c : Tasks ι F) : Option StorageCall :=
  (c.threads none).call c.shared

/-- The server as a machine that calls its storage. Only the game loop waits. -/
def gameServer [DecidableEq ι] [Axis F] (stores : Stores) :
    Machine (Tasks ι F) (Option ι × TaskChoice) StorageCall LoopChoice StorageRequest
      StorageRequest.Reply where
  next e c := if e.1 = none ∧ c.call.isSome then c else c.step e
  waits := Tasks.call
  prog := StorageCall.run stores
  resume a c := c.step (none, { loop := a })

/-- The server after `GameServer::Init` beside empty tables. The thread `none` of the storage is the
game loop, the others call what they like. -/
def gameServerInit (roomPlayerCount : Int) (tasks : ι → Task F) (services : ν → SettlementService)
    (mutex : ν → ServiceId) (callers : κ → Caller ν) :
    Served (Tasks ι F) LoopChoice (Option κ) (Storage (Option κ)) StorageRequest
      StorageRequest.Reply where
  machine := Tasks.init roomPlayerCount tasks
  pool := Storage.start {} services mutex fun i => i.elim .done callers
  call := none

/-! ## What is announced -/

/-- The room, the winner and the losers in a `GameOverNotify`. -/
def Message.result : Message F → Option (RoomId × PlayerId × List PlayerId)
  | .gameOverNotify roomId winnerId losers => some (roomId, winnerId, losers)
  | _ => none

/-- The results that clients have been told. -/
def Server.results (s : Server F) : List (RoomId × PlayerId × List PlayerId) :=
  s.news.filterMap (·.2.result)

def Task.announces : Task F → Option (RoomId × PlayerId × List PlayerId)
  | .loop pc => pc.announces
  | _ => none

namespace Server

theorem mem_results {s : Server F} {x : RoomId × PlayerId × List PlayerId} :
    x ∈ s.results ↔ ∃ session, (session, .gameOverNotify x.1 x.2.1 x.2.2) ∈ s.out := by
  unfold results news
  rw [List.mem_filterMap]
  constructor
  · rintro ⟨⟨session, msg⟩, hmem, hresult⟩
    cases msg with
    | gameOverNotify r w losers =>
      cases hresult
      exact ⟨session, List.mem_of_mem_filter hmem⟩
    | _ => cases hresult
  · rintro ⟨session, hmem⟩
    exact ⟨_, List.mem_filter.mpr ⟨hmem, rfl⟩, rfl⟩

theorem results_send (s : Server F) (session : SessionId) (msg : Message F) :
    (s.send session msg).results = s.results ++ msg.result.toList := by
  unfold results news send
  rw [List.filter_append, List.filterMap_append]
  congr 1
  cases msg <;> rfl

theorem results_broadcast (s : Server F) (r : RoomId) {msg : Message F} (h : msg.result = none) :
    (s.broadcast r msg).results = s.results := by
  unfold results news broadcast
  rw [List.filter_append, List.filterMap_append]
  refine List.append_right_eq_self.mpr (List.filterMap_eq_nil_iff.mpr fun sent hsent => ?_)
  obtain ⟨session, -, rfl⟩ := List.mem_map.mp (List.mem_of_mem_filter hsent)
  exact h

theorem results_of_scene [Axis F] {surrenders : RoomId → PlayerId → Prop} {s s' : Server F}
    {a a' : Option RoomId} (h : s.scene.Change surrenders a s'.scene a') :
    s'.results = s.results :=
  congrArg (·.filterMap (·.2.result)) h.quiet.1

end Server

section

variable [Axis F] {s : Server F}

/-- The end of the tick callback tells one result. -/
theorem TailPc.results_next (s : Server F) (pc : TailPc) (rooms : List RoomId) :
    (pc.next s).1.results = s.results ∨
      ∃ x, LoopPc.announces (F := F) (.tail pc rooms) = some x ∧
        (pc.next s).1.results = s.results ++ [x] := by
  cases pc with
  | announce r winnerId losers => exact Or.inl rfl
  | notify r winnerId losers todo =>
    cases todo with
    | nil => exact Or.inl rfl
    | cons p todo =>
      rw [next]
      dsimp only
      split
      · exact Or.inr ⟨_, rfl, s.results_send _ _⟩
      · exact Or.inl rfl
  | close r => exact Or.inl rfl
  | removing pc =>
    have hlog : (s.logRemoval pc).results = s.results := by cases pc <;> rfl
    have hchange : (s.logRemoval pc).scene.Change (fun _ _ => True) _ _ _ := pc.scene
    exact Or.inl ((Server.results_of_scene hchange).trans hlog)

omit [Axis F] in
theorem TailPc.announces_next {pc pc' : TailPc} {rooms : List RoomId}
    {x : RoomId × PlayerId × List PlayerId} (h : (pc.next s).2 = some pc')
    (hx : LoopPc.announces (F := F) (.tail pc' rooms) = some x) :
    LoopPc.announces (F := F) (.tail pc rooms) = some x := by
  cases pc with
  | announce r winnerId losers =>
    cases h
    exact hx
  | notify r winnerId losers todo =>
    cases todo with
    | nil =>
      cases h
      cases hx
    | cons p todo =>
      cases h
      exact hx
  | close r =>
    cases h
    cases hx
  | removing pc =>
    obtain ⟨pc', -, rfl⟩ := Option.map_eq_some_iff.mp h
    cases hx

/-- Only the end of the tick callback tells results. -/
theorem LoopPc.results_next (s : Server F) (pc : LoopPc F) (ch : LoopChoice) :
    (pc.next ch s).1.results = s.results ∨
      ∃ x, pc.announces = some x ∧ (pc.next ch s).1.results = s.results ++ [x] := by
  cases pc with
  | copyRooms =>
    rw [next]
    split <;> exact Or.inl rfl
  | tick rooms => cases rooms <;> exact Or.inl rfl
  | arguments r state gameOver winnerId rooms =>
    rcases LoopPc.next_arguments ch s r state gameOver winnerId rooms with
      ⟨_, _, _, _, _, _, hnext⟩ | ⟨_, _, _, hnext, _⟩ <;> exact Or.inl (by rw [hnext])
  | callback r state gameOver winnerId rooms =>
    rw [next]
    split <;> exact Or.inl rfl
  | stateNotify r state gameOver winnerId rooms => exact Or.inl (s.results_broadcast r rfl)
  | attempt r winnerId losers rooms =>
    simp only [next]
    split <;> exact Or.inl rfl
  | createBattle r winnerId losers rooms =>
    simp only [next]
    split <;> exact Or.inl rfl
  | settleBattle r winnerId losers rooms =>
    simp only [next]
    split
    · exact Or.inl rfl
    · split <;> exact Or.inl rfl
  | tail pc rooms =>
    have h := pc.results_next s rooms
    rw [next]
    split <;> (next heq => rw [heq] at h; exact h)
  | _ => exact Or.inl rfl

/-- The loop begins to tell a result when `SettleBattle` has returned true for it. -/
theorem LoopPc.announces_next {pc : LoopPc F} {ch : LoopChoice}
    {x : RoomId × PlayerId × List PlayerId} (h : (pc.next ch s).2.announces = some x) :
    pc.announces = some x ∨ ∃ battleId, ch.settled = true ∧
      pc.call s = some (.settleBattle battleId x.1 x.2.1 x.2.2) := by
  cases pc with
  | copyRooms =>
    rw [next] at h
    split at h <;> cases h
  | tick rooms => cases rooms <;> cases h
  | arguments r state gameOver winnerId rooms =>
    rcases LoopPc.next_arguments ch s r state gameOver winnerId rooms with
      ⟨_, _, _, _, _, _, hnext⟩ | ⟨_, _, _, hnext, _⟩ <;> (rw [hnext] at h; cases h)
  | callback r state gameOver winnerId rooms =>
    rw [next] at h
    split at h <;> cases h
  | stateNotify r state gameOver winnerId rooms => cases gameOver <;> cases h
  | attempt r winnerId losers rooms =>
    simp only [next] at h
    split at h <;> cases h
  | createBattle r winnerId losers rooms =>
    simp only [next] at h
    split at h <;> cases h
  | settleBattle r winnerId losers rooms =>
    simp only [next] at h
    split at h
    · cases h
    · next hne =>
      split at h
      · next hsettled =>
        cases h
        exact Or.inr ⟨_, hsettled, if_neg hne⟩
      · cases h
  | tail pc rooms =>
    rw [next] at h
    split at h
    · next pc' heq =>
      exact Or.inl (pc.announces_next (s := s) (by rw [heq]) h)
    · cases h
  | _ => cases h

end

/-! ## What is in the database -/

/-- A battle in this room has been settled with this winner and these losers. -/
def Db.Holds (db : Db) (x : RoomId × PlayerId × List PlayerId) : Prop :=
  ∃ battleId, Recorded ⟨battleId, x.1, x.2.1⟩
    (battleResults ⟨battleId, x.1, x.2.1⟩ (SettlementService.participants x.2.1 x.2.2)) db

theorem Db.Holds.evolves {db db' : Db} {x : RoomId × PlayerId × List PlayerId} (h : db.Holds x)
    (hevolves : Evolves db db') : db'.Holds x := by
  obtain ⟨battleId, hrecorded⟩ := h
  exact ⟨battleId, hrecorded.evolves hevolves⟩

/-- What the clients have been told, or are about to be told, is in the database. -/
structure Tasks.Truthful (c : Tasks ι F) (db : Db) : Prop where
  main : ∃ pc, c.threads none = .loop pc
  others : ∀ i, (c.threads (some i)).isLoop = false
  told : ∀ x ∈ c.shared.results, db.Holds x
  telling : ∀ x, (c.threads none).announces = some x → db.Holds x

section

variable [DecidableEq ι] [Axis F] {c : Tasks ι F} {db : Db}

omit [DecidableEq ι] [Axis F] in
theorem Tasks.Truthful.evolves {db' : Db} (h : c.Truthful db) (hevolves : Evolves db db') :
    c.Truthful db' :=
  ⟨h.main, h.others, fun x hx => (h.told x hx).evolves hevolves,
    fun x hx => (h.telling x hx).evolves hevolves⟩

/-- A step of the game loop that announces no other result than before. -/
theorem Tasks.Truthful.loop (h : c.Truthful db) (ch : TaskChoice)
    (hnew : ∀ battleId r winnerId losers, c.call = some (.settleBattle battleId r winnerId losers) →
      ch.loop.settled = true → db.Holds (r, winnerId, losers)) :
    Tasks.Truthful (c.step (none, ch)) db := by
  obtain ⟨pc, hpc⟩ := h.main
  obtain ⟨hshared, hself, hothers⟩ := Tasks.step_loop hpc ch
  have htelling := h.telling
  have hcall : c.call = pc.call c.shared := by rw [Tasks.call, hpc]; rfl
  rw [hpc] at htelling
  refine ⟨⟨_, hself⟩, fun i => ?_, fun x hx => ?_, fun x hx => ?_⟩
  · rw [hothers]
    exact h.others i
  · rw [hshared] at hx
    rcases pc.results_next c.shared ch.loop with heq | ⟨y, hy, heq⟩
    · exact h.told x (heq ▸ hx)
    · rcases List.mem_append.mp (heq ▸ hx) with hx | hx
      · exact h.told x hx
      · exact List.mem_singleton.mp hx ▸ htelling y hy
  · rw [hself] at hx
    rcases LoopPc.announces_next hx with hx | ⟨battleId, hsettled, hx⟩
    · exact htelling x hx
    · exact hnew _ _ _ _ (hcall.trans hx) hsettled

/-- The other tasks change nothing of it. -/
theorem Tasks.Truthful.task (h : c.Truthful db) (i : ι) (ch : TaskChoice) :
    Tasks.Truthful (c.step (some i, ch)) db := by
  obtain ⟨hscene, hnotLoop⟩ : c.shared.scene.Change (fun _ _ => True) _ _ _ ∧ _ :=
    Task.scene (h.others i) (fun _ _ _ => trivial) ch
  have hself : (c.step (some i, ch)).threads none = c.threads none :=
    Sys.step_threads_of_ne (Option.some_ne_none i).symm
  refine ⟨hself ▸ h.main, fun j => ?_, fun x hx => ?_, fun x hx => ?_⟩
  · rw [Sys.step_threads]
    split
    · exact hnotLoop
    · exact h.others j
  · rw [Sys.step_shared, Server.results_of_scene hscene] at hx
    exact h.told x hx
  · rw [hself] at hx
    exact h.telling x hx

/-- The other tasks leave the call of the loop alone. -/
theorem Tasks.call_step (hothers : ∀ i, (c.threads (some i)).isLoop = false) (i : ι)
    (ch : TaskChoice) : (c.step (some i, ch)).call = c.call := by
  obtain ⟨hscene, -⟩ : c.shared.scene.Change (fun _ _ => True) _ _ _ ∧ _ :=
    Task.scene (hothers i) (fun _ _ _ => trivial) ch
  have hpending : (c.step (some i, ch)).shared.pendingSettlements =
      c.shared.pendingSettlements := by
    rw [Sys.step_shared]
    exact hscene.quiet.2.1
  unfold Tasks.call
  rw [show (c.step (some i, ch)).threads none = c.threads none from
    Sys.step_threads_of_ne (Option.some_ne_none i).symm]
  cases c.threads none with
  | loop pc =>
    unfold Task.call LoopPc.call Server.pending
    rw [hpending]
  | _ => rfl

end

/-- Every result that a client has been told is that of a settled battle: its room, its winner and
its players. -/
def Server.Durable (s : Server F) (db : Db) : Prop :=
  ∀ session roomId winnerId losers,
    (session, .gameOverNotify roomId winnerId losers) ∈ s.out →
      ∃ battleId, db (.battle battleId) = some ⟨roomId, winnerId, 1⟩ ∧
        db.WhollySettled battleId ∧
        ∀ p, p ∈ db.participants battleId ↔ p = winnerId ∨ p ∈ losers

theorem Tasks.Truthful.durable {c : Tasks ι F} {db : Db} (h : c.Truthful db)
    (hdb : Accounted db) : c.shared.Durable db := by
  intro session r winnerId losers hsent
  obtain ⟨battleId, hrecorded⟩ := h.told (r, winnerId, losers)
    (Server.mem_results.mpr ⟨session, hsent⟩)
  refine ⟨battleId, hrecorded.row, ?_, fun p => ?_⟩
  · rcases hdb.battle battleId with hun | hwhole
    · exact absurd (hun.settled _ hrecorded.row) one_ne_zero
    · exact hwhole
  · rw [hrecorded.participants, map_battleResults, mem_participants, List.mem_cons]

/-! ## Server and storage -/

/-- What the answer of the storage tells the loop. -/
def StorageCall.Answered (call : StorageCall) (a : LoopChoice) (w : Storage (Option κ)) : Prop :=
  match call with
  | .createBattle _ => True
  | .settleBattle battleId roomId winnerId losers => a.settled = true →
    Recorded ⟨battleId, roomId, winnerId⟩
      (battleResults ⟨battleId, roomId, winnerId⟩ (participants winnerId losers)) w.mysql.db

/-- A step of the server, of its call, of the other threads, or of the storage on its own. -/
abbrev serverStep [DecidableEq ι] [DecidableEq κ] [Axis F] (stores : Stores)
    (s : Served (Tasks ι F) LoopChoice (Option κ) (Storage (Option κ)) StorageRequest
      StorageRequest.Reply)
    (e : Served.Event (Option ι × TaskChoice) (Option κ) Outcome Storage.Happening) :
    Served (Tasks ι F) LoopChoice (Option κ) (Storage (Option κ)) StorageRequest
      StorageRequest.Reply :=
  Served.step (gameServer stores) none Storage.exec Storage.happen s e

section

variable [DecidableEq ι] [DecidableEq κ] [Axis F]

/-- **What the server relies on**: an answer that a battle is settled is true of the database. -/
theorem gameServer_rules (stores : Stores) :
    (gameServer (ι := ι) (F := F) stores).Rules (thread none False (none : Option κ))
      (Storage.Lawful · none) (fun c w => c.Truthful w.mysql.db) (Idle none none fun _ => True)
      StorageCall.Answered where
  waits e c call w h hwaits := by
    have hwaits : c.call = some call := hwaits
    change Tasks.call (if e.1 = none ∧ c.call.isSome then c else c.step e) = some call
    rw [hwaits]
    obtain ⟨i, ch⟩ := e
    cases i with
    | none => exact hwaits
    | some i => exact (Tasks.call_step h.others i ch).trans hwaits
  next e c w h := by
    change Tasks.Truthful (if e.1 = none ∧ c.call.isSome then c else c.step e) w.mysql.db
    split
    · exact h
    · next hfree =>
      obtain ⟨i, ch⟩ := e
      cases i with
      | none =>
        refine h.loop ch fun battleId r winnerId losers hcall => ?_
        exact absurd ⟨rfl, by rw [hcall]; rfl⟩ hfree
      | some i => exact h.task i ch
  rely c w w' hw hrely h := h.evolves (rely_spec hw hrely).2.1.evolves
  request c q w r w' hw hexec hguar h := by
    obtain ⟨⟨x, hx⟩, -⟩ := hexec
    exact h.evolves (hw.evolves_exec hguar.1 hx)
  prog
    | .createBattle roomId =>
      .bind (triple_createBattle (stable_const True) id stores.battleRepository roomId)
        fun battleId => .pure fun w h => ⟨trivial, h⟩
    | .settleBattle battleId roomId winnerId losers =>
      .bind (triple_settleBattle_recorded stores.settlementService stores.mutex battleId roomId
        winnerId losers) fun a => .pure fun w h => ⟨h.known.2, h.lawful, h.free, trivial⟩
  resume c call a w hwaits h hanswer := by
    refine h.loop { loop := a } fun battleId r winnerId losers hcall hsettled => ?_
    obtain rfl : call = .settleBattle battleId r winnerId losers :=
      Option.some.inj (hwaits.symm.trans hcall)
    exact ⟨battleId, hanswer hsettled⟩

theorem sound_gameServerInit (roomPlayerCount : Int) {tasks : ι → Task F}
    (htasks : ∀ i, (tasks i).Starts) (services : ν → SettlementService) (mutex : ν → ServiceId)
    (callers : κ → Caller ν) (stores : Stores) :
    (gameServerInit roomPlayerCount tasks services mutex callers).Sound (gameServer stores) none
      (thread none False) (Storage.Lawful · none) (fun c w => c.Truthful w.mysql.db)
      (Idle none none fun _ => True) StorageCall.Answered where
  pool := by
    obtain ⟨hlawful, hprogs⟩ := sound_start (ranks_none services mutex) Storage.lawful_empty
      (fun _ => rfl) fun i : Option κ => i.elim .done callers
    exact ⟨hlawful, fun i w hw => Prog.wp_mono (fun _ _ _ => trivial) (hprogs i w hw)⟩
  thread := rfl
  common := ⟨⟨_, rfl⟩, fun i => Task.isLoop_of_starts (htasks i), nofun, nofun⟩
  call := fun w hw => by
    obtain ⟨hlawful, hprogs⟩ := sound_start (ranks_none services mutex) Storage.lawful_empty
      (fun _ => rfl) fun i : Option κ => i.elim .done callers
    exact hprogs none w hw

/--
**What clients are told is in the database.**

All tasks of the server in any interleaving, over a database that fails, hangs up and carries out a
`COMMIT` late as it likes, beside other threads that use the tables. Whenever a client has been told
that a game is over, there is a settled battle in this room with this winner and these players.
-/
theorem announced_durable (stores : Stores) (roomPlayerCount : Int) {tasks : ι → Task F}
    (htasks : ∀ i, (tasks i).Starts) (services : ν → SettlementService) (mutex : ν → ServiceId)
    (callers : κ → Caller ν)
    (events : List (Served.Event (Option ι × TaskChoice) (Option κ) Outcome Storage.Happening)) :
    AllStates (serverStep stores)
      (fun s => s.machine.shared.Durable s.pool.world.mysql.db)
      (gameServerInit roomPlayerCount tasks services mutex callers) events := by
  refine AllStates.imp (fun s h => ?_) events (Served.sound fits_thread
    (sound_gameServerInit roomPlayerCount htasks services mutex callers stores)
    (gameServer_rules stores) events)
  obtain ⟨settled, hA⟩ := h.pool.1.mysql.accounting h.pool.1.consistent.mysql
  exact h.common.durable hA.accounted

end

/-! ## A battle of one player -/

abbrev OnePlayerEvent :=
  Served.Event (Option (Fin 5) × TaskChoice) (Option Nat) Outcome Storage.Happening

/-- The server with one player, and a thread beside it that may settle battles through the same
client. -/
def onePlayerServer : Served (Tasks (Fin 5) Coord) LoopChoice (Option Nat) (Storage (Option Nat))
    StorageRequest StorageRequest.Reply :=
  gameServerInit 1 onePlayer (fun _ : Unit => plainService) (fun _ => 0) settlingCallers

def plainStores : Stores :=
  ⟨⟨some 0⟩, plainService, 0⟩

/-- The battle ends, and `CreateBattle` returns. The loop waits for `SettleBattle`. -/
def untilSettleBattle : List OnePlayerEvent :=
  (tickFirst ++ taskTurns none 2).map .machine ++ List.replicate 16 (.call .ok)

/-- `SettleBattle` from its first request on, and the end of the callback. -/
def afterSettleBattle : List OnePlayerEvent :=
  List.replicate 35 (.call .ok) ++ (taskTurns none 2).map .machine

theorem participants_single (winnerId : PlayerId) : participants winnerId [] = [winnerId] := by
  unfold participants
  simp

theorem mergeSort_single (b r w : Int) :
    ((battleResults ⟨b, r, w⟩ [w]).mergeSort fun a b => a.playerId ≤ b.playerId) =
      battleResults ⟨b, r, w⟩ [w] := by
  simp [battleResults]

theorem waits_untilSettleBattle :
    let s := untilSettleBattle.foldl (serverStep plainStores) onePlayerServer
    s.call.isNone ∧ s.machine.call = some (.settleBattle 1 1000 100000 []) := by
  decide +kernel

/-- The only player is told to have won, and the result is in the tables. -/
theorem results_onePlayer :
    let s := (untilSettleBattle ++ .call .ok :: afterSettleBattle).foldl (serverStep plainStores)
      onePlayerServer
    s.machine.shared.results = [(1000, 100000, [])] ∧
      s.pool.world.mysql.db (.battle 1) = some ⟨1000, 100000, 1⟩ := by
  intro s
  have hs : s = afterSettleBattle.foldl (serverStep plainStores)
      { untilSettleBattle.foldl (serverStep plainStores) onePlayerServer with
        call := some (StorageCall.run plainStores (.settleBattle 1 1000 100000 [])) } := by
    show List.foldl _ _ _ = _
    rw [List.foldl_append, List.foldl_cons]
    obtain ⟨hnone, hwaits⟩ := waits_untilSettleBattle
    generalize untilSettleBattle.foldl (serverStep plainStores) onePlayerServer = t at hnone hwaits ⊢
    rw [serverStep, Served.step_call hnone hwaits]
    rfl
  rw [hs]
  -- The results of one player are in order as they are.
  simp only [StorageCall.run]
  unfold settleBattle plainStores plainService applySettlement
  simp only [participants_single, mergeSort_single]
  decide +kernel

/-- The loop creates the battle, settles it and sends the `GameOverNotify`. -/
theorem announced_durable_onePlayer :
    let events := untilSettleBattle ++ .call .ok :: afterSettleBattle
    let s := events.foldl (serverStep plainStores) onePlayerServer
    s.machine.shared.results = [(1000, 100000, [])] ∧
      s.pool.world.mysql.db (.battle 1) = some ⟨1000, 100000, 1⟩ ∧
      AllStates (serverStep plainStores)
        (fun s => s.machine.shared.Durable s.pool.world.mysql.db) onePlayerServer events := by
  obtain ⟨hresults, hrow⟩ := results_onePlayer
  exact ⟨hresults, hrow, announced_durable _ 1 onePlayer_starts _ _ settlingCallers _⟩

end Game
