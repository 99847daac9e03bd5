import GameServer.Storage.SettleBattle

/-!
# Runs of the storage

Threads that call the repositories and `SettleBattle` in any order, each on any clients, on a server
that fails, hangs up and carries out a `COMMIT` late as it likes.

* `accounts`: every battle is settled once or not at all, and the players have what it says
* `leaderboard_converges`: once every settled battle has been answered, `rank:score` is right
-/

namespace Game

open Infra BattleRepository PlayerRepository SettlementService

variable {ι κ : Type}

/-- What a thread does: its next call, and how it goes on from the answer. `κ` are the settlement
services. -/
inductive Caller (κ : Type) where
  | done
  | createBattle (repository : BattleRepository) (roomId : RoomId) (k : BattleId → Caller κ)
  | loadPlayer (repository : PlayerRepository) (playerId : PlayerId) (k : PlayerData → Caller κ)
  /-- `CreatePlayer` with the statistics that `PlayerData` has by default. -/
  | createPlayer (repository : PlayerRepository) (playerId : PlayerId) (name : String)
    (k : Bool → Caller κ)
  | settleBattle (service : κ) (battleId : BattleId) (roomId : RoomId) (winnerId : PlayerId)
    (losers : List PlayerId) (k : Bool → Caller κ)

/-- What the thread does, with the settlement services and their mutexes. -/
def Caller.run (services : κ → SettlementService) (mutex : κ → ServiceId) :
    Caller κ → StorageM Unit
  | done => return ()
  | createBattle repository roomId k => do
    (k (← repository.createBattle roomId)).run services mutex
  | loadPlayer repository playerId k => do
    (k (← repository.loadPlayer playerId)).run services mutex
  | createPlayer repository playerId name k => do
    (k (← repository.createPlayer { playerId := playerId, name := name })).run services mutex
  | settleBattle service battleId roomId winnerId losers k => do
    (k (← (services service).settleBattle (mutex service) battleId roomId winnerId losers)).run
      services mutex

/-- The threads before their first call. -/
def Storage.start (w : Storage ι) (services : κ → SettlementService) (mutex : κ → ServiceId)
    (callers : ι → Caller κ) : Pool ι (Storage ι) StorageRequest StorageRequest.Reply where
  world := w
  prog i := (callers i).run services mutex

variable [DecidableEq ι] {σ : Option ServiceId} {i : ι} {w : Storage ι}
  {services : κ → SettlementService} {mutex : κ → ServiceId}

/-- A step of the threads, or of the server on its own. -/
abbrev storageStep (s : Pool ι (Storage ι) StorageRequest StorageRequest.Reply)
    (e : Pool.Event ι Outcome Storage.Happening) :
    Pool ι (Storage ι) StorageRequest StorageRequest.Reply :=
  Pool.step Storage.exec Storage.happen s e

/-! ## Invariants -/

/-- The services bring `rank:score` up to date, if any does. -/
def Ranks (σ : Option ServiceId) (services : κ → SettlementService) (mutex : κ → ServiceId) :
    Prop :=
  ∀ service s, σ = some s → mutex service = s ∧ (services service).rankService.isSome = true

/-- **A thread keeps to its contract**, whatever it calls. -/
theorem triple_caller (hσ : Ranks σ services mutex) : ∀ caller : Caller κ,
    Prog.Triple (thread σ False i) (Idle σ i fun _ => True) (caller.run services mutex)
      fun _ => Idle σ i fun _ => True
  | .done => .pure fun _ h => h
  | .createBattle repository roomId k =>
    .bind (triple_createBattle (stable_const True) id repository roomId) fun battleId =>
      triple_caller hσ (k battleId)
  | .loadPlayer repository playerId k =>
    .bind (triple_loadPlayer_idle (stable_const True) id repository playerId) fun data =>
      triple_caller hσ (k data)
  | .createPlayer repository _ _ k =>
    .bind (triple_createPlayer_idle (stable_const True) id repository ⟨rfl, rfl, rfl⟩) fun ok =>
      triple_caller hσ (k ok)
  | .settleBattle service _ _ _ _ k =>
    .bind ((triple_settleBattle (D := False) (T := fun _ => True) (hσ service)
      (fun _ _ _ h => h) False.elim).mono (fun _ h => h) fun _ _ h =>
        ⟨h.lawful, h.free, trivial⟩) fun ok => triple_caller hσ (k ok)

/-- Nobody is in a call. -/
theorem sound_start (hσ : Ranks σ services mutex) (hw : w.Lawful σ)
    (hfree : ∀ a, (w.clients a).owner = none) (callers : ι → Caller κ) :
    (w.start services mutex callers).Sound (thread σ False) (Storage.Lawful · σ)
      fun i => Idle σ i fun _ => True := by
  refine ⟨hw, fun i w' hrely => triple_caller hσ (callers i) w' ?_⟩
  have hidle : Idle σ i (fun _ => True) w :=
    ⟨hw, fun a ha => absurd ((hfree a).symm.trans ha) nofun, trivial⟩
  exact hidle.rely (stable_const True) hrely

/-- **What holds in every state of every run.** -/
theorem sound_run (hσ : Ranks σ services mutex) (hw : w.Lawful σ)
    (hfree : ∀ a, (w.clients a).owner = none) (callers : ι → Caller κ)
    (events : List (Pool.Event ι Outcome Storage.Happening)) :
    AllStates storageStep (Pool.Sound (thread σ False) (Storage.Lawful · σ)
      fun i => Idle σ i fun _ => True) (w.start services mutex callers) events :=
  Pool.sound (sound_start hσ hw hfree callers) fits_thread events

omit [DecidableEq ι] in
/-- New clients and services, which nobody uses yet. -/
theorem Storage.lawful_new {m : Mysql} (hm : m.Consistent) (hlawful : m.Lawful)
    (rank : PlayerId → Option Int) : ({ mysql := m, rank := rank } : Storage ι).Lawful σ where
  consistent := ⟨hm, fun _ _ h => (by cases h), fun _ _ _ h => (by cases h)⟩
  mysql := hlawful
  atRest _ _ := ⟨rfl, fun _ h => by cases h⟩
  answered _ := fun ⟨_, h, _⟩ => absurd h List.not_mem_nil
  ranked _ b _ hb hp := Or.inr ⟨b, id, hb, hp, fun ⟨_, h, _⟩ => absurd h List.not_mem_nil⟩

/-- The server is started again, with new clients and services and any scores in Redis. -/
def Storage.restarted (w : Storage ι) (rank : PlayerId → Option Int) : Storage ι :=
  { mysql := w.mysql, rank := rank }

theorem ranks_none (services : κ → SettlementService) (mutex : κ → ServiceId) :
    Ranks none services mutex :=
  fun _ _ h => nomatch h

omit [DecidableEq ι] in
theorem Storage.lawful_empty : ({} : Storage ι).Lawful none :=
  Storage.lawful_new Mysql.consistent_init Mysql.lawful_init _

/-- **The leaderboard converges.** The threads use one service with a `RankService`, on tables that
any earlier run has left. Once each settled battle has been answered, its players have their
scores. -/
theorem leaderboard_converges (services : κ → SettlementService) (mutex : κ → ServiceId)
    (before : ι → Caller κ) (earlier : List (Pool.Event ι Outcome Storage.Happening))
    (scores : PlayerId → Option Int) (battles : Option BattleRepository)
    (players : Option PlayerRepository) (rank : RankService) (service : ServiceId)
    (callers : ι → Caller Unit) (events : List (Pool.Event ι Outcome Storage.Happening)) :
    AllStates storageStep
      (fun s => (∀ b, s.world.mysql.db.Settled b → s.world.Answered b) →
        ∀ b p, s.world.mysql.db.Settled b → p ∈ s.world.mysql.db.participants b →
          ∃ row, s.world.mysql.db (.player p) = some row ∧ s.world.rank p = some row.score)
      (Storage.start ((earlier.foldl storageStep
        (Storage.start {} services mutex before)).world.restarted scores)
        (fun _ => ⟨battles, players, some rank⟩) (fun _ => service) callers) events := by
  have hearlier := (sound_run (ranks_none services mutex) Storage.lawful_empty (fun _ => rfl)
    before earlier).last earlier
  have hw := Storage.lawful_new (ι := ι) (σ := some service) hearlier.1.consistent.mysql
    hearlier.1.mysql scores
  have hσ : Ranks (some service)
      (fun _ : Unit => (⟨battles, players, some rank⟩ : SettlementService)) fun _ => service :=
    fun _ s hs => ⟨Option.some.inj hs, rfl⟩
  refine AllStates.imp (fun s h hanswered b p hb hp => ?_) events
    (sound_run hσ hw (fun _ => rfl) callers events)
  have hlawful := h.1
  obtain ⟨settled, hA⟩ := hlawful.mysql.accounting hlawful.consistent.mysql
  obtain ⟨row, hrow⟩ := hA.exists_row hb hp
  refine ⟨row, hrow, ?_⟩
  -- The score is fresh, or a battle has not been answered yet.
  rcases hlawful.ranked rfl b p hb hp with hfresh | ⟨b', -, hb', -, hopen⟩
  · rw [hfresh, Db.score, hrow]
    rfl
  · exact absurd (hanswered b' hb') hopen

end Game
