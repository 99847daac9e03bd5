import GameServer.Storage.ApplySettlement

/-!
# SettleBattle

The functions of the repositories and of the settlement service in a thread among others. A call of
`SettleBattle` meets its duties (`triple_settleBattle`): it holds the mutex of the service when it
writes a score, that score is the one in the database or is still to be brought up to date, and it
returns true for a battle that is settled with the given participants only.
-/

namespace Game

open Infra BattleRepository PlayerRepository SettlementService

variable {ι : Type} {σ : Option ServiceId} {S : Prop} {i : ι} {client : ClientId}
  {w w' : Storage ι} {T : Storage ι → Prop} {service : ServiceId}

/-! ## The repositories -/

section

variable [DecidableEq ι] (hT : Stable σ i T)
include hT

theorem triple_createBattle (hS : ¬ S) (repository : BattleRepository) (roomId : RoomId) :
    Prog.Triple (thread σ S i) (Idle σ i T) (createBattle repository roomId)
      fun _ => Idle σ i T := by
  obtain ⟨mysql⟩ := repository
  cases mysql with
  | none => exact .pure fun _ h => h
  | some client =>
    refine .ite (fun _ => .pure fun _ h => h) fun _ => ?_
    have hsql : Sql.Autocommit (.dml (.insertBattle roomId)) := trivial
    exact triple_executeInsert hsql hS hT

/-- `FindPlayer`; without a client, or when the `SELECT` fails, it finds nothing. -/
theorem triple_findPlayer {repository : PlayerRepository} {p : PlayerId}
    {F : Option PlayerData → Storage ι → Prop} (hF : ∀ data, Stable σ i (F data))
    (hnone : ∀ w, ¬ (S ∧ repository.mysql.isSome = true) → T w → F none w)
    (hread : ∀ w, w.Lawful σ → T w →
      F ((w.mysql.db (.player p)).map fun row => { row with playerId := p }) w) :
    Prog.Triple (thread σ S i) (Idle σ i T) (findPlayer repository p)
      fun data => Idle σ i (F data) := by
  obtain ⟨mysql⟩ := repository
  cases mysql with
  | none => exact .pure fun w h => ⟨h.lawful, h.free, hnone w (fun h => nomatch h.2) h.known⟩
  | some client =>
    have hquery : Prog.Triple (thread σ S i) (Idle σ i T) (MysqlClient.query client (.player p))
        fun rows => Idle σ i (F rows.head?) := by
      refine triple_select hT (fun rows => hF rows.head?) (fun w hS => hnone w fun h => hS h.1)
        fun w hw hknown => ?_
      have hfound := hread w hw hknown
      cases hrow : w.mysql.db (.player p) with
      | none => rwa [hrow] at hfound
      | some row => rwa [hrow] at hfound
    exact .bind hquery fun rows => .pure fun _ h => h

/-- `CreatePlayer` with the statistics of a new player. -/
theorem triple_createPlayer_idle (hS : ¬ S) (repository : PlayerRepository) {data : PlayerData}
    (hdata : data.score = 1000 ∧ data.winCount = 0 ∧ data.loseCount = 0) :
    Prog.Triple (thread σ S i) (Idle σ i T) (createPlayer repository data)
      fun _ => Idle σ i T := by
  obtain ⟨mysql⟩ := repository
  cases mysql with
  | none => exact .pure fun _ h => h
  | some client =>
    refine .bind (triple_escapeString hT data.name.toList) fun name => ?_
    have hsql : Sql.Autocommit (.dml (.insertPlayer data.playerId name data.score data.winCount
        data.loseCount)) := hdata
    exact triple_execute hsql hS hT

theorem triple_loadPlayer_idle (hS : ¬ S) (repository : PlayerRepository) (p : PlayerId) :
    Prog.Triple (thread σ S i) (Idle σ i T) (loadPlayer repository p)
      fun _ => Idle σ i T := by
  refine .bind (triple_findPlayer hT (fun _ => hT) (fun _ _ h => h) fun _ _ h => h) fun found => ?_
  cases found with
  | some data => exact .pure fun _ h => h
  | none =>
    have hnew : (newPlayer p).score = 1000 ∧ (newPlayer p).winCount = 0 ∧
        (newPlayer p).loseCount = 0 := ⟨rfl, rfl, rfl⟩
    exact .bind (triple_createPlayer_idle hT hS repository hnew) fun _ => .pure fun _ h => h

end

/-! ## Requests to the service and to Redis -/

section

variable [DecidableEq ι]

/-- They have nothing to do with the clients. -/
theorem Storage.exec_aside {q : StorageRequest} {x : Outcome} {r : q.Reply}
    (h : Storage.exec i q x w = some (w', r)) (hq : q.client = none) :
    w'.mysql = w.mysql ∧ w'.clients = w.clients := by
  refine ⟨?_, funext fun a => Storage.exec_clients h (hq ▸ nofun)⟩
  cases q with
  | lockService s =>
    unfold Storage.exec at h
    dsimp only at h
    split at h
    · cases h
      rfl
    · cases h
  | unlockService =>
    cases h
    rfl
  | zadd =>
    cases x <;>
    · cases h
      rfl
  | _ => cases hq

theorem triple_aside {q : StorageRequest} (hq : q.client = none) {F : q.Reply → Storage ι → Prop}
    (hF : ∀ r, Stable σ i (F r)) (hduty : ∀ w, w.Lawful σ → T w → q.Duty σ i w)
    (hstep : ∀ w w' x r, T w → Storage.exec i q x w = some (w', r) → (S → q.Succeeds r) →
      F r w') :
    Prog.Triple (thread σ S i) (Idle σ i T) (ask q) fun r => Idle σ i (F r) := by
  intro w h r w' hexec
  obtain ⟨⟨x, hx⟩, hsucceeds⟩ := hexec
  obtain ⟨hmysql, hclients⟩ := Storage.exec_aside hx hq
  have hq' := hduty w h.lawful h.known
  refine ⟨⟨hq', fun _ => congrArg Mysql.db hmysql⟩, fun w'' hrely => ?_⟩
  refine Idle.rely (hF r) ⟨h.lawful.exec hq' hx, fun a => ?_, ?_⟩ hrely
  · rw [hclients]
    exact h.free a
  · exact hstep w w' x r h.known hx hsucceeds

end

/-! ## The scores -/

/-- The thread holds the mutex of the service, the battle is settled with the given results, and the
scores of the players `P` are fresh, also when the battle is answered now. -/
structure Synced (σ : Option ServiceId) (i : ι) (service : ServiceId) (battle : Battle)
    (results : List BattlePlayerResult) (P : PlayerId → Prop) (w : Storage ι) : Prop where
  mine : w.services service = some i
  applied : Applied battle results w.mysql.db
  fresh : σ = some service → ∀ p, P p → p ∈ w.mysql.db.participants battle.battleId ∧
    w.Fresh (· = battle.battleId) p (w.rank p)

variable {battle : Battle} {results : List BattlePlayerResult} {P P' : PlayerId → Prop}
  {p : PlayerId}

theorem stable_services : Stable (ι := ι) σ i fun w => w.services service = some i :=
  fun _ _ _ _ honward h => (honward.services service).mpr h

theorem stable_db {T : Db → Prop} (hT : ∀ db db', Evolves db db' → T db → T db') :
    Stable (ι := ι) σ i fun w => T w.mysql.db :=
  fun _ _ _ _ honward => hT _ _ honward.evolves

theorem Synced.mono (h : Synced σ i service battle results P w) (hP : ∀ p, P' p → P p) :
    Synced σ i service battle results P' w :=
  ⟨h.mine, h.applied, fun hσ p hp => h.fresh hσ p (hP p hp)⟩

/-- What is fresh in the thread that holds the mutex stays fresh. -/
theorem fresh_onward {score : Option Int} (hσ : σ = some service) (hw : w.Lawful σ)
    (honward : w.Onward σ i w') (hmine : w.services service = some i)
    (hsettled : w.mysql.db.Settled battle.battleId)
    (hp : p ∈ w.mysql.db.participants battle.battleId)
    (h : w.Fresh (· = battle.battleId) p score) : w'.Fresh (· = battle.battleId) p score :=
  h.evolves hw hsettled hp (fun _ hb => hb ▸ hsettled) honward.evolves
    (honward.frozen service hσ hmine).2

theorem stable_synced : Stable σ i (Synced σ i service battle results P) := by
  intro w w' hw hw' honward h
  refine ⟨stable_services w w' hw hw' honward h.mine, h.applied.evolves honward.evolves,
    fun hσ p hp => ?_⟩
  obtain ⟨hmem, hfresh⟩ := h.fresh hσ p hp
  rw [(honward.frozen service hσ h.mine).1, honward.evolves.participants h.applied.settled]
  exact ⟨hmem, fresh_onward hσ hw honward h.mine h.applied.settled hmem hfresh⟩

/-- The score of `p` has been read. -/
def Scored (σ : Option ServiceId) (i : ι) (service : ServiceId) (battle : Battle)
    (results : List BattlePlayerResult) (P : PlayerId → Prop) (p : PlayerId) (score : Int)
    (w : Storage ι) : Prop :=
  Synced σ i service battle results P w ∧ p ∈ w.mysql.db.participants battle.battleId ∧
    (σ = some service → w.Fresh (· = battle.battleId) p (some score))

theorem stable_scored {score : Int} :
    Stable σ i (Scored σ i service battle results P p score) := by
  rintro w w' hw hw' honward ⟨h, hmem, hfresh⟩
  refine ⟨stable_synced w w' hw hw' honward h, ?_, fun hσ => ?_⟩
  · rwa [honward.evolves.participants h.applied.settled]
  · exact fresh_onward hσ hw honward h.mine h.applied.settled hmem (hfresh hσ)

/-- The player has been looked up, or else a request has failed. -/
def LookedUp (σ : Option ServiceId) (S : Prop) (i : ι) (service : ServiceId) (battle : Battle)
    (results : List BattlePlayerResult) (P : PlayerId → Prop) (p : PlayerId) :
    Option PlayerData → Storage ι → Prop
  | none, w => Synced σ i service battle results P w ∧ ¬ S
  | some data, w => Scored σ i service battle results P p data.score w

theorem stable_lookedUp : ∀ data, Stable σ i (LookedUp σ S i service battle results P p data)
  | none => stable_synced.and (stable_const _)
  | some _ => stable_scored

section

variable [DecidableEq ι] (hσ : ∀ s, σ = some s → service = s)
include hσ

/-- `UpdateScore` with a score that has been read. -/
theorem triple_updateScore {rank : RankService} (hS : S → rank.redis = true) {score : Int} :
    Prog.Triple (thread σ S i) (Idle σ i (Scored σ i service battle results P p score))
      (rank.updateScore p score) fun r => Idle σ i fun w =>
        Synced σ i service battle results (fun p' => r = true ∧ (P p' ∨ p' = p)) w ∧
          (S → r = true) := by
  unfold RankService.updateScore
  refine .ite (fun _ => ?_) fun hno => .pure fun w h => ⟨h.lawful, h.free, ?_, fun hs => ?_⟩
  · refine triple_aside rfl (fun r => stable_synced.and (stable_const _)) (fun w hw h s hs => ?_)
      fun w w' x r h hexec hsucceeds => ⟨?_, hsucceeds⟩
    · obtain rfl := hσ s hs
      exact ⟨h.1.mine, (h.2.2 hs).mono fun _ => False.elim⟩
    · obtain ⟨hsynced, hmem, hfresh⟩ := h
      cases x with
      | ok =>
        cases hexec
        refine ⟨hsynced.mine, hsynced.applied, fun hs p' hp' => ?_⟩
        dsimp only
        -- Only the score of `p` is written.
        by_cases heq : p' = p
        · subst heq
          rw [Function.update_self]
          exact ⟨hmem, hfresh hs⟩
        · rw [Function.update_of_ne heq]
          exact hsynced.fresh hs p' (hp'.2.resolve_right heq)
      | lost | error | abort =>
        cases hexec
        exact ⟨hsynced.mine, hsynced.applied, fun _ _ h => nomatch h.1⟩
  · exact h.known.1.mono fun p' hp' => nomatch hp'.1
  · exact absurd (hS hs) hno

/-- **The loop over the participants.** -/
theorem triple_syncRank {players : PlayerRepository} {rank : RankService}
    (hS : S → players.mysql.isSome = true ∧ rank.redis = true) {rest : List PlayerId}
    (hrest : ∀ p ∈ rest, p ∈ results.map (·.playerId)) :
    Prog.Triple (thread σ S i) (Idle σ i (Synced σ i service battle results P))
      (syncRank players rank rest) fun r => Idle σ i fun w =>
        Synced σ i service battle results (fun p => r = true ∧ (P p ∨ p ∈ rest)) w ∧
          (S → r = true) := by
  induction rest generalizing P with
  | nil =>
    refine .pure fun w h => ⟨h.lawful, h.free, h.known.mono fun p hp => ?_, fun _ => rfl⟩
    exact hp.2.resolve_right List.not_mem_nil
  | cons p rest ih =>
    obtain ⟨hp, hrest⟩ := List.forall_mem_cons.mp hrest
    have hfind : Prog.Triple (thread σ S i) (Idle σ i (Synced σ i service battle results P))
        (findPlayer players p) fun data =>
          Idle σ i (LookedUp σ S i service battle results P p data) := by
      refine triple_findPlayer stable_synced stable_lookedUp
        (fun w hfails h => ⟨h, fun hs => hfails ⟨hs, (hS hs).1⟩⟩) fun w hw h => ?_
      -- A participant has a row, and this is its score.
      have hmem : p ∈ w.mysql.db.participants battle.battleId :=
        (h.applied.participants p).mpr hp
      obtain ⟨settled, hA⟩ := hw.mysql.accounting hw.consistent.mysql
      obtain ⟨row, hrow⟩ := hA.exists_row h.applied.settled hmem
      have hscore : w.mysql.db.score p = some row.score := by rw [Db.score, hrow]; rfl
      rw [hrow]
      exact ⟨h, hmem, fun _ => Or.inl hscore.symm⟩
    refine .bind hfind fun data => ?_
    cases data with
    | none =>
      refine .pure fun w h => ⟨h.lawful, h.free, ?_, fun hs => absurd hs h.known.2⟩
      exact h.known.1.mono fun _ hp => absurd hp.1 Bool.false_ne_true
    | some data =>
      refine .bind (triple_updateScore hσ fun hs => (hS hs).2) fun r => .ite (fun hr => ?_)
        fun hr => ?_
      · refine .pure fun w h => ⟨h.lawful, h.free, ?_, fun hs => ?_⟩
        · exact h.known.1.mono fun _ hp => absurd hp.1 Bool.false_ne_true
        · have hsucceeds := h.known.2 hs
          rw [hsucceeds] at hr
          cases hr
      · have hr : r = true := by simpa using hr
        refine (ih hrest).mono (fun w h => ⟨h.lawful, h.free, h.known.1⟩) fun r' w h =>
          ⟨h.lawful, h.free, h.known.1.mono fun p' hp' => ⟨hp'.1, ?_⟩, h.known.2⟩
        rcases hp'.2 with hdone | hmem
        · exact Or.inl ⟨hr, Or.inl hdone⟩
        · rcases List.mem_cons.mp hmem with rfl | hmem
          · exact Or.inl ⟨hr, Or.inr rfl⟩
          · exact Or.inr hmem

end

/-! ## The whole call -/

theorem admits_battleResults {losers : List PlayerId}
    (h : settleBattleAccepts battle.battleId battle.roomId battle.winnerId losers = true) :
    Admits battle (battleResults battle (participants battle.winnerId losers)) :=
  admits_iff_valid.mpr (validResults_battleResults h)

/-- `SettleBattle` is about to unlock the mutex and to return `a`. -/
structure Answering (σ : Option ServiceId) (S : Prop) (i : ι) (service : ServiceId)
    (battle : Battle) (results : List BattlePlayerResult) (D : Prop) (a : Bool)
    (w : Storage ι) : Prop where
  mine : w.services service = some i
  synced : a = true → Synced σ i service battle results (· ∈ results.map (·.playerId)) w
  decided : S → (a = true ↔ D)

/-- The service has the clients it needs. -/
structure SettlementService.Works (s : SettlementService) : Prop where
  battles : ∃ client, s.battleRepository = some ⟨some client⟩
  rank : ∀ rank, s.rankService = some rank →
    rank.redis = true ∧ ∃ client, s.playerRepository = some ⟨some client⟩

section

variable [DecidableEq ι] {D : Prop} {T : Db → Prop}

/-- The mutex of the service. -/
theorem triple_withService (battle : Battle) (results : List BattlePlayerResult)
    (hσ : ∀ s, σ = some s → service = s)
    (hT : ∀ db db', Evolves db db' → T db → T db') {body : StorageM Bool}
    (hbody : Prog.Triple (thread σ S i)
      (Idle σ i fun w => w.services service = some i ∧ T w.mysql.db) body
      fun a => Idle σ i (Answering σ S i service battle results D a)) :
    Prog.Triple (thread σ S i) (Idle σ i fun w => T w.mysql.db)
      (withLock service battle.battleId body) fun a => Idle σ i fun _ => S → (a = true ↔ D) := by
  refine .bind (p := ask (.lockService service)) (B := fun _ => Idle σ i fun w =>
    w.services service = some i ∧ T w.mysql.db) ?_ fun _ => .bind hbody fun a =>
    .bind (p := ask (.unlockService service battle.battleId a)) (B := fun _ => Idle σ i fun _ =>
      S → (a = true ↔ D)) ?_ fun _ => .pure fun _ h => h
  · refine triple_aside rfl (fun _ => stable_services.and (stable_db hT)) (fun _ _ _ => trivial)
      fun w w' x r h hexec _ => ?_
    unfold Storage.exec at hexec
    dsimp only at hexec
    split at hexec
    · cases hexec
      exact ⟨Function.update_self .., h⟩
    · cases hexec
  · refine triple_aside rfl (fun _ => stable_const _) (fun w _ h => ⟨h.mine, fun s hs =>
      ⟨hσ s hs, fun ha p hp => ?_⟩⟩) fun w w' x r h hexec _ => h.decided
    obtain rfl := hσ s hs
    have hsynced := h.synced ha
    exact (hsynced.fresh hs p ((hsynced.applied.participants p).mp hp)).2

/-- The scores are brought up to date when the battle has been settled. -/
theorem triple_synced {s : SettlementService} (hσ : ∀ s', σ = some s' → service = s')
    (hrank : σ = some service → s.rankService.isSome = true)
    (hplayers : ¬ (s.rankService.isSome = true ∧ s.playerRepository.isNone = true))
    (hS : S → s.Works) (hD : S → D) :
    Prog.Triple (thread σ S i) (Idle σ i (Synced σ i service battle results fun _ => False))
      (match s.rankService, s.playerRepository with
        | some rank, some repository => syncRank repository rank (results.map (·.playerId))
        | _, _ => return true)
      fun a => Idle σ i (Answering σ S i service battle results D a) := by
  obtain ⟨battles, players, rank⟩ := s
  cases rank with
  | none =>
    refine .pure fun w h => ⟨h.lawful, h.free, h.known.mine, fun _ => ⟨h.known.mine,
      h.known.applied, fun hs => nomatch hrank hs⟩, fun hs => iff_of_true rfl (hD hs)⟩
  | some rank =>
    cases players with
    | none => exact absurd ⟨rfl, rfl⟩ hplayers
    | some players =>
      have hworks : S → players.mysql.isSome = true ∧ rank.redis = true := by
        intro hs
        obtain ⟨hredis, client, hclient⟩ := (hS hs).rank rank rfl
        exact ⟨by rw [Option.some.inj hclient]; rfl, hredis⟩
      refine (triple_syncRank hσ hworks fun _ h => h).mono (fun _ h => h) fun a w h =>
        ⟨h.lawful, h.free, h.known.1.mine, fun ha => ?_, fun hs => ?_⟩
      · exact h.known.1.mono fun p hp => ⟨ha, Or.inr hp⟩
      · exact iff_of_true (h.known.2 hs) (hD hs)

/-- `ApplySettlement` with the results of `SettleBattle`. -/
theorem triple_applyResults {repository : BattleRepository} {losers : List PlayerId}
    {T : Storage ι → Prop} (hT : Stable σ i T) (hS : S → repository.mysql.isSome = true ∧
      Decides T battle (battleResults battle (participants battle.winnerId losers)) D)
    (haccepts :
      settleBattleAccepts battle.battleId battle.roomId battle.winnerId losers = true) :
    Prog.Triple (thread σ S i) (Idle σ i T)
      (applySettlement repository battle
        (battleResults battle (participants battle.winnerId losers)))
      fun r => Idle σ i (AfterSettlement S T battle
        (battleResults battle (participants battle.winnerId losers)) D (r = true)) := by
  obtain ⟨mysql⟩ := repository
  cases mysql with
  | none =>
    exact .pure fun w h => ⟨h.lawful, h.free, h.known, nofun, fun hs => nomatch (hS hs).1⟩
  | some client =>
    have hsorted := mergeSort_battleResults battle battle.winnerId losers
    have h : Prog.Triple (thread σ S i) (Idle σ i T)
        (applySettlement ⟨some client⟩ battle
          (battleResults battle (participants battle.winnerId losers)))
        fun r => Idle σ i (AfterSettlement S T battle
          ((battleResults battle (participants battle.winnerId losers)).mergeSort
            fun a b => a.playerId ≤ b.playerId) D (r = true)) :=
      triple_applySettlement hT fun hs =>
        ⟨admits_battleResults haccepts, by rw [hsorted]; exact (hS hs).2⟩
    rwa [hsorted] at h

/-- What `SettleBattle` does while it holds the mutex. -/
theorem triple_settleBody {s : SettlementService} {battles : BattleRepository}
    {losers : List PlayerId} (hσ : ∀ s', σ = some s' → service = s' ∧ s.rankService.isSome = true)
    (hT : ∀ db db', Evolves db db' → T db → T db')
    (hplayers : ¬ (s.rankService.isSome = true ∧ s.playerRepository.isNone = true))
    (haccepts : settleBattleAccepts battle.battleId battle.roomId battle.winnerId losers = true)
    (hS : S → s.Works ∧ battles.mysql.isSome = true ∧ Decides (fun w : Storage ι => T w.mysql.db)
      battle (battleResults battle (participants battle.winnerId losers)) D) :
    Prog.Triple (thread σ S i) (Idle σ i fun w => w.services service = some i ∧ T w.mysql.db)
      (do
        if !(← battles.applySettlement battle
            (battleResults battle (participants battle.winnerId losers))) then
          return false
        match s.rankService, s.playerRepository with
        | some rank, some repository =>
          syncRank repository rank (participants battle.winnerId losers)
        | _, _ => return true)
      fun a => Idle σ i (Answering σ S i service battle
        (battleResults battle (participants battle.winnerId losers)) D a) := by
  have hstable : Stable σ i fun w => w.services service = some i ∧ T w.mysql.db :=
    stable_services.and (stable_db hT)
  have happly := triple_applyResults hstable
    (fun hs => ⟨(hS hs).2.1, fun w hw => (hS hs).2.2 w hw.2⟩) haccepts
  refine .bind happly fun r => .ite (fun hr => .pure fun w h => ?_) fun hr w h => ?_
  · have hr : r = false := by simpa using hr
    subst hr
    exact ⟨h.lawful, h.free, h.known.known.1, nofun, h.known.decided⟩
  · have hr : r = true := by simpa using hr
    subst hr
    have hsynced : Idle σ i (Synced σ i service battle
        (battleResults battle (participants battle.winnerId losers)) fun _ => False) w :=
      ⟨h.lawful, h.free, h.known.known.1, h.known.applied rfl, fun _ _ h => h.elim⟩
    have hsync := triple_synced (S := S) (D := D) (fun s' hs' => (hσ s' hs').1)
      (fun hs => (hσ service hs).2) hplayers (fun hs => (hS hs).1)
      (fun hs => (h.known.decided hs).mp rfl) w hsynced
    rwa [map_battleResults] at hsync

/-- **`SettleBattle`.** -/
theorem triple_settleBattle {s : SettlementService} {battleId : BattleId} {roomId : RoomId}
    {winnerId : PlayerId} {losers : List PlayerId}
    (hσ : ∀ s', σ = some s' → service = s' ∧ s.rankService.isSome = true)
    (hT : ∀ db db', Evolves db db' → T db → T db')
    (hS : S → s.Works ∧ Decides (fun w : Storage ι => T w.mysql.db) ⟨battleId, roomId, winnerId⟩
      (battleResults ⟨battleId, roomId, winnerId⟩ (participants winnerId losers)) D) :
    Prog.Triple (thread σ S i) (Idle σ i fun w => T w.mysql.db)
      (settleBattle s service battleId roomId winnerId losers) fun a => Idle σ i fun _ =>
        S → (a = true ↔ settleBattleAccepts battleId roomId winnerId losers = true ∧ D) := by
  have hrefused : ¬ (S ∧ settleBattleAccepts battleId roomId winnerId losers = true) →
      Prog.Triple (thread σ S i) (Idle σ i fun w => T w.mysql.db) (Pure.pure false : StorageM Bool)
        fun a => Idle σ i fun _ => S →
          (a = true ↔ settleBattleAccepts battleId roomId winnerId losers = true ∧ D) :=
    fun hno => .pure fun w h => ⟨h.lawful, h.free, fun hs =>
      iff_of_false nofun fun haccepts => hno ⟨hs, haccepts.1⟩⟩
  -- With null pointers or ids that are out of range nothing is requested at all.
  unfold settleBattle
  split
  · next hnone =>
    refine hrefused fun h => ?_
    obtain ⟨client, hclient⟩ := (hS h.1).1.battles
    exact nomatch hnone.symm.trans hclient
  · next battles hbattles =>
    refine .ite (fun hnull => hrefused fun h => ?_) fun hplayers =>
      .ite (fun hno => hrefused fun h => ?_) fun haccepts => ?_
    · obtain ⟨rank, hrank⟩ := Option.isSome_iff_exists.mp hnull.1
      obtain ⟨-, client, hclient⟩ := (hS h.1).1.rank rank hrank
      rw [hclient] at hnull
      exact nomatch hnull.2
    · exact absurd (h.2.symm.trans hno) nofun
    · have haccepts := Bool.eq_true_of_not_eq_false haccepts
      have hclient : S → battles.mysql.isSome = true := by
        intro hs
        obtain ⟨client, hclient⟩ := (hS hs).1.battles
        rw [Option.some.inj (hbattles.symm.trans hclient)]
        rfl
      refine (triple_withService ⟨battleId, roomId, winnerId⟩ _ (fun s' hs' => (hσ s' hs').1) hT
        (triple_settleBody hσ hT hplayers haccepts fun hs =>
          ⟨(hS hs).1, hclient hs, (hS hs).2⟩)).mono (fun _ h => h) fun a w h =>
            ⟨h.lawful, h.free, fun hs => (h.known hs).trans ?_⟩
      rw [haccepts, eq_self_iff_true, true_and]

end

end Game
