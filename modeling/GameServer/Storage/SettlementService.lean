import GameServer.Game.Winnable
import GameServer.Storage.MysqlClient
import Mathlib.Data.List.Dedup

/-!
# Repositories and the settlement service

`src/storage/player_repository.cpp`, `src/storage/battle_repository.cpp`,
`src/game/settlement_service.cpp` and `UpdateScore` of `src/rank/rank_service.cpp`.

A pointer that may be null is an option. Statements are their own type, so the conversions between
numbers and the text of a query are not there.
-/

namespace Game

open Infra

/-! ## Players -/

/-- Its client may be a null pointer. -/
structure PlayerRepository where
  mysql : Option ClientId

namespace PlayerRepository

/-- The player, when `FindPlayer` returns true. -/
def findPlayer (repository : PlayerRepository) (playerId : PlayerId) :
    StorageM (Option PlayerData) :=
  match repository.mysql with
  | none => return none
  | some client => do
    let rows ← MysqlClient.query client (.player playerId)
    return rows.head?

/-- A row that is there already only gets the name. -/
def createPlayer (repository : PlayerRepository) (data : PlayerData) : StorageM Bool :=
  match repository.mysql with
  | none => return false
  | some client => do
    let name ← MysqlClient.escapeString client data.name.toList
    MysqlClient.execute client
      (.insertPlayer data.playerId name data.score data.winCount data.loseCount)

/-- The data of a player who is not in the database. -/
def newPlayer (playerId : PlayerId) : PlayerData :=
  { playerId := playerId, name := Stmt.playerName playerId }

/-- A query that fails looks like one without rows, so it leads to the default data too. -/
def loadPlayer (repository : PlayerRepository) (playerId : PlayerId) : StorageM PlayerData := do
  match ← repository.findPlayer playerId with
  | some data => return data
  | none =>
    let _ ← repository.createPlayer (newPlayer playerId)
    return newPlayer playerId

/-- A player without a row gets one, with 1000 points before the change. -/
def updatePlayerScore (repository : PlayerRepository) (playerId : PlayerId) (scoreDelta : Int) :
    StorageM Bool :=
  match repository.mysql with
  | none => return false
  | some client =>
    let winDelta := if 0 < scoreDelta then 1 else 0
    let loseDelta := if scoreDelta < 0 then 1 else 0
    MysqlClient.execute client
      (.updateScore playerId (1000 + scoreDelta) scoreDelta winDelta loseDelta)

end PlayerRepository

/-! ## Battles -/

/-- `Battle`, without `result_json`. -/
structure Battle where
  battleId : BattleId
  roomId : RoomId
  winnerId : PlayerId

/-- A row of `battle_player_result`. -/
structure BattlePlayerResult where
  battleId : BattleId
  playerId : PlayerId
  result : String
  scoreDelta : Int
  deriving DecidableEq

/-- `SettlementLog`, without `settlement_id`, which is always 0. -/
structure SettlementLog where
  battleId : BattleId
  playerId : PlayerId
  scoreDelta : Int

/-- Its client may be a null pointer. -/
structure BattleRepository where
  mysql : Option ClientId

namespace BattleRepository

/-- The id of the new row, or 0. -/
def createBattle (repository : BattleRepository) (roomId : RoomId) : StorageM BattleId :=
  match repository.mysql with
  | none => return 0
  | some client =>
    if roomId ≤ 0 then return 0 else MysqlClient.executeInsert client (.insertBattle roomId)

/-- False for a row that is there already, too. -/
def insertBattlePlayerResult (repository : BattleRepository) (result : BattlePlayerResult) :
    StorageM Bool :=
  match repository.mysql with
  | none => return false
  | some client => do
    let escaped ← MysqlClient.escapeString client result.result.toList
    let affected ← MysqlClient.executeAffected client
      (.insertResult result.battleId result.playerId escaped result.scoreDelta)
    return 0 < affected

/-- The same for the log. -/
def insertSettlementLog (repository : BattleRepository) (log : SettlementLog) : StorageM Bool :=
  match repository.mysql with
  | none => return false
  | some client => do
    let affected ← MysqlClient.executeAffected client
      (.insertLog log.battleId log.playerId log.scoreDelta)
    return 0 < affected

/-- What a result of `battle` for this player has to say. -/
def expectedResult (battle : Battle) (playerId : PlayerId) : String :=
  if playerId = battle.winnerId then "WIN" else "LOSE"

def expectedDelta (battle : Battle) (playerId : PlayerId) : Int :=
  if playerId = battle.winnerId then 20 else -10

/-- The loop of `ApplySettlement` that checks the sorted results: `winner_count` in the end, or
`none` for an early return. -/
def countWinners (battle : Battle) : List BattlePlayerResult → Nat → PlayerId → Option Nat
  | [], winnerCount, _ => some winnerCount
  | result :: results, winnerCount, previousPlayer =>
    if result.battleId ≠ battle.battleId ∨ result.playerId ≤ previousPlayer ∨
        result.result ≠ expectedResult battle result.playerId ∨
        result.scoreDelta ≠ expectedDelta battle result.playerId then none
    else
      countWinners battle results
        (winnerCount + if result.playerId = battle.winnerId then 1 else 0) result.playerId

/-- The checks of `ApplySettlement` on the sorted results. -/
def checkResults (battle : Battle) (ordered : List BattlePlayerResult) : Bool :=
  countWinners battle ordered 0 0 = some 1

/-- The saved results are the given ones. -/
def sameResults (saved : List ResultRow) (ordered : List BattlePlayerResult) : Bool :=
  saved = ordered.map fun result => ⟨result.playerId, result.result, result.scoreDelta⟩

/-- The loop that saves the results. -/
def saveResults (repository : BattleRepository) (battle : Battle) :
    List BattlePlayerResult → StorageM Bool
  | [] => return true
  | result :: results => do
    if !(← repository.insertBattlePlayerResult result) then
      return false
    let log : SettlementLog := ⟨battle.battleId, result.playerId, result.scoreDelta⟩
    if !(← repository.insertSettlementLog log) then
      return false
    let players : PlayerRepository := ⟨repository.mysql⟩
    if !(← players.updatePlayerScore result.playerId result.scoreDelta) then
      return false
    saveResults repository battle results

/-- The body of the transaction. -/
def settlement (repository : BattleRepository) (client : ClientId) (battle : Battle)
    (ordered : List BattlePlayerResult) : StorageM Bool := do
  match ← MysqlClient.query client (.battleForUpdate battle.battleId) with
  | [row] =>
    if row.roomId ≠ battle.roomId then
      return false
    else if row.settled = 1 then
      if row.winnerId ≠ battle.winnerId then
        return false
      else do
        let saved ← MysqlClient.query client (.resultsForUpdate battle.battleId)
        return sameResults saved ordered
    else do
      if !(← repository.saveResults battle ordered) then
        return false
      let affected ← MysqlClient.executeAffected client
        (.settleBattle battle.battleId battle.winnerId)
      return affected = 1
  | _ => return false

/-- An exception in the transaction is caught here. -/
def applySettlement (repository : BattleRepository) (battle : Battle)
    (results : List BattlePlayerResult) : StorageM Bool :=
  match repository.mysql with
  | none => return false
  | some client =>
    let ordered := results.mergeSort fun a b => a.playerId ≤ b.playerId
    if battle.battleId ≤ 0 ∨ battle.roomId ≤ 0 ∨ battle.winnerId ≤ 0 ∨ results = [] then
      return false
    else if checkResults battle ordered = false then return false
    else do
      let body : StorageM (Except Unit Bool) := do
        return .ok (← repository.settlement client battle ordered)
      match ← MysqlClient.runTransaction client (some body) with
      | .ok result => return result
      | .error _ => return false

end BattleRepository

/-! ## Settlements -/

/-- `RankService`; `redis` says whether it has a client. -/
structure RankService where
  redis : Bool

def RankService.updateScore (rank : RankService) (playerId : PlayerId) (score : Int) :
    StorageM Bool :=
  if rank.redis then ask (.zadd playerId score) else return false

/-- Any of the three may be a null pointer. -/
structure SettlementService where
  battleRepository : Option BattleRepository
  playerRepository : Option PlayerRepository
  rankService : Option RankService

namespace SettlementService

/-- `std::set<int64_t>` of the players of the battle. -/
def participants (winnerId : PlayerId) (losers : List PlayerId) : List PlayerId :=
  (winnerId :: losers).dedup.mergeSort fun a b => a ≤ b

/-- The results that `SettleBattle` puts together. -/
def battleResults (battle : Battle) (players : List PlayerId) : List BattlePlayerResult :=
  players.map fun playerId =>
    { battleId := battle.battleId
      playerId := playerId
      result := BattleRepository.expectedResult battle playerId
      scoreDelta := BattleRepository.expectedDelta battle playerId }

/-- The loop that brings `rank:score` up to date. -/
def syncRank (players : PlayerRepository) (rank : RankService) : List PlayerId → StorageM Bool
  | [] => return true
  | playerId :: rest => do
    match ← players.findPlayer playerId with
    | none => return false
    | some data =>
      if !(← rank.updateScore playerId data.score) then
        return false
      syncRank players rank rest

/-- The body of `SettleBattle` under `std::lock_guard<std::mutex>`. -/
def withLock (service : ServiceId) (battleId : BattleId) (body : StorageM Bool) :
    StorageM Bool := do
  ask (.lockService service)
  let result ← body
  ask (.unlockService service battleId result)
  return result

/-- The rank is synchronized after the commit, so a failure there comes too late to undo it. -/
def settleBattle (s : SettlementService) (service : ServiceId) (battleId : BattleId)
    (roomId : RoomId) (winnerId : PlayerId) (losers : List PlayerId) : StorageM Bool :=
  match s.battleRepository with
  | none => return false
  | some battles =>
    if s.rankService.isSome ∧ s.playerRepository.isNone then return false
    else if settleBattleAccepts battleId roomId winnerId losers = false then return false
    else
      let battle : Battle := ⟨battleId, roomId, winnerId⟩
      let players := participants winnerId losers
      withLock service battleId do
        if !(← battles.applySettlement battle (battleResults battle players)) then
          return false
        match s.rankService, s.playerRepository with
        | some rank, some repository => syncRank repository rank players
        | _, _ => return true

end SettlementService
end Game
