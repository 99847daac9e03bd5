import GameServer.Storage.Accounting

/-!
# Transactions that settle a battle

What a transaction of `ApplySettlement` that is committed has done, statement by statement, and what
it makes of the accounts: all of it at once, a settled battle (`Accounting.commit`).
-/

namespace Game

open Infra BattleRepository

variable {db db' : Db} {settled : Finset BattleId}

/-! ## Transactions -/

/-- The results of a settlement that can be saved. -/
structure ValidResults (battle : Battle) (results : List BattlePlayerResult) : Prop where
  battleId : 0 < battle.battleId
  roomId : 0 < battle.roomId
  nodup : (results.map (·.playerId)).Nodup
  winner : battle.winnerId ∈ results.map (·.playerId)
  positive : ∀ x ∈ results, 0 < x.playerId
  each : ∀ x ∈ results, x.battleId = battle.battleId ∧
    x.result = expectedResult battle x.playerId ∧ x.scoreDelta = expectedDelta battle x.playerId

/-- The winner has a positive id like everybody else. -/
theorem ValidResults.winner_pos {battle : Battle} {results : List BattlePlayerResult}
    (h : ValidResults battle results) : 0 < battle.winnerId := by
  obtain ⟨x, hx, heq⟩ := List.mem_map.mp h.winner
  exact heq ▸ h.positive x hx

/-- The statements that save one result. -/
def saveSql (battle : Battle) (x : BattlePlayerResult) : List Sql :=
  [.dml (.insertResult x.battleId x.playerId (mysqlRealEscapeString x.result.toList) x.scoreDelta),
    .dml (.insertLog battle.battleId x.playerId x.scoreDelta),
    .dml (.updateScore x.playerId (1000 + x.scoreDelta) x.scoreDelta
      (if 0 < x.scoreDelta then 1 else 0) (if x.scoreDelta < 0 then 1 else 0))]

/-- A transaction that has found the battle unsettled and has saved the results. -/
def Settles (battle : Battle) (results : List BattlePlayerResult) (log : Log) : Prop :=
  ∃ n row rest, log = ⟨⟨n, .select (.battleForUpdate battle.battleId)⟩, [row]⟩ :: rest ∧
    row.roomId = battle.roomId ∧ row.settled ≠ 1 ∧
    rest.map (·.1.sql) = results.flatMap (saveSql battle) ++
      [.dml (.settleBattle battle.battleId battle.winnerId)]

/-- A transaction that has found the battle settled with the same results. -/
def Confirms (battle : Battle) (results : List BattlePlayerResult) (log : Log) : Prop :=
  ∃ n n' row saved, log = [⟨⟨n, .select (.battleForUpdate battle.battleId)⟩, [row]⟩,
      ⟨⟨n', .select (.resultsForUpdate battle.battleId)⟩, saved⟩] ∧
    row.roomId = battle.roomId ∧ row.settled = 1 ∧ row.winnerId = battle.winnerId ∧
      sameResults saved results = true

/-- The transactions that the code commits. -/
def Committable (log : Log) : Prop :=
  ∃ battle results, ValidResults battle results ∧
    (Settles battle results log ∨ Confirms battle results log)

/-- The database after some results of the battle `b` have been saved. -/
structure Saved (b : BattleId) (results : List BattlePlayerResult) (db db' : Db) : Prop where
  battle : ∀ b', db' (.battle b') = db (.battle b')
  rows : db' (.results b) =
    db (.results b) ++ results.map fun x => ⟨x.playerId, x.result, x.scoreDelta⟩
  logRows : db' (.logs b) = db (.logs b) ++ results.map fun x => ⟨x.playerId, x.scoreDelta⟩
  others : ∀ b', b' ≠ b →
    db' (.results b') = db (.results b') ∧ db' (.logs b') = db (.logs b')
  player : ∀ p, p ∉ results.map (·.playerId) → db' (.player p) = db (.player p)
  standing : ∀ x ∈ results, ∃ name, db'.standing x.playerId =
    { Stmt.addScore x.scoreDelta (if 0 < x.scoreDelta then 1 else 0)
        (if x.scoreDelta < 0 then 1 else 0) (db.standing x.playerId) with name := name }

theorem Saved.nil (b : BattleId) (db : Db) : Saved b [] db db where
  battle _ := rfl
  rows := (List.append_nil _).symm
  logRows := (List.append_nil _).symm
  others _ _ := ⟨rfl, rfl⟩
  player _ _ := rfl
  standing _ h := (List.not_mem_nil h).elim

theorem insertResult_eq {p : PlayerId} {result : String} {scoreDelta : Int}
    {rows rows' : List ResultRow} {r : Int}
    (h : Stmt.insertResult p (mysqlRealEscapeString result.toList) scoreDelta rows =
      some (rows', r)) : rows' = rows ++ [⟨p, result, scoreDelta⟩] := by
  unfold Stmt.insertResult at h
  rw [readLiteral_escape] at h
  dsimp only at h
  rw [String.ofList_toList] at h
  split at h
  · cases h
  · cases h
    rfl

theorem insertLog_eq {p : PlayerId} {scoreDelta : Int} {rows rows' : List LogRow} {r : Int}
    (h : Stmt.insertLog p scoreDelta rows = some (rows', r)) :
    rows' = rows ++ [⟨p, scoreDelta⟩] := by
  unfold Stmt.insertLog at h
  split at h
  · cases h
  · cases h
    rfl

theorem updateScore_eq {p : PlayerId} {scoreDelta winDelta loseDelta : Int}
    {row row' : Option PlayerRow} {r : Int}
    (h : Stmt.updateScore p (1000 + scoreDelta) scoreDelta winDelta loseDelta row =
      some (row', r)) :
    row' = some (Stmt.addScore scoreDelta winDelta loseDelta
      (row.getD { name := Stmt.playerName p })) := by
  unfold Stmt.updateScore at h
  dsimp only at h
  split at h
  · split at h
    · cases h
      simp [Stmt.addScore]
    · split at h
      · cases h
        rfl
      · cases h
  · cases h

theorem settleBattle_eq {w : PlayerId} {row : BattleRow} {row' : Option BattleRow} {r : Int}
    (h : Stmt.settleBattle w (some row) = some (row', r)) :
    row' = some { row with winnerId := w, settled := 1 } := by
  cases h
  rfl

theorem saved_append {b : BattleId} {xs ys : List BattlePlayerResult} {db'' : Db}
    (hnodup : ((xs ++ ys).map (·.playerId)).Nodup) (h : Saved b xs db db')
    (h' : Saved b ys db' db'') : Saved b (xs ++ ys) db db'' := by
  rw [List.map_append, List.nodup_append] at hnodup
  obtain ⟨-, -, hdisjoint⟩ := hnodup
  refine ⟨fun b' => (h'.battle b').trans (h.battle b'), ?_, ?_, fun b' hb' => ?_, fun p hp => ?_,
    fun x hx => ?_⟩
  · rw [h'.rows, h.rows, List.map_append, List.append_assoc]
  · rw [h'.logRows, h.logRows, List.map_append, List.append_assoc]
  · exact ⟨(h'.others b' hb').1.trans (h.others b' hb').1,
      (h'.others b' hb').2.trans (h.others b' hb').2⟩
  · rw [List.map_append, List.mem_append, not_or] at hp
    exact (h'.player p hp.2).trans (h.player p hp.1)
  · rcases List.mem_append.mp hx with hx | hx
    · have hy : x.playerId ∉ ys.map (·.playerId) :=
        fun hy => hdisjoint _ (List.mem_map_of_mem hx) _ hy rfl
      obtain ⟨name, hname⟩ := h.standing x hx
      exact ⟨name, (Db.standing_congr (h'.player _ hy)).trans hname⟩
    · have hy : x.playerId ∉ xs.map (·.playerId) :=
        fun hy => hdisjoint _ hy _ (List.mem_map_of_mem hx) rfl
      obtain ⟨name, hname⟩ := h'.standing x hx
      exact ⟨name, by rw [hname, Db.standing_congr (h.player _ hy)]⟩

/-- The first statement of a transaction, and the others. -/
theorem replays_uncons {log : Log} {q : Sql} {qs : List Sql} (hlog : log.map (·.1.sql) = q :: qs)
    (h : mysqlStatements.Replays log db db') :
    ∃ n r db₁ rest, mysqlStatements.perform ⟨n, q⟩ db = some (db₁, r) ∧
      rest.map (·.1.sql) = qs ∧ mysqlStatements.Replays rest db₁ db' := by
  obtain ⟨⟨⟨n, sql⟩, r⟩, rest, rfl, rfl, hrest⟩ := List.map_eq_cons_iff.mp hlog
  obtain ⟨db₁, h₁, h⟩ := h
  exact ⟨n, r, db₁, rest, h₁, hrest, h⟩

theorem Saved.one {b : BattleId} {x : BattlePlayerResult}
    (hrows : db' (.results b) = db (.results b) ++ [⟨x.playerId, x.result, x.scoreDelta⟩])
    (hlogs : db' (.logs b) = db (.logs b) ++ [⟨x.playerId, x.scoreDelta⟩])
    (hplayer : db' (.player x.playerId) = some (Stmt.addScore x.scoreDelta
      (if 0 < x.scoreDelta then 1 else 0) (if x.scoreDelta < 0 then 1 else 0)
      (db.standing x.playerId)))
    (hsame : ∀ k, k ≠ .results b → k ≠ .logs b → k ≠ .player x.playerId → db' k = db k) :
    Saved b [x] db db' where
  battle b' := hsame _ nofun nofun nofun
  rows := hrows
  logRows := hlogs
  others b' hb' :=
    ⟨hsame _ (fun h => hb' (Key.results.inj h)) nofun nofun,
      hsame _ nofun (fun h => hb' (Key.logs.inj h)) nofun⟩
  player p hp := hsame _ nofun nofun fun h => hp (List.mem_singleton.mpr (Key.player.inj h))
  standing y hy := by
    rw [List.mem_singleton.mp hy, Db.standing, hplayer]
    exact ⟨_, rfl⟩

/-- Saving one result. -/
theorem saved_one {battle : Battle} {x : BattlePlayerResult} (hx : x.battleId = battle.battleId)
    {qs : List Sql} {log : Log} (hlog : log.map (·.1.sql) = saveSql battle x ++ qs)
    (h : mysqlStatements.Replays log db db') :
    ∃ db₁ rest, Saved battle.battleId [x] db db₁ ∧ rest.map (·.1.sql) = qs ∧
      mysqlStatements.Replays rest db₁ db' := by
  obtain ⟨battleId, roomId, winnerId⟩ := battle
  subst hx
  obtain ⟨n₁, r₁, db₁, log₁, hperform₁, hlog₁, h₁⟩ := replays_uncons hlog h
  obtain ⟨n₂, r₂, db₂, log₂, hperform₂, hlog₂, h₂⟩ := replays_uncons hlog₁ h₁
  obtain ⟨n₃, r₃, db₃, log₃, hperform₃, hlog₃, h₃⟩ := replays_uncons hlog₂ h₂
  obtain ⟨v₁, hact₁, rfl⟩ := Action.perform_row_eq_some.mp hperform₁
  obtain ⟨v₂, hact₂, rfl⟩ := Action.perform_row_eq_some.mp hperform₂
  obtain ⟨v₃, hact₃, rfl⟩ := Action.perform_row_eq_some.mp hperform₃
  have hrl : Key.results x.battleId ≠ .logs x.battleId := nofun
  have hrp : Key.results x.battleId ≠ .player x.playerId := nofun
  have hlp : Key.logs x.battleId ≠ .player x.playerId := nofun
  obtain rfl := insertResult_eq hact₁
  obtain rfl := insertLog_eq hact₂
  obtain rfl := updateScore_eq hact₃
  refine ⟨_, log₃, Saved.one ?_ ?_ ?_ fun k hk₁ hk₂ hk₃ => ?_, hlog₃, h₃⟩
  · rw [Function.update_of_ne hrp, Function.update_of_ne hrl, Function.update_self]
  · rw [Function.update_of_ne hlp, Function.update_self, Function.update_of_ne hrl.symm]
  · rw [Function.update_self, Function.update_of_ne hlp.symm, Function.update_of_ne hrp.symm]
    rfl
  · rw [Function.update_of_ne hk₃, Function.update_of_ne hk₂, Function.update_of_ne hk₁]

/-- Saving all results. -/
theorem saved_all {battle : Battle} (qs : List Sql) : ∀ {results : List BattlePlayerResult}
    {db : Db} {log : Log}, (results.map (·.playerId)).Nodup →
    (∀ x ∈ results, x.battleId = battle.battleId) →
    log.map (·.1.sql) = results.flatMap (saveSql battle) ++ qs →
    mysqlStatements.Replays log db db' →
    ∃ db₁ rest, Saved battle.battleId results db db₁ ∧ rest.map (·.1.sql) = qs ∧
      mysqlStatements.Replays rest db₁ db'
  | [], db, log, _, _, hlog, h => ⟨db, log, .nil _ db, hlog, h⟩
  | x :: results, db, log, hnodup, hx, hlog, h => by
    rw [List.flatMap_cons, List.append_assoc] at hlog
    obtain ⟨db₁, log₁, hsaved₁, hlog₁, h₁⟩ := saved_one (hx x List.mem_cons_self) hlog h
    obtain ⟨db₂, log₂, hsaved₂, hlog₂, h₂⟩ := saved_all qs (List.nodup_cons.mp hnodup).2
      (fun y hy => hx y (List.mem_cons_of_mem _ hy)) hlog₁ h₁
    exact ⟨db₂, log₂, saved_append hnodup hsaved₁ hsaved₂, hlog₂, h₂⟩

/-- Queries change nothing. -/
theorem perform_battleForUpdate {n b : BattleId} {rows : List BattleRow}
    (h : mysqlStatements.perform ⟨n, .select (.battleForUpdate b)⟩ db = some (db', rows)) :
    db' = db ∧ (db (.battle b)).toList = rows := by
  obtain ⟨v, hact, rfl⟩ := Action.perform_row_eq_some.mp h
  cases hact
  exact ⟨Function.update_eq_self _ db, rfl⟩

theorem perform_resultsForUpdate {n b : BattleId} {rows : List ResultRow}
    (h : mysqlStatements.perform ⟨n, .select (.resultsForUpdate b)⟩ db = some (db', rows)) :
    db' = db ∧ (db (.results b)).mergeSort (fun a b => a.playerId ≤ b.playerId) = rows := by
  obtain ⟨v, hact, rfl⟩ := Action.perform_row_eq_some.mp h
  cases hact
  exact ⟨Function.update_eq_self _ db, rfl⟩

/-- **What a settlement does.** It saves the results and then marks the battle. -/
theorem Settles.effect {battle : Battle} {results : List BattlePlayerResult} {log : Log}
    (hvalid : ValidResults battle results) (hlog : Settles battle results log)
    (h : mysqlStatements.Replays log db db') :
    ∃ row db₁, db (.battle battle.battleId) = some row ∧ row.roomId = battle.roomId ∧
      row.settled ≠ 1 ∧ Saved battle.battleId results db db₁ ∧
      db' (.battle battle.battleId) =
        some { row with winnerId := battle.winnerId, settled := 1 } ∧
      ∀ k, k ≠ .battle battle.battleId → db' k = db₁ k := by
  obtain ⟨n, row, rest, rfl, hroom, hrow, hrest⟩ := hlog
  obtain ⟨db₀, h₀, h⟩ := h
  obtain ⟨rfl, hsome⟩ := perform_battleForUpdate h₀
  have hbattle := Option.toList_eq_singleton_iff.mp hsome
  obtain ⟨db₁, log₁, hsaved, hlog₁, h₁⟩ := saved_all [_] hvalid.nodup
    (fun x hx => (hvalid.each x hx).1) hrest h
  obtain ⟨n', r, db₂, log', hperform', hlog', h'⟩ := replays_uncons hlog₁ h₁
  obtain rfl := List.map_eq_nil_iff.mp hlog'
  obtain ⟨v', hact', rfl⟩ := Action.perform_row_eq_some.mp hperform'
  rw [hsaved.battle, hbattle] at hact'
  obtain rfl := settleBattle_eq hact'
  obtain rfl := h'
  exact ⟨row, db₁, hbattle, hroom, hrow, hsaved, Function.update_self ..,
    fun k hk => Function.update_of_ne hk ..⟩

/-- A transaction that confirms a settlement changes nothing. -/
theorem Confirms.effect {battle : Battle} {results : List BattlePlayerResult} {log : Log}
    (hlog : Confirms battle results log) (h : mysqlStatements.Replays log db db') :
    db' = db ∧ ∃ row, db (.battle battle.battleId) = some row ∧ row.roomId = battle.roomId ∧
      row.settled = 1 ∧ row.winnerId = battle.winnerId ∧
      sameResults ((db (.results battle.battleId)).mergeSort fun a b => a.playerId ≤ b.playerId)
        results = true := by
  obtain ⟨n, n', row, saved, rfl, hroom, hrow, hwinner, hsame⟩ := hlog
  obtain ⟨db₁, h₁, db₂, h₂, rfl⟩ := h
  obtain ⟨rfl, hsome⟩ := perform_battleForUpdate h₁
  obtain ⟨rfl, rfl⟩ := perform_resultsForUpdate h₂
  exact ⟨rfl, row, Option.toList_eq_singleton_iff.mp hsome, hroom, hrow, hwinner, hsame⟩

/-- The battle is settled, and these are its players. -/
structure Applied (battle : Battle) (results : List BattlePlayerResult) (db : Db) : Prop where
  settled : db.Settled battle.battleId
  participants : ∀ p, p ∈ db.participants battle.battleId ↔ p ∈ results.map (·.playerId)

/-- Saved results that are the same have the same players. -/
theorem mem_participants_of_same {b : BattleId} {results : List BattlePlayerResult}
    (h : sameResults ((db (.results b)).mergeSort fun a b => a.playerId ≤ b.playerId) results =
      true) (p : PlayerId) : p ∈ db.participants b ↔ p ∈ results.map (·.playerId) := by
  have hsaved := of_decide_eq_true h
  have hperm := (List.mergeSort_perm (db (.results b)) fun a b =>
    decide (a.playerId ≤ b.playerId)).map (·.playerId)
  rw [hsaved, List.map_map] at hperm
  exact hperm.symm.mem_iff

theorem Confirms.applied {battle : Battle} {results : List BattlePlayerResult} {log : Log}
    (hlog : Confirms battle results log) (h : mysqlStatements.Replays log db db') :
    Applied battle results db := by
  obtain ⟨-, row, hbattle, -, hrow, -, hsame⟩ := hlog.effect h
  exact ⟨⟨row, hbattle, hrow⟩, mem_participants_of_same hsame⟩

/-- A newly settled battle and those that were settled before. -/
theorem Db.wins_insert (db : Db) {b : BattleId} (hb : b ∉ settled)
    (hwinner : ∀ b' ∈ settled, db'.winner b' = db.winner b') (p : PlayerId) :
    db'.wins p (insert b settled) = db.wins p settled + if db'.winner b = p then 1 else 0 := by
  unfold wins
  rw [Finset.filter_insert, Finset.filter_congr fun b' hb' => by rw [hwinner b' hb']]
  split
  · exact Finset.card_insert_of_notMem fun h => hb (Finset.mem_filter.mp h).1
  · rfl

theorem Db.losses_insert (db : Db) {b : BattleId} (hb : b ∉ settled)
    (hwinner : ∀ b' ∈ settled, db'.winner b' = db.winner b')
    (hparticipants : ∀ b' ∈ settled, db'.participants b' = db.participants b') (p : PlayerId) :
    db'.losses p (insert b settled) = db.losses p settled +
      if p ∈ db'.participants b ∧ db'.winner b ≠ p then 1 else 0 := by
  unfold losses
  rw [Finset.filter_insert, Finset.filter_congr fun b' hb' => by
    rw [hwinner b' hb', hparticipants b' hb']]
  split
  · exact Finset.card_insert_of_notMem fun h => hb (Finset.mem_filter.mp h).1
  · rfl

/-- The rows of a battle after it has been settled. -/
theorem Settles.wholly {battle : Battle} {results : List BattlePlayerResult} {db₁ : Db}
    {row : BattleRow} (hvalid : ValidResults battle results)
    (hbefore : db.WhollyUnsettled battle.battleId) (hsaved : Saved battle.battleId results db db₁)
    (hmarked : db' (.battle battle.battleId) =
      some { row with winnerId := battle.winnerId, settled := 1 })
    (hsame : ∀ k, k ≠ .battle battle.battleId → db' k = db₁ k) :
    db'.WhollySettled battle.battleId ∧ db'.winner battle.battleId = battle.winnerId ∧
      db'.participants battle.battleId = results.map (·.playerId) := by
  have hrows : db' (.results battle.battleId) =
      results.map fun x => ⟨x.playerId, x.result, x.scoreDelta⟩ := by
    rw [hsame (.results _) nofun, hsaved.rows, hbefore.results, List.nil_append]
  have hlogRows : db' (.logs battle.battleId) =
      results.map fun x => ⟨x.playerId, x.scoreDelta⟩ := by
    rw [hsame (.logs _) nofun, hsaved.logRows, hbefore.logs, List.nil_append]
  have hwinner : db'.winner battle.battleId = battle.winnerId := by rw [Db.winner, hmarked]
  have hparticipants : db'.participants battle.battleId = results.map (·.playerId) := by
    rw [Db.participants, hrows, List.map_map]
    rfl
  refine ⟨⟨⟨_, hmarked, rfl⟩, ?_, ?_, fun x hx => ?_, ?_⟩, hwinner, hparticipants⟩
  · rw [hparticipants]
    exact hvalid.nodup
  · rw [hwinner, hparticipants]
    exact hvalid.winner
  · rw [hrows] at hx
    obtain ⟨y, hy, rfl⟩ := List.mem_map.mp hx
    rw [hwinner]
    exact (hvalid.each y hy).2
  · rw [hlogRows, hrows, List.map_map]
    rfl

/-- What saving the results does to the statistics of a player. -/
theorem Saved.numbers {battle : Battle} {results : List BattlePlayerResult}
    (hvalid : ValidResults battle results) (h : Saved battle.battleId results db db')
    (p : PlayerId) :
    (db'.standing p).winCount =
        (db.standing p).winCount + (if battle.winnerId = p then 1 else 0) ∧
      (db'.standing p).loseCount = (db.standing p).loseCount +
        (if p ∈ results.map (·.playerId) ∧ battle.winnerId ≠ p then 1 else 0) ∧
      (db'.standing p).score = (db.standing p).score + 20 * (if battle.winnerId = p then 1 else 0) -
        10 * if p ∈ results.map (·.playerId) ∧ battle.winnerId ≠ p then 1 else 0 := by
  by_cases hp : p ∈ results.map (·.playerId)
  · obtain ⟨x, hx, rfl⟩ := List.mem_map.mp hp
    obtain ⟨name, hname⟩ := h.standing x hx
    have hdelta := (hvalid.each x hx).2.2
    unfold expectedDelta at hdelta
    rw [hname]
    by_cases hw : battle.winnerId = x.playerId
    · rw [if_pos hw.symm] at hdelta
      simp [Stmt.addScore, hdelta, hw]
    · rw [if_neg (Ne.symm hw)] at hdelta
      simp [Stmt.addScore, hdelta, hw, hp, Int.sub_eq_add_neg]
  · have hw : battle.winnerId ≠ p := fun hw => hp (hw ▸ hvalid.winner)
    rw [Db.standing_congr (h.player p hp)]
    simp [hw, hp]

/-- **A settlement keeps the accounts.** -/
theorem Accounting.settle (hA : Accounting db settled) {battle : Battle}
    {results : List BattlePlayerResult} {log : Log} (hvalid : ValidResults battle results)
    (hlog : Settles battle results log) (h : mysqlStatements.Replays log db db') :
    Accounting db' (insert battle.battleId settled) ∧ Evolves db db' ∧
      Applied battle results db' := by
  obtain ⟨row, db₁, hrow, hroom, hopen, hsaved, hmarked, hsame⟩ := hlog.effect hvalid h
  set b₀ := battle.battleId with hb₀
  have hnew : ¬ db.Settled b₀ := by
    rintro ⟨row', hrow', hone⟩
    rw [hrow] at hrow'
    cases hrow'
    exact hopen hone
  have hbefore : db.WhollyUnsettled b₀ := (hA.battle b₀).resolve_right fun h => hnew h.settled
  obtain ⟨hwholly, hwinner, hparticipants⟩ :=
    Settles.wholly hvalid hbefore hsaved hmarked hsame
  -- The other battles are as they were.
  have hbattle : ∀ b, b ≠ b₀ → db' (.battle b) = db (.battle b) := fun b hb =>
    (hsame _ fun h => hb (Key.battle.inj h)).trans (hsaved.battle b)
  have hresults : ∀ b, b ≠ b₀ → db' (.results b) = db (.results b) := fun b hb =>
    (hsame (.results b) nofun).trans (hsaved.others b hb).1
  have hlogs : ∀ b, b ≠ b₀ → db' (.logs b) = db (.logs b) := fun b hb =>
    (hsame (.logs b) nofun).trans (hsaved.others b hb).2
  have hother : ∀ b ∈ settled, b ≠ b₀ := by
    rintro b hb rfl
    exact hnew ((hA.mem _).mp hb)
  have hmem : b₀ ∉ settled := fun h => hother b₀ h rfl
  have hwins := Db.wins_insert db hmem
    (fun b hb => Db.winner_congr (hbattle b (hother b hb)))
  have hlosses := Db.losses_insert db hmem
    (fun b hb => Db.winner_congr (hbattle b (hother b hb)))
    (fun b hb => Db.participants_congr (hresults b (hother b hb)))
  rw [hwinner] at hwins hlosses
  rw [hparticipants] at hlosses
  have hstanding : ∀ p, db'.standing p = db₁.standing p :=
    fun p => Db.standing_congr (hsame (.player p) nofun)
  have hne : ∀ b, db.Settled b → b ≠ b₀ := fun b hb h => hnew (h ▸ hb)
  refine ⟨⟨fun b => ?_, fun b hb => ?_, fun b => ?_, fun p => ?_, fun p => ?_, fun p => ?_⟩,
    ⟨fun b hb => hbattle b (hne b hb), fun b hb => hresults b (hne b hb), fun p b hb hp => ?_⟩,
    hwholly.settled, fun p => by rw [hparticipants]⟩
  · by_cases hb : b = b₀
    · exact hb ▸ Or.inr hwholly
    · exact Db.wholly_congr (hbattle b hb) (hresults b hb) (hlogs b hb) (hA.battle b)
  · by_cases hb₀ : b = b₀
    · rw [hb₀]
      refine ⟨hvalid.battleId, fun row' hrow' => ?_, fun p hp => ?_⟩
      · rw [hmarked] at hrow'
        cases hrow'
        exact ⟨hroom ▸ hvalid.roomId, hvalid.winner_pos⟩
      · rw [hparticipants] at hp
        obtain ⟨x, hx, rfl⟩ := List.mem_map.mp hp
        exact hvalid.positive x hx
    · have hb := (Db.settled_congr (hbattle b hb₀)).mp hb
      exact (hA.positive b hb).congr (hbattle b hb₀) (hresults b hb₀)
  · rw [Finset.mem_insert]
    by_cases hb : b = b₀
    · exact iff_of_true (Or.inl hb) (hb ▸ hwholly.settled)
    · rw [or_iff_right hb, hA.mem, Db.settled_congr (hbattle b hb)]
  · rw [hstanding, (hsaved.numbers hvalid p).1, hwins, hA.wins, Int.natCast_add]
    split <;> rfl
  · rw [hstanding, (hsaved.numbers hvalid p).2.1, hlosses, hA.losses, Int.natCast_add]
    split <;> rfl
  · obtain ⟨hwin, hlose, hscore⟩ := hsaved.numbers hvalid p
    have hbefore := hA.score p
    rw [hstanding]
    omega
  · by_cases hpr : p ∈ results.map (·.playerId)
    · exact Or.inr ⟨b₀, hnew, hwholly.settled, hparticipants ▸ hpr⟩
    · refine Or.inl ?_
      rw [Db.score, Db.score, hsame (.player p) nofun, hsaved.player p hpr]

/-- **A transaction that is committed keeps the accounts.** Its battle is settled afterwards. -/
theorem Accounting.commit (hA : Accounting db settled) {battle : Battle}
    {results : List BattlePlayerResult} {log : Log} (hvalid : ValidResults battle results)
    (hlog : Settles battle results log ∨ Confirms battle results log)
    (h : mysqlStatements.Replays log db db') :
    ∃ settled', Accounting db' settled' ∧ Evolves db db' ∧ Applied battle results db' := by
  rcases hlog with hlog | hlog
  · exact ⟨_, hA.settle hvalid hlog h⟩
  · have happlied := hlog.applied h
    obtain ⟨rfl, -⟩ := hlog.effect h
    exact ⟨settled, hA, .refl _, happlied⟩

/-! ## What is committed -/

/-- What the code commits: a transaction of `ApplySettlement`, or a statement of its own. -/
def Log.Lawful (log : Log) : Prop :=
  Committable log ∨ ∃ e, log = [e] ∧ e.1.sql.Autocommit

theorem Accounting.step (hA : Accounting db settled) {log : Log} (hlog : Log.Lawful log)
    (h : mysqlStatements.Replays log db db') :
    ∃ settled', Accounting db' settled' ∧ Evolves db db' := by
  rcases hlog with ⟨battle, results, hvalid, hlog⟩ | ⟨⟨st, r⟩, rfl, hst⟩
  · obtain ⟨settled', hA', hevolves, -⟩ := hA.commit hvalid hlog h
    exact ⟨settled', hA', hevolves⟩
  · obtain ⟨db₁, hperform, rfl⟩ := h
    exact ⟨settled, hA.autocommit hst hperform⟩

/-- **The accounts after any transactions of the code.** -/
theorem Accounting.replay {logs : List Log} : ∀ {db : Db} {settled : Finset BattleId},
    Accounting db settled → (∀ log ∈ logs, Log.Lawful log) →
    mysqlStatements.Replays logs.flatten db db' →
    ∃ settled', Accounting db' settled' ∧ Evolves db db' := by
  induction logs with
  | nil =>
    rintro db settled hA - rfl
    exact ⟨settled, hA, .refl _⟩
  | cons log logs ih =>
    intro db settled hA hlogs h
    rw [List.flatten_cons, Statements.replays_append] at h
    obtain ⟨db₁, h₁, h⟩ := h
    obtain ⟨settled₁, hA₁, hevolves₁⟩ := hA.step (hlogs log List.mem_cons_self) h₁
    obtain ⟨settled', hA', hevolves⟩ :=
      ih hA₁ (fun log hlog => hlogs log (List.mem_cons_of_mem _ hlog)) h
    exact ⟨settled', hA', hevolves₁.trans hevolves⟩

/-- What has been applied stays applied. -/
theorem Applied.evolves {battle : Battle} {results : List BattlePlayerResult}
    (h : Applied battle results db) (hevolves : Evolves db db') : Applied battle results db' where
  settled := hevolves.isSettled h.settled
  participants p := by rw [hevolves.participants h.settled, h.participants]

/-- A transaction among others that have been committed. -/
theorem Accounting.applied {logs : List Log} (hA : Accounting db settled)
    (hlogs : ∀ log ∈ logs, Log.Lawful log) (h : mysqlStatements.Replays logs.flatten db db')
    {battle : Battle} {results : List BattlePlayerResult} {log : Log}
    (hvalid : ValidResults battle results)
    (hlog : Settles battle results log ∨ Confirms battle results log) (hmem : log ∈ logs) :
    Applied battle results db' := by
  obtain ⟨before, after, rfl⟩ := List.append_of_mem hmem
  rw [List.flatten_append, List.flatten_cons, Statements.replays_append] at h
  obtain ⟨db₁, h₁, h⟩ := h
  obtain ⟨db₂, h₂, h⟩ := Statements.replays_append.mp h
  obtain ⟨settled₁, hA₁, -⟩ :=
    hA.replay (fun log hlog => hlogs log (List.mem_append_left _ hlog)) h₁
  obtain ⟨settled₂, hA₂, -, happlied⟩ := hA₁.commit hvalid hlog h₂
  obtain ⟨settled', -, hevolves⟩ := hA₂.replay (fun log hlog =>
    hlogs log (List.mem_append_right _ (List.mem_cons_of_mem _ hlog))) h
  exact happlied.evolves hevolves

end Game
