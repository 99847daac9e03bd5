import GameServer.Game.GameState
import GameServer.Infra.Locking

/-!
# Tables and statements

The tables of `config/mysql.sql` and the SQL that `src/storage` puts together. The rows of
`battle_player_result` and of `settlement_log` that belong to one battle are kept, and locked,
together; both have a unique key on battle and player.

Columns that no code of the server reads are left out. Statements check the types of the columns as
MySQL does in strict mode.
-/

namespace Game

open Infra

abbrev BattleId := Int

/-! ## String literals -/

/-- What starts an escape sequence. -/
def backslash : Char := Char.ofNat 92

/-- What ends a string literal. -/
def quote : Char := Char.ofNat 39

/-- The characters that `mysql_real_escape_string` escapes, with the letters that stand for them. -/
def escapes : List (Char × Char) :=
  [(Char.ofNat 0, '0'), (Char.ofNat 10, 'n'), (Char.ofNat 13, 'r'), (Char.ofNat 26, 'Z'),
    (backslash, backslash), (quote, quote), (Char.ofNat 34, Char.ofNat 34)]

/-- One character of a string literal. -/
def escapeChar (c : Char) : List Char :=
  match escapes.lookup c with
  | some letter => [backslash, letter]
  | none => [c]

/-- `mysql_real_escape_string`. -/
def mysqlRealEscapeString (value : List Char) : List Char :=
  value.flatMap escapeChar

/-- How MySQL reads an escape sequence. -/
def readEscape (letter : Char) : List Char :=
  if letter = '0' then [Char.ofNat 0]
  else if letter = 'n' then [Char.ofNat 10]
  else if letter = 'r' then [Char.ofNat 13]
  else if letter = 'Z' then [Char.ofNat 26]
  else if letter = 'b' then [Char.ofNat 8]
  else if letter = 't' then [Char.ofNat 9]
  else if letter = '%' ∨ letter = '_' then [backslash, letter]
  else [letter]

/-- How MySQL reads what stands between two quotes; a quote inside makes a syntax error. -/
def readLiteral : List Char → Option (List Char)
  | [] => some []
  | [c] => if c = backslash ∨ c = quote then none else some [c]
  | c :: d :: rest =>
    if c = backslash then (readLiteral rest).map (readEscape d ++ ·)
    else if c = quote then none
    else (readLiteral (d :: rest)).map (c :: ·)

theorem readEscape_of_lookup {c letter : Char} (h : escapes.lookup c = some letter) :
    readEscape letter = [c] := by
  unfold escapes at h
  simp only [List.lookup_cons, List.lookup_nil] at h
  repeat' split at h
  all_goals first
    | cases h; done
    | (next hc => rw [← Option.some.inj h, eq_of_beq hc]; decide)

theorem readLiteral_cons {c : Char} (hb : c ≠ backslash) (hq : c ≠ quote) (rest : List Char) :
    readLiteral (c :: rest) = (readLiteral rest).map (c :: ·) := by
  cases rest with
  | nil => simp [readLiteral, hb, hq]
  | cons d rest => rw [readLiteral, if_neg hb, if_neg hq]

/-- **Escaped strings are read back.** -/
theorem readLiteral_escape (value : List Char) :
    readLiteral (mysqlRealEscapeString value) = some value := by
  induction value with
  | nil => rfl
  | cons c value ih =>
    unfold mysqlRealEscapeString at ih ⊢
    rw [List.flatMap_cons]
    cases hc : escapes.lookup c with
    | some letter =>
      have hescape : escapeChar c = [backslash, letter] := by rw [escapeChar, hc]
      rw [hescape, List.cons_append, List.cons_append, List.nil_append, readLiteral, if_pos rfl, ih,
        readEscape_of_lookup hc]
      rfl
    | none =>
      have hescape : escapeChar c = [c] := by rw [escapeChar, hc]
      have hb : c ≠ backslash := by rintro rfl; exact absurd hc (by decide)
      have hq : c ≠ quote := by rintro rfl; exact absurd hc (by decide)
      rw [hescape, List.cons_append, List.nil_append, readLiteral_cons hb hq, ih]
      rfl

/-! ## Rows -/

/-- A row of `battle`. -/
structure BattleRow where
  roomId : RoomId
  winnerId : PlayerId
  settled : Int := 0
  deriving DecidableEq

/-- A row of `battle_player_result`. -/
structure ResultRow where
  playerId : PlayerId
  result : String
  scoreDelta : Int
  deriving DecidableEq

/-- A row of `settlement_log`. -/
structure LogRow where
  playerId : PlayerId
  scoreDelta : Int
  deriving DecidableEq

/-- A row of `player`, the key apart. -/
structure PlayerRow where
  name : String
  score : Int := 1000
  winCount : Int := 0
  loseCount : Int := 0
  deriving DecidableEq

/-- `PlayerData`. -/
structure PlayerData extends PlayerRow where
  playerId : PlayerId := 0
  name := ""
  deriving DecidableEq

/-- What a transaction locks. -/
inductive Key where
  | battle (battleId : BattleId)
  | results (battleId : BattleId)
  | logs (battleId : BattleId)
  | player (playerId : PlayerId)
  deriving DecidableEq

/-- What there is under a key. -/
@[reducible] def Key.Row : Key → Type
  | battle _ => Option BattleRow
  | results _ => List ResultRow
  | logs _ => List LogRow
  | player _ => Option PlayerRow

/-- The contents of the database. -/
abbrev Db := ∀ k : Key, k.Row

/-- The tables right after `config/mysql.sql`. -/
def Db.empty : Db
  | .battle _ => none
  | .results _ => []
  | .logs _ => []
  | .player _ => none

/-! ## Statements -/

/-- The queries. -/
inductive Select where
  /-- `SELECT room_id, winner_id, settled FROM battle … FOR UPDATE` -/
  | battleForUpdate (battleId : BattleId)
  /-- `SELECT player_id, result, score_delta FROM battle_player_result … ORDER BY player_id FOR
  UPDATE` -/
  | resultsForUpdate (battleId : BattleId)
  /-- `SELECT player_id, name, score, win_count, lose_count FROM player … LIMIT 1` -/
  | player (playerId : PlayerId)
  deriving DecidableEq

/-- A row of the answer. -/
@[reducible] def Select.Row : Select → Type
  | battleForUpdate _ => BattleRow
  | resultsForUpdate _ => ResultRow
  | player _ => PlayerData

/-- The statements that change rows. -/
inductive Dml where
  /-- `INSERT INTO battle(room_id, winner_id, result_json) VALUES(…, 0, '{}')` -/
  | insertBattle (roomId : RoomId)
  /-- `INSERT INTO battle_player_result …`, with `result` as a literal -/
  | insertResult (battleId : BattleId) (playerId : PlayerId) (result : List Char) (scoreDelta : Int)
  /-- `INSERT INTO settlement_log …` -/
  | insertLog (battleId : BattleId) (playerId : PlayerId) (scoreDelta : Int)
  /-- `UPDATE battle SET winner_id = …, settled = 1 … WHERE battle_id = …` -/
  | settleBattle (battleId : BattleId) (winnerId : PlayerId)
  /-- `INSERT INTO player … ON DUPLICATE KEY UPDATE name = VALUES(name)`, with `name` as a
  literal -/
  | insertPlayer (playerId : PlayerId) (name : List Char) (score winCount loseCount : Int)
  /-- `INSERT INTO player … ON DUPLICATE KEY UPDATE score = score + …, …` -/
  | updateScore (playerId : PlayerId) (initialScore scoreDelta winDelta loseDelta : Int)
  /-- Any other statement. -/
  | other (change : Action Key Key.Row Int)

inductive Sql where
  | select (q : Select)
  | dml (q : Dml)

/-- The rows of a query, or the number of affected rows. -/
@[reducible] def Sql.Answer : Sql → Type
  | select q => List q.Row
  | dml _ => Int

/-- A plain `SELECT` reads without locking. -/
def Sql.locks : Sql → Bool
  | select (.player _) => false
  | _ => true

/-- A statement with the id that `AUTO_INCREMENT` gives to a battle. -/
structure Stmt where
  autoIncrement : BattleId
  sql : Sql

namespace Stmt

/-- The range of `INT`. -/
def isInt (x : Int) : Bool :=
  -2147483648 ≤ x ∧ x ≤ 2147483647

/-- The types of the columns of `player`. -/
def isPlayerRow (row : PlayerRow) : Bool :=
  row.name.length ≤ 64 ∧ isInt row.score ∧ isInt row.winCount ∧ isInt row.loseCount

/-- The default name of a player. -/
def playerName (playerId : PlayerId) : String :=
  "player_" ++ toString playerId

/-- The row of the player after `UpdatePlayerScore`, when there is one before. -/
def addScore (scoreDelta winDelta loseDelta : Int) (row : PlayerRow) : PlayerRow :=
  { row with
    score := row.score + scoreDelta
    winCount := row.winCount + winDelta
    loseCount := row.loseCount + loseDelta }

/-- An id that is taken is an error. -/
def insertBattle (roomId : RoomId) : Option BattleRow → Option (Option BattleRow × Int)
  | none => some (some { roomId := roomId, winnerId := 0 }, 1)
  | some _ => none

/-- A second row for the player is an error. -/
def insertResult (playerId : PlayerId) (literal : List Char) (scoreDelta : Int)
    (rows : List ResultRow) : Option (List ResultRow × Int) :=
  match readLiteral literal with
  | none => none
  | some result =>
    if rows.any (·.playerId = playerId) ∨ 16 < result.length ∨ ¬ isInt scoreDelta then none
    else some (rows ++ [⟨playerId, String.ofList result, scoreDelta⟩], 1)

/-- A second row is an error here too. -/
def insertLog (playerId : PlayerId) (scoreDelta : Int) (rows : List LogRow) :
    Option (List LogRow × Int) :=
  if rows.any (·.playerId = playerId) ∨ ¬ isInt scoreDelta then none
  else some (rows ++ [⟨playerId, scoreDelta⟩], 1)

def settleBattle (winnerId : PlayerId) : Option BattleRow → Option (Option BattleRow × Int)
  | none => some (none, 0)
  | some row => some (some { row with winnerId := winnerId, settled := 1 }, 1)

/-- With `ON DUPLICATE KEY UPDATE name`. -/
def insertPlayer (literal : List Char) (score winCount loseCount : Int)
    (row : Option PlayerRow) : Option (Option PlayerRow × Int) :=
  match readLiteral literal with
  | none => none
  | some name =>
    let new : PlayerRow := ⟨String.ofList name, score, winCount, loseCount⟩
    if isPlayerRow new then
      match row with
      | none => some (some new, 1)
      | some old => some (some { old with name := new.name }, if old.name = new.name then 0 else 2)
    else none

/-- The row to insert is checked even when there is one to update. -/
def updateScore (playerId : PlayerId) (initialScore scoreDelta winDelta loseDelta : Int)
    (row : Option PlayerRow) : Option (Option PlayerRow × Int) :=
  let new : PlayerRow := ⟨playerName playerId, initialScore, winDelta, loseDelta⟩
  if isPlayerRow new then
    match row with
    | none => some (some new, 1)
    | some old =>
      let changed := addScore scoreDelta winDelta loseDelta old
      if isPlayerRow changed then some (some changed, if changed = old then 0 else 2) else none
  else none

/-- What a statement does. -/
def action : (st : Stmt) → Action Key Key.Row st.sql.Answer
  | ⟨_, .select (.battleForUpdate battleId)⟩ =>
    .row (.battle battleId) fun row => some (row, row.toList)
  | ⟨_, .select (.resultsForUpdate battleId)⟩ =>
    .row (.results battleId) fun rows =>
      some (rows, rows.mergeSort fun a b => a.playerId ≤ b.playerId)
  | ⟨_, .select (.player playerId)⟩ =>
    .row (.player playerId) fun row =>
      some (row, row.toList.map fun r => { r with playerId := playerId })
  | ⟨autoIncrement, .dml (.insertBattle roomId)⟩ =>
    .row (.battle autoIncrement) (insertBattle roomId)
  | ⟨_, .dml (.insertResult battleId playerId result scoreDelta)⟩ =>
    .row (.results battleId) (insertResult playerId result scoreDelta)
  | ⟨_, .dml (.insertLog battleId playerId scoreDelta)⟩ =>
    .row (.logs battleId) (insertLog playerId scoreDelta)
  | ⟨_, .dml (.settleBattle battleId winnerId)⟩ => .row (.battle battleId) (settleBattle winnerId)
  | ⟨_, .dml (.insertPlayer playerId name score winCount loseCount)⟩ =>
    .row (.player playerId) (insertPlayer name score winCount loseCount)
  | ⟨_, .dml (.updateScore playerId initialScore scoreDelta winDelta loseDelta)⟩ =>
    .row (.player playerId) (updateScore playerId initialScore scoreDelta winDelta loseDelta)
  | ⟨_, .dml (.other change)⟩ => change

end Stmt

/-- The statements of the server. -/
abbrev mysqlStatements : Statements Key Key.Row where
  Stmt := Stmt
  Answer st := st.sql.Answer
  action := Stmt.action

/-- Statements with their answers. -/
abbrev Log := List mysqlStatements.Entry

end Game
