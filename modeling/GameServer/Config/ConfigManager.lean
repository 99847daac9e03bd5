import GameServer.Infra.Lines

/-!
# The configuration

`src/config/config_manager.cpp`.

The file is the list of its bytes, each of them a character. A file that cannot be opened has no
content. An exception of `std::stoi` leaves `Load`, and what has been stored until then stays.
-/

namespace Game

open Infra

/-! ## Values -/

inductive StoiError where
  | invalidArgument
  | outOfRange
  deriving DecidableEq

/-- `std::isspace` of the C locale. -/
def isspace (c : Char) : Bool :=
  c = ' ' ∨ 9 ≤ c.toNat ∧ c.toNat ≤ 13

/-- The value of decimal digits. -/
def decimal (digits : List Char) : Int :=
  digits.foldl (fun n c => 10 * n + (c.toNat - '0'.toNat : Nat)) 0

/-- `std::stoi`: blanks, a sign, digits, and then anything. -/
def stoi (value : String) : Except StoiError Int :=
  let text := value.toList.dropWhile isspace
  let negative := text.head? = some '-'
  let digits := (if negative ∨ text.head? = some '+' then text.tail else text).takeWhile Char.isDigit
  let n := if negative then -decimal digits else decimal digits
  if digits = [] then .error .invalidArgument
  else if n < -2147483648 ∨ 2147483647 < n then .error .outOfRange
  else .ok n

structure MysqlConfig where
  host : String := "127.0.0.1"
  port : Int := 3306
  user : String := "root"
  password : String := "123456"
  database : String := "game"
  deriving DecidableEq

structure RedisConfig where
  host : String := "127.0.0.1"
  port : Int := 6379
  deriving DecidableEq

structure ConfigManager where
  serverHost : String := "0.0.0.0"
  serverPort : Int := 9000
  workerThreads : Int := 4
  tickIntervalMs : Int := 50
  roomPlayerCount : Int := 2
  mysql : MysqlConfig := {}
  redis : RedisConfig := {}
  deriving DecidableEq

/-! ## Lines -/

/-- `Trim`. A carriage return goes only at the end. -/
def trim (value : List Char) : List Char :=
  let value := value.dropWhile fun c => c = ' ' ∨ c = '\t' ∨ c = '"'
  (value.reverse.dropWhile fun c => c = ' ' ∨ c = '\t' ∨ c = '\r' ∨ c = '"').reverse

/-- The key and the value, when `SplitKeyValue` returns true. -/
def splitKeyValue (line : List Char) : Option (List Char × List Char) :=
  match line.dropWhile (· ≠ ':') with
  | [] => none
  | _ :: rest =>
    let key := trim (line.takeWhile (· ≠ ':'))
    if key = [] then none else some (key, trim rest)

/-- What a line is for `Load`. -/
inductive ConfigLine where
  | skipped
  | header (name : String)
  | entry (key value : String)
  deriving DecidableEq

/-- The part of the loop of `Load` that looks at the line alone. -/
def readLine (line : List Char) : ConfigLine :=
  if line = [] ∨ line.head? = some '#' then .skipped
  else if line.head? ≠ some ' ' ∧ line.getLast? = some ':' then
    .header (String.ofList (trim line.dropLast))
  else
    match splitKeyValue line with
    | none => .skipped
    | some (key, value) =>
      if value = [] then .skipped else .entry (String.ofList key) (String.ofList value)

/-! ## Load -/

namespace ConfigManager

/-- The assignments of `Load` for an entry under the header `name`. The keys of a section differ, so
at most one assignment is made. -/
def assign (c : ConfigManager) (name key value : String) : Except StoiError ConfigManager := do
  if name = "server" then
    if key = "host" then return { c with serverHost := value }
    else if key = "port" then return { c with serverPort := ← stoi value }
    else if key = "worker_threads" then return { c with workerThreads := ← stoi value }
    else if key = "tick_interval_ms" then return { c with tickIntervalMs := ← stoi value }
    else return c
  else if name = "mysql" then
    if key = "host" then return { c with mysql.host := value }
    else if key = "port" then return { c with mysql.port := ← stoi value }
    else if key = "user" then return { c with mysql.user := value }
    else if key = "password" then return { c with mysql.password := value }
    else if key = "database" then return { c with mysql.database := value }
    else return c
  else if name = "redis" then
    if key = "host" then return { c with redis.host := value }
    else if key = "port" then return { c with redis.port := ← stoi value }
    else return c
  else if name = "match" then
    if key = "room_player_count" then return { c with roomPlayerCount := ← stoi value }
    else return c
  else return c

/-- The loop of `Load`, under the header `name`. -/
def loadLines (c : ConfigManager) (name : String) :
    List (List Char) → ConfigManager × Except StoiError Bool
  | [] => (c, .ok true)
  | line :: rest =>
    match readLine line with
    | .skipped => c.loadLines name rest
    | .header name => c.loadLines name rest
    | .entry key value =>
      match c.assign name key value with
      | .ok c => c.loadLines name rest
      | .error e => (c, .error e)

/-- `Load`, given what is in the file, if it can be opened. -/
def load (c : ConfigManager) : Option (List Char) → ConfigManager × Except StoiError Bool
  | none => (c, .ok false)
  | some text => c.loadLines "" (lines '\n' text)

end ConfigManager
end Game
