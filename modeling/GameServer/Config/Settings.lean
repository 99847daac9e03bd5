import GameServer.Config.ConfigManager
import Mathlib.Data.Fintype.Basic

/-!
# Settings

A configuration as a table, and a text of the file as a list of entries for it. `Load` gives every
setting the value of its last entry and leaves the others alone (`get_load`).
-/

namespace Game

open Infra

section Except

variable {ε α β : Type} {x : Except ε α} {f : α → Except ε β}

theorem of_bind_ok {b : β} (h : (x >>= f) = .ok b) : ∃ a, x = .ok a ∧ f a = .ok b := by
  cases x with
  | error e => cases h
  | ok a => exact ⟨a, rfl, h⟩

theorem of_bind_error {e : ε} (h : (x >>= f) = .error e) :
    x = .error e ∨ ∃ a, x = .ok a ∧ f a = .error e := by
  cases x with
  | error e' => exact Or.inl (congrArg _ (Except.error.inj h))
  | ok a => exact Or.inr ⟨a, rfl, h⟩

end Except

/-! ## The table -/

/-- The settings that `ConfigManager` knows. -/
inductive Setting where
  | serverHost
  | serverPort
  | workerThreads
  | tickIntervalMs
  | mysqlHost
  | mysqlPort
  | mysqlUser
  | mysqlPassword
  | mysqlDatabase
  | redisHost
  | redisPort
  | roomPlayerCount
  deriving DecidableEq

instance : Fintype Setting where
  elems := {.serverHost, .serverPort, .workerThreads, .tickIntervalMs, .mysqlHost, .mysqlPort,
    .mysqlUser, .mysqlPassword, .mysqlDatabase, .redisHost, .redisPort, .roomPlayerCount}
  complete := by
    intro s
    cases s <;> decide

inductive SettingValue where
  | text (s : String)
  | number (n : Int)
  deriving DecidableEq

namespace Setting

/-- The section of the setting and its key in this section. -/
def name : Setting → String × String
  | serverHost => ("server", "host")
  | serverPort => ("server", "port")
  | workerThreads => ("server", "worker_threads")
  | tickIntervalMs => ("server", "tick_interval_ms")
  | mysqlHost => ("mysql", "host")
  | mysqlPort => ("mysql", "port")
  | mysqlUser => ("mysql", "user")
  | mysqlPassword => ("mysql", "password")
  | mysqlDatabase => ("mysql", "database")
  | redisHost => ("redis", "host")
  | redisPort => ("redis", "port")
  | roomPlayerCount => ("match", "room_player_count")

/-- What the setting makes of the text of its value. -/
def read (s : Setting) (value : String) : Except StoiError SettingValue :=
  match s with
  | serverHost | mysqlHost | mysqlUser | mysqlPassword | mysqlDatabase | redisHost =>
    .ok (.text value)
  | serverPort | workerThreads | tickIntervalMs | mysqlPort | redisPort | roomPlayerCount =>
    (stoi value).map .number

end Setting

namespace ConfigManager

def get (c : ConfigManager) : Setting → SettingValue
  | .serverHost => .text c.serverHost
  | .serverPort => .number c.serverPort
  | .workerThreads => .number c.workerThreads
  | .tickIntervalMs => .number c.tickIntervalMs
  | .mysqlHost => .text c.mysql.host
  | .mysqlPort => .number c.mysql.port
  | .mysqlUser => .text c.mysql.user
  | .mysqlPassword => .text c.mysql.password
  | .mysqlDatabase => .text c.mysql.database
  | .redisHost => .text c.redis.host
  | .redisPort => .number c.redis.port
  | .roomPlayerCount => .number c.roomPlayerCount

variable {c c' : ConfigManager} {s : Setting} {name key value : String}

/-- The settings are the whole configuration. -/
theorem eq_of_get (h : c.get = c'.get) : c = c' := by
  obtain ⟨_, _, _, _, _, ⟨_, _, _, _, _⟩, _, _⟩ := c
  obtain ⟨_, _, _, _, _, ⟨_, _, _, _, _⟩, _, _⟩ := c'
  have hget := fun s => congrFun h s
  cases hget .serverHost
  cases hget .serverPort
  cases hget .workerThreads
  cases hget .tickIntervalMs
  cases hget .mysqlHost
  cases hget .mysqlPort
  cases hget .mysqlUser
  cases hget .mysqlPassword
  cases hget .mysqlDatabase
  cases hget .redisHost
  cases hget .redisPort
  cases hget .roomPlayerCount
  rfl

/-- An entry of a setting is an update of the table. -/
theorem get_assign (h : c.assign s.name.1 s.name.2 value = .ok c') :
    ∃ v, s.read value = .ok v ∧ c'.get = Function.update c.get s v := by
  cases s with
  | serverHost | mysqlHost | mysqlUser | mysqlPassword | mysqlDatabase | redisHost =>
    cases h
    refine ⟨_, rfl, ?_⟩
    funext t
    cases t <;> rfl
  | serverPort | workerThreads | tickIntervalMs | mysqlPort | redisPort | roomPlayerCount =>
    obtain ⟨n, hn, h⟩ := of_bind_ok h
    cases h
    refine ⟨.number n, by rw [Setting.read, hn]; rfl, ?_⟩
    funext t
    cases t <;> rfl

/-- The value of the entry is what `std::stoi` has thrown for. -/
theorem read_of_assign_error {e : StoiError} (h : c.assign s.name.1 s.name.2 value = .error e) :
    s.read value = .error e := by
  cases s with
  | serverHost | mysqlHost | mysqlUser | mysqlPassword | mysqlDatabase | redisHost => cases h
  | serverPort | workerThreads | tickIntervalMs | mysqlPort | redisPort | roomPlayerCount =>
    rcases of_bind_error h with h | ⟨n, -, h⟩
    · rw [Setting.read, h]
      rfl
    · cases h

/-- An entry of no setting has no effect. -/
theorem assign_of_no_setting (h : ∀ s : Setting, s.name ≠ (name, key)) :
    c.assign name key value = .ok c := by
  have hkey : ∀ s : Setting, name = s.name.1 → key ≠ s.name.2 := by
    rintro s rfl rfl
    exact h s rfl
  unfold assign
  split
  · next hname =>
    rw [if_neg (show key ≠ "host" from hkey .serverHost hname),
      if_neg (show key ≠ "port" from hkey .serverPort hname),
      if_neg (show key ≠ "worker_threads" from hkey .workerThreads hname),
      if_neg (show key ≠ "tick_interval_ms" from hkey .tickIntervalMs hname)]
    rfl
  · split
    · next hname =>
      rw [if_neg (show key ≠ "host" from hkey .mysqlHost hname),
        if_neg (show key ≠ "port" from hkey .mysqlPort hname),
        if_neg (show key ≠ "user" from hkey .mysqlUser hname),
        if_neg (show key ≠ "password" from hkey .mysqlPassword hname),
        if_neg (show key ≠ "database" from hkey .mysqlDatabase hname)]
      rfl
    · split
      · next hname =>
        rw [if_neg (show key ≠ "host" from hkey .redisHost hname),
          if_neg (show key ≠ "port" from hkey .redisPort hname)]
        rfl
      · split
        · next hname =>
          rw [if_neg (show key ≠ "room_player_count" from hkey .roomPlayerCount hname)]
          rfl
        · rfl

end ConfigManager

/-! ## The entries of a text -/

/-- A line of the file that sets something. -/
structure ConfigEntry where
  /-- The header it stands under and its key. -/
  name : String × String
  value : String
  deriving DecidableEq

/-- The entries of the lines under the header `name`. -/
def entriesOf (name : String) : List (List Char) → List ConfigEntry
  | [] => []
  | line :: rest =>
    match readLine line with
    | .skipped => entriesOf name rest
    | .header name => entriesOf name rest
    | .entry key value => ⟨(name, key), value⟩ :: entriesOf name rest

/-- The entries of a text. -/
def entries (text : List Char) : List ConfigEntry :=
  entriesOf "" (lines '\n' text)

/-- The value of the last entry for the setting. -/
def lastValue (s : Setting) (xs : List ConfigEntry) : Option String :=
  (xs.reverse.find? (·.name = s.name)).map (·.value)

/-- Every entry for a number has an integer. -/
def ValidNumbers (xs : List ConfigEntry) : Prop :=
  ∀ x ∈ xs, ∀ s : Setting, s.name = x.name → (s.read x.value).isOk = true

instance (xs : List ConfigEntry) : Decidable (ValidNumbers xs) :=
  inferInstanceAs (Decidable (∀ x ∈ xs, ∀ s : Setting, s.name = x.name → _))

/-- `new` is what the entries make of the value `old` of the setting. -/
def Setting.After (s : Setting) (xs : List ConfigEntry) (old new : SettingValue) : Prop :=
  match lastValue s xs with
  | none => new = old
  | some value => s.read value = .ok new

theorem Setting.name_injective : Function.Injective Setting.name := by
  intro s t
  revert s t
  decide

theorem lastValue_cons (s : Setting) (x : ConfigEntry) (xs : List ConfigEntry) :
    lastValue s (x :: xs) =
      (lastValue s xs).or (if x.name = s.name then some x.value else none) := by
  unfold lastValue
  rw [List.reverse_cons, List.find?_append, Option.map_or, List.find?_singleton]
  congr 1
  by_cases h : x.name = s.name <;> simp [h]

theorem Setting.After.cons {s : Setting} {x : ConfigEntry} {xs : List ConfigEntry}
    {old mid new : SettingValue} (hx : s.After [x] old mid) (hxs : s.After xs mid new) :
    s.After (x :: xs) old new := by
  unfold Setting.After at hx hxs ⊢
  rw [lastValue_cons] at hx ⊢
  cases hlast : lastValue s xs with
  | none =>
    rw [hlast] at hxs
    rw [hxs]
    exact hx
  | some value =>
    rw [hlast] at hxs
    exact hxs

namespace ConfigManager

variable {c c' : ConfigManager} {s : Setting} {name key value : String}

/-- One entry, setting by setting. -/
theorem after_assign (h : c.assign name key value = .ok c') (s : Setting) :
    s.After [⟨(name, key), value⟩] (c.get s) (c'.get s) := by
  have hlast : lastValue s [⟨(name, key), value⟩] =
      if (name, key) = s.name then some value else none := lastValue_cons s _ []
  unfold Setting.After
  rw [hlast]
  by_cases hno : ∀ t : Setting, t.name ≠ (name, key)
  · rw [assign_of_no_setting hno] at h
    cases h
    rw [if_neg (Ne.symm (hno s))]
  · obtain ⟨t, ht⟩ := not_forall_not.mp hno
    obtain ⟨rfl, rfl⟩ := Prod.ext_iff.mp ht
    obtain ⟨v, hread, hget⟩ := get_assign h
    rw [hget]
    by_cases hst : t = s
    · subst hst
      rw [if_pos rfl, Function.update_self]
      exact hread
    · rw [if_neg fun heq => hst (Setting.name_injective heq),
        Function.update_of_ne (Ne.symm hst)]

/-- An entry with a valid value does not throw. -/
theorem exists_assign (hvalid : ∀ s : Setting, s.name = (name, key) → (s.read value).isOk = true) :
    ∃ c', c.assign name key value = .ok c' := by
  by_cases hno : ∀ t : Setting, t.name ≠ (name, key)
  · exact ⟨c, assign_of_no_setting hno⟩
  · obtain ⟨t, ht⟩ := not_forall_not.mp hno
    obtain ⟨rfl, rfl⟩ := Prod.ext_iff.mp ht
    cases hassign : c.assign t.name.1 t.name.2 value with
    | ok c' => exact ⟨c', rfl⟩
    | error e =>
      have hok := hvalid t rfl
      rw [read_of_assign_error hassign] at hok
      cases hok

/-- The loop, setting by setting. -/
theorem after_loadLines {rest : List (List Char)} (hvalid : ValidNumbers (entriesOf name rest)) :
    ∃ c', c.loadLines name rest = (c', .ok true) ∧
      ∀ s : Setting, s.After (entriesOf name rest) (c.get s) (c'.get s) := by
  induction rest generalizing c name with
  | nil => exact ⟨c, rfl, fun s => rfl⟩
  | cons line rest ih =>
    rw [entriesOf] at hvalid ⊢
    rw [loadLines]
    cases hline : readLine line with
    | skipped =>
      rw [hline] at hvalid
      exact ih hvalid
    | header name' =>
      rw [hline] at hvalid
      exact ih hvalid
    | entry key value =>
      rw [hline] at hvalid
      obtain ⟨hentry, hrest⟩ := List.forall_mem_cons.mp hvalid
      obtain ⟨c₁, hassign⟩ := exists_assign (c := c) hentry
      obtain ⟨c', hload, hafter⟩ := ih (c := c₁) hrest
      refine ⟨c', ?_, fun s => (after_assign hassign s).cons (hafter s)⟩
      dsimp only
      rw [hassign]
      exact hload

/-- **What `Load` does.** Every setting takes the value of its last entry, or stays as it was. -/
theorem after_load {text : List Char} (hvalid : ValidNumbers (entries text)) :
    ∃ c', c.load (some text) = (c', .ok true) ∧
      ∀ s : Setting, s.After (entries text) (c.get s) (c'.get s) :=
  after_loadLines hvalid

/-- Every setting that the text has an entry for has the value of its last entry already. -/
def Agrees (c : ConfigManager) (text : List Char) : Prop :=
  ∀ s : Setting, ∀ value ∈ lastValue s (entries text), s.read value = .ok (c.get s)

instance (c : ConfigManager) (text : List Char) : Decidable (c.Agrees text) :=
  inferInstanceAs (Decidable (∀ s : Setting, ∀ value ∈ lastValue s (entries text), _))

/-- After `Load` the configuration agrees with the text. -/
theorem agrees_load {text : List Char} (hvalid : ValidNumbers (entries text)) :
    (c.load (some text)).1.Agrees text := by
  obtain ⟨c', hload, hafter⟩ := after_load (c := c) hvalid
  rw [hload]
  intro s value hlast
  have h := hafter s
  rw [Setting.After, hlast] at h
  exact h

/-- **`Load` changes nothing** exactly if the configuration agrees with the text. -/
theorem load_eq_self_iff {text : List Char} (hvalid : ValidNumbers (entries text)) :
    (c.load (some text)).1 = c ↔ c.Agrees text := by
  constructor
  · intro h
    rw [← h]
    exact agrees_load hvalid
  · intro hagrees
    obtain ⟨c', hload, hafter⟩ := after_load (c := c) hvalid
    rw [hload]
    refine eq_of_get (funext fun s => ?_)
    have h := hafter s
    unfold Setting.After at h
    split at h
    · exact h
    · next value hlast => exact Except.ok.inj (h.symm.trans (hagrees s value hlast))

end ConfigManager
end Game
