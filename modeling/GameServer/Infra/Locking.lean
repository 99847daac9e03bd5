import Mathlib.Logic.Function.Basic

/-!
# Strict two-phase locking

A store of rows under keys. A statement reads and writes the rows of some keys. A transaction locks
the keys of its statements and keeps the locks, and its own version of the rows, until it commits or
is rolled back.

* `Follows`: what a transaction has done so far, replayed on the committed rows, gives what it sees
* `replays_commit`: so a commit does all of it at once
-/

namespace Infra

/-- What can be done to the rows of type `ρ k` under some of the keys `k`. `act` is `none` when it
fails, and otherwise the new rows and the answer. -/
structure Action (κ : Type) (ρ : κ → Type) (α : Type) where
  keys : List κ
  act : (∀ k ∈ keys, ρ k) → Option ((∀ k ∈ keys, ρ k) × α)

/-- Statements, with what they do. -/
structure Statements (κ : Type) (ρ : κ → Type) where
  Stmt : Type
  Answer : Stmt → Type
  action : (q : Stmt) → Action κ ρ (Answer q)

variable {κ : Type} [DecidableEq κ] {ρ : κ → Type} {S : Statements κ ρ}

namespace Action

variable {α : Type} {db db' : ∀ k, ρ k}

/-- What can be done to the row under one key. -/
def row (k : κ) (f : ρ k → Option (ρ k × α)) : Action κ ρ α where
  keys := [k]
  act rows := (f (rows k (List.mem_singleton_self k))).map fun w =>
    (fun _ h => (List.mem_singleton.mp h).symm ▸ w.1, w.2)

/-- An action on the whole store. -/
def perform (a : Action κ ρ α) (db : ∀ k, ρ k) : Option ((∀ k, ρ k) × α) :=
  (a.act fun k _ => db k).map fun w => (fun k => if h : k ∈ a.keys then w.1 k h else db k, w.2)

theorem perform_row (k : κ) (f : ρ k → Option (ρ k × α)) (db : ∀ k, ρ k) :
    (row k f).perform db = (f (db k)).map fun w => (Function.update db k w.1, w.2) := by
  unfold perform row
  dsimp only
  rw [Option.map_map]
  refine congrArg (fun g => Option.map g _) (funext fun w => Prod.ext (funext fun k' => ?_) rfl)
  by_cases hk : k' = k
  · subst hk
    simp
  · simp [hk]

theorem perform_row_eq_some {k : κ} {f : ρ k → Option (ρ k × α)} {r : α} :
    (row k f).perform db = some (db', r) ↔
      ∃ v, f (db k) = some (v, r) ∧ db' = Function.update db k v := by
  rw [perform_row, Option.map_eq_some_iff]
  constructor
  · rintro ⟨⟨v, r⟩, hact, heq⟩
    cases heq
    exact ⟨v, hact, rfl⟩
  · rintro ⟨v, hact, rfl⟩
    exact ⟨(v, r), hact, rfl⟩

theorem perform_eq_some {a : Action κ ρ α} {r : α} :
    a.perform db = some (db', r) ↔
      ∃ v, a.act (fun k _ => db k) = some (v, r) ∧
        db' = fun k => if h : k ∈ a.keys then v k h else db k := by
  unfold perform
  rw [Option.map_eq_some_iff]
  constructor
  · rintro ⟨⟨v, r⟩, hact, heq⟩
    cases heq
    exact ⟨v, hact, rfl⟩
  · rintro ⟨v, hact, rfl⟩
    exact ⟨(v, r), hact, rfl⟩

end Action

namespace Statements

/-- A statement with its answer. -/
abbrev Entry (S : Statements κ ρ) : Type :=
  Σ q : S.Stmt, S.Answer q

/-- One statement on the whole store. -/
def perform (S : Statements κ ρ) (q : S.Stmt) (db : ∀ k, ρ k) :
    Option ((∀ k, ρ k) × S.Answer q) :=
  (S.action q).perform db

/-- The statements of the log, one after the other, give these answers. -/
def Replays (S : Statements κ ρ) : List S.Entry → (∀ k, ρ k) → (∀ k, ρ k) → Prop
  | [], db, db' => db' = db
  | e :: log, db, db' => ∃ db₁, S.perform e.1 db = some (db₁, e.2) ∧ S.Replays log db₁ db'

variable {log : List S.Entry} {db db' db'' : ∀ k, ρ k}

theorem replays_append {log' : List S.Entry} :
    S.Replays (log ++ log') db db'' ↔ ∃ db', S.Replays log db db' ∧ S.Replays log' db' db'' := by
  induction log generalizing db with
  | nil => simp [Replays]
  | cons e log ih =>
    simp only [List.cons_append, Replays, ih]
    constructor
    · rintro ⟨db₁, h₁, db', h, h'⟩
      exact ⟨db', ⟨db₁, h₁, h⟩, h'⟩
    · rintro ⟨db', ⟨db₁, h₁, h⟩, h'⟩
      exact ⟨db₁, h₁, db', h, h'⟩

theorem replays_concat {e : S.Entry} :
    S.Replays (log ++ [e]) db db'' ↔
      ∃ db', S.Replays log db db' ∧ S.perform e.1 db' = some (db'', e.2) := by
  rw [replays_append]
  refine exists_congr fun db' => and_congr_right fun _ => ?_
  simp [Replays]

/-- A log leads to one state at most. -/
theorem Replays.unique (h : S.Replays log db db') (h' : S.Replays log db db'') : db'' = db' := by
  induction log generalizing db with
  | nil => exact Eq.trans h' (Eq.symm h)
  | cons e log ih =>
    obtain ⟨db₁, h₁, h⟩ := h
    obtain ⟨db₂, h₂, h'⟩ := h'
    rw [h₁] at h₂
    cases h₂
    exact ih h h'

/-- A log can be replayed on any store that agrees on the keys that it names. -/
theorem Replays.congr {P : κ → Prop} (h : S.Replays log db db')
    (hP : ∀ e ∈ log, ∀ k ∈ (S.action e.1).keys, P k)
    {s s' : ∀ k, ρ k} (hs : ∀ k, P k → s k = db k) (hs' : ∀ k, P k → s' k = db' k)
    (hsame : ∀ k, ¬ P k → s' k = s k) : S.Replays log s s' := by
  induction log generalizing db s with
  | nil =>
    refine funext fun k => ?_
    by_cases hk : P k
    · rw [hs' k hk, hs k hk, h]
    · exact hsame k hk
  | cons e log ih =>
    obtain ⟨db₁, h₁, h⟩ := h
    obtain ⟨v, hact, rfl⟩ := Action.perform_eq_some.mp h₁
    have he : ∀ k ∈ (S.action e.1).keys, P k := hP e List.mem_cons_self
    have hrows : (fun k (_ : k ∈ (S.action e.1).keys) => s k) = fun k _ => db k :=
      funext fun k => funext fun hk => hs k (he k hk)
    refine ⟨fun k => if h : k ∈ (S.action e.1).keys then v k h else s k, ?_, ?_⟩
    · refine Action.perform_eq_some.mpr ⟨v, ?_, rfl⟩
      rw [hrows]
      exact hact
    · refine ih h (fun e he => hP e (List.mem_cons_of_mem _ he)) (fun k hk => ?_) (fun k hk => ?_)
      · by_cases hke : k ∈ (S.action e.1).keys
        · rw [dif_pos hke, dif_pos hke]
        · rw [dif_neg hke, dif_neg hke]
          exact hs k hk
      · rw [hsame k hk, dif_neg fun hke => hk (he k hke)]

end Statements

/-- The committed rows, who has locked which key, and the locked rows as their holders see them. -/
structure Locks (κ : Type) (ρ : κ → Type) (τ : Type) where
  rows : ∀ k, ρ k
  holder : κ → Option τ := fun _ => none
  draft : ∀ k, ρ k := rows

namespace Locks

variable {τ : Type} [DecidableEq τ] (s : Locks κ ρ τ) (a : τ)

/-- The rows as the transaction `a` sees them. -/
def view : ∀ k, ρ k :=
  fun k => if s.holder k = some a then s.draft k else s.rows k

/-- Nobody else holds one of the keys. -/
def Free (keys : List κ) : Prop :=
  ∀ k ∈ keys, s.holder k = none ∨ s.holder k = some a

instance (keys : List κ) : Decidable (s.Free a keys) :=
  inferInstanceAs (Decidable (∀ k ∈ keys, _ ∨ _))

/-- The transaction `a` holds no lock. -/
def Clean : Prop :=
  ∀ k, s.holder k ≠ some a

/-- A statement of the transaction `a`, on keys that are free for it. -/
def run (S : Statements κ ρ) (q : S.Stmt) : Option (Locks κ ρ τ × S.Answer q) :=
  ((S.action q).act fun k _ => s.view a k).map fun w =>
    ({ s with
        holder := fun k => if k ∈ (S.action q).keys then some a else s.holder k
        draft := fun k => if h : k ∈ (S.action q).keys then w.1 k h else s.draft k }, w.2)

/-- The end of the transaction `a`, without its changes. -/
def rollback : Locks κ ρ τ :=
  { s with holder := fun k => if s.holder k = some a then none else s.holder k }

/-- The end of the transaction `a`, with its changes. -/
def commit : Locks κ ρ τ :=
  { s with
    rows := s.view a
    holder := fun k => if s.holder k = some a then none else s.holder k }

/-- The transaction `a` has done the statements of the log, with these answers. -/
def Follows (S : Statements κ ρ) (log : List S.Entry) : Prop :=
  S.Replays log s.rows (s.view a) ∧ ∀ e ∈ log, ∀ k ∈ (S.action e.1).keys, s.holder k = some a

variable {s a} {b : τ} {log : List S.Entry}

omit [DecidableEq κ] in
theorem view_of_clean (h : s.Clean a) : s.view a = s.rows :=
  funext fun k => if_neg (h k)

omit [DecidableEq κ] in
theorem clean_rollback : (s.rollback a).Clean a := by
  intro k
  unfold rollback
  dsimp only
  split
  · simp
  · next h => exact h

omit [DecidableEq κ] in
theorem clean_commit : (s.commit a).Clean a :=
  clean_rollback

omit [DecidableEq κ] in
theorem Clean.rollback (h : s.Clean a) (b : τ) : (s.rollback b).Clean a := by
  intro k
  unfold Locks.rollback
  dsimp only
  split
  · simp
  · exact h k

omit [DecidableEq κ] in
theorem Clean.commit (h : s.Clean a) (b : τ) : (s.commit b).Clean a :=
  Clean.rollback h b

theorem Clean.run {s' : Locks κ ρ τ} {q : S.Stmt} {r : S.Answer q} (h : s.Clean a) (hab : b ≠ a)
    (hrun : s.run b S q = some (s', r)) : s'.Clean a := by
  unfold Locks.run at hrun
  rw [Option.map_eq_some_iff] at hrun
  obtain ⟨w, -, heq⟩ := hrun
  cases heq
  intro k
  dsimp only
  split
  · exact fun hba => hab (Option.some.inj hba)
  · exact h k

theorem follows_nil (h : s.Clean a) : s.Follows a S [] :=
  ⟨view_of_clean h, fun _ he => (List.not_mem_nil he).elim⟩

/-- The rows a transaction sees after one more statement. -/
theorem view_run {s' : Locks κ ρ τ} {q : S.Stmt} {r : S.Answer q}
    (hrun : s.run a S q = some (s', r)) :
    S.perform q (s.view a) = some (s'.view a, r) ∧ s'.rows = s.rows ∧
      s'.holder = fun k => if k ∈ (S.action q).keys then some a else s.holder k := by
  unfold Locks.run at hrun
  rw [Option.map_eq_some_iff] at hrun
  obtain ⟨⟨v, r'⟩, hact, heq⟩ := hrun
  cases heq
  refine ⟨Action.perform_eq_some.mpr ⟨v, hact, funext fun k => ?_⟩, rfl, rfl⟩
  unfold view
  dsimp only
  by_cases hk : k ∈ (S.action q).keys
  · simp [hk]
  · simp [hk]

/-- **One more statement.** -/
theorem Follows.run {s' : Locks κ ρ τ} {q : S.Stmt} {r : S.Answer q} (h : s.Follows a S log)
    (hrun : s.run a S q = some (s', r)) : s'.Follows a S (log ++ [⟨q, r⟩]) := by
  obtain ⟨hperform, hrows, hholder⟩ := view_run hrun
  refine ⟨?_, fun e he k hk => ?_⟩
  · rw [Statements.replays_concat, hrows]
    exact ⟨_, h.1, hperform⟩
  · rw [hholder]
    dsimp only
    split
    · rfl
    · next hne =>
      rcases List.mem_append.mp he with he | he
      · exact h.2 e he k hk
      · cases List.mem_singleton.mp he
        exact absurd hk hne

/-- What somebody else does to keys that the transaction does not hold. -/
theorem Follows.congr {s' : Locks κ ρ τ} (h : s.Follows a S log)
    (hholder : ∀ k, s'.holder k = some a ↔ s.holder k = some a)
    (hdraft : ∀ k, s.holder k = some a → s'.draft k = s.draft k)
    (hrows : ∀ k, s.holder k = some a → s'.rows k = s.rows k) : s'.Follows a S log := by
  refine ⟨h.1.congr (P := fun k => s.holder k = some a) h.2 hrows (fun k hk => ?_) fun k hk => ?_,
    fun e he k hk => (hholder k).mpr (h.2 e he k hk)⟩
  · unfold view
    rw [if_pos ((hholder k).mpr hk), if_pos hk]
    exact hdraft k hk
  · unfold view
    exact if_neg fun hk' => hk ((hholder k).mp hk')

omit [DecidableEq κ] in
theorem holder_rollback (hab : b ≠ a) (k : κ) :
    (s.rollback b).holder k = some a ↔ s.holder k = some a := by
  unfold rollback
  dsimp only
  split
  · next h =>
    rw [h]
    exact iff_of_false nofun fun hba => hab (Option.some.inj hba)
  · exact Iff.rfl

theorem Follows.rollback (h : s.Follows a S log) (hab : b ≠ a) :
    (s.rollback b).Follows a S log :=
  h.congr (holder_rollback hab) (fun _ _ => rfl) fun _ _ => rfl

theorem Follows.commit (h : s.Follows a S log) (hab : b ≠ a) : (s.commit b).Follows a S log := by
  refine h.congr (holder_rollback hab) (fun _ _ => rfl) fun k hk => ?_
  unfold Locks.commit view
  dsimp only
  rw [if_neg]
  rw [hk]
  exact fun hba => hab (Option.some.inj hba).symm

theorem Follows.other_run {s' : Locks κ ρ τ} {q : S.Stmt} {r : S.Answer q}
    (h : s.Follows a S log) (hab : b ≠ a) (hfree : s.Free b (S.action q).keys)
    (hrun : s.run b S q = some (s', r)) : s'.Follows a S log := by
  have hne : ∀ k, s.holder k = some a → k ∉ (S.action q).keys := by
    intro k hk hmem
    rcases hfree k hmem with hnone | hb
    · rw [hk] at hnone
      cases hnone
    · rw [hk] at hb
      exact hab (Option.some.inj hb).symm
  unfold Locks.run at hrun
  rw [Option.map_eq_some_iff] at hrun
  obtain ⟨w, -, heq⟩ := hrun
  cases heq
  refine h.congr (fun k => ?_) (fun k hk => dif_neg (hne k hk)) fun _ _ => rfl
  dsimp only
  split
  · next hkq =>
    exact iff_of_false (fun hba => hab (Option.some.inj hba)) fun hk => hne k hk hkq
  · exact Iff.rfl

/-- **A commit does the whole transaction at once.** -/
theorem replays_commit (h : s.Follows a S log) : S.Replays log s.rows (s.commit a).rows :=
  h.1

end Locks
end Infra
