import GameServer.Storage.SettlementService
import Mathlib.Data.Finset.Card

/-!
# Accounts

What the tables say when every battle has been settled once or not at all: the rows of a battle
agree with each other, and the statistics of a player are those of the settled battles.

The statements outside of transactions keep this (`Accounting.autocommit`).
-/

namespace Game

open Infra BattleRepository

namespace Db

variable (db : Db) (battleId : BattleId) (playerId : PlayerId)

/-! ## Battles -/

def Settled : Prop :=
  ∃ row, db (.battle battleId) = some row ∧ row.settled = 1

def winner : PlayerId :=
  match db (.battle battleId) with
  | none => 0
  | some row => row.winnerId

def participants : List PlayerId :=
  (db (.results battleId)).map (·.playerId)

/-- No trace of a settlement. -/
structure WhollyUnsettled : Prop where
  settled : ∀ row, db (.battle battleId) = some row → row.settled = 0
  results : db (.results battleId) = []
  logs : db (.logs battleId) = []

/-- One result and one log entry for each participant, and one of them has won. -/
structure WhollySettled : Prop where
  settled : db.Settled battleId
  nodup : (db.participants battleId).Nodup
  winner : db.winner battleId ∈ db.participants battleId
  results : ∀ x ∈ db (.results battleId),
    x.result = (if x.playerId = db.winner battleId then "WIN" else "LOSE") ∧
      x.scoreDelta = if x.playerId = db.winner battleId then 20 else -10
  logs : db (.logs battleId) = (db (.results battleId)).map fun x => ⟨x.playerId, x.scoreDelta⟩

/-! ## Players -/

/-- How many of the battles the player has won. -/
def wins (battles : Finset BattleId) : Nat :=
  (battles.filter fun b => db.winner b = playerId).card

/-- How many of the battles the player has taken part in and not won. -/
def losses (battles : Finset BattleId) : Nat :=
  (battles.filter fun b => playerId ∈ db.participants b ∧ db.winner b ≠ playerId).card

/-- `player.score`, when there is such a row. -/
def score : Option Int :=
  (db (.player playerId)).map (·.score)

/-- The statistics of a player; those of a new one when there is no row. -/
def standing : PlayerRow :=
  (db (.player playerId)).getD { name := Stmt.playerName playerId }

end Db

/--
Every battle is wholly settled or wholly unsettled, and the statistics of the players are those of
the settled battles.
-/
structure Accounted (db : Db) : Prop where
  battle : ∀ b, db.WhollyUnsettled b ∨ db.WhollySettled b
  player : ∃ settled : Finset BattleId, (∀ b, b ∈ settled ↔ db.Settled b) ∧
    ∀ p row, db (.player p) = some row →
      row.winCount = db.wins p settled ∧ row.loseCount = db.losses p settled ∧
        row.score = 1000 + 20 * row.winCount - 10 * row.loseCount

/-- The ids of a settled battle are those that `SettleBattle` accepts. -/
structure Db.Positive (db : Db) (b : BattleId) : Prop where
  battle : 0 < b
  row : ∀ row, db (.battle b) = some row → 0 < row.roomId ∧ 0 < row.winnerId
  participants : ∀ p ∈ db.participants b, 0 < p

/-- The same with a player without a row as somebody who has not played. -/
structure Accounting (db : Db) (settled : Finset BattleId) : Prop where
  battle : ∀ b, db.WhollyUnsettled b ∨ db.WhollySettled b
  positive : ∀ b, db.Settled b → db.Positive b
  mem : ∀ b, b ∈ settled ↔ db.Settled b
  wins : ∀ p, (db.standing p).winCount = db.wins p settled
  losses : ∀ p, (db.standing p).loseCount = db.losses p settled
  score : ∀ p,
    (db.standing p).score = 1000 + 20 * (db.standing p).winCount - 10 * (db.standing p).loseCount

variable {db db' : Db} {settled : Finset BattleId}

theorem Accounting.accounted (h : Accounting db settled) : Accounted db where
  battle := h.battle
  player := by
    refine ⟨settled, h.mem, fun p row hrow => ?_⟩
    have hstanding : db.standing p = row := by rw [Db.standing, hrow, Option.getD_some]
    have hwins := h.wins p
    have hlosses := h.losses p
    have hscore := h.score p
    rw [hstanding] at hwins hlosses hscore
    exact ⟨hwins, hlosses, hscore⟩

theorem Accounting.empty : Accounting Db.empty ∅ where
  battle b := Or.inl ⟨fun _ h => (by cases h), rfl, rfl⟩
  positive b := fun ⟨_, h, _⟩ => by cases h
  mem b := iff_of_false (Finset.notMem_empty b) fun ⟨_, h, _⟩ => by cases h
  wins p := rfl
  losses p := rfl
  score p := rfl

/-! ## What can change -/

/-- Settled battles stay as they are, and only players of newly settled ones get another score. -/
structure Evolves (db db' : Db) : Prop where
  battle : ∀ b, db.Settled b → db' (.battle b) = db (.battle b)
  results : ∀ b, db.Settled b → db' (.results b) = db (.results b)
  score : ∀ p b, db.Settled b → p ∈ db.participants b →
    db'.score p = db.score p ∨
      ∃ b', ¬ db.Settled b' ∧ db'.Settled b' ∧ p ∈ db'.participants b'

theorem Evolves.refl (db : Db) : Evolves db db where
  battle _ _ := rfl
  results _ _ := rfl
  score _ _ _ _ := Or.inl rfl

theorem Db.settled_congr {b : BattleId} (h : db' (.battle b) = db (.battle b)) :
    db'.Settled b ↔ db.Settled b := by
  unfold Settled
  rw [h]

theorem Db.winner_congr {b : BattleId} (h : db' (.battle b) = db (.battle b)) :
    db'.winner b = db.winner b := by
  unfold winner
  rw [h]

theorem Db.participants_congr {b : BattleId} (h : db' (.results b) = db (.results b)) :
    db'.participants b = db.participants b := by
  unfold participants
  rw [h]

theorem Db.standing_congr {p : PlayerId} (h : db' (.player p) = db (.player p)) :
    db'.standing p = db.standing p := by
  unfold standing
  rw [h]

theorem Db.Positive.congr {b : BattleId} (hbattle : db' (.battle b) = db (.battle b))
    (hresults : db' (.results b) = db (.results b)) (h : db.Positive b) : db'.Positive b where
  battle := h.battle
  row := hbattle ▸ h.row
  participants := participants_congr hresults ▸ h.participants

theorem Evolves.isSettled (h : Evolves db db') {b : BattleId} (hb : db.Settled b) :
    db'.Settled b :=
  (Db.settled_congr (h.battle b hb)).mpr hb

theorem Evolves.participants (h : Evolves db db') {b : BattleId} (hb : db.Settled b) :
    db'.participants b = db.participants b :=
  Db.participants_congr (h.results b hb)

theorem Evolves.trans {db'' : Db} (h : Evolves db db') (h' : Evolves db' db'') :
    Evolves db db'' where
  battle b hb := (h'.battle b (h.isSettled hb)).trans (h.battle b hb)
  results b hb := (h'.results b (h.isSettled hb)).trans (h.results b hb)
  score p b hb hp := by
    rcases h.score p b hb hp with hsame | ⟨b', hnew, hb', hp'⟩
    · rcases h'.score p b (h.isSettled hb) (h.participants hb ▸ hp) with hsame' |
        ⟨b', hnew, hb', hp'⟩
      · exact Or.inl (hsame'.trans hsame)
      · exact Or.inr ⟨b', fun h₀ => hnew (h.isSettled h₀), hb', hp'⟩
    · exact Or.inr ⟨b', hnew, h'.isSettled hb', h'.participants hb' ▸ hp'⟩

/-- The rows of a battle, and those of another state that has the same. -/
theorem Db.wholly_congr {b : BattleId} (hbattle : db' (.battle b) = db (.battle b))
    (hresults : db' (.results b) = db (.results b)) (hlogs : db' (.logs b) = db (.logs b))
    (h : db.WhollyUnsettled b ∨ db.WhollySettled b) :
    db'.WhollyUnsettled b ∨ db'.WhollySettled b := by
  rcases h with ⟨h₁, h₂, h₃⟩ | ⟨h₁, h₂, h₃, h₄, h₅⟩
  · refine Or.inl ⟨?_, ?_, ?_⟩
    · rwa [hbattle]
    · rwa [hresults]
    · rwa [hlogs]
  · refine Or.inr ⟨(settled_congr hbattle).mpr h₁, ?_, ?_, ?_, ?_⟩
    · rwa [participants_congr hresults]
    · rwa [participants_congr hresults, winner_congr hbattle]
    · rwa [hresults, winner_congr hbattle]
    · rwa [hresults, hlogs]

/-- The counts do not depend on anything but the winners and participants of the battles. -/
theorem Db.tally_congr (hwinner : ∀ b ∈ settled, db'.winner b = db.winner b)
    (hparticipants : ∀ b ∈ settled, db'.participants b = db.participants b) (p : PlayerId) :
    db'.wins p settled = db.wins p settled ∧ db'.losses p settled = db.losses p settled := by
  constructor
  · exact congrArg Finset.card (Finset.filter_congr fun b hb => by rw [hwinner b hb])
  · refine congrArg Finset.card (Finset.filter_congr fun b hb => ?_)
    rw [hwinner b hb, hparticipants b hb]

/-! ## Statements outside of transactions -/

/-- The statements that the code issues outside of transactions. -/
def Sql.Autocommit : Sql → Prop
  | select _ => True
  | dml (.insertBattle _) => True
  | dml (.insertPlayer _ _ score winCount loseCount) => score = 1000 ∧ winCount = 0 ∧ loseCount = 0
  | _ => False

/-- What such a statement does: nothing, a new battle, or a new player or name. -/
theorem perform_autocommit {st : Stmt} {r : st.sql.Answer} (hst : st.sql.Autocommit)
    (h : mysqlStatements.perform st db = some (db', r)) :
    db' = db ∨
      (∃ b row, row.settled = 0 ∧ db (.battle b) = none ∧ db' (.battle b) = some row ∧
        ∀ k, k ≠ .battle b → db' k = db k) ∨
      ∃ p name, db' (.player p) = some { db.standing p with name := name } ∧
        ∀ k, k ≠ .player p → db' k = db k := by
  obtain ⟨n, sql⟩ := st
  cases sql with
  | select q =>
    left
    cases q <;>
    · obtain ⟨v, hact, rfl⟩ := Action.perform_row_eq_some.mp h
      cases hact
      exact Function.update_eq_self ..
  | dml q =>
    right
    cases q with
    | insertBattle roomId =>
      left
      obtain ⟨v, hact, rfl⟩ := Action.perform_row_eq_some.mp h
      cases hrow : db (.battle n) with
      | none =>
        rw [hrow] at hact
        cases hact
        exact ⟨n, _, rfl, hrow, Function.update_self .., fun k hk => Function.update_of_ne hk ..⟩
      | some row =>
        rw [hrow] at hact
        cases hact
    | insertPlayer p literal score winCount loseCount =>
      right
      obtain ⟨rfl, rfl, rfl⟩ := hst
      obtain ⟨v, hact, rfl⟩ := Action.perform_row_eq_some.mp h
      have hv : ∃ name, v = some { db.standing p with name := name } := by
        unfold Stmt.insertPlayer at hact
        unfold Db.standing
        split at hact
        · cases hact
        · next name hname =>
          dsimp only at hact
          refine ⟨String.ofList name, ?_⟩
          split at hact
          · split at hact
            · next hrow =>
              cases hact
              rw [hrow]
              rfl
            · next old hrow =>
              cases hact
              rw [hrow]
              rfl
          · cases hact
      obtain ⟨name, rfl⟩ := hv
      exact ⟨p, name, Function.update_self .., fun k hk => Function.update_of_ne hk ..⟩
    | _ => exact hst.elim

theorem Accounting.newBattle (hA : Accounting db settled) {b₀ : BattleId} {row : BattleRow}
    (hrow : row.settled = 0) (hnone : db (.battle b₀) = none) (hsome : db' (.battle b₀) = some row)
    (hsame : ∀ k, k ≠ .battle b₀ → db' k = db k) : Accounting db' settled ∧ Evolves db db' := by
  have hold : ∀ b, db.Settled b → b ≠ b₀ := by
    rintro b ⟨row, hb, -⟩ rfl
    rw [hnone] at hb
    cases hb
  have hbattle : ∀ b, b ≠ b₀ → db' (.battle b) = db (.battle b) :=
    fun b hb => hsame _ fun h => hb (Key.battle.inj h)
  have hresults : ∀ b, db' (.results b) = db (.results b) := fun b => hsame _ nofun
  have hlogs : ∀ b, db' (.logs b) = db (.logs b) := fun b => hsame _ nofun
  have hplayer : ∀ p, db' (.player p) = db (.player p) := fun p => hsame _ nofun
  have hsettled : ∀ b, db'.Settled b ↔ db.Settled b := by
    intro b
    by_cases hb : b = b₀
    · subst hb
      refine iff_of_false ?_ fun h => hold b h rfl
      rintro ⟨row', hrow', hone⟩
      rw [hsome] at hrow'
      cases hrow'
      rw [hrow] at hone
      cases hone
    · exact Db.settled_congr (hbattle b hb)
  have htally : ∀ p, db'.wins p settled = db.wins p settled ∧
      db'.losses p settled = db.losses p settled := Db.tally_congr
    (fun b hb => Db.winner_congr (hbattle b (hold b ((hA.mem b).mp hb))))
    (fun b _ => Db.participants_congr (hresults b))
  have hstanding : ∀ p, db'.standing p = db.standing p := fun p => Db.standing_congr (hplayer p)
  have hkept : ∀ b, db.Settled b → db' (.battle b) = db (.battle b) :=
    fun b hb => hbattle b (hold b hb)
  refine ⟨⟨fun b => ?_, fun b hb => ?_, fun b => (hA.mem b).trans (hsettled b).symm,
    fun p => ?_, fun p => ?_, fun p => ?_⟩, hkept, fun b _ => hresults b,
    fun p _ _ _ => Or.inl ?_⟩
  · by_cases hb : b = b₀
    · subst hb
      rcases hA.battle b with hun | hwh
      · refine Or.inl ⟨fun row' hrow' => ?_, (hresults b).trans hun.results,
          (hlogs b).trans hun.logs⟩
        rw [hsome] at hrow'
        cases hrow'
        exact hrow
      · exact absurd rfl (hold b hwh.settled)
    · exact Db.wholly_congr (hbattle b hb) (hresults b) (hlogs b) (hA.battle b)
  · have hb := (hsettled b).mp hb
    exact (hA.positive b hb).congr (hkept b hb) (hresults b)
  · rw [hstanding, (htally p).1]
    exact hA.wins p
  · rw [hstanding, (htally p).2]
    exact hA.losses p
  · rw [hstanding]
    exact hA.score p
  · unfold Db.score
    rw [hplayer]

/-- Whoever has taken part in a settled battle has a row. -/
theorem Accounting.exists_row (hA : Accounting db settled) {b : BattleId} {p : PlayerId}
    (hb : db.Settled b) (hp : p ∈ db.participants b) : ∃ row, db (.player p) = some row := by
  cases hrow : db (.player p) with
  | some row => exact ⟨row, rfl⟩
  | none =>
    exfalso
    have hstanding : db.standing p = { name := Stmt.playerName p } := by
      rw [Db.standing, hrow, Option.getD_none]
    have hwins := hA.wins p
    have hlosses := hA.losses p
    rw [hstanding] at hwins hlosses
    change (0 : Int) = _ at hwins hlosses
    have hmem := (hA.mem b).mpr hb
    by_cases hwinner : db.winner b = p
    · have hpos : 0 < db.wins p settled :=
        Finset.card_pos.mpr ⟨b, Finset.mem_filter.mpr ⟨hmem, hwinner⟩⟩
      omega
    · have hpos : 0 < db.losses p settled :=
        Finset.card_pos.mpr ⟨b, Finset.mem_filter.mpr ⟨hmem, hp, hwinner⟩⟩
      omega

theorem Accounting.namePlayer (hA : Accounting db settled) {p₀ : PlayerId} {name : String}
    (hsome : db' (.player p₀) = some { db.standing p₀ with name := name })
    (hsame : ∀ k, k ≠ .player p₀ → db' k = db k) : Accounting db' settled ∧ Evolves db db' := by
  have hbattle : ∀ b, db' (.battle b) = db (.battle b) := fun b => hsame _ nofun
  have hresults : ∀ b, db' (.results b) = db (.results b) := fun b => hsame _ nofun
  have hlogs : ∀ b, db' (.logs b) = db (.logs b) := fun b => hsame _ nofun
  have hplayer : ∀ p, p ≠ p₀ → db' (.player p) = db (.player p) :=
    fun p hp => hsame _ fun h => hp (Key.player.inj h)
  have hsettled : ∀ b, db'.Settled b ↔ db.Settled b := fun b => Db.settled_congr (hbattle b)
  have htally : ∀ p, db'.wins p settled = db.wins p settled ∧
      db'.losses p settled = db.losses p settled := Db.tally_congr
    (fun b _ => Db.winner_congr (hbattle b)) (fun b _ => Db.participants_congr (hresults b))
  have hstanding : ∀ p, ∃ name, db'.standing p = { db.standing p with name := name } := by
    intro p
    by_cases hp : p = p₀
    · subst hp
      exact ⟨name, by rw [Db.standing, hsome, Option.getD_some]⟩
    · exact ⟨(db.standing p).name, Db.standing_congr (hplayer p hp)⟩
  refine ⟨⟨fun b => Db.wholly_congr (hbattle b) (hresults b) (hlogs b) (hA.battle b),
    fun b hb => (hA.positive b ((hsettled b).mp hb)).congr (hbattle b) (hresults b),
    fun b => (hA.mem b).trans (hsettled b).symm, fun p => ?_, fun p => ?_, fun p => ?_⟩,
    fun b _ => hbattle b, fun b _ => hresults b, fun p b hb hp => Or.inl ?_⟩
  · obtain ⟨name, h⟩ := hstanding p
    rw [h, (htally p).1]
    exact hA.wins p
  · obtain ⟨name, h⟩ := hstanding p
    rw [h, (htally p).2]
    exact hA.losses p
  · obtain ⟨name, h⟩ := hstanding p
    rw [h]
    exact hA.score p
  · obtain ⟨row, hrow⟩ := hA.exists_row hb hp
    unfold Db.score
    by_cases hpp : p = p₀
    · subst hpp
      rw [hsome, Db.standing, hrow]
      rfl
    · rw [hplayer p hpp]

/-- **Statements outside of transactions keep the accounts.** -/
theorem Accounting.autocommit {st : Stmt} {r : st.sql.Answer} (hA : Accounting db settled)
    (hst : st.sql.Autocommit) (h : mysqlStatements.perform st db = some (db', r)) :
    Accounting db' settled ∧ Evolves db db' := by
  rcases perform_autocommit hst h with rfl | ⟨b, row, hrow, hnone, hsome, hsame⟩ |
    ⟨p, name, hsome, hsame⟩
  · exact ⟨hA, .refl _⟩
  · exact hA.newBattle hrow hnone hsome hsame
  · exact hA.namePlayer hsome hsame

end Game
