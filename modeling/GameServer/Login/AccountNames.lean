import GameServer.Infra.Run
import GameServer.Login.LoginService
import Mathlib

/-!
# Names of accounts

`account_players_` holds the accounts of the users and the names that `GetOrCreatePlayerId` makes up
for guests. The names are numbered with the counter that numbers the players as well, and nothing
keeps a user from choosing one of them.

## What goes wrong, and what does not

The table itself never gives one player to two names (`Interned`). So two logins get the same player
exactly if they come with the same name, and the only names that should differ and may not are those
of a guest and of a user who has chosen the name of that guest, before or after.
-/

namespace Game

open Infra

variable {F : Type}

/-- A login of a run. -/
structure LoginRecord where
  account : String
  /-- What `NextPlayerId` was to return next when the login began. -/
  counter : PlayerId
  /-- What `GetOrCreatePlayerId` returned. -/
  playerId : PlayerId
  deriving DecidableEq

namespace LoginRecord

/-- The name that the login gets as a guest. -/
def guestName (r : LoginRecord) : String :=
  "guest_" ++ toString r.counter

/-- The name under which the login is in `account_players_`. -/
def key (r : LoginRecord) : String :=
  if r.account = "" then r.guestName else r.account

/-- Two logins return the same player exactly if they used the same account, which is not empty. -/
def Separate (a b : LoginRecord) : Prop :=
  a.playerId = b.playerId ↔ a.account = b.account ∧ a.account ≠ ""

/-- Neither login uses the name that the other one gets as a guest. -/
def Unnamed (a b : LoginRecord) : Prop :=
  (a.account = "" → b.account ≠ a.guestName) ∧ (b.account = "" → a.account ≠ b.guestName)

instance (a b : LoginRecord) : Decidable (Unnamed a b) :=
  inferInstanceAs (Decidable (_ ∧ _))

theorem guestName_injective {a b : LoginRecord} (h : a.guestName = b.guestName) :
    a.counter = b.counter := by
  unfold guestName at h
  simp only [Int.toString_eq_repr, String.append_right_inj] at h
  exact Int.repr_injective h

/-- What the table says about two logins. -/
theorem separate_iff_unnamed {a b : LoginRecord}
    (hkey : a.playerId = b.playerId ↔ a.key = b.key)
    (hcounter : a.account = "" → a.counter ≠ b.counter) : Separate a b ↔ Unnamed a b := by
  unfold Separate Unnamed
  rw [hkey]
  unfold key
  by_cases ha : a.account = "" <;> by_cases hb : b.account = ""
  · -- Two guests have two names.
    have hnames : a.guestName ≠ b.guestName := fun h => hcounter ha (guestName_injective h)
    have hempty : ∀ r : LoginRecord, r.guestName ≠ "" := by
      intro r
      simp [guestName]
    rw [if_pos ha, if_pos hb, ha, hb]
    refine iff_of_true ?_ ⟨fun _ => (hempty a).symm, fun _ => (hempty b).symm⟩
    exact iff_of_false hnames fun h => h.2 rfl
  · have hcomm : a.guestName = b.account ↔ b.account = a.guestName := eq_comm
    simp [ha, hb, hcomm]
  · simp [ha, hb]
  · simp [ha, hb]

end LoginRecord

namespace Server

/-- A login, as far as the accounts go. -/
def login (s : Server F) (account : String) : LoginRecord × Server F :=
  (⟨account, s.nextPlayerId, (s.getOrCreatePlayerId account).1⟩, (s.getOrCreatePlayerId account).2)

/-- The table gives nobody to two names, and no id that is still to come. -/
structure Interned (s : Server F) : Prop where
  lt : ∀ key p, s.loginService.accountPlayers key = some p → p < s.nextPlayerId
  unique : ∀ key key' p, s.loginService.accountPlayers key = some p →
    s.loginService.accountPlayers key' = some p → key = key'

/-- `s'` comes later than `s`: it has all the names. -/
structure Names (s s' : Server F) : Prop where
  kept : ∀ key p, s.loginService.accountPlayers key = some p →
    s'.loginService.accountPlayers key = some p
  le : s.nextPlayerId ≤ s'.nextPlayerId

theorem Names.refl (s : Server F) : s.Names s :=
  ⟨fun _ _ h => h, le_refl _⟩

theorem Names.trans {s s' s'' : Server F} (h : s.Names s') (h' : s'.Names s'') : s.Names s'' :=
  ⟨fun key p hp => h'.kept key p (h.kept key p hp), h.le.trans h'.le⟩

/-! ## One login -/

/-- The part of `GetOrCreatePlayerId` behind the choice of the name. -/
def findOrEnter (s : Server F) (key : String) : PlayerId × Server F :=
  match s.loginService.accountPlayers key with
  | some playerId => (playerId, s)
  | none =>
    (s.nextPlayerId,
      { s with
        nextPlayerId := s.nextPlayerId + 1
        loginService := { s.loginService with
          accountPlayers :=
            Function.update s.loginService.accountPlayers key (some s.nextPlayerId) } })

theorem getOrCreatePlayerId_eq (s : Server F) (account : String) : s.getOrCreatePlayerId account =
    if account = "" then
      { s with nextPlayerId := s.nextPlayerId + 1 }.findOrEnter ("guest_" ++ toString s.nextPlayerId)
    else s.findOrEnter account := by
  unfold getOrCreatePlayerId
  by_cases ha : account = ""
  · rw [if_pos ha, if_pos ha]
    rfl
  · rw [if_neg ha, if_neg ha]
    rfl

theorem findOrEnter_spec {s : Server F} (h : s.Interned) (key : String) :
    (s.findOrEnter key).2.Interned ∧ s.Names (s.findOrEnter key).2 ∧
      (s.findOrEnter key).2.loginService.accountPlayers key = some (s.findOrEnter key).1 := by
  unfold findOrEnter
  split
  · next p hp => exact ⟨h, .refl s, hp⟩
  · next hnone =>
    have hlt := Int.lt_add_one_of_le (le_refl s.nextPlayerId)
    have hold : ∀ k p, s.loginService.accountPlayers k = some p → k ≠ key := by
      rintro k p hk rfl
      simp [hnone] at hk
    -- An entry is the new one or an old one, and the new one has a new id.
    have hentry : ∀ k p, Function.update s.loginService.accountPlayers key (some s.nextPlayerId) k =
        some p → (k = key ∧ p = s.nextPlayerId) ∨ s.loginService.accountPlayers k = some p := by
      intro k p hk
      rw [Function.update_apply] at hk
      split at hk
      · next hk' => exact Or.inl ⟨hk', (Option.some.inj hk).symm⟩
      · exact Or.inr hk
    refine ⟨⟨fun k p hk => ?_, fun k k' p hk hk' => ?_⟩, ⟨fun k p hk => ?_, hlt.le⟩,
      Function.update_self ..⟩
    · rcases hentry k p hk with ⟨-, rfl⟩ | hk
      · exact hlt
      · exact (h.lt k p hk).trans hlt
    · rcases hentry k p hk with ⟨hkey, hp⟩ | hold
      · rcases hentry k' p hk' with ⟨hkey', -⟩ | hold'
        · exact hkey.trans hkey'.symm
        · exact absurd (hp ▸ h.lt k' p hold') (lt_irrefl _)
      · rcases hentry k' p hk' with ⟨-, hp⟩ | hold'
        · exact absurd (hp ▸ h.lt k p hold) (lt_irrefl _)
        · exact h.unique k k' p hold hold'
    · show Function.update s.loginService.accountPlayers key (some s.nextPlayerId) k = some p
      rw [Function.update_of_ne (hold k p hk)]
      exact hk

/-- **One login.** -/
theorem login_spec {s : Server F} (h : s.Interned) (account : String) :
    (s.login account).2.Interned ∧ s.Names (s.login account).2 ∧
      (s.login account).2.loginService.accountPlayers (s.login account).1.key =
        some (s.login account).1.playerId ∧
      (account = "" → s.nextPlayerId < (s.login account).2.nextPlayerId) := by
  unfold login LoginRecord.key LoginRecord.guestName
  dsimp only
  rw [getOrCreatePlayerId_eq]
  split
  · have hlt := Int.lt_add_one_of_le (le_refl s.nextPlayerId)
    have hinterned : { s with nextPlayerId := s.nextPlayerId + 1 }.Interned :=
      ⟨fun key p hp => (h.lt key p hp).trans hlt, h.unique⟩
    obtain ⟨hafter, hnames, hfound⟩ :=
      findOrEnter_spec hinterned ("guest_" ++ toString s.nextPlayerId)
    exact ⟨hafter, ⟨hnames.kept, hlt.le.trans hnames.le⟩, hfound, fun _ => hlt.trans_le hnames.le⟩
  · next hne =>
    obtain ⟨hafter, hnames, hfound⟩ := findOrEnter_spec h account
    exact ⟨hafter, hnames, hfound, fun hempty => absurd hempty hne⟩

/-! ## A run of logins -/

/-- **A run of logins** ends with a table that has the names of all of them, and a guest has a
smaller number than whoever comes after. -/
theorem logins_spec (accounts : List String) {s : Server F} (h : s.Interned) :
    ∃ s' : Server F, s'.Interned ∧ s.Names s' ∧
      (∀ r ∈ answers login s accounts, s.nextPlayerId ≤ r.counter ∧
        s'.loginService.accountPlayers r.key = some r.playerId) ∧
      (answers login s accounts).Pairwise fun a b => a.account = "" → a.counter < b.counter := by
  induction accounts generalizing s with
  | nil => exact ⟨s, h, .refl s, by simp [answers], by simp [answers]⟩
  | cons account accounts ih =>
    obtain ⟨hinterned, hnames, hfound, hguest⟩ := login_spec h account
    obtain ⟨s', hs', hlater, hall, hpair⟩ := ih hinterned
    rw [answers]
    refine ⟨s', hs', hnames.trans hlater, ?_, ?_⟩
    · intro r hr
      rcases List.mem_cons.mp hr with rfl | hr
      · exact ⟨le_refl _, hlater.kept _ _ hfound⟩
      · exact ⟨hnames.le.trans (hall r hr).1, (hall r hr).2⟩
    · refine List.pairwise_cons.mpr ⟨fun r hr hempty => ?_, hpair⟩
      exact (hguest hempty).trans_le (hall r hr).1

open LoginRecord in
/--
**Accounts map to players injectively**, unless somebody has the name of a guest for an account.

Any logins, one after the other, on a server whose `LoginService` is new. Two logins always return
the same player exactly if they used the same non-empty account, so nobody else gets the player of a
login with an empty account, exactly if no login uses the name that another one gets as a guest.
-/
theorem logins_separate_iff (s : Server F) (accounts : List String) :
    let records := answers login { s with loginService := {} } accounts
    records.Pairwise Separate ↔ records.Pairwise Unnamed := by
  intro records
  have hnew : Interned { s with loginService := {} } :=
    ⟨fun _ _ h => (by cases h), fun _ _ _ h => (by cases h)⟩
  obtain ⟨s', hinterned, -, hall, hpair⟩ := logins_spec accounts hnew
  have hiff : ∀ {a b}, a ∈ records → b ∈ records →
      ((a.account = "" → a.counter < b.counter) ∧ Separate a b ↔
        (a.account = "" → a.counter < b.counter) ∧ Unnamed a b) := by
    intro a b ha hb
    refine and_congr_right fun hcounter => ?_
    have hkeys : a.playerId = b.playerId ↔ a.key = b.key := by
      constructor
      · intro h
        exact hinterned.unique _ _ _ (hall a ha).2 (h ▸ (hall b hb).2)
      · intro h
        have hb' := (hall b hb).2
        rw [← h, (hall a ha).2] at hb'
        exact Option.some.inj hb'
    exact separate_iff_unnamed hkeys fun hempty => (hcounter hempty).ne
  have hboth := List.Pairwise.iff_of_mem hiff
  rw [List.pairwise_and_iff, List.pairwise_and_iff] at hboth
  exact ⟨fun h => (hboth.mp ⟨hpair, h⟩).2, fun h => (hboth.mpr ⟨hpair, h⟩).2⟩

open LoginRecord in
/-- A guest, and a user who calls himself like that guest. -/
theorem logins_counterexample :
    ¬ (answers login ({} : Server Unit) ["", "guest_100000"]).Pairwise Separate := by
  intro h
  have hrecords : answers login ({} : Server Unit) ["", "guest_100000"] =
      [⟨"", 100000, 100001⟩, ⟨"guest_100000", 100002, 100001⟩] := by decide
  rw [hrecords] at h
  simp [Separate] at h

end Server
end Game
