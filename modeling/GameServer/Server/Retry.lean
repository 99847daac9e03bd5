import GameServer.Infra.History
import GameServer.Server.Server

/-!
# Retrying a settlement

The settlement of one room seen from outside: which calls the tick callback makes, and in which
order. `Retry` is a small machine that allows exactly the next call, and `BattleEvent.Allowed` says
what may be called after which calls. Every history that the machine accepts is made of calls that
were allowed (`Retry.justified`).
-/

namespace Game

open Infra

/-- Some `SettleBattle` has returned true. -/
def HasSettled (r : RoomId) (past : List BattleEvent) : Prop :=
  ∃ battleId winnerId losers, .settleBattle r battleId winnerId losers true ∈ past

/-- The callback has just got past `next_attempt`. -/
def InAttempt (r : RoomId) (past : List BattleEvent) : Prop :=
  ∃ earlier steadyMs, past = earlier ++ [.attempt r steadyMs]

/-- The callback has just got past `next_attempt` and has created the battle. -/
def HasCreated (r : RoomId) (past : List BattleEvent) : Prop :=
  ∃ earlier battleId, past = earlier ++ [.createBattle r battleId] ∧ InAttempt r earlier

/-- What the callback may call for the room `r`, given the calls that it has made for it. -/
def BattleEvent.Allowed (r : RoomId) (winnerId : PlayerId) (losers : List PlayerId)
    (past : List BattleEvent) : BattleEvent → Prop
  | .attempt _ steadyMs =>
    -- at least a second after all attempts before
    ¬ HasSettled r past ∧ ∀ earlier, .attempt r earlier ∈ past → earlier + 1000 ≤ steadyMs
  | .createBattle _ _ =>
    ¬ HasSettled r past ∧ InAttempt r past ∧ ∀ battleId, .createBattle r battleId ∈ past → battleId = 0
  | .settleBattle _ battleId winnerId' losers' _ =>
    -- always the same arguments
    ¬ HasSettled r past ∧ (InAttempt r past ∨ HasCreated r past) ∧
      battleId ≠ 0 ∧ .createBattle r battleId ∈ past ∧
      (∀ battleId' w ls settled, .settleBattle r battleId' w ls settled ∈ past →
        battleId' = battleId) ∧
      winnerId' = winnerId ∧ losers' = losers
  | .gameOver _ => HasSettled r past ∧ .gameOver r ∉ past
  | .removeRoom _ => HasSettled r past ∧ .gameOver r ∈ past ∧ .removeRoom r ∉ past

/-! ## The machine -/

/-- Where the callback is with the settlement of a room. -/
inductive RetryStage where
  | idle
  /-- Past `next_attempt`. -/
  | attempting
  /-- `CreateBattle` has returned an id in this attempt. -/
  | created
  | settled
  | announced
  | removed
  deriving DecidableEq

/-- The settlement of a room: the battle id, 0 for none, and the time of the last attempt. -/
structure Retry where
  stage : RetryStage := .idle
  battleId : Int := 0
  last : Option Int := none

namespace Retry

/-- The next call, when it is the right one. -/
def next (winnerId : PlayerId) (losers : List PlayerId) (q : Retry) : BattleEvent → Option Retry
  | .attempt _ steadyMs =>
    if q.stage = .idle ∧ ∀ earlier ∈ q.last, earlier + 1000 ≤ steadyMs then
      some { q with stage := .attempting, last := some steadyMs }
    else none
  | .createBattle _ battleId =>
    if q.stage = .attempting ∧ q.battleId = 0 then
      some { q with stage := if battleId = 0 then .idle else .created, battleId := battleId }
    else none
  | .settleBattle _ battleId winnerId' losers' settled =>
    if (q.stage = .attempting ∨ q.stage = .created) ∧ q.battleId ≠ 0 ∧ battleId = q.battleId ∧
        winnerId' = winnerId ∧ losers' = losers then
      some { q with stage := if settled then .settled else .idle }
    else none
  | .gameOver _ => if q.stage = .settled then some { q with stage := .announced } else none
  | .removeRoom _ => if q.stage = .announced then some { q with stage := .removed } else none

/-- The machine of the room `r`; calls for other rooms are none of its business. -/
def step (r : RoomId) (winnerId : PlayerId) (losers : List PlayerId) (q : Retry)
    (e : BattleEvent) : Option Retry :=
  if e.roomId = r then q.next winnerId losers e else none

/-! ## What it guarantees -/

/-- What the machine remembers of the calls. -/
structure Remembers (r : RoomId) (q : Retry) (past : List BattleEvent) : Prop where
  last : ∀ steadyMs, .attempt r steadyMs ∈ past → ∃ last ∈ q.last, steadyMs ≤ last
  battleId : q.battleId ≠ 0 → .createBattle r q.battleId ∈ past
  created : ∀ battleId, .createBattle r battleId ∈ past → battleId ≠ 0 → battleId = q.battleId
  settling : ∀ battleId w ls settled, .settleBattle r battleId w ls settled ∈ past →
    battleId = q.battleId ∧ battleId ≠ 0
  inAttempt : q.stage = .attempting → InAttempt r past
  hasCreated : q.stage = .created → HasCreated r past
  settled : HasSettled r past ↔ q.stage = .settled ∨ q.stage = .announced ∨ q.stage = .removed
  announced : .gameOver r ∈ past ↔ q.stage = .announced ∨ q.stage = .removed
  removed : .removeRoom r ∈ past ↔ q.stage = .removed

theorem hasSettled_concat {r : RoomId} {past : List BattleEvent} {e : BattleEvent} :
    HasSettled r (past ++ [e]) ↔ HasSettled r past ∨ ∃ id w ls, e = .settleBattle r id w ls true := by
  unfold HasSettled
  simp only [List.mem_append, List.mem_singleton, exists_or, eq_comm]

theorem Remembers.start (r : RoomId) : Remembers r {} [] where
  last := by simp
  battleId := by simp
  created := by simp
  settling := by simp
  inAttempt := by simp
  hasCreated := by simp
  settled := by simp [HasSettled]
  announced := by simp
  removed := by simp

variable {r : RoomId} {winnerId : PlayerId} {losers : List PlayerId}

theorem Remembers.not_settled {q : Retry} {past : List BattleEvent} (h : Remembers r q past)
    (hstage : q.stage = .idle ∨ q.stage = .attempting ∨ q.stage = .created) :
    ¬ HasSettled r past := by
  rw [h.settled]
  rcases hstage with hs | hs | hs <;> simp [hs]

/-- An allowed call is remembered. -/
theorem Remembers.step {q q' : Retry} {past : List BattleEvent} {e : BattleEvent}
    (h : Remembers r q past) (he : q.step r winnerId losers e = some q') :
    e.Allowed r winnerId losers past ∧ Remembers r q' (past ++ [e]) := by
  rw [Retry.step, Option.ite_none_right_eq_some] at he
  obtain ⟨rfl, he⟩ := he
  have hopen := h.not_settled
  obtain ⟨hlast, hid, hcreated, hsettling, hin, hhas, hsettled, hannounced, hremoved⟩ := h
  cases e with
  | attempt r steadyMs =>
    rw [next, Option.ite_none_right_eq_some] at he
    obtain ⟨⟨hstage, hlater⟩, ⟨⟩⟩ := he
    change ∀ t, .attempt r t ∈ past → ∃ last ∈ q.last, t ≤ last at hlast
    refine ⟨⟨hopen (Or.inl hstage), fun earlier hearlier => ?_⟩, ?_⟩
    · obtain ⟨last, hmem, hle⟩ := hlast earlier hearlier
      exact Int.le_trans (Int.add_le_add_right hle 1000) (hlater last hmem)
    · constructor
      · intro t ht
        refine ⟨steadyMs, rfl, ?_⟩
        grind [BattleEvent.roomId]
      all_goals grind [BattleEvent.roomId, hasSettled_concat, InAttempt, HasCreated]
  | createBattle r battleId =>
    rw [next, Option.ite_none_right_eq_some] at he
    obtain ⟨⟨hstage, hzero⟩, ⟨⟩⟩ := he
    refine ⟨⟨hopen (Or.inr (Or.inl hstage)), hin hstage, fun id hmem => ?_⟩, ?_⟩
    · grind [BattleEvent.roomId]
    · constructor
      all_goals grind [BattleEvent.roomId, hasSettled_concat, InAttempt, HasCreated]
  | settleBattle r battleId w ls settled =>
    rw [next, Option.ite_none_right_eq_some] at he
    obtain ⟨⟨hstage, hnonzero, rfl, rfl, rfl⟩, ⟨⟩⟩ := he
    refine ⟨⟨hopen (Or.inr hstage), hstage.imp hin hhas, hnonzero, hid hnonzero, ?_, rfl, rfl⟩, ?_⟩
    · grind [BattleEvent.roomId]
    · constructor
      all_goals grind [BattleEvent.roomId, hasSettled_concat, InAttempt, HasCreated]
  | gameOver r =>
    rw [next, Option.ite_none_right_eq_some] at he
    obtain ⟨hstage, ⟨⟩⟩ := he
    refine ⟨⟨hsettled.mpr (Or.inl hstage), ?_⟩, ?_⟩
    · grind [BattleEvent.roomId]
    · constructor
      all_goals grind [BattleEvent.roomId, hasSettled_concat, InAttempt, HasCreated]
  | removeRoom r =>
    rw [next, Option.ite_none_right_eq_some] at he
    obtain ⟨hstage, ⟨⟩⟩ := he
    refine ⟨⟨hsettled.mpr (Or.inr (Or.inl hstage)), ?_, ?_⟩, ?_⟩
    · grind [BattleEvent.roomId]
    · grind [BattleEvent.roomId]
    · constructor
      all_goals grind [BattleEvent.roomId, hasSettled_concat, InAttempt, HasCreated]

/-- **Every accepted call was allowed.** -/
theorem justified {calls : List BattleEvent} {q : Retry}
    (h : calls.foldlM (step r winnerId losers) {} = some q) :
    Justified (fun past e => e.Allowed r winnerId losers past) calls :=
  (justified_of_monitor (Remembers.start r) (fun _ _ _ _ => Remembers.step) calls h).1

end Retry
end Game
