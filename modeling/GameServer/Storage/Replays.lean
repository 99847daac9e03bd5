import GameServer.Storage.Callers

/-!
# Replays

A call of `SettleBattle` for a battle that has been settled, when all its requests succeed: it
accepts the battle exactly when everything is the same, and it changes no table.
-/

namespace Game

open Infra BattleRepository SettlementService

variable {ι κ : Type} [DecidableEq ι] {i : ι} {services : κ → SettlementService}
  {mutex : κ → ServiceId} {callers : ι → Caller κ}
  {s s' : Pool ι (Storage ι) StorageRequest StorageRequest.Reply}

/-- The requests of the thread `i`, which all succeed, among the steps of the others. -/
abbrev succeeding (i : ι) : Contract StorageRequest StorageRequest.Reply
    (Pool ι (Storage ι) StorageRequest StorageRequest.Reply) :=
  Pool.beside Storage.exec Storage.happen (thread none True i)

/-- The rows of the battle that are read again. -/
def SameRows (b : BattleId) (db db' : Db) : Prop :=
  db' (.battle b) = db (.battle b) ∧ db' (.results b) = db (.results b)

theorem SameRows.evolves {b : BattleId} {db db₁ db₂ : Db} (hb : db.Settled b)
    (h : SameRows b db db₁) (hevolves : Evolves db₁ db₂) : SameRows b db db₂ := by
  have hb₁ := (Db.settled_congr h.1).mpr hb
  exact ⟨(hevolves.battle b hb₁).trans h.1, (hevolves.results b hb₁).trans h.2⟩

/-- What `ApplySettlement` compares with the row and the results that it has read. -/
def Compares (db : Db) (b : BattleId) (row : BattleRow) (roomId : RoomId) (winnerId : PlayerId)
    (losers : List PlayerId) : Prop :=
  row.roomId = roomId ∧ row.winnerId = winnerId ∧
    sameResults ((db (.results b)).mergeSort fun a b => a.playerId ≤ b.playerId)
      (battleResults ⟨b, roomId, winnerId⟩ (participants winnerId losers)) = true

/-- What makes a replay acceptable. -/
theorem accepts_iff {db : Db} {settled : Finset BattleId} (hA : Accounting db settled)
    {b : BattleId} {row : BattleRow} (hrow : db (.battle b) = some row) (hsettled : row.settled = 1)
    {roomId : RoomId} {winnerId : PlayerId} {losers : List PlayerId} :
    settleBattleAccepts b roomId winnerId losers = true ∧
        Compares db b row roomId winnerId losers ↔
      roomId = row.roomId ∧ winnerId = row.winnerId ∧ (∀ p ∈ losers, 0 < p ∧ p ≠ winnerId) ∧
        ∀ p, p ∈ winnerId :: losers ↔ p ∈ db.participants b := by
  have hb : db.Settled b := ⟨row, hrow, hsettled⟩
  have hwholly : db.WhollySettled b := (hA.battle b).resolve_left fun h => by
    have hzero := h.settled row hrow
    rw [hsettled] at hzero
    cases hzero
  have hwinner : db.winner b = row.winnerId := by rw [Db.winner, hrow]
  obtain ⟨hroom, hpositive⟩ := (hA.positive b hb).row row hrow
  -- Sorted and without repetitions, the results are the same when the players are.
  have hsame := @sameResults_iff db ⟨b, row.roomId, row.winnerId⟩ losers hwholly hwinner
  rw [settleBattleAccepts_iff]
  constructor
  · rintro ⟨⟨-, -, -, hlosers⟩, rfl, rfl, hresults⟩
    exact ⟨rfl, rfl, hlosers, hsame.mp hresults⟩
  · rintro ⟨rfl, rfl, hlosers, hmem⟩
    exact ⟨⟨(hA.positive b hb).battle, hroom, hpositive, hlosers⟩, rfl, rfl, hsame.mpr hmem⟩

/-- **A replay is accepted exactly when it is identical.** The call is made by a thread that does
nothing else, beside others that call what they like. -/
theorem replay_accepted_iff {earlier : List (Pool.Event ι Outcome Storage.Happening)}
    {service : SettlementService} {serviceId : ServiceId} {b : BattleId} {row : BattleRow}
    {roomId : RoomId} {winnerId : PlayerId} {losers : List PlayerId} {a : Bool}
    {t : List (Prog.Step StorageRequest StorageRequest.Reply
      (Pool ι (Storage ι) StorageRequest StorageRequest.Reply))}
    (hs : earlier.foldl storageStep (Storage.start {} services mutex callers) = s)
    (hi : s.prog i = .pure ()) (hrow : s.world.mysql.db (.battle b) = some row)
    (hsettled : row.settled = 1) (hworks : service.Works)
    (hrun : Prog.Run (succeeding i) (settleBattle service serviceId b roomId winnerId losers) s t
      (.pure a) s') :
    (a = true ↔ roomId = row.roomId ∧ winnerId = row.winnerId ∧
      (∀ p ∈ losers, 0 < p ∧ p ≠ winnerId) ∧
      ∀ p, p ∈ winnerId :: losers ↔ p ∈ s.world.mysql.db.participants b) ∧
    ∀ e ∈ t, e.after.world.mysql.db = e.before.world.mysql.db := by
  have hsound := (sound_run (ranks_none services mutex) Storage.lawful_empty (fun _ => rfl)
    callers earlier).last earlier
  rw [hs] at hsound
  -- The thread has nothing left to do, so it holds no mutex.
  have hidle := hsound.2 i s.world .refl
  rw [hi] at hidle
  obtain ⟨settled, hA⟩ := hsound.1.mysql.accounting hsound.1.consistent.mysql
  have hknown : Idle none i (fun w => SameRows b s.world.mysql.db w.mysql.db) s.world :=
    ⟨hidle.lawful, hidle.free, rfl, rfl⟩
  have hwp : Prog.wp (thread none True i) (fun a => Idle none i fun _ => True →
      (a = true ↔ settleBattleAccepts b roomId winnerId losers = true ∧
        Compares s.world.mysql.db b row roomId winnerId losers))
      (settleBattle service serviceId b roomId winnerId losers) s.world := by
    refine triple_settleBattle (fun _ h => (by cases h))
      (fun _ _ hevolves h => h.evolves ⟨row, hrow, hsettled⟩ hevolves) (fun _ => ⟨hworks,
        fun w h => ⟨row, h.1.trans hrow, hsettled, ?_⟩⟩) s.world hknown
    unfold Compares
    rw [h.2]
  have hbeside := (hsound.mono fun _ _ _ => trivial).wp_beside (D := thread none True i)
    fits_thread (fun _ _ _ _ h => h.1) (fun _ _ h => h) (fun _ _ _ h => ⟨h.1, False.elim⟩) hi hwp
  refine ⟨?_, fun e he => (hrun.guar hbeside e he).2 trivial⟩
  have hresult := hrun.wp hbeside
  exact (hresult.known trivial).trans (accepts_iff hA hrow hsettled)

/-! ## A replay from another room -/

/-- A service without a leaderboard. -/
def plainService : SettlementService where
  battleRepository := some ⟨some 0⟩
  playerRepository := none
  rankService := none

/-- One thread settles a battle of two players. -/
def settlingCallers (i : Nat) : Caller Unit :=
  if i = 1 then .createBattle ⟨some 0⟩ 1 fun _ => .settleBattle () 1 1 7 [8] fun _ => .done
  else .done

/-- The request has to succeed at once. -/
def execSucceeds (i : Nat) (q : StorageRequest) (w : Storage Nat) :
    Option (Storage Nat × q.Reply) :=
  (Storage.exec i q .ok w).filter fun x => q.Succeeds x.2

theorem exec_execSucceeds {i : Nat} {q : StorageRequest} {w w' : Storage Nat} {r : q.Reply}
    (h : execSucceeds i q w = some (w', r)) : (thread none True i).exec q w r w' := by
  obtain ⟨hexec, hsucceeds⟩ := Option.filter_eq_some_iff.mp h
  exact ⟨⟨.ok, hexec⟩, fun _ => of_decide_eq_true hsucceeds⟩

theorem participants_pair : participants 7 [8] = [7, 8] := by
  unfold participants
  exact List.mergeSort_of_pairwise (by decide)

theorem mergeSort_pair (b r : Int) :
    ((battleResults ⟨b, r, 7⟩ [7, 8]).mergeSort fun a b => a.playerId ≤ b.playerId) =
      battleResults ⟨b, r, 7⟩ [7, 8] := by
  have h := mergeSort_battleResults ⟨b, r, 7⟩ 7 [8]
  rwa [participants_pair] at h

theorem eval_settlingCallers : ∃ w w' : Storage Nat,
    ((settlingCallers 1).run (fun _ => plainService) fun _ => 0).eval
        (fun q => Storage.exec 1 q .ok) {} = some (w, ()) ∧
      w.mysql.db (.battle 1) = some ⟨1, 7, 1⟩ ∧
      (settleBattle plainService 0 1 2 7 [8]).eval (execSucceeds 0) w = some (w', false) := by
  have h : (((settlingCallers 1).run (fun _ => plainService) fun _ => 0).eval
      (fun q => Storage.exec 1 q .ok) {}).any (fun x => x.1.mysql.db (.battle 1) = some ⟨1, 7, 1⟩ ∧
        ((settleBattle plainService 0 1 2 7 [8]).eval (execSucceeds 0) x.1).any fun y =>
          y.2 = false) = true := by
    -- The results are in order as they are.
    unfold settlingCallers
    simp only [if_true, Caller.run]
    unfold settleBattle plainService applySettlement
    simp only [participants_pair, mergeSort_pair]
    decide +kernel
  obtain ⟨⟨w, ⟨⟩⟩, hw, hfound⟩ := (Option.any_eq_true ..).mp h
  obtain ⟨hrow, hreplay⟩ := of_decide_eq_true hfound
  obtain ⟨⟨w', a⟩, hw', ha⟩ := (Option.any_eq_true ..).mp hreplay
  obtain rfl := of_decide_eq_true ha
  exact ⟨w, w', hw, hrow, hw'⟩

/-- It is rejected, and nothing has changed. -/
theorem replay_elsewhere : ∃ (earlier : List (Pool.Event Nat Outcome Storage.Happening))
    (s s' : Pool Nat (Storage Nat) StorageRequest StorageRequest.Reply)
    (t : List (Prog.Step StorageRequest StorageRequest.Reply
      (Pool Nat (Storage Nat) StorageRequest StorageRequest.Reply))),
    earlier.foldl storageStep
        (Storage.start {} (fun _ => plainService) (fun _ => 0) settlingCallers) = s ∧
      s.world.mysql.db (.battle 1) = some ⟨1, 7, 1⟩ ∧
      Prog.Run (succeeding 0) (settleBattle plainService 0 1 2 7 [8]) s t (.pure false) s' ∧
      (false = true ↔ (2 : RoomId) = 1 ∧ (7 : PlayerId) = 7 ∧
        (∀ p ∈ [(8 : PlayerId)], 0 < p ∧ p ≠ 7) ∧
        ∀ p, p ∈ [(7 : PlayerId), 8] ↔ p ∈ s.world.mysql.db.participants 1) ∧
      ∀ e ∈ t, e.after.world.mysql.db = e.before.world.mysql.db := by
  obtain ⟨w, w', hw, hrow, hw'⟩ := eval_settlingCallers
  have hstart : (Storage.start {} (fun _ => plainService) (fun _ => 0) settlingCallers).prog 1 =
      (settlingCallers 1).run (fun _ => plainService) fun _ => 0 := rfl
  obtain ⟨earlier, hearlier⟩ : ∃ earlier : List (Pool.Event Nat Outcome Storage.Happening),
      earlier.foldl storageStep
        (Storage.start {} (fun _ => plainService) (fun _ => 0) settlingCallers) =
          { world := w, prog := Function.update _ 1 (.pure ()) } :=
    Pool.exists_foldl_of_eval hstart hw
  obtain ⟨t, hrun⟩ : ∃ t, Prog.Run (succeeding 0) (settleBattle plainService 0 1 2 7 [8])
      { world := w, prog := Function.update _ 1 (.pure ()) } t (.pure false)
        { world := w', prog := Function.update _ 1 (.pure ()) } :=
    Pool.exists_run_beside (fun _ _ _ _ => exec_execSucceeds) hw'
  refine ⟨earlier, _, _, t, hearlier, hrow, hrun, ?_⟩
  exact replay_accepted_iff hearlier rfl hrow rfl ⟨⟨0, rfl⟩, fun _ h => by cases h⟩ hrun

end Game
