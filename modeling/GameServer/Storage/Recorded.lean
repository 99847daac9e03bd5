import GameServer.Storage.SettleBattle

/-!
# Results that have been recorded

When `SettleBattle` returns true, the tables say of the battle what the call has said: the room, the
winner and the players. They say so from then on, whatever else the server does.
-/

namespace Game

open Infra BattleRepository PlayerRepository SettlementService

/-- The battle is settled with this room, this winner and these players. -/
structure Recorded (battle : Battle) (results : List BattlePlayerResult) (db : Db) : Prop
    extends Applied battle results db where
  row : db (.battle battle.battleId) = some ⟨battle.roomId, battle.winnerId, 1⟩

variable {ι : Type} {i : ι} {client : ClientId} {w w' : Storage ι} {T : Storage ι → Prop}
  {db db' : Db} {battle : Battle} {ordered results : List BattlePlayerResult}

theorem Recorded.evolves (h : Recorded battle results db) (hevolves : Evolves db db') :
    Recorded battle results db' where
  toApplied := h.toApplied.evolves hevolves
  row := (hevolves.battle _ h.settled).trans h.row

/-! ## A committed transaction -/

/-- Right after its transaction. -/
theorem row_of_committed {log : Log} (hvalid : ValidResults battle results)
    (hlog : Settles battle results log ∨ Confirms battle results log)
    (h : mysqlStatements.Replays log db db') :
    db' (.battle battle.battleId) = some ⟨battle.roomId, battle.winnerId, 1⟩ := by
  rcases hlog with hsettles | hconfirms
  · obtain ⟨row, db₁, -, hroom, -, -, hrow, -⟩ := hsettles.effect hvalid h
    rw [hrow, hroom]
  · obtain ⟨rfl, ⟨roomId, winnerId, settled⟩, hrow, rfl, rfl, rfl, -⟩ := hconfirms.effect h
    exact hrow

theorem Mysql.Lawful.recorded {m : Mysql} {c : Conn} (h : m.Lawful) (hm : m.Consistent)
    {log : Log} (hvalid : ValidResults battle results)
    (hlog : Settles battle results log ∨ Confirms battle results log)
    (hmem : (c, log) ∈ m.committed) : Recorded battle results m.db := by
  refine ⟨h.applied hm hvalid hlog hmem, ?_⟩
  have hreplay := hm.replay
  rw [List.flatMap_def] at hreplay
  have hlogs : ∀ log ∈ m.committed.map (·.2), Log.Lawful log := h.forall_log fun _ hx => hx
  have hmem : log ∈ m.committed.map (·.2) := List.mem_map_of_mem hmem
  generalize m.committed.map (·.2) = logs at hreplay hlogs hmem
  -- The transaction, what was committed before it and what was committed after it.
  obtain ⟨before, after, rfl⟩ := List.append_of_mem hmem
  rw [List.flatten_append, List.flatten_cons, Statements.replays_append] at hreplay
  obtain ⟨db₁, h₁, hreplay⟩ := hreplay
  obtain ⟨db₂, h₂, hreplay⟩ := Statements.replays_append.mp hreplay
  obtain ⟨settled₁, hA₁, -⟩ :=
    Accounting.empty.replay (fun log hlog => hlogs log (List.mem_append_left _ hlog)) h₁
  obtain ⟨settled₂, hA₂, -, happlied⟩ := hA₁.commit hvalid hlog h₂
  obtain ⟨-, -, hevolves⟩ := hA₂.replay (fun log hlog =>
    hlogs log (List.mem_append_right _ (List.mem_cons_of_mem _ hlog))) hreplay
  exact (hevolves.battle _ happlied.settled).trans (row_of_committed hvalid hlog h₂)

/-! ## ApplySettlement -/

/-- What is known after a call that has returned `r`. -/
def AfterRecording (T : Storage ι → Prop) (battle : Battle) (results : List BattlePlayerResult)
    (r : Prop) (w : Storage ι) : Prop :=
  T w ∧ (r → Recorded battle results w.mysql.db)

theorem stable_afterRecording (hT : Stable none i T) {r : Prop} :
    Stable none i (AfterRecording T battle results r) :=
  fun w w' hw hw' honward h =>
    ⟨hT w w' hw hw' honward h.1, fun hr => (h.2 hr).evolves honward.evolves⟩

variable [DecidableEq ι]

omit [DecidableEq ι] in
/-- The transaction has ended with the result `a`. -/
theorem Returned.recorded {start : Storage ι} {o : StorageM (Except Unit Bool)}
    {a : Except Unit Bool} {s : Storage ι × List (StorageStep ι)}
    (hvalid : ValidResults battle ordered)
    (h : Returned False i client start (some o)
      (InCall none False i client fun _ w => T w ∧ start.Onward none i w)
      (fun _ r => InCall none False i client
        (Concludes False (fun w => T w ∧ start.Onward none i w) battle ordered True
          (r = .ok true))) 0 a s) :
    Leaving none False i client (AfterRecording T battle ordered (a = .ok true)) s := by
  -- A call that has not come to its `COMMIT` returns false.
  have hfailed : ∀ {own K}, a = .ok false →
      Calling i client own (InCall none False i client fun _ w => T w ∧ start.Onward none i w) 0
        false K s → (∀ t conn m, K t conn m → Rested t conn m) →
      Leaving none False i client (AfterRecording T battle ordered (a = .ok true)) s := by
    rintro own K rfl h hrested
    exact Calling.leaving { h with
      lasting := h.lasting.mono fun w hw => ⟨hw.1, nofun⟩
      known := hrested _ _ _ h.known }
  cases h with
  | refused ha _ h => exact hfailed ha h fun _ _ _ h => h.1.rested
  | unbegun c ha _ h => exact hfailed ha h fun _ _ _ h => h.closed
  | ended c r hr h =>
    have hin : InCall none False i client (Concludes False (fun w => T w ∧ start.Onward none i w)
        battle ordered True (r = .ok true)) s.1 s.2 := h.lasting
    refine Calling.leaving { h with
      lasting := ⟨hin.lawful, hin.free, ⟨hin.known.known.1, fun ha => ?_⟩, hin.meets⟩
      known := h.known.closed }
    have hcommit : r = .ok true := hr.elim (fun heq => heq.symm.trans ha) And.left
    have hmem : statements s.2 ∈ s.1.mysql.committedBy c := by
      rw [(h.known.committed ha).committedBy]
      exact List.mem_append_right _ (List.mem_singleton_self _)
    exact hin.lawful.mysql.recorded hin.lawful.consistent.mysql hvalid
      (hin.known.committable hcommit) (Mysql.mem_committed_of_committedBy hmem)

theorem triple_recordTransaction (hT : Stable none i T) (hvalid : ValidResults battle ordered) :
    Prog.Triple (thread none False i) (Idle none i T)
      (MysqlClient.runTransaction client (some do
        return .ok (← settlement ⟨some client⟩ client battle ordered)))
      fun a => Idle none i (AfterRecording T battle ordered (a = .ok true)) := by
  refine triple_call hT (fun _ => stable_afterRecording hT) fun start => ?_
  have hT' : Stable none i fun w => T w ∧ start.Onward none i w := hT.and (stable_onward start)
  refine (triple_runTransaction_body (lasting_inCall fun _ => hT')
    (F := fun _ r => InCall none False i client (Concludes False
      (fun w => T w ∧ start.Onward none i w) battle ordered True (r = .ok true)))
    (fun _ _ => lasting_inCall fun log => stable_concludes hT' log)
    (fun c => commits_concludes hT' rfl hvalid False.elim) (fun h => h.known.2.committed)
    fun o ho c => ?_).mono (fun _ h => h) fun a s h => h.recorded hvalid
  cases ho
  have hbody : Prog.Triple (recordedThread none False i)
      (InBody none False i client (fun w => T w ∧ start.Onward none i w) c 0
        (Active c (start.mysql.committedBy c) []))
      (settlement ⟨some client⟩ client battle ordered) fun r =>
        Calling i client (some c) (InCall none False i client
          (Concludes False (fun w => T w ∧ start.Onward none i w) battle ordered True (r = true)))
          0 true (Operated False c (start.mysql.committedBy c) (.ok r)) :=
    triple_settlement hT' hvalid.ne_nil False.elim
  refine .bind (hbody.mono (fun s h => ?_) fun _ _ h => h) fun r => .pure fun s h => ?_
  · exact { h with known := ⟨h.known.inside, h.known.conn, h.known.silent⟩ }
  · have hin : InCall none False i client (Concludes False (fun w => T w ∧ start.Onward none i w)
        battle ordered True (r = true)) s.1 s.2 := h.lasting
    have hiff : (Except.ok r : Except Unit Bool) = .ok true ↔ r = true := by simp
    exact { h with lasting := ⟨hin.lawful, hin.free,
      ⟨hin.known.known, fun hr => hin.known.committable (hiff.mp hr), False.elim⟩, hin.meets⟩ }

theorem triple_recordResults (hT : Stable none i T) {repository : BattleRepository}
    {losers : List PlayerId}
    (haccepts :
      settleBattleAccepts battle.battleId battle.roomId battle.winnerId losers = true) :
    Prog.Triple (thread none False i) (Idle none i T)
      (applySettlement repository battle
        (battleResults battle (participants battle.winnerId losers)))
      fun r => Idle none i (AfterRecording T battle
        (battleResults battle (participants battle.winnerId losers)) (r = true)) := by
  obtain ⟨mysql⟩ := repository
  cases mysql with
  | none => exact .pure fun w h => ⟨h.lawful, h.free, h.known, nofun⟩
  | some client =>
    have hvalid := validResults_battleResults haccepts
    rw [applySettlement_of_admits (admits_battleResults haccepts), mergeSort_battleResults]
    refine .bind (triple_recordTransaction hT hvalid) fun a => .pure fun w h => ?_
    have hiff : a.toOption.getD false = true ↔ a = .ok true := by
      cases a <;> simp [Except.toOption]
    exact ⟨h.lawful, h.free, h.known.1, fun hr => h.known.2 (hiff.mp hr)⟩

/-! ## SettleBattle -/

/-- A program among others does not undo a record. -/
theorem Idle.keeps_record {α : Type} {p : StorageM α} {F : α → Storage ι → Prop}
    (hp : Prog.wp (thread none False i) (fun a => Idle none i (F a)) p w) (hw : w.Lawful none)
    (h : Recorded battle results w.mysql.db) :
    Prog.wp (thread none False i) (fun a w => Idle none i (F a) w ∧
      Recorded battle results w.mysql.db) p w := by
  have hframe := Prog.wp_frame (T := fun w => w.Lawful none ∧ Recorded battle results w.mysql.db)
    (fun q w r w' hT hexec hguar => ?_) (fun w w' hT hrely => ?_) ⟨hw, h⟩ hp
  · exact Prog.wp_mono (fun _ _ h => ⟨h.1, h.2.2⟩) hframe
  · obtain ⟨⟨x, hx⟩, -⟩ := hexec
    exact ⟨hT.1.exec hguar.1 hx, hT.2.evolves (hT.1.evolves_exec hguar.1 hx)⟩
  · obtain ⟨hw', honward, -⟩ := rely_spec hT.1 hrely
    exact ⟨hw', hT.2.evolves honward.evolves⟩

/-- What `SettleBattle` does while it holds the mutex. -/
theorem triple_recordBody {s : SettlementService} {service : ServiceId}
    {battles : BattleRepository} {losers : List PlayerId}
    (hplayers : ¬ (s.rankService.isSome = true ∧ s.playerRepository.isNone = true))
    (haccepts :
      settleBattleAccepts battle.battleId battle.roomId battle.winnerId losers = true) :
    Prog.Triple (thread none False i) (Idle none i fun w => w.services service = some i)
      (do
        if !(← battles.applySettlement battle
            (battleResults battle (participants battle.winnerId losers))) then
          return false
        match s.rankService, s.playerRepository with
        | some rank, some repository =>
          syncRank repository rank (participants battle.winnerId losers)
        | _, _ => return true)
      fun a => Idle none i (AfterRecording (·.services service = some i) battle
        (battleResults battle (participants battle.winnerId losers)) (a = true)) := by
  refine .bind (triple_recordResults stable_services haccepts) fun r =>
    .ite (fun hr => .pure fun w h => ?_) fun hr w h => ?_
  · exact ⟨h.lawful, h.free, h.known.1, nofun⟩
  · have hrecorded := h.known.2 (by simpa using hr)
    have hsynced : Idle none i (Synced none i service battle
        (battleResults battle (participants battle.winnerId losers)) fun _ => False) w :=
      ⟨h.lawful, h.free, h.known.1, hrecorded.toApplied, fun _ _ h => h.elim⟩
    have hsync := triple_synced (σ := none) (S := False) (D := True) nofun nofun hplayers
      False.elim False.elim w hsynced
    rw [map_battleResults] at hsync
    exact Prog.wp_mono (fun a w h => ⟨h.1.lawful, h.1.free, h.1.known.mine, fun _ => h.2⟩)
      (Idle.keeps_record hsync h.lawful hrecorded)

/-- **A battle that is reported as settled has been recorded.** -/
theorem triple_settleBattle_recorded (s : SettlementService) (service : ServiceId)
    (battleId : BattleId) (roomId : RoomId) (winnerId : PlayerId) (losers : List PlayerId) :
    Prog.Triple (thread none False i) (Idle none i fun _ => True)
      (settleBattle s service battleId roomId winnerId losers) fun a => Idle none i
        (AfterRecording (fun _ => True) ⟨battleId, roomId, winnerId⟩
          (battleResults ⟨battleId, roomId, winnerId⟩ (participants winnerId losers))
          (a = true)) := by
  have hrefused : Prog.Triple (thread none False i) (Idle none i fun _ => True)
      (Pure.pure false : StorageM Bool) fun a => Idle none i
        (AfterRecording (fun _ => True) ⟨battleId, roomId, winnerId⟩
          (battleResults ⟨battleId, roomId, winnerId⟩ (participants winnerId losers))
          (a = true)) :=
    .pure fun w h => ⟨h.lawful, h.free, trivial, nofun⟩
  unfold settleBattle
  split
  · exact hrefused
  · next battles hbattles =>
    refine .ite (fun _ => hrefused) fun hplayers => .ite (fun _ => hrefused) fun haccepts => ?_
    refine .bind (p := ask (.lockService service)) (B := fun _ => Idle none i fun w =>
      w.services service = some i) ?_ fun _ => .bind
      (triple_recordBody hplayers (Bool.eq_true_of_not_eq_false haccepts)) fun a =>
      .bind (p := ask (.unlockService service battleId a)) (B := fun _ => Idle none i
        (AfterRecording (fun _ => True) ⟨battleId, roomId, winnerId⟩
          (battleResults ⟨battleId, roomId, winnerId⟩ (participants winnerId losers))
          (a = true))) ?_ fun _ => .pure fun _ h => h
    · refine triple_aside rfl (fun _ => stable_services) (fun _ _ _ => trivial)
        fun w w' x r h hexec _ => ?_
      unfold Storage.exec at hexec
      dsimp only at hexec
      split at hexec
      · cases hexec
        exact Function.update_self ..
      · cases hexec
    · refine triple_aside rfl (fun _ => stable_afterRecording (stable_const True))
        (fun w _ h => ⟨h.1, nofun⟩) fun w w' x r h hexec _ => ?_
      cases hexec
      exact ⟨trivial, h.2⟩

end Game
