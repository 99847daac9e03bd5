import GameServer.Storage.Autocommit
import GameServer.Storage.Settlement

/-!
# ApplySettlement

What `ApplySettlement` leaves behind in a thread among others: when it returns true, the battle is
settled with the given results (`triple_applySettlement`). A battle that is known to be settled is
left as it is, and the answer says whether the results are the ones that have been saved.
-/

namespace Game

open Infra BattleRepository

variable {ι : Type} {σ : Option ServiceId} {S : Prop} {i : ι} {client : ClientId}
  {w w' : Storage ι} {T : Storage ι → Prop} {c : Conn} {d : Nat} {before : List Log}
  {t : List (StorageStep ι)} {battle : Battle} {ordered : List BattlePlayerResult} {D : Prop}

/-! ## The body of the transaction -/

/-- The battle is settled in all that may be known, and `D` says whether these are its results. -/
def Decides (T : Storage ι → Prop) (battle : Battle) (ordered : List BattlePlayerResult)
    (D : Prop) : Prop :=
  ∀ w, T w → ∃ row, w.mysql.db (.battle battle.battleId) = some row ∧ row.settled = 1 ∧
    (D ↔ row.roomId = battle.roomId ∧ row.winnerId = battle.winnerId ∧
      sameResults ((w.mysql.db (.results battle.battleId)).mergeSort
        fun a b => a.playerId ≤ b.playerId) ordered = true)

/-- What is known after the body; `r` says whether it has returned true. -/
structure Concludes (S : Prop) (T : Storage ι → Prop) (battle : Battle)
    (ordered : List BattlePlayerResult) (D r : Prop) (log : Log) (w : Storage ι) : Prop where
  known : T w
  committable : r → Settles battle ordered log ∨ Confirms battle ordered log
  decided : S → (r ↔ D)

/-- The row of the battle has been read. -/
def Found (T : Storage ι → Prop) (battleId : BattleId) (rows : List BattleRow) (log : Log) :
    Prop :=
  ∃ n w, T w ∧ log = [⟨⟨n, .select (.battleForUpdate battleId)⟩, rows⟩] ∧
    (w.mysql.db (.battle battleId)).toList = rows

/-- The results have been read as well. -/
def Compared (T : Storage ι → Prop) (battleId : BattleId) (row : BattleRow)
    (saved : List ResultRow) (log : Log) : Prop :=
  ∃ n n' w, T w ∧ log = [⟨⟨n, .select (.battleForUpdate battleId)⟩, [row]⟩,
      ⟨⟨n', .select (.resultsForUpdate battleId)⟩, saved⟩] ∧
    w.mysql.db (.battle battleId) = some row ∧
    (w.mysql.db (.results battleId)).mergeSort (fun a b => a.playerId ≤ b.playerId) = saved

theorem leads_found (battleId : BattleId) :
    Leads T [] (.select (.battleForUpdate battleId)) (Found T battleId) := by
  intro w n db db' answer hknown hreplay hperform
  obtain rfl : db = w.mysql.db := hreplay
  exact ⟨n, w, hknown, rfl, (perform_battleForUpdate hperform).2⟩

theorem leads_compared {n battleId : BattleId} {row : BattleRow} :
    Leads T [⟨⟨n, .select (.battleForUpdate battleId)⟩, [row]⟩]
      (.select (.resultsForUpdate battleId)) (Compared T battleId row) := by
  intro w n' db db' answer hknown hreplay hperform
  obtain ⟨db₁, h₁, rfl⟩ := hreplay
  obtain ⟨rfl, hrow⟩ := perform_battleForUpdate h₁
  exact ⟨n, n', w, hknown, rfl, Option.toList_eq_singleton_iff.mp hrow,
    (perform_resultsForUpdate hperform).2⟩

variable [DecidableEq ι]

omit [DecidableEq ι] in
/-- After a function of the body that returns what the body returns. -/
theorem Calling.concludes {L : Log → Prop} {p : Prop} {r : Bool}
    {s : Storage ι × List (StorageStep ι)}
    (h : InBody σ S i client T c d (Stands S c before L p) s) (hp : p → r = false)
    (hL : ∀ log, L log → r = true → Settles battle ordered log ∨ Confirms battle ordered log)
    (hD : S → ∀ log, L log → (r = true ↔ D)) :
    Calling i client (some c) (InCall σ S i client (Concludes S T battle ordered D (r = true))) d
      true (Operated S c before (.ok r)) s := by
  have hknown := h.known
  have hconcludes : Concludes S T battle ordered D (r = true) (statements s.2) s.1 := by
    rcases hknown with ⟨log, hlog, hactive⟩ | ⟨hfailed, hbroken⟩
    · rw [hactive.made]
      exact ⟨h.lasting.known, hL log hlog, fun hS => hD hS log hlog⟩
    · refine ⟨h.lasting.known, fun hr => ?_, fun hS => absurd hS hbroken.fails⟩
      exact absurd ((hp hfailed).symm.trans hr) nofun
  refine { h with
    lasting := ⟨h.lasting.lawful, h.lasting.free, hconcludes, h.lasting.meets⟩
    known := ⟨hknown.abandoned, fun hr => ?_, fun _ => by rw [hknown.conn]; rfl⟩ }
  obtain ⟨log, -, hactive⟩ := hknown.resolve_right fun ⟨hfailed, _⟩ => by
    rw [hp hfailed] at hr
    cases hr
  exact hactive.inside

variable (hT : Stable σ i T)
include hT

omit hT [DecidableEq ι] in
/-- A part of the body that goes on to other statements when it returns true. -/
theorem Went.concludes {r : Bool} {s : Storage ι × List (StorageStep ι)}
    (h : InBody σ S i client T c d (Went c before (Settles battle ordered) r) s) (hS : ¬ S) :
    Calling i client (some c) (InCall σ S i client (Concludes S T battle ordered D (r = true))) d
      true (Operated S c before (.ok r)) s := by
  have hcommittable : r = true → Settles battle ordered (statements s.2) := by
    intro hr
    obtain ⟨log', hlog', hactive'⟩ := h.known.active hr
    rwa [hactive'.made]
  refine { h with
    lasting := ⟨h.lasting.lawful, h.lasting.free, ?_, h.lasting.meets⟩
    known := ⟨h.known.abandoned, fun hr => ?_, fun h => absurd h hS⟩ }
  · exact ⟨h.lasting.known, fun hr => Or.inl (hcommittable hr), fun h => absurd h hS⟩
  · obtain ⟨log', -, hactive'⟩ := h.known.active (by simpa using hr)
    exact hactive'.inside

/-- The results are saved and the battle is marked. -/
theorem triple_settleUnsettled {n : BattleId}
    {row : BattleRow} (hroom : row.roomId = battle.roomId) (hrow : row.settled ≠ 1) :
    Prog.Triple (recordedThread σ S i) (InBody σ S i client T c d (Active c before
        [⟨⟨n, .select (.battleForUpdate battle.battleId)⟩, [row]⟩]))
      (do
        if !(← saveResults ⟨some client⟩ battle ordered) then
          return false
        let affected ← MysqlClient.executeAffected client
          (.settleBattle battle.battleId battle.winnerId)
        return affected = 1)
      fun r => InBody σ S i client T c d (Went c before (Settles battle ordered) r) := by
  refine triple_andThen (triple_saveResults hT battle ordered _) fun log' hsaved =>
    .bind (triple_executeAffected_in hT _) fun affected => .pure fun s h => ?_
  have hstands : Stands S c before (Settles battle ordered) (affected = -1) s.2
      (s.1.clients client).conn s.1.mysql := by
    refine h.known.mono (fun log'' hmarked => ?_) id
    obtain ⟨rest, rfl, hrest⟩ := hsaved.trans hmarked
    exact ⟨n, row, rest, rfl, hroom, hrow, hrest⟩
  exact { h with known := hstands.went fun hfailed => by rw [hfailed]; rfl }

/-- The results are those that have been saved. -/
theorem triple_compare {n : BattleId} {row : BattleRow} (hordered : ordered ≠ [])
    (hD : S → Decides T battle ordered D) (hroom : row.roomId = battle.roomId)
    (hsettled : row.settled = 1) (hwinner : row.winnerId = battle.winnerId) :
    Prog.Triple (recordedThread σ S i) (InBody σ S i client T c d (Active c before
        [⟨⟨n, .select (.battleForUpdate battle.battleId)⟩, [row]⟩]))
      (do
        let saved ← MysqlClient.query client (.resultsForUpdate battle.battleId)
        return sameResults saved ordered)
      fun r => Calling i client (some c)
        (InCall σ S i client (Concludes S T battle ordered D (r = true))) d true
        (Operated S c before (.ok r)) := by
  refine .bind (triple_query_in hT rfl leads_compared) fun saved => .pure fun s h =>
    h.concludes (fun hempty => ?_) ?_ ?_
  · subst hempty
    refine decide_eq_false fun heq => hordered ?_
    exact List.map_eq_nil_iff.mp heq.symm
  · rintro log ⟨n, n', w, -, rfl, -, -⟩ hsame
    exact Or.inr ⟨n, n', row, saved, rfl, hroom, hsettled, hwinner, hsame⟩
  · rintro hS log ⟨n, n', w, hknown, -, hrow, rfl⟩
    obtain ⟨row', hrow', -, hiff⟩ := hD hS w hknown
    cases hrow.symm.trans hrow'
    rw [hiff]
    exact ⟨fun h => ⟨hroom, hwinner, h⟩, fun h => h.2.2⟩

/-- **The body of the transaction.** -/
theorem triple_settlement (hordered : ordered ≠ []) (hD : S → Decides T battle ordered D) :
    Prog.Triple (recordedThread σ S i) (InBody σ S i client T c d (Active c before []))
      (settlement ⟨some client⟩ client battle ordered) fun r =>
        Calling i client (some c)
          (InCall σ S i client (Concludes S T battle ordered D (r = true))) d true
          (Operated S c before (.ok r)) := by
  refine .bind (triple_query_in hT rfl (leads_found battle.battleId)) fun found => ?_
  -- If all requests succeed, there is the row of a settled battle.
  have hfound : S → ∀ log, Found T battle.battleId found log → ∃ row, found = [row] ∧
      row.settled = 1 ∧ (D → row.roomId = battle.roomId ∧ row.winnerId = battle.winnerId) := by
    rintro hS log ⟨n, w, hknown, -, rfl⟩
    obtain ⟨row, hsome, hsettled, hiff⟩ := hD hS w hknown
    exact ⟨row, by rw [hsome]; rfl, hsettled, fun h => ⟨(hiff.mp h).1, (hiff.mp h).2.1⟩⟩
  have hmissing : (∀ row, found ≠ [row]) → S → ∀ log, Found T battle.battleId found log →
      (false = true ↔ D) := by
    intro hno hS log hlog
    obtain ⟨row, heq, -⟩ := hfound hS log hlog
    exact absurd heq (hno row)
  match found with
  | [] => exact .pure fun s h => h.concludes (fun _ => rfl) (fun _ _ => nofun) (hmissing nofun)
  | _ :: _ :: _ =>
    exact .pure fun s h => h.concludes (fun _ => rfl) (fun _ _ => nofun) (hmissing nofun)
  | [row] =>
    have hwrong : (D → row.roomId = battle.roomId ∧ row.winnerId = battle.winnerId → False) →
        S → ∀ log, Found T battle.battleId [row] log → (false = true ↔ D) := by
      intro hno hS log hlog
      obtain ⟨row', heq, -, hrow⟩ := hfound hS log hlog
      cases heq
      exact ⟨nofun, fun h => (hno h (hrow h)).elim⟩
    refine .ite (fun hroom => .pure fun s h => ?_) fun hroom => .ite (fun hsettled =>
      .ite (fun hwinner => .pure fun s h => ?_) fun hwinner => ?_) fun hunsettled => ?_
    · exact h.concludes (fun _ => rfl) (fun _ _ => nofun) (hwrong fun _ h => hroom h.1)
    · exact h.concludes (fun _ => rfl) (fun _ _ => nofun) (hwrong fun _ h => hwinner h.2)
    · -- The battle is settled, and the results are compared.
      intro s h
      obtain ⟨log, ⟨n, w, -, rfl, -⟩, hactive⟩ := h.known.resolve_right fun h => nomatch h.1
      exact triple_compare hT hordered hD (not_not.mp hroom) hsettled (not_not.mp hwinner) s
        { h with known := hactive }
    · -- The battle is not settled.
      intro s h
      obtain ⟨log, hlog, hactive⟩ := h.known.resolve_right fun h => nomatch h.1
      have hnS : ¬ S := by
        intro hS
        obtain ⟨row', heq, hsettled, -⟩ := hfound hS log hlog
        cases heq
        exact hunsettled hsettled
      obtain ⟨n, w, -, rfl, -⟩ := hlog
      exact Prog.wp_mono (fun r s h => Went.concludes h hnS) (triple_settleUnsettled hT
        (not_not.mp hroom) hunsettled s { h with known := hactive })

/-! ## The `COMMIT` -/

omit hT [DecidableEq ι] in
theorem stable_concludes (hT : Stable σ i T) {r : Prop} (log : Log) :
    Stable σ i (Concludes S T battle ordered D r log) :=
  fun w w' hw hw' honward h => ⟨hT w w' hw hw' honward h.known, h.committable, h.decided⟩

omit hT [DecidableEq ι] in
/-- A settled battle is confirmed, and that changes nothing. -/
theorem Concludes.db_eq {r : Prop} {db : Db} {log : Log} (hvalid : ValidResults battle ordered)
    (hD : Decides T battle ordered D) (h : Concludes S T battle ordered D r log w) (hr : r)
    (hreplay : mysqlStatements.Replays log w.mysql.db db) : db = w.mysql.db := by
  rcases h.committable hr with hsettles | hconfirms
  · obtain ⟨row, db₁, hrow, -, hunsettled, -⟩ := hsettles.effect hvalid hreplay
    obtain ⟨row', hrow', hsettled, -⟩ := hD w h.known
    cases hrow.symm.trans hrow'
    exact absurd hsettled hunsettled
  · exact (hconfirms.effect hreplay).1

/-- The transaction may be committed. -/
theorem commits_concludes {r : Prop} (hr : r) (hvalid : ValidResults battle ordered)
    (hD : S → Decides T battle ordered D) :
    Commits (thread σ S i) i client c before
      (InCall σ S i client (Concludes S T battle ordered D r)) := by
  intro w t ok w' d h hc hexec
  have hlasting : InCall σ S i client (Concludes S T battle ordered D r) w t := h.lasting
  have hconcludes := hlasting.known
  have htxn : w.mysql.isLinked c = true → w.mysql.isOpen c = true ∧
      w.mysql.txn c = statements t := h.known.txn
  have hm : w.mysql.Consistent := h.consistent.mysql
  have hduty : StorageRequest.Duty σ i w (.mysqlCommit client) := by
    refine ⟨h.owner, fun a ha hlinked _ => ?_⟩
    obtain rfl : a = c := Option.some.inj (ha.symm.trans hc)
    rw [(htxn hlinked).2]
    exact ⟨battle, ordered, hvalid, hconcludes.committable hr⟩
  -- A battle that is known to be settled is confirmed only.
  have hdb : S → w'.mysql.db = w.mysql.db := by
    intro hS
    obtain ⟨x, hx⟩ := hexec.1
    rcases Storage.onConn_cases hx with ⟨-, rfl, -⟩ | ⟨a, m, ha, hrequest, rfl⟩
    · rfl
    obtain rfl : a = c := Option.some.inj (ha.symm.trans hc)
    refine db_requested (fun hlinked => ?_) (Mysql.request_cases (Option.some.inj hrequest))
    obtain ⟨hopen, hmade⟩ := htxn hlinked
    have hreplay := (hm.commitOpen a).replays
    rw [if_pos hopen, hmade, List.flatten_singleton] at hreplay
    exact hconcludes.db_eq hvalid (hD hS) hr hreplay
  refine hlasting.step hexec hduty rfl hdb fun hw' honward hknown => ?_
  rw [statements_quiet t rfl]
  exact stable_concludes hT _ _ _ hlasting.lawful hw' honward hknown

/-! ## The whole call -/


/-- What is known after the call; `r` says whether it has returned true. -/
structure AfterSettlement (S : Prop) (T : Storage ι → Prop) (battle : Battle)
    (ordered : List BattlePlayerResult) (D r : Prop) (w : Storage ι) : Prop where
  known : T w
  applied : r → Applied battle ordered w.mysql.db
  decided : S → (r ↔ D)

omit [DecidableEq ι] in
theorem stable_afterSettlement {r : Prop} :
    Stable σ i (AfterSettlement S T battle ordered D r) :=
  fun w w' hw hw' honward h =>
    ⟨hT w w' hw hw' honward h.known, fun hr => (h.applied hr).evolves honward.evolves, h.decided⟩

omit hT [DecidableEq ι] in
/-- The transaction has ended with the result `a`. -/
theorem Returned.leaving {start : Storage ι} {o : StorageM (Except Unit Bool)}
    {a : Except Unit Bool} {s : Storage ι × List (StorageStep ι)}
    (hvalid : ValidResults battle ordered)
    (h : Returned S i client start (some o)
      (InCall σ S i client fun _ w => T w ∧ start.Onward σ i w)
      (fun _ r => InCall σ S i client
        (Concludes S (fun w => T w ∧ start.Onward σ i w) battle ordered D (r = .ok true))) 0 a s) :
    Leaving σ S i client (AfterSettlement S T battle ordered D (a = .ok true)) s := by
  -- A call that has not come to its `COMMIT` returns false.
  have hfailed : ∀ {own K}, a = .ok false → ¬ S →
      Calling i client own (InCall σ S i client fun _ w => T w ∧ start.Onward σ i w) 0 false K s →
      (∀ t conn m, K t conn m → Rested t conn m) →
      Leaving σ S i client (AfterSettlement S T battle ordered D (a = .ok true)) s := by
    rintro own K rfl hS h hrested
    refine Calling.leaving { h with
      lasting := h.lasting.mono fun w hw => ⟨hw.1, nofun, fun h => absurd h hS⟩
      known := hrested _ _ _ h.known }
  cases h with
  | refused ha hS h => exact hfailed ha (fun hs => nomatch hS hs) h fun _ _ _ h => h.1.rested
  | unbegun c ha hS h => exact hfailed ha hS h fun _ _ _ h => h.closed
  | ended c r hr h =>
    have hin : InCall σ S i client (Concludes S (fun w => T w ∧ start.Onward σ i w) battle ordered D
        (r = .ok true)) s.1 s.2 := h.lasting
    refine Calling.leaving { h with
      lasting := ⟨hin.lawful, hin.free, ⟨hin.known.known.1, fun ha => ?_, fun hS => ?_⟩, hin.meets⟩
      known := h.known.closed }
    · have hcommit : r = .ok true := hr.elim (fun heq => heq.symm.trans ha) And.left
      have hmem : statements s.2 ∈ s.1.mysql.committedBy c := by
        rw [(h.known.committed ha).committedBy]
        exact List.mem_append_right _ (List.mem_singleton_self _)
      exact hin.lawful.mysql.applied hin.lawful.consistent.mysql hvalid
        (hin.known.committable hcommit) (Mysql.mem_committed_of_committedBy hmem)
    · rcases hr with rfl | ⟨-, -, hnS⟩
      · exact hin.known.decided hS
      · exact absurd hS hnS

theorem triple_settlementTransaction (hordered : ordered ≠ [])
    (hvalid : ValidResults battle ordered) (hD : S → Decides T battle ordered D) :
    Prog.Triple (thread σ S i) (Idle σ i T)
      (MysqlClient.runTransaction client (some do
        return .ok (← settlement ⟨some client⟩ client battle ordered)))
      fun a => Idle σ i (AfterSettlement S T battle ordered D (a = .ok true)) := by
  refine triple_call hT (fun _ => stable_afterSettlement hT) fun start => ?_
  have hT' : Stable σ i fun w => T w ∧ start.Onward σ i w := hT.and (stable_onward start)
  have hD' : S → Decides (fun w => T w ∧ start.Onward σ i w) battle ordered D :=
    fun hS w hw => hD hS w hw.1
  refine (triple_runTransaction_body (lasting_inCall fun _ => hT')
    (F := fun _ r => InCall σ S i client (Concludes S (fun w => T w ∧ start.Onward σ i w) battle
      ordered D (r = .ok true)))
    (fun _ _ => lasting_inCall fun log => stable_concludes hT' log)
    (fun c => commits_concludes hT' rfl hvalid hD') (fun h => h.known.2.committed)
    fun o ho c => ?_).mono (fun _ h => h) fun a s h => h.leaving hvalid
  cases ho
  have hbody : Prog.Triple (recordedThread σ S i)
      (InBody σ S i client (fun w => T w ∧ start.Onward σ i w) c 0
        (Active c (start.mysql.committedBy c) []))
      (settlement ⟨some client⟩ client battle ordered) fun r =>
        Calling i client (some c) (InCall σ S i client
          (Concludes S (fun w => T w ∧ start.Onward σ i w) battle ordered D (r = true))) 0 true
          (Operated S c (start.mysql.committedBy c) (.ok r)) :=
    triple_settlement hT' hordered hD'
  refine .bind (hbody.mono (fun s h => ?_) fun _ _ h => h) fun r => .pure fun s h => ?_
  · exact { h with known := ⟨h.known.inside, h.known.conn, h.known.silent⟩ }
  · have hin : InCall σ S i client (Concludes S (fun w => T w ∧ start.Onward σ i w) battle ordered D
        (r = true)) s.1 s.2 := h.lasting
    have hiff : (Except.ok r : Except Unit Bool) = .ok true ↔ r = true := by simp
    refine { h with lasting := ⟨hin.lawful, hin.free, ⟨hin.known.known, fun hr => ?_, fun hS => ?_⟩,
      hin.meets⟩ }
    · exact hin.known.committable (hiff.mp hr)
    · exact hiff.trans (hin.known.decided hS)

/-- The checks of `ApplySettlement` before its transaction. -/
def Admits (battle : Battle) (results : List BattlePlayerResult) : Prop :=
  (0 < battle.battleId ∧ 0 < battle.roomId ∧ 0 < battle.winnerId ∧ results ≠ []) ∧
    checkResults battle (results.mergeSort fun a b => a.playerId ≤ b.playerId) = true

omit [DecidableEq ι] hT in
/-- **What `ApplySettlement` admits.** -/
theorem admits_iff_valid {results : List BattlePlayerResult} :
    Admits battle results ↔ ValidResults battle results :=
  checks_iff_valid (List.mergeSort_perm ..) (sorted_mergeSort_results results)

omit [DecidableEq ι] hT in
theorem applySettlement_of_not_admits {results : List BattlePlayerResult}
    (h : ¬ Admits battle results) :
    applySettlement ⟨some client⟩ battle results = Pure.pure false := by
  unfold applySettlement
  dsimp only
  split
  · rfl
  · next hids =>
    split
    · rfl
    · next hcheck =>
      rw [not_or, not_or, not_or, Int.not_le, Int.not_le, Int.not_le] at hids
      exact absurd ⟨hids, Bool.eq_true_of_not_eq_false hcheck⟩ h

omit [DecidableEq ι] hT in
/-- The settlement that the checks let through is one transaction. -/
theorem applySettlement_of_admits {results : List BattlePlayerResult}
    (h : Admits battle results) :
    applySettlement ⟨some client⟩ battle results = (do
      let r ← MysqlClient.runTransaction client (some do
        return .ok (← settlement ⟨some client⟩ client battle
          (results.mergeSort fun a b => a.playerId ≤ b.playerId)))
      return r.toOption.getD false) := by
  obtain ⟨⟨hbattle, hroom, hwinner, hresults⟩, hcheck⟩ := h
  have hids : ¬ (battle.battleId ≤ 0 ∨ battle.roomId ≤ 0 ∨ battle.winnerId ≤ 0 ∨ results = []) := by
    rw [not_or, not_or, not_or, Int.not_le, Int.not_le, Int.not_le]
    exact ⟨hbattle, hroom, hwinner, hresults⟩
  unfold applySettlement
  dsimp only
  rw [if_neg hids, if_neg (by rw [hcheck]; decide)]
  refine congrArg _ (funext fun r => ?_)
  cases r <;> rfl

/-- **`ApplySettlement`.** -/
theorem triple_applySettlement {results : List BattlePlayerResult}
    (hD : S → Admits battle results ∧
      Decides T battle (results.mergeSort fun a b => a.playerId ≤ b.playerId) D) :
    Prog.Triple (thread σ S i) (Idle σ i T) (applySettlement ⟨some client⟩ battle results)
      fun r => Idle σ i (AfterSettlement S T battle
        (results.mergeSort fun a b => a.playerId ≤ b.playerId) D (r = true)) := by
  by_cases hadmits : Admits battle results
  · obtain ⟨⟨hbattle, hroom, hwinner, hresults⟩, hchecked⟩ := hadmits
    have hvalid := validResults_of_check hbattle hroom hchecked
    rw [applySettlement_of_admits ⟨⟨hbattle, hroom, hwinner, hresults⟩, hchecked⟩]
    refine .bind (triple_settlementTransaction hT hvalid.ne_nil hvalid fun hS => (hD hS).2)
      fun a => .pure fun w h => ?_
    have hiff : a.toOption.getD false = true ↔ a = .ok true := by
      cases a <;> simp [Except.toOption]
    exact ⟨h.lawful, h.free, h.known.known, fun hr => h.known.applied (hiff.mp hr),
      fun hS => hiff.trans (h.known.decided hS)⟩
  · rw [applySettlement_of_not_admits hadmits]
    exact .pure fun w h =>
      ⟨h.lawful, h.free, h.known, nofun, fun hS => absurd (hD hS).1 hadmits⟩

end Game
