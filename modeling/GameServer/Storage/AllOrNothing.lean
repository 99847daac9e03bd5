import GameServer.Storage.InTransaction

/-!
# Transactions are all or nothing

`RunTransaction` with any callback, whatever becomes of the statements, the connection and the
`COMMIT`.
-/

namespace Game

open Infra

variable {ι : Type} {i : ι} {client : ClientId} {w w' : Storage ι}
  {start : Storage ι} {c : Conn} {d : Nat} {before : List Log} {t : List (StorageStep ι)}

/-! ## Calls -/

/-- The transactions of the connection. -/
def ofConn (c : Conn) (committed : List (Conn × Log)) : List Log :=
  (committed.filter (·.1 = c)).map (·.2)

/-- A call with the result `a`, during which the transactions `new` have been committed. -/
structure AllOrNothing (client : ClientId) (start w : Storage ι) (t : List (StorageStep ι))
    (a : Except Unit Bool) (c : Conn) (new : List (Conn × Log)) : Prop where
  /-- Every statement goes over the connection `c`, and succeeds in its transaction only. -/
  within : ∀ e ∈ t, Within client c e
  committed : w.mysql.committed = start.mysql.committed ++ new
  tables : mysqlStatements.Replays (new.flatMap (·.2)) start.mysql.db w.mysql.db
  all : a = .ok true → ofConn c new = [statements t]
  nothing : a ≠ .ok true →
    ofConn c new = [] ∨ (∃ e ∈ t, CommitFailed e) ∧ ofConn c new = [statements t]
  atRest : w.AtRest client

/-- The call is over, and the mutex has been unlocked. -/
inductive Concluded (client : ClientId) (start : Storage ι) (a : Except Unit Bool)
    (s : Storage ι × List (StorageStep ι)) : Prop where
  | refused (ha : a = .ok false)
      (h : Knowing client none (CallFrom client start fun _ => True) false (Resting start) s)
  | ended (c : Conn) (h : Knowing client (some c) (CallFrom client start (· = c)) false
      (Ended c (start.mysql.committedBy c) a) s)

theorem Concluded.allOrNothing (hstart : start.Consistent) {a : Except Unit Bool}
    (h : Concluded client start a (w, t)) : ∃ c new, AllOrNothing client start w t a c new := by
  cases h with
  | refused ha h =>
    obtain ⟨new, hnew⟩ := h.lasting.1
    have htables := Mysql.replays_of_prefix hstart.mysql h.consistent.mysql hnew.symm
    -- A connection that the client does not have will do as well.
    have hover : ∃ c, w.mysql.committedBy c = start.mysql.committedBy c := by
      cases hconn : (w.clients client).conn with
      | some c => exact ⟨c, (h.known.conn c hconn).2.committedBy⟩
      | none =>
        refine ⟨w.mysql.nextConn, ?_⟩
        have hnone := h.consistent.mysql.committedBy_fresh (Nat.le_refl _)
        have happend := Mysql.committedBy_append hnew.symm w.mysql.nextConn
        rw [hnone] at happend ⊢
        exact (List.append_eq_nil_iff.mp happend.symm).1.symm
    obtain ⟨c, hc⟩ := hover
    refine ⟨c, new, h.lasting.2 c trivial, hnew.symm, htables, fun h => ?_, fun _ => Or.inl ?_,
      h.inTransaction, fun b hb => ⟨(h.known.conn b hb).1, ?_⟩⟩
    · rw [ha] at h
      cases h
    · rw [Mysql.committedBy_append hnew.symm c] at hc
      exact List.append_right_eq_self.mp hc
    · obtain ⟨hopen, hover⟩ := h.known.conn b hb
      exact hover.quiet.resolve_right fun h => absurd (hopen.symm.trans h.2) nofun
  | ended c h =>
    obtain ⟨new, hnew⟩ := h.lasting.1
    have htables := Mysql.replays_of_prefix hstart.mysql h.consistent.mysql hnew.symm
    have happend := Mysql.committedBy_append hnew.symm c
    have hnothing : w.mysql.committedBy c = start.mysql.committedBy c → ofConn c new = [] :=
      fun heq => List.append_right_eq_self.mp (happend.symm.trans heq)
    have hall : w.mysql.committedBy c = start.mysql.committedBy c ++ [statements t] →
        ofConn c new = [statements t] :=
      fun heq => List.append_cancel_left (happend.symm.trans heq)
    refine ⟨c, new, h.lasting.2 c rfl, hnew.symm, htables,
      fun ha => hall (h.known.committed ha).committedBy, fun ha => ?_, h.inTransaction,
      h.known.closed⟩
    rcases h.known.uncommitted ha with hover | ⟨hfailed, hdoubt⟩
    · exact Or.inl (hnothing hover.committedBy)
    · cases hdoubt with
      | rolledBack hover => exact Or.inl (hnothing hover.committedBy)
      | committed hover => exact Or.inr ⟨hfailed, hall hover.committedBy⟩
      | pending _ _ _ _ hby => exact Or.inl (hnothing hby)

variable [DecidableEq ι]

theorem lasting_true (i : ι) (client : ClientId) (start : Storage ι) :
    Lasting (calls i client) (fun t => ∃ c, ∀ e ∈ t, Within client c e) False i client
      (CallFrom client start fun _ => True) :=
  lasting_call ⟨0, trivial⟩

/-- The mutex before the call, and in its body. -/
theorem triple_lock_start (hstart : start.Consistent) (hrest : start.AtRest client)
    (hlockable : start.Lockable i client) :
    ∃ d, Prog.Triple (recordedCalls i client) (· = (start, [])) (ask (.lockClient client))
      fun _ => AtStart i client start (CallFrom client start fun _ => True) d fun _ => True := by
  obtain ⟨hinTransaction, hconn⟩ := hrest
  have hknowing : Knowing client none (fun _ _ => True) false
      (fun t conn m => Resting start t conn m ∧ True) (start, []) :=
    ⟨hstart, fun _ h => (by cases h), trivial, hinTransaction,
      ⟨rfl, fun c hc => ⟨(hconn c hc).1, Or.inl (hconn c hc).2, rfl⟩⟩, trivial⟩
  have hsteady : Steady (ι := ι) none fun t conn m => Resting start t conn m ∧ True :=
    steady_resting.and
  have hlock : ∀ (d : Nat) (m : MysqlClient ι), m.conn = (start.clients client).conn →
      m.owner = some i → m.depth = d + 1 → m.inTransaction = false →
      start.lock i client = some (start.setClient client m, ()) →
      Prog.Triple (recordedCalls i client) (· = (start, [])) (ask (.lockClient client)) fun _ =>
        AtStart i client start (CallFrom client start fun _ => True) d fun _ => True := by
    intro d m hm howner hdepth hb hlock
    refine triple_ask (fun _ => lasting_true ..) (fun _ => hsteady) fun w t w' r h hexec => ?_
    obtain ⟨x, -, hexec⟩ := hexec
    cases h
    change start.lock i client = some (w', r) at hexec
    rw [hlock] at hexec
    cases hexec
    have hself := Storage.setClient_clients_self start client m
    have hcall : CallFrom client start (fun _ => True) (start.setClient client m)
        ([] ++ [⟨start, .lockClient client, (), start.setClient client m⟩]) :=
      CallFrom.append ⟨List.prefix_rfl, fun _ _ _ h => (by cases h)⟩ List.prefix_rfl
        fun _ _ => trivial
    exact ⟨hknowing.setClient hsteady rfl hcall hm hb,
      (congrArg MysqlClient.owner hself).trans howner,
      (congrArg MysqlClient.depth hself).trans hdepth⟩
  -- The mutex is free, or it is locked once more.
  unfold Storage.lock at hlock
  dsimp only at hlock
  rcases hlockable with hnone | ⟨howner, -⟩
  · refine ⟨0, hlock 0 { start.clients client with owner := some i, depth := 1 } rfl rfl rfl
      hinTransaction ?_⟩
    rw [hnone]
  · refine ⟨(start.clients client).depth, hlock _ { start.clients client with
      owner := some i, depth := (start.clients client).depth + 1 } rfl rfl rfl hinTransaction ?_⟩
    rw [howner]
    exact if_pos rfl

/-- The last thing that a call does. -/
theorem triple_unlock_last {P : Conn → Prop} (hP : ∃ c, P c) {own : Option Conn} {b : Bool}
    {K : List (StorageStep ι) → Option Conn → Mysql → Prop} (hK : Steady own K) :
    Prog.Triple (recordedCalls i client) (Calling i client own (CallFrom client start P) d b K)
      (ask (.unlockClient client)) fun _ => Knowing client own (CallFrom client start P) b K := by
  rintro ⟨w, t⟩ h r ⟨w', t'⟩ ⟨⟨x, -, hexec⟩, ht⟩
  cases hexec
  dsimp only at ht
  subst ht
  have hcall : CallFrom client start P (w.unlock client) (t ++ [⟨w, .unlockClient client, (),
      w.unlock client⟩]) := h.lasting.append List.prefix_rfl fun _ _ => trivial
  have hleft : Knowing client own (CallFrom client start P) b K (w.unlock client,
      t ++ [⟨w, .unlockClient client, (), w.unlock client⟩]) :=
    h.toKnowing.setClient hK rfl hcall rfl h.inTransaction
  refine ⟨hP.imp fun c hc => hcall.2 c hc, ?_⟩
  rintro ⟨w'', t''⟩ ⟨hrely, ht⟩
  dsimp only at ht
  subst ht
  exact (hleft.elsewhere hK hrely (hcall.elsewhere hleft.consistent hrely)).1

theorem triple_runTransaction (hstart : start.Consistent) (hrest : start.AtRest client)
    (hlockable : start.Lockable i client) (callback : Option Callback) :
    Prog.Triple (recordedCalls i client) (· = (start, []))
      (MysqlClient.runTransaction client (callback.map (·.run client)))
      (Concluded client start) := by
  obtain ⟨d, hlock⟩ := triple_lock_start hstart hrest hlockable
  refine .bind hlock fun _ => .bind (triple_runTransaction_body (lasting_true ..)
    (F := fun c _ => CallFrom client start (· = c)) (fun c _ => lasting_eq ..)
    (fun c w t ok w' d h hc hexec => ?_) (fun h => h.1) fun o ho c => ?_) fun a => ?_
  · obtain ⟨x, -, hexec⟩ := hexec
    exact h.lasting.append ((Storage.exec_effect h.consistent hexec).committed h.consistent)
      fun _ _ => trivial
  · obtain ⟨callback, -, rfl⟩ := Option.map_eq_some_iff.mp ho
    have hstays : Stays i client start c (start.mysql.committedBy c) (callback.run client) :=
      stays_callback callback
    refine (hstays d).mono (fun s h => ?_) fun r s h => ?_
    · exact { h with
        lasting := ⟨h.lasting.1, fun c _ => h.lasting.2 c trivial⟩
        known := h.known.inside }
    · exact { h with known := ⟨h.known.abandoned, fun _ => h.known, False.elim⟩ }
  · refine .bind (p := ask (.unlockClient client)) (B := fun _ => Concluded client start a)
      (fun s h => ?_) fun _ => .pure fun _ h => h
    cases h with
    | refused ha hS h =>
      exact Prog.wp_mono (fun _ s h => .refused ha { h with known := h.known.1 })
        (triple_unlock_last ⟨0, trivial⟩ steady_resting.and s h)
    | unbegun c ha hS h =>
      exact Prog.wp_mono (fun _ s h => .ended c { h with known := h.known.ended (ha ▸ nofun) })
        (triple_unlock_last (P := (· = c)) ⟨c, rfl⟩ steady_rolledBack s
          { h with lasting := ⟨h.lasting.1, fun c _ => h.lasting.2 c trivial⟩ })
    | ended c r hr h =>
      exact Prog.wp_mono (fun _ s h => .ended c h)
        (triple_unlock_last (P := (· = c)) ⟨c, rfl⟩ (steady_ended a) s h)

omit [DecidableEq ι] in
/-- What a nested call knows: its connection and the transaction are as before. -/
theorem steady_same (start : Storage ι) (client : ClientId) :
    Steady (ι := ι) none fun _ conn m => conn = (start.clients client).conn ∧
      ∀ c, conn = some c → m.isLinked c = true → start.mysql.isLinked c = true ∧
        m.isOpen c = start.mysql.isOpen c ∧ m.txn c = start.mysql.txn c where
  aside t conn m m' hm haside h := by
    refine ⟨h.1, fun c hc hlinked => ?_⟩
    obtain ⟨hlinked, hopen, htxn⟩ := (haside c (Or.inl hc)).linked hlinked
    rw [hopen, htxn]
    exact h.2 c hc hlinked
  quiet t e conn m he h := h

/--
**`RunTransaction` is all or nothing.**

Wherever a call with a callback is, its statements have gone over one connection, and those that
succeeded did so in the transaction that the call has begun on it. When the call returns true, they
have been committed, all of them together. Otherwise nothing of them is ever committed, unless a
`COMMIT` has failed, and then they are committed together or not at all. A call while a transaction
is open returns false, and the transaction stays as it is.
-/
theorem runTransaction_allOrNothing (hstart : start.Consistent)
    (hlockable : start.Lockable i client) :
    (start.AtRest client → ∀ (callback : Option Callback) (p : StorageM (Except Unit Bool)),
      Prog.Run (calls i client)
        (MysqlClient.runTransaction client (callback.map (·.run client))) start t p w →
      (∃ c, ∀ e ∈ t, Within client c e) ∧
        ∀ a, p = .pure a → ∃ c new, AllOrNothing client start w t a c new) ∧
    ((start.clients client).inTransaction = true → (start.clients client).owner = some i →
      ∀ (operation : Option (StorageM (Except Unit Bool))) (a : Except Unit Bool),
      Prog.Run (calls i client) (MysqlClient.runTransaction client operation) start t
        (.pure a) w →
      a = .ok false ∧ w.clients client = start.clients client ∧
        ∀ c, (w.clients client).conn = some c → w.mysql.isLinked c = true →
          w.mysql.isOpen c = start.mysql.isOpen c ∧ w.mysql.txn c = start.mysql.txn c) := by
  refine ⟨fun hrest callback p hrun => ?_, fun hopen howner operation a hrun => ?_⟩
  · have htriple := triple_runTransaction hstart hrest hlockable callback
    obtain ⟨hwithin, hwp⟩ := hrun.recorded ⟨0, fun _ h => absurd h List.not_mem_nil⟩
      (htriple (start, []) rfl)
    rw [List.nil_append] at hwithin hwp
    refine ⟨hwithin, ?_⟩
    rintro a rfl
    exact Concluded.allOrNothing hstart hwp
  · obtain ⟨d, hdepth⟩ : ∃ d, (start.clients client).depth = d + 1 := by
      rcases hlockable with hnone | ⟨-, hdepth⟩
      · exact absurd (hnone.symm.trans howner) nofun
      · exact Nat.exists_eq_add_one_of_ne_zero hdepth
    have hcalling : Calling i client none (CallFrom client start fun _ => True) d true
        (fun _ conn m => conn = (start.clients client).conn ∧
          ∀ c, conn = some c → m.isLinked c = true → start.mysql.isLinked c = true ∧
            m.isOpen c = start.mysql.isOpen c ∧ m.txn c = start.mysql.txn c) (start, []) :=
      ⟨⟨hstart, fun _ h => (by cases h), ⟨List.prefix_rfl, fun _ _ _ h => (by cases h)⟩, hopen,
        rfl, fun _ _ hlinked => ⟨hlinked, rfl, rfl⟩⟩, howner, hdepth⟩
    -- The nested call gives up at once.
    have htriple := triple_nested (lasting_true i client start) (steady_same start client)
      operation (start, []) hcalling
    obtain ⟨-, hwp⟩ := hrun.recorded ⟨0, fun _ h => absurd h List.not_mem_nil⟩ htriple
    obtain ⟨⟨hconn, hsame⟩, ha⟩ := hwp.known
    refine ⟨ha, ?_, fun c hc hlinked => (hsame c hc hlinked).2⟩
    have howner' := hwp.owner
    have hdepth' := hwp.depth
    have hopen' := hwp.inTransaction
    dsimp only at howner' hdepth' hopen' hconn
    cases hw : w.clients client
    cases hs : start.clients client
    simp_all

/-- A callback that makes one statement, and everything succeeds. -/
theorem runTransaction_witness :
    let callback : Callback := .execute (.insertLog 1 2 20) .ret
    ∃ (w : Storage Nat) (t : List (StorageStep Nat)) (c : Conn) (new : List (Conn × Log)),
      Prog.Run (calls 0 0) (MysqlClient.runTransaction 0 (some (callback.run 0))) {} t
        (.pure (.ok true)) w ∧
      t ≠ [] ∧ AllOrNothing 0 {} w t (.ok true) c new := by
  intro callback
  obtain ⟨w, heval⟩ : ∃ w, (MysqlClient.runTransaction 0 (some (callback.run 0))).eval
      (fun q w => Storage.exec 0 q .ok w) ({} : Storage Nat) = some (w, .ok true) := ⟨_, rfl⟩
  have hexec : ∀ (q : StorageRequest) (w w' : Storage Nat) (r : q.Reply),
      Storage.exec 0 q .ok w = some (w', r) → (calls 0 0).exec q w r w' := by
    intro q w w' r h
    refine ⟨.ok, ?_, h⟩
    cases q with
    | mysqlQuery => exact fun h => by cases h
    | _ => trivial
  obtain ⟨t, hrun⟩ := Prog.run_of_eval hexec (fun _ => .refl) heval
  have hsteps : t ≠ [] := by
    rintro rfl
    cases hrun
  have hrest : ({} : Storage Nat).AtRest 0 := ⟨rfl, fun _ h => by cases h⟩
  obtain ⟨c, new, h⟩ := ((runTransaction_allOrNothing Storage.consistent_init (Or.inl rfl)).1 hrest
    (some callback) _ hrun).2 _ rfl
  exact ⟨w, t, c, new, hrun, hsteps, h⟩

end Game
