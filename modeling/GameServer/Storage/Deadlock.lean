import GameServer.Infra.Run
import GameServer.Storage.StatementOrder

/-!
# Settlements do not deadlock

Every client knows which rows it has locked (`Agrees`), and so every statement that reaches the
server keeps to the order in which rows are locked. Whatever fails, nobody waits in a circle
(`RowLocks.settlements_never_deadlock`).
-/

namespace Game

open Infra

namespace RowLocks

/-! ## Connections -/

/-- What matters of the state for one connection. -/
structure Same (d : Conn) (s s' : RowLocks) : Prop where
  locks : LockTable.Same d s.locks s'.locks
  isOpen : s'.isOpen d = s.isOpen d
  isLinked : s'.isLinked d = true → s.isLinked d = true

/-- No statement is under way on the connection, and it holds no row. -/
def Clean (s : RowLocks) (c : Conn) : Prop :=
  s.locks.pending c = none ∧ ∀ r, s.locks.holder r ≠ some c

structure Consistent (s : RowLocks) : Prop where
  orderly : s.locks.Orderly settlementOrder
  fresh : ∀ c, s.nextConn ≤ c → s.Clean c
  conn_lt : ∀ a c, s.conn a = some c → c < s.nextConn
  conn_inj : ∀ a b c, s.conn a = some c → s.conn b = some c → b = a

/-- A step of the connection `c`. -/
structure OnConn (c : Conn) (s s' : RowLocks) : Prop where
  orderly : s.locks.Orderly settlementOrder → s'.locks.Orderly settlementOrder
  others : ∀ d, d ≠ c → Same d s s'
  nextConn : s'.nextConn = s.nextConn
  conn : s'.conn = s.conn
  inTransaction : s'.inTransaction = s.inTransaction

variable {s s' : RowLocks} {c d : Conn} {a b : ClientId}

theorem Same.refl (d : Conn) (s : RowLocks) : Same d s s :=
  ⟨.refl d s.locks, rfl, id⟩

theorem Same.clean (h : Same d s s') (hclean : s.Clean d) : s'.Clean d :=
  ⟨h.locks.pending.trans hclean.1, fun r hr => hclean.2 r ((h.locks.holder r).mp hr)⟩

theorem clean_finish (s : RowLocks) (c : Conn) : (s.finish c).Clean c :=
  ⟨Function.update_self .., fun _ hr => (LockTable.release_holder_iff.mp hr).1 rfl⟩

theorem onConn_refl (c : Conn) (s : RowLocks) : OnConn c s s :=
  ⟨id, fun d _ => .refl d s, rfl, rfl, rfl⟩

theorem onConn_finish (c : Conn) (s : RowLocks) : OnConn c s (s.finish c) where
  orderly h := h.release c
  others _ hd := ⟨LockTable.same_release hd s.locks, Function.update_of_ne hd .., id⟩
  nextConn := rfl
  conn := rfl
  inTransaction := rfl

theorem onConn_start (c : Conn) (s : RowLocks) : OnConn c s (s.start c) where
  orderly h := h.release c
  others d hd := by
    refine ⟨LockTable.same_release hd s.locks, ?_, id⟩
    exact Function.update_of_ne hd ..
  nextConn := rfl
  conn := rfl
  inTransaction := rfl

theorem onConn_endStatement (c : Conn) (s : RowLocks) : OnConn c s (s.endStatement c) := by
  unfold endStatement
  refine ⟨fun h => ?_, fun d hd => ⟨?_, rfl, id⟩, rfl, rfl, rfl⟩
  · split
    · exact h.finish c
    · exact h.release c
  · split
    · exact LockTable.same_finish hd s.locks
    · exact LockTable.same_release hd s.locks

/-- A connection that is lost takes nothing away from anybody. -/
theorem same_cut (c d : Conn) (s : RowLocks) : Same d s (s.cut c) := by
  refine ⟨.refl d s.locks, rfl, fun h => ?_⟩
  by_cases hd : d = c
  · rw [hd, show (s.cut c).isLinked c = false from Function.update_self ..] at h
    cases h
  · exact (Function.update_of_ne hd ..).symm.trans h

theorem onConn_cut (c : Conn) (s : RowLocks) : OnConn c s (s.cut c) :=
  ⟨id, fun d _ => same_cut c d s, rfl, rfl, rfl⟩

theorem OnConn.consistent (h : OnConn c s s') (hs : s.Consistent)
    (hfresh : s.nextConn ≤ c → s'.Clean c) : s'.Consistent where
  orderly := h.orderly hs.orderly
  fresh d hd := by
    rw [h.nextConn] at hd
    by_cases hdc : d = c
    · subst hdc
      exact hfresh hd
    · exact (h.others d hdc).clean (hs.fresh d hd)
  conn_lt a d hd := by
    rw [h.conn] at hd
    rw [h.nextConn]
    exact hs.conn_lt a d hd
  conn_inj a b d ha hb := by
    rw [h.conn] at ha hb
    exact hs.conn_inj a b d ha hb

/-! ## Requests -/

/-- What the request of a client leaves to the others. -/
structure Moves (a : ClientId) (s s' : RowLocks) : Prop where
  consistent : s'.Consistent
  conn : ∀ b, b ≠ a → s'.conn b = s.conn b
  inTransaction : ∀ b, b ≠ a → s'.inTransaction b = s.inTransaction b
  others : ∀ d, d < s.nextConn → s.conn a ≠ some d → Same d s s'

theorem Moves.refl (hs : s.Consistent) (a : ClientId) : Moves a s s :=
  ⟨hs, fun _ _ => rfl, fun _ _ => rfl, fun d _ _ => .refl d s⟩

theorem OnConn.moves (h : OnConn c s s') (hs : s.Consistent) (hc : s.conn a = some c) :
    Moves a s s' where
  consistent := h.consistent hs fun hle => absurd (hs.conn_lt a c hc) (Nat.not_lt.mpr hle)
  conn b _ := congrFun h.conn b
  inTransaction b _ := congrFun h.inTransaction b
  others d _ hd := h.others d fun heq => hd (heq ▸ hc)

theorem request_cases {act : RowLocks} {x : Outcome} {ok : Bool} (hact : OnConn c s act)
    (h : s.request c act x = (s', ok)) :
    OnConn c s s' ∧ (ok = true → s' = act ∧ s.isLinked c = true) := by
  unfold request at h
  split at h
  · cases h
    exact ⟨onConn_refl c s, nofun⟩
  · next hlinked =>
    cases x with
    | ok =>
      cases h
      exact ⟨hact, fun _ => ⟨rfl, by simpa using hlinked⟩⟩
    | error =>
      cases h
      exact ⟨onConn_refl c s, nofun⟩
    | abort =>
      cases h
      exact ⟨onConn_finish c s, nofun⟩
    | lost =>
      cases h
      exact ⟨onConn_cut c s, nofun⟩

theorem onConn_cases {act : Conn → RowLocks} {x : Outcome} {ok : Bool}
    (hact : ∀ c, OnConn c s (act c)) (h : s.onConn a act x = (s', ok)) :
    (s' = s ∧ ok = false) ∨ ∃ c, s.conn a = some c ∧ OnConn c s s' ∧ (ok = true → s' = act c) := by
  unfold onConn at h
  split at h
  · cases h
    exact Or.inl ⟨rfl, rfl⟩
  · next c hc =>
    obtain ⟨hon, hok⟩ := request_cases (hact c) h
    exact Or.inr ⟨c, hc, hon, fun h => (hok h).1⟩

theorem query_cases {contents : TableContents} {sql : Sql} {x : Outcome} {reply : Reply sql}
    (h : s.query contents c sql x = some (s', reply)) :
    OnConn c s s' ∧ ∀ answer, reply = .ok answer →
      s.isLinked c = true ∧ s.locks.pending c = some [] ∧ s' = s.endStatement c := by
  unfold query at h
  split at h
  · cases h
    exact ⟨onConn_refl c s, nofun⟩
  · next hlinked =>
    cases x with
    | ok =>
      dsimp only at h
      split at h
      · next hpending =>
        cases h
        exact ⟨onConn_endStatement c s, fun _ _ => ⟨by simpa using hlinked, hpending, rfl⟩⟩
      · cases h
    | error =>
      cases h
      exact ⟨onConn_endStatement c s, nofun⟩
    | abort =>
      cases h
      exact ⟨onConn_finish c s, nofun⟩
    | lost =>
      cases h
      exact ⟨onConn_cut c s, nofun⟩

/-- A client that gives up its connection. -/
theorem moves_leave (hs : s.Consistent) (hlocks : s'.locks = s.locks) (hopen : s'.isOpen = s.isOpen)
    (hlinked : ∀ d, s.conn a ≠ some d → s'.isLinked d = s.isLinked d)
    (hnext : s'.nextConn = s.nextConn) (hconn : s'.conn = Function.update s.conn a none)
    (hin : s'.inTransaction = s.inTransaction) : Moves a s s' := by
  have hold : ∀ b c, s'.conn b = some c → s.conn b = some c := by
    intro b c hb
    rw [hconn] at hb
    by_cases hba : b = a
    · rw [hba, Function.update_self] at hb
      cases hb
    · rwa [Function.update_of_ne hba] at hb
  refine ⟨⟨hlocks ▸ hs.orderly, fun c hc => ?_, fun b c hb => ?_, fun b b' c hb hb' => ?_⟩,
    fun b hb => ?_, fun b _ => congrFun hin b, fun d _ hd => ⟨?_, congrFun hopen d, ?_⟩⟩
  · rw [hnext] at hc
    unfold Clean
    rw [hlocks]
    exact hs.fresh c hc
  · rw [hnext]
    exact hs.conn_lt b c (hold b c hb)
  · exact hs.conn_inj b b' c (hold b c hb) (hold b' c hb')
  · rw [hconn, Function.update_of_ne hb]
  · rw [hlocks]
    exact .refl d s.locks
  · rw [hlinked d hd]
    exact id

/-- A new connection. -/
theorem moves_connect (hs : s.Consistent) (a : ClientId) : Moves a s (s.connect a) := by
  have hold : ∀ b c, (s.connect a).conn b = some c → b = a ∧ c = s.nextConn ∨
      b ≠ a ∧ s.conn b = some c := by
    intro b c hb
    by_cases hba : b = a
    · rw [hba, show (s.connect a).conn a = some s.nextConn from Function.update_self ..] at hb
      exact Or.inl ⟨hba, (Option.some.inj hb).symm⟩
    · exact Or.inr ⟨hba, (Function.update_of_ne hba ..).symm.trans hb⟩
  refine ⟨⟨hs.orderly, fun c hc => hs.fresh c (Nat.le_of_succ_le hc), fun b c hb => ?_,
    fun b b' c hb hb' => ?_⟩, fun b hb => Function.update_of_ne hb .., fun _ _ => rfl,
    fun d hd _ => ⟨.refl d s.locks, rfl, fun hl => ?_⟩⟩
  · rcases hold b c hb with ⟨-, hc⟩ | ⟨-, hbefore⟩
    · exact hc ▸ Nat.lt_succ_self _
    · exact Nat.lt_succ_of_lt (hs.conn_lt b c hbefore)
  · rcases hold b c hb with ⟨hba, hc⟩ | ⟨-, hbefore⟩ <;>
      rcases hold b' c hb' with ⟨hba', hc'⟩ | ⟨-, hbefore'⟩
    · rw [hba, hba']
    · exact absurd (hs.conn_lt b' c hbefore') (hc ▸ Nat.lt_irrefl _)
    · exact absurd (hs.conn_lt b c hbefore) (hc' ▸ Nat.lt_irrefl _)
    · exact hs.conn_inj b b' c hbefore hbefore'
  · exact (Function.update_of_ne (Nat.ne_of_lt hd) ..).symm.trans hl

theorem exec_moves {contents : TableContents} {q : StorageRequest} {x : Outcome} {r : q.Reply}
    (hs : s.Consistent) (hq : q.client = some a) (h : exec contents q x s = some (s', r)) :
    Moves a s s' := by
  have honConn : ∀ {act : Conn → RowLocks} {ok : Bool}, (∀ c, OnConn c s (act c)) →
      s.onConn a act x = (s', ok) → Moves a s s' := by
    intro act ok hact h
    rcases onConn_cases hact h with ⟨rfl, -⟩ | ⟨c, hc, hon, -⟩
    · exact .refl hs a
    · exact hon.moves hs hc
  -- The requests that only look at the client are no steps of the server.
  cases q with
  | lockService | unlockService | zadd => cases hq
  | lockClient | unlockClient | isConnected | isInTransaction | mysqlInsertId =>
    cases h
    exact .refl hs a
  | setInTransaction a' value =>
    obtain rfl := Option.some.inj hq
    cases h
    exact ⟨⟨hs.orderly, hs.fresh, hs.conn_lt, hs.conn_inj⟩, fun _ _ => rfl,
      fun b hb => Function.update_of_ne hb .., fun d _ _ => ⟨.refl d s.locks, rfl, id⟩⟩
  | mysqlConnect a' =>
    obtain rfl := Option.some.inj hq
    unfold exec at h
    dsimp only at h
    split at h
    · cases h
      exact moves_connect hs _
    · cases h
      exact moves_leave hs rfl rfl (fun _ _ => rfl) rfl rfl rfl
  | mysqlClose a' =>
    obtain rfl := Option.some.inj hq
    unfold exec at h
    dsimp only at h
    split at h
    · cases h
      exact .refl hs _
    · next c hc =>
      cases h
      refine moves_leave hs rfl rfl (fun d hd => Function.update_of_ne ?_ ..) rfl rfl rfl
      rintro rfl
      exact hd hc
  | mysqlQuery a' sql =>
    obtain rfl := Option.some.inj hq
    unfold exec at h
    dsimp only at h
    split at h
    · cases h
      exact .refl hs _
    · next c hc => exact (query_cases h).1.moves hs hc
  | startTransaction a' =>
    obtain rfl := Option.some.inj hq
    exact honConn (onConn_start · s) (Option.some.inj h)
  | mysqlCommit a' | mysqlRollback a' =>
    obtain rfl := Option.some.inj hq
    exact honConn (onConn_finish · s) (Option.some.inj h)

/-! ## What the clients know is true -/

/-- The connection of the client holds the rows that its statements have locked so far, and those
that the statement under way has locked already. -/
inductive Stands (s : RowLocks) (p : StorageM Unit) (a : ClientId) (c : Conn)
    (rows : List TableRow) : Prop where
  | between (hpending : s.locks.pending c = none)
      (hheld : ∀ r, s.locks.holder r = some c ↔ r ∈ rows)
  | within (sql : Sql) (k : Reply sql → StorageM Unit) (players : BattleId → List PlayerId)
      (locked rest : List TableRow) (hprog : p = .step (.mysqlQuery a sql) k)
      (hrows : sql.tableRows players = locked ++ rest) (hpending : s.locks.pending c = some rest)
      (hheld : ∀ r, s.locks.holder r = some c ↔ r ∈ rows ∨ r ∈ locked)

/-- What a client in the program `p` knows. -/
structure Agrees (s : RowLocks) (p : StorageM Unit) (a : ClientId) (g : Script) : Prop where
  isConnected : g.isConnected = (s.conn a).isSome
  inTransaction : g.inTransaction = s.inTransaction a
  idle : g.phase = .idle → ∀ c, s.conn a = some c → s.Clean c
  made : ∀ rows, g.phase = .made rows → ∀ c, s.conn a = some c → s.isLinked c = true →
    s.isOpen c = true ∧ s.Stands p a c rows

variable {p p' : StorageM Unit} {g : Script} {rows : List TableRow}

theorem Stands.same (h : s.Stands p a c rows) (hsame : Same c s s') : s'.Stands p a c rows := by
  cases h with
  | between hpending hheld =>
    exact .between (hsame.locks.pending.trans hpending) fun r =>
      (hsame.locks.holder r).trans (hheld r)
  | within sql k players locked rest hprog hrows hpending hheld =>
    refine .within sql k players locked rest hprog hrows ?_ fun r => ?_
    · exact hsame.locks.pending.trans hpending
    · exact (hsame.locks.holder r).trans (hheld r)

theorem Agrees.same (h : s.Agrees p a g) (hconn : s'.conn a = s.conn a)
    (hin : s'.inTransaction a = s.inTransaction a)
    (hsame : ∀ c, s.conn a = some c → Same c s s') : s'.Agrees p a g where
  isConnected := h.isConnected.trans (congrArg Option.isSome hconn.symm)
  inTransaction := h.inTransaction.trans hin.symm
  idle hidle c hc := by
    rw [hconn] at hc
    exact (hsame c hc).clean (h.idle hidle c hc)
  made rows hmade c hc hlinked := by
    rw [hconn] at hc
    have hsame := hsame c hc
    obtain ⟨hopen, hstands⟩ := h.made rows hmade c hc (hsame.isLinked hlinked)
    exact ⟨hsame.isOpen.trans hopen, hstands.same hsame⟩

/-- Requests of the other clients. -/
theorem Agrees.moves (h : s.Agrees p b g) (hs : s.Consistent) (hmoves : Moves a s s')
    (hne : b ≠ a) : s'.Agrees p b g := by
  refine h.same (hmoves.conn b hne) (hmoves.inTransaction b hne) fun c hc => ?_
  exact hmoves.others c (hs.conn_lt b c hc) fun ha => hne (hs.conn_inj a b c ha hc)

/-- Without a statement under way it does not matter where the program is. -/
theorem Agrees.quiet {q : StorageRequest} {k : q.Reply → StorageM Unit}
    (h : s.Agrees (.step q k) a g) (hq : ∀ sql, q ≠ .mysqlQuery a sql) (p : StorageM Unit) :
    s.Agrees p a g where
  isConnected := h.isConnected
  inTransaction := h.inTransaction
  idle := h.idle
  made rows hmade c hc hlinked := by
    obtain ⟨hopen, hstands⟩ := h.made rows hmade c hc hlinked
    refine ⟨hopen, ?_⟩
    cases hstands with
    | between hpending hheld => exact .between hpending hheld
    | within sql k players locked rest hprog =>
      cases hprog
      exact absurd rfl (hq _)

/-- A client without a connection knows enough. -/
theorem agrees_unconnected (hconn : s.conn a = none) (hisConnected : g.isConnected = false)
    (hin : g.inTransaction = s.inTransaction a) : s.Agrees p a g where
  isConnected := by rw [hisConnected, hconn]; rfl
  inTransaction := hin
  idle _ c hc := by
    rw [hconn] at hc
    cases hc
  made _ _ c hc := by
    rw [hconn] at hc
    cases hc

/-- `in_transaction_` says nothing about the server. -/
theorem Agrees.marked (h : s.Agrees p a g) (value : Bool) :
    Agrees { s with inTransaction := Function.update s.inTransaction a value } p a
      { g with inTransaction := value } where
  isConnected := h.isConnected
  inTransaction := by
    show value = Function.update s.inTransaction a value a
    rw [Function.update_self]
  idle := h.idle
  made rows hmade c hc hlinked := by
    obtain ⟨hopen, hstands⟩ := h.made rows hmade c hc hlinked
    exact ⟨hopen, hstands.same ⟨.refl c s.locks, rfl, id⟩⟩

/-- A client that has given up knows nothing. -/
theorem Agrees.broken (h : s.Agrees p a g) (hconn : s'.conn = s.conn)
    (hin : s'.inTransaction = s.inTransaction) :
    s'.Agrees p' a { g with phase := .broken } where
  isConnected := by rw [hconn]; exact h.isConnected
  inTransaction := by rw [hin]; exact h.inTransaction
  idle hidle := by cases hidle
  made _ hmade := by cases hmade

/-- A transaction has ended. -/
theorem Agrees.ended (h : s.Agrees p a g) (hc : s.conn a = some c) :
    (s.finish c).Agrees p' a { g with phase := .idle } where
  isConnected := h.isConnected
  inTransaction := h.inTransaction
  idle _ d hd := by
    obtain rfl : d = c := Option.some.inj (hd.symm.trans hc)
    exact clean_finish s d
  made _ hmade := by cases hmade

/-- A transaction has begun. -/
theorem Agrees.begun (h : s.Agrees p a g) (hc : s.conn a = some c) :
    (s.start c).Agrees p' a { g with phase := .made [] } where
  isConnected := h.isConnected
  inTransaction := h.inTransaction
  idle hidle := by cases hidle
  made rows hmade d hd _ := by
    cases hmade
    obtain rfl : d = c := Option.some.inj (hd.symm.trans hc)
    obtain ⟨hpending, hheld⟩ := clean_finish s d
    exact ⟨Function.update_self .., .between hpending fun r =>
      iff_of_false (hheld r) List.not_mem_nil⟩

/-- A statement has been carried out. -/
theorem Agrees.executed {sql : Sql} {k : Reply sql → StorageM Unit}
    (h : s.Agrees (.step (.mysqlQuery a sql) k) a g) (hmade : g.phase = .made rows)
    (hc : s.conn a = some c) (hlinked : s.isLinked c = true)
    (hpending : s.locks.pending c = some []) (p' : StorageM Unit) :
    ∃ players, (s.endStatement c).Agrees p' a
      { g with phase := .made (rows ++ sql.tableRows players) } := by
  obtain ⟨hopen, hstands⟩ := h.made rows hmade c hc hlinked
  cases hstands with
  | between hnone => exact absurd (hnone.symm.trans hpending) nofun
  | within sql' k' players locked rest hprog hrows hrest hheld =>
    cases hprog
    cases hrest.symm.trans hpending
    rw [List.append_nil] at hrows
    have hlocks : (s.endStatement c).locks = s.locks.finish c := if_pos hopen
    refine ⟨players, h.isConnected, h.inTransaction, fun hidle => (by cases hidle),
      fun rows' hmade' d hd _ => ?_⟩
    cases hmade'
    obtain rfl : d = c := Option.some.inj (hd.symm.trans hc)
    refine ⟨hopen, .between ?_ fun r => ?_⟩
    · rw [hlocks]
      exact Function.update_self ..
    · rw [hlocks, hrows, List.mem_append]
      exact hheld r

/-- **What the client knows after a request.** -/
theorem Agrees.next {contents : TableContents} {q : StorageRequest} {x : Outcome} {r : q.Reply}
    {k : q.Reply → StorageM Unit} (h : s.Agrees (.step q k) a g) (hs : s.Consistent)
    (hq : g.Meets a q) (hexec : exec contents q x s = some (s', r)) :
    ∃ g', g.Next q r g' ∧ s'.Agrees (k r) a g' := by
  have hread : (∀ sql, q ≠ .mysqlQuery a sql) → s' = s → s'.Agrees (k r) a g := by
    rintro hq rfl
    exact h.quiet hq _
  -- A request that the server does not see leaves everything as it was.
  cases q with
  | lockService | unlockService | zadd => cases hq
  | lockClient | unlockClient | mysqlInsertId =>
    cases hexec
    exact ⟨g, rfl, hread (fun _ => nofun) rfl⟩
  | isInTransaction a' =>
    obtain rfl : a' = a := Option.some.inj hq
    cases hexec
    exact ⟨g, ⟨h.inTransaction.symm, rfl⟩, hread (fun _ => nofun) rfl⟩
  | isConnected a' =>
    obtain rfl : a' = a := Option.some.inj hq
    cases hexec
    refine ⟨_, ⟨h.isConnected.symm, rfl⟩, ?_⟩
    split
    · exact hread (fun _ => nofun) rfl
    · next hnone =>
      have hc : s.conn a' = none := Option.not_isSome_iff_eq_none.mp hnone
      exact agrees_unconnected hc (h.isConnected.trans (congrArg Option.isSome hc))
        h.inTransaction
  | setInTransaction a' value =>
    obtain rfl : a' = a := Option.some.inj hq
    cases hexec
    exact ⟨_, rfl, (h.quiet (fun _ => nofun) (k ())).marked value⟩
  | mysqlConnect a' =>
    obtain ⟨rfl, hidle⟩ := hq
    unfold exec at hexec
    dsimp only at hexec
    split at hexec
    · cases hexec
      have hself : (s.connect a').conn a' = some s.nextConn := Function.update_self ..
      refine ⟨_, rfl, by rw [hself]; rfl, h.inTransaction, fun _ c hc => ?_, fun rows hmade => ?_⟩
      · cases hself.symm.trans hc
        exact hs.fresh _ (Nat.le_refl _)
      · exact absurd (hidle.symm.trans hmade) nofun
    · cases hexec
      exact ⟨_, rfl, agrees_unconnected (Function.update_self ..) rfl h.inTransaction⟩
  | mysqlClose a' =>
    obtain rfl : a' = a := Option.some.inj hq
    unfold exec at hexec
    dsimp only at hexec
    split at hexec
    · next hc =>
      cases hexec
      exact ⟨_, rfl, agrees_unconnected hc rfl h.inTransaction⟩
    · cases hexec
      exact ⟨_, rfl, agrees_unconnected (Function.update_self ..) rfl h.inTransaction⟩
  | startTransaction a' =>
    obtain ⟨rfl, -⟩ := hq
    refine ⟨_, rfl, ?_⟩
    rcases onConn_cases (onConn_start · s) (Option.some.inj hexec) with
      ⟨rfl, rfl⟩ | ⟨c, hc, hon, hok⟩
    · exact h.broken rfl rfl
    · cases r with
      | false => exact h.broken hon.conn hon.inTransaction
      | true =>
        rw [hok rfl]
        exact h.begun hc
  | mysqlCommit a' | mysqlRollback a' =>
    obtain rfl : a' = a := Option.some.inj hq
    refine ⟨_, rfl, ?_⟩
    rcases onConn_cases (onConn_finish · s) (Option.some.inj hexec) with
      ⟨rfl, rfl⟩ | ⟨c, hc, hon, hok⟩
    · exact h.broken rfl rfl
    · cases r with
      | false => exact h.broken hon.conn hon.inTransaction
      | true =>
        rw [hok rfl]
        exact h.ended hc
  | mysqlQuery a' sql =>
    obtain ⟨rfl, rows, hmade, -⟩ := hq
    unfold exec at hexec
    dsimp only at hexec
    split at hexec
    · cases hexec
      exact ⟨_, rfl, h.broken rfl rfl⟩
    · next c hc =>
      obtain ⟨hon, hok⟩ := query_cases hexec
      cases r with
      | error lost => exact ⟨_, rfl, h.broken hon.conn hon.inTransaction⟩
      | ok answer =>
        obtain ⟨hlinked, hpending, rfl⟩ := hok answer rfl
        obtain ⟨players, hagrees⟩ := h.executed hmade hc hlinked hpending (k (.ok answer))
        exact ⟨_, ⟨rows, players, hmade, rfl⟩, hagrees⟩

/-! ## What happens besides -/

/-- A step of a connection matters to the client that has it. -/
theorem Agrees.onConn (h : s.Agrees p a g) (hon : OnConn c s s')
    (hown : s.conn a = some c → s'.Agrees p a g) : s'.Agrees p a g := by
  by_cases hc : s.conn a = some c
  · exact hown hc
  · refine h.same (congrFun hon.conn a) (congrFun hon.inTransaction a) fun d hd => ?_
    refine hon.others d ?_
    rintro rfl
    exact hc hd

theorem onConn_take (c : Conn) (s : RowLocks) :
    OnConn c s { s with locks := s.locks.take c } where
  orderly h := h.take c
  others _ hd := ⟨LockTable.same_take hd s.locks, rfl, id⟩
  nextConn := rfl
  conn := rfl
  inTransaction := rfl

theorem onConn_drop (c : Conn) (s : RowLocks) : OnConn c s (s.drop c) := by
  unfold drop
  split
  · exact onConn_refl c s
  · exact onConn_finish c s

/-- Without a statement under way there is nothing to lock. -/
theorem take_of_pending_none (h : s.locks.pending c = none) : s.locks.take c = s.locks := by
  unfold LockTable.take
  rw [h]

theorem Clean.take (h : s.Clean c) : Clean { s with locks := s.locks.take c } c := by
  rw [take_of_pending_none h.1]
  exact h

theorem Clean.drop (h : s.Clean c) : (s.drop c).Clean c := by
  unfold RowLocks.drop
  split
  · exact h
  · exact clean_finish s c

/-- The statement under way locks its next row. -/
theorem Stands.take (h : s.Stands p a c rows) :
    Stands { s with locks := s.locks.take c } p a c rows := by
  rcases LockTable.take_cases s.locks c with heq | ⟨r, rest, hnext, hfree, heq⟩ <;> rw [heq]
  · exact h
  · cases h with
    | between hpending => exact absurd (hpending.symm.trans hnext) nofun
    | within sql k players locked rest' hprog hrows hpending hheld =>
      cases hpending.symm.trans hnext
      refine .within sql k players (locked ++ [r]) rest hprog ?_ (Function.update_self ..)
        fun r' => ?_
      · rw [hrows, List.append_assoc]
        rfl
      · rw [LockTable.holder_update_iff hfree, hheld, List.mem_append, List.mem_singleton, or_assoc]
        simp only [and_true]

theorem Agrees.take (h : s.Agrees p a g) (c : Conn) :
    Agrees { s with locks := s.locks.take c } p a g := by
  refine h.onConn (onConn_take c s) fun hc => ⟨h.isConnected, h.inTransaction, ?_, ?_⟩
  · intro hidle d hd
    obtain rfl : d = c := Option.some.inj (hd.symm.trans hc)
    exact (h.idle hidle d hd).take
  · intro rows hmade d hd hlinked
    obtain rfl : d = c := Option.some.inj (hd.symm.trans hc)
    obtain ⟨hopen, hstands⟩ := h.made rows hmade d hd hlinked
    exact ⟨hopen, hstands.take⟩

theorem Agrees.cut (h : s.Agrees p a g) (c : Conn) : (s.cut c).Agrees p a g :=
  h.same rfl rfl fun d _ => same_cut c d s

/-- The server ends the transaction of a connection that is lost. -/
theorem Agrees.drop (h : s.Agrees p a g) (c : Conn) : (s.drop c).Agrees p a g := by
  refine h.onConn (onConn_drop c s) fun hc => ?_
  unfold RowLocks.drop
  split
  · exact h
  · next hlost =>
    refine ⟨h.isConnected, h.inTransaction, fun _ d hd => ?_, fun rows _ d hd hlinked => ?_⟩
    · obtain rfl : d = c := Option.some.inj (hd.symm.trans hc)
      exact clean_finish s d
    · obtain rfl : d = c := Option.some.inj (hd.symm.trans hc)
      exact absurd hlinked hlost

theorem send_cases (s : RowLocks) (a : ClientId) (rows : List TableRow) :
    s.send a rows = s ∨ ∃ c, s.conn a = some c ∧ s.isLinked c = true ∧
      s.locks.pending c = none ∧ s.send a rows = { s with locks := s.locks.ask c rows } := by
  unfold send
  split
  · exact Or.inl rfl
  · next c hc =>
    split
    · next h => exact Or.inr ⟨c, hc, h.1, h.2, rfl⟩
    · exact Or.inl rfl

/-- A statement reaches the server: it keeps to the order. -/
theorem Agrees.send {sql : Sql} {k : Reply sql → StorageM Unit}
    (h : s.Agrees (.step (.mysqlQuery a sql) k) a g) (hs : s.Consistent)
    (hmeets : g.Meets a (.mysqlQuery a sql)) (players : BattleId → List PlayerId) :
    Moves a s (s.send a (sql.tableRows players)) ∧
      (s.send a (sql.tableRows players)).Agrees (.step (.mysqlQuery a sql) k) a g := by
  rcases send_cases s a (sql.tableRows players) with heq | ⟨c, hc, hlinked, hpending, heq⟩ <;>
    rw [heq]
  · exact ⟨.refl hs a, h⟩
  obtain ⟨-, rows, hmade, hallows⟩ := hmeets
  obtain ⟨hopen, hstands⟩ := h.made rows hmade c hc hlinked
  have hheld : ∀ r, s.locks.holder r = some c ↔ r ∈ rows := by
    cases hstands with
    | between _ hheld => exact hheld
    | within _ _ _ _ _ _ _ hpending' => exact absurd (hpending.symm.trans hpending') nofun
  have hon : OnConn c s { s with locks := s.locks.ask c (sql.tableRows players) } := {
    orderly := fun horderly => horderly.ask ((hallows players).congr hheld)
    others := fun d hd => ⟨LockTable.same_ask hd s.locks _, rfl, id⟩
    nextConn := rfl
    conn := rfl
    inTransaction := rfl }
  refine ⟨hon.moves hs hc, h.isConnected, h.inTransaction, fun hidle => ?_, ?_⟩
  · exact absurd (hmade.symm.trans hidle) nofun
  · intro rows' hmade' d hd _
    cases hmade.symm.trans hmade'
    obtain rfl : d = c := Option.some.inj (hd.symm.trans hc)
    refine ⟨hopen, .within sql k players [] _ rfl rfl (Function.update_self ..) fun r => ?_⟩
    exact (hheld r).trans (or_iff_left List.not_mem_nil).symm

/-! ## Calls -/

/-- The clients know where they are, and meet what they have to. -/
structure Known (s : Calls) : Prop where
  consistent : s.world.Consistent
  calls : ∀ a, ∃ g, (s.prog a).wp (scripted a) (fun _ _ => True) g ∧ s.world.Agrees (s.prog a) a g

/-- Something happens to the connections. -/
theorem Known.happen {s : Calls} (h : Known s) {w : RowLocks} (hw : w.Consistent)
    (hagrees : ∀ p a g, s.world.Agrees p a g → w.Agrees p a g) : Known { s with world := w } where
  consistent := hw
  calls a := by
    obtain ⟨g, hwp, hg⟩ := h.calls a
    exact ⟨g, hwp, hagrees _ a g hg⟩

theorem Known.take {s : Calls} (h : Known s) (c : Conn) : Known (step s (.take c)) := by
  refine h.happen ((onConn_take c s.world).consistent h.consistent fun hle => ?_)
    fun _ _ _ hg => hg.take c
  exact (h.consistent.fresh c hle).take

theorem Known.cut {s : Calls} (h : Known s) (c : Conn) : Known (step s (.cut c)) :=
  h.happen ((onConn_cut c s.world).consistent h.consistent fun hle => h.consistent.fresh c hle)
    fun _ _ _ hg => hg.cut c

theorem Known.drop {s : Calls} (h : Known s) (c : Conn) : Known (step s (.drop c)) := by
  refine h.happen ((onConn_drop c s.world).consistent h.consistent fun hle => ?_)
    fun _ _ _ hg => hg.drop c
  exact (h.consistent.fresh c hle).drop

theorem Known.send {s : Calls} (h : Known s) (a : ClientId) (contents : TableContents) :
    Known (step s (.send a contents)) := by
  unfold step
  dsimp only
  split
  · next a' sql k hprog =>
    obtain ⟨g, hwp, hg⟩ := h.calls a
    rw [hprog] at hwp hg
    have hmeets := Script.meets_of_wp hwp
    obtain rfl : a' = a := hmeets.1
    obtain ⟨hmoves, hself⟩ := hg.send h.consistent hmeets contents.players
    refine ⟨hmoves.consistent, fun b => ?_⟩
    by_cases hb : b = a'
    · subst hb
      rw [hprog]
      exact ⟨g, hwp, hself⟩
    · obtain ⟨g', hwp', hg'⟩ := h.calls b
      exact ⟨g', hwp', hg'.moves h.consistent hmoves hb⟩
  · exact h

theorem Known.answer {s : Calls} (h : Known s) (a : ClientId) (x : Outcome)
    (contents : TableContents) : Known (step s (.answer a x contents)) := by
  unfold step
  dsimp only
  split
  · exact h
  · next q k hprog =>
    split
    · exact h
    · next w r hexec =>
      obtain ⟨g, hwp, hg⟩ := h.calls a
      rw [hprog] at hwp hg
      have hmeets := Script.meets_of_wp hwp
      have hmoves := exec_moves h.consistent hmeets.client_eq hexec
      obtain ⟨g', hnext, hg'⟩ := hg.next h.consistent hmeets hexec
      refine ⟨hmoves.consistent, fun b => ?_⟩
      by_cases hb : b = a
      · subst hb
        dsimp only
        rw [Function.update_self]
        exact ⟨g', (hwp r g' hnext).2 g' rfl, hg'⟩
      · obtain ⟨g₁, hwp₁, hg₁⟩ := h.calls b
        dsimp only
        rw [Function.update_of_ne hb]
        exact ⟨g₁, hwp₁, hg₁.moves h.consistent hmoves hb⟩

theorem Known.step {s : Calls} (h : Known s) (e : Event) : Known (RowLocks.step s e) := by
  cases e with
  | send a contents => exact h.send a contents
  | take c => exact h.take c
  | answer a x contents => exact h.answer a x contents
  | cut c => exact h.cut c
  | drop c => exact h.drop c

theorem consistent_empty : Consistent {} where
  orderly := LockTable.orderly_empty
  fresh _ _ := ⟨rfl, fun _ => nofun⟩
  conn_lt _ _ h := by cases h
  conn_inj _ _ _ h := by cases h

/-- Nobody has called anything yet. -/
theorem known_beforeCalls (calls : ClientId → List (Battle × List BattlePlayerResult)) :
    Known (beforeCalls calls) where
  consistent := consistent_empty
  calls a := by
    refine ⟨⟨false, false, .idle⟩, ?_, agrees_unconnected rfl rfl rfl⟩
    exact Prog.wp_mono (fun _ _ _ => trivial) (triple_settleAll a (calls a) _ ⟨rfl, rfl⟩)

/-- **Settlements do not deadlock.** -/
theorem settlements_never_deadlock
    (calls : ClientId → List (Battle × List BattlePlayerResult)) (events : List Event) :
    AllStates step (fun s => ∀ c, ¬ Relation.TransGen s.world.locks.WaitsFor c c)
      (beforeCalls calls) events := by
  have hknown : AllStates step Known (beforeCalls calls) events :=
    AllStates.of_step (fun _ e h => h.step e) events (known_beforeCalls calls)
  exact AllStates.imp (fun s h c => h.consistent.orderly.acyclic c) events hknown

end RowLocks
end Game
