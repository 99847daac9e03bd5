import GameServer.Storage.Callback

/-!
# Calls of a client

What a thread knows while it is in a function of `MysqlClient` (`Calling`), and what the functions
make of it that leave the transaction as it is. The contract of the thread is a parameter, and so is
what lasts through these functions whatever the others do (`Lasting`).
-/

namespace Game

open Infra

variable {ι : Type} {i : ι} {client : ClientId} {w w' : Storage ι}

section

variable [DecidableEq ι]

/-- What happens elsewhere. -/
theorem Elsewhere.spec (hw : w.Consistent) (h : Elsewhere client w w') :
    w'.Consistent ∧ w.mysql.committed <+: w'.mysql.committed ∧
      w'.clients client = w.clients client ∧
      ∀ c, w.Private client c → Mysql.Aside c w.mysql w'.mysql ∧ w'.Private client c := by
  cases h with
  | happen e h =>
    subst h
    obtain ⟨a, logs, hadvance⟩ := Storage.advance_happen hw e
    refine ⟨hw.happen e, ?_, congrFun (Storage.happen_clients w e) client, fun c hc =>
      ⟨Storage.aside_happen hw e c, ?_, fun b hb => ?_⟩⟩
    · rw [hadvance.committed]
      exact List.prefix_append ..
    · rw [hadvance.nextConn]
      exact hc.1
    · rw [Storage.happen_clients] at hb
      exact hc.2 b hb
  | exec hq h =>
    have heffect := Storage.exec_effect hw h
    refine ⟨(heffect.consistent hw).1, heffect.committed hw, Storage.exec_clients h hq,
      fun c hc => ?_⟩
    obtain ⟨hkept, hprivate⟩ := heffect.kept hw hq hc
    exact ⟨.kept hkept, hprivate⟩

end

/-! ## What a call knows -/

/-- A fact about the steps of the call, the connection of the client and the server that lasts while
the call makes no statement and nothing is requested of the connections it knows. -/
structure Steady (own : Option Conn)
    (K : List (StorageStep ι) → Option Conn → Mysql → Prop) : Prop where
  aside : ∀ t conn m m', m.Consistent → (∀ c, conn = some c ∨ own = some c → Mysql.Aside c m m') →
    K t conn m → K t conn m'
  quiet : ∀ t e conn m, succeeded e = none → K t conn m → K (t ++ [e]) conn m

/-- The requests to the client that neither make a statement nor end a transaction, and that do not
give the mutex away. -/
def StorageRequest.Tame (client : ClientId) (w : Storage ι) : StorageRequest → Prop
  | lockClient a | isConnected a | isInTransaction a | setInTransaction a _ | mysqlConnect a
  | mysqlClose a | mysqlInsertId a | mysqlRollback a => a = client
  | unlockClient a => a = client ∧ 1 < (w.clients client).depth
  | startTransaction a =>
    a = client ∧ ∀ c, (w.clients client).conn = some c → w.mysql.isOpen c = false
  | mysqlQuery _ _ | mysqlCommit _ | lockService _ | unlockService _ _ _ | zadd _ _ => False

/-- The request has succeeded, as far as it can fail. -/
def StorageRequest.Succeeds : (q : StorageRequest) → q.Reply → Prop
  | mysqlConnect _, ok | startTransaction _, ok | mysqlCommit _, ok | mysqlRollback _, ok
  | zadd _ _, ok => ok = true
  | mysqlQuery _ _, reply => ∃ answer, reply = .ok answer
  | _, _ => True

instance (q : StorageRequest) (r : q.Reply) : Decidable (q.Succeeds r) :=
  match q, r with
  | .mysqlQuery _ _, .ok answer => isTrue ⟨answer, rfl⟩
  | .mysqlQuery _ _, .error _ => isFalse nofun
  | .mysqlConnect _, ok | .startTransaction _, ok | .mysqlCommit _, ok | .mysqlRollback _, ok
  | .zadd _ _, ok => inferInstanceAs (Decidable (ok = true))
  | .lockClient _, _ | .unlockClient _, _ | .isConnected _, _ | .isInTransaction _, _
  | .setInTransaction _ _, _ | .mysqlClose _, _ | .mysqlInsertId _, _ | .lockService _, _
  | .unlockService _ _ _, _ => isTrue trivial

/-- Under the contract `C` of the thread `i`, with steps that meet `G`, what `E` says lasts while the
thread holds the mutex of the client and makes tame requests. If `S`, all requests succeed. -/
structure Lasting [DecidableEq ι] (C : Contract StorageRequest StorageRequest.Reply (Storage ι))
    (G : List (StorageStep ι) → Prop) (S : Prop) (i : ι) (client : ClientId)
    (E : Storage ι → List (StorageStep ι) → Prop) : Prop where
  exec : ∀ {q w r w'}, C.exec q w r w' → ∃ x, Storage.exec i q x w = some (w', r)
  succeeds : ∀ {q w r w'}, C.exec q w r w' → S → q.Succeeds r
  rely : ∀ {w w' t}, w.Consistent → (w.clients client).owner = some i → E w t → C.rely w w' →
    Relation.ReflTransGen (Elsewhere client) w w' ∧ E w' t
  guar : ∀ {w t}, E w t → G t
  step : ∀ {w t q r w'}, w.Consistent → (w.clients client).owner = some i → E w t →
    C.exec q w r w' → q.Tame client w → E w' (t ++ [⟨w, q, r, w'⟩])

/-- What is known besides: `E`, `in_transaction_` is `b`, and `K` about the connection of the
client. -/
structure Knowing (client : ClientId) (own : Option Conn)
    (E : Storage ι → List (StorageStep ι) → Prop) (b : Bool)
    (K : List (StorageStep ι) → Option Conn → Mysql → Prop)
    (s : Storage ι × List (StorageStep ι)) : Prop where
  consistent : s.1.Consistent
  privateConn : ∀ c, own = some c → s.1.Private client c
  lasting : E s.1 s.2
  inTransaction : (s.1.clients client).inTransaction = b
  known : K s.2 (s.1.clients client).conn s.1.mysql

/-- The thread `i` is in a call that has locked the mutex once more than `d` times. -/
structure Calling (i : ι) (client : ClientId) (own : Option Conn)
    (E : Storage ι → List (StorageStep ι) → Prop) (d : Nat) (b : Bool)
    (K : List (StorageStep ι) → Option Conn → Mysql → Prop)
    (s : Storage ι × List (StorageStep ι)) : Prop extends Knowing client own E b K s where
  owner : (s.1.clients client).owner = some i
  depth : (s.1.clients client).depth = d + 1

variable {own : Option Conn} {E F : Storage ι → List (StorageStep ι) → Prop} {d : Nat} {b : Bool}
  {K K' : List (StorageStep ι) → Option Conn → Mysql → Prop} {t : List (StorageStep ι)}

theorem Knowing.elsewhere [DecidableEq ι] (hK : Steady own K)
    (h : Knowing client own E b K (w, t)) (hw : Relation.ReflTransGen (Elsewhere client) w w')
    (hE : F w' t) :
    Knowing client own F b K (w', t) ∧ w'.clients client = w.clients client := by
  induction hw generalizing F with
  | refl => exact ⟨{ h with lasting := hE }, rfl⟩
  | tail _ hstep ih =>
    obtain ⟨h, hsame⟩ := ih (F := fun _ _ => True) trivial
    obtain ⟨hconsistent, -, hclient, hprivate⟩ := hstep.spec h.consistent
    refine ⟨⟨hconsistent, fun c hc => (hprivate c (h.privateConn c hc)).2, hE,
      hclient ▸ h.inTransaction, ?_⟩, hclient.trans hsame⟩
    have hknown := h.known
    dsimp only at hknown ⊢
    rw [hclient]
    refine hK.aside t _ _ _ h.consistent.mysql (fun c hc => ?_) hknown
    rcases hc with hc | hc
    · exact (hprivate c (h.consistent.privateConn hc)).1
    · exact (hprivate c (h.privateConn c hc)).1

section

variable [DecidableEq ι] {C : Contract StorageRequest StorageRequest.Reply (Storage ι)}
  {G : List (StorageStep ι) → Prop} {S : Prop}

theorem Calling.rely (hE : Lasting C G S i client E) (hK : Steady own K)
    (h : Calling i client own E d b K (w, t)) (hw : C.rely w w') :
    Calling i client own E d b K (w', t) := by
  obtain ⟨helsewhere, hF⟩ := hE.rely h.consistent h.owner h.lasting hw
  obtain ⟨h', hsame⟩ := h.toKnowing.elsewhere hK helsewhere hF
  exact { h' with owner := hsame ▸ h.owner, depth := hsame ▸ h.depth }

/-- One request. -/
theorem triple_ask {A : Storage ι × List (StorageStep ι) → Prop} {q : StorageRequest}
    {d : q.Reply → Nat} {b : q.Reply → Bool} {own : q.Reply → Option Conn}
    {E : q.Reply → Storage ι → List (StorageStep ι) → Prop}
    {K : q.Reply → List (StorageStep ι) → Option Conn → Mysql → Prop}
    (hE : ∀ r, Lasting C G S i client (E r)) (hK : ∀ r, Steady (own r) (K r))
    (hstep : ∀ w t w' r, A (w, t) → C.exec q w r w' →
      Calling i client (own r) (E r) (d r) (b r) (K r) (w', t ++ [⟨w, q, r, w'⟩])) :
    Prog.Triple (Prog.recorded C G) A (ask q)
      fun r => Calling i client (own r) (E r) (d r) (b r) (K r) := by
  rintro ⟨w, t⟩ hA r ⟨w', t'⟩ ⟨hexec, ht⟩
  dsimp only at ht
  subst ht
  have h := hstep w t w' r hA hexec
  refine ⟨(hE r).guar h.lasting, ?_⟩
  rintro ⟨w'', t''⟩ ⟨hrely, ht⟩
  dsimp only at ht
  subst ht
  exact h.rely (hE r) (hK r) hrely

end

/-! ## The fields of the client -/

theorem Steady.and (hK : Steady own K) {p : Option Conn → Prop} :
    Steady own fun t conn m => K t conn m ∧ p conn where
  aside t conn m m' hm h hp := ⟨hK.aside t conn m m' hm h hp.1, hp.2⟩
  quiet t e conn m he hp := ⟨hK.quiet t e conn m he hp.1, hp.2⟩

theorem succeeded_tame {q : StorageRequest} (hq : q.Tame client w) (r : q.Reply) :
    succeeded ⟨w, q, r, w'⟩ = none := by
  cases q with
  | mysqlQuery a sql => exact hq.elim
  | _ => rfl

/-- A change of the client that is not about its connection. -/
theorem Knowing.setClient (hK : Steady own K) (h : Knowing client own E b K (w, t))
    {e : StorageStep ι} {m : MysqlClient ι} (he : succeeded e = none)
    (hE : F (w.setClient client m) (t ++ [e])) (hconn : m.conn = (w.clients client).conn)
    {b' : Bool} (hb : m.inTransaction = b') :
    Knowing client own F b' K (w.setClient client m, t ++ [e]) := by
  have hm : (w.setClient client m).clients client = m := Storage.setClient_clients_self w client m
  refine ⟨h.consistent.setClient hconn, fun c hc => ?_, hE, hm.symm ▸ hb, ?_⟩
  · obtain ⟨hlt, hmine⟩ := h.privateConn c hc
    exact ⟨hlt, fun a ha => hmine a (Storage.conn_setClient hconn a ▸ ha)⟩
  · rw [hm, hconn]
    exact hK.quiet t _ _ _ he h.known

theorem Calling.setClient (hK : Steady own K) (h : Calling i client own E d b K (w, t))
    {q : StorageRequest} {r : q.Reply} {m : MysqlClient ι} (hq : q.Tame client w)
    (hE : F (w.setClient client m) (t ++ [⟨w, q, r, w.setClient client m⟩]))
    (hconn : m.conn = (w.clients client).conn) (howner : m.owner = some i) {d' : Nat}
    (hdepth : m.depth = d' + 1) {b' : Bool} (hb : m.inTransaction = b') :
    Calling i client own F d' b' K
      (w.setClient client m, t ++ [⟨w, q, r, w.setClient client m⟩]) := by
  have hm : (w.setClient client m).clients client = m := Storage.setClient_clients_self w client m
  exact ⟨h.toKnowing.setClient hK (succeeded_tame hq r) hE hconn hb, hm.symm ▸ howner,
    hm.symm ▸ hdepth⟩

/-- The thread locks the mutex, and not for the second time. -/
theorem Knowing.lock [DecidableEq ι] (hK : Steady own K)
    (hfree : (w.clients client).owner ≠ some i)
    (h : (w.clients client).owner = none → Knowing client own (fun _ _ => True) b K (w, t))
    {x : Outcome} {r : Unit} (hexec : Storage.exec i (.lockClient client) x w = some (w', r))
    (hE : E w' (t ++ [⟨w, .lockClient client, r, w'⟩])) :
    Calling i client own E 0 b K (w', t ++ [⟨w, .lockClient client, r, w'⟩]) := by
  change w.lock i client = some (w', r) at hexec
  unfold Storage.lock at hexec
  dsimp only at hexec
  split at hexec
  · next hnone =>
    have hknowing := h hnone
    have hself := Storage.setClient_clients_self w client
      { w.clients client with owner := some i, depth := 1 }
    cases hexec
    exact ⟨hknowing.setClient hK rfl hE rfl hknowing.inTransaction,
      congrArg MysqlClient.owner hself, congrArg MysqlClient.depth hself⟩
  · next j hj =>
    split at hexec
    · next hji =>
      subst hji
      exact absurd hj hfree
    · cases hexec

/-- A step of a connection. -/
theorem Calling.setMysql (h : Calling i client own E d b K (w, t)) {e : StorageStep ι} {a : Conn}
    {m : Mysql} (hadvance : ∃ logs, Mysql.Advance a w.mysql m logs) {own' : Option Conn}
    (hown : ∀ c, own' = some c → w.Private client c) (hE : F (w.setMysql m) (t ++ [e]))
    (hknown : K' (t ++ [e]) (w.clients client).conn m) :
    Calling i client own' F d b K' (w.setMysql m, t ++ [e]) := by
  obtain ⟨logs, hadvance⟩ := hadvance
  refine ⟨⟨⟨hadvance.consistent, fun a c hc => ?_, h.consistent.conn_inj⟩, fun c hc => ?_, hE,
    h.inTransaction, hknown⟩, h.owner, h.depth⟩
  · exact hadvance.nextConn.symm ▸ h.consistent.conn_lt a c hc
  · obtain ⟨hlt, hmine⟩ := hown c hc
    exact ⟨hadvance.nextConn.symm ▸ hlt, hmine⟩

/-- A request that only reads a field. -/
theorem Calling.read (hK : Steady own K) (h : Calling i client own E d b K (w, t))
    {q : StorageRequest} {r : q.Reply} (hq : q.Tame client w)
    (hE : F w (t ++ [⟨w, q, r, w⟩])) :
    Calling i client own F d b K (w, t ++ [⟨w, q, r, w⟩]) :=
  { h with lasting := hE, known := hK.quiet t _ _ _ (succeeded_tame hq r) h.known }

variable [DecidableEq ι] {C : Contract StorageRequest StorageRequest.Reply (Storage ι)}
  {G : List (StorageStep ι) → Prop} {S : Prop} (hE : Lasting C G S i client E) (hK : Steady own K)
include hE hK

theorem triple_lockClient :
    Prog.Triple (Prog.recorded C G) (Calling i client own E d b K) (ask (.lockClient client))
      fun _ => Calling i client own E (d + 1) b K := by
  refine triple_ask (fun _ => hE) (fun _ => hK) fun w t w' r h hexec => ?_
  have hF := hE.step h.consistent h.owner h.lasting hexec rfl
  obtain ⟨x, hexec⟩ := hE.exec hexec
  have howner : (w.clients client).owner = some i := h.owner
  change w.lock i client = some (w', r) at hexec
  unfold Storage.lock at hexec
  dsimp only at hexec
  rw [howner] at hexec
  dsimp only at hexec
  rw [if_pos rfl] at hexec
  cases hexec
  exact h.setClient hK (q := .lockClient client) rfl hF rfl rfl (congrArg (· + 1) h.depth)
    h.inTransaction

theorem triple_unlockClient :
    Prog.Triple (Prog.recorded C G) (Calling i client own E (d + 1) b K)
      (ask (.unlockClient client)) fun _ => Calling i client own E d b K := by
  refine triple_ask (fun _ => hE) (fun _ => hK) fun w t w' r h hexec => ?_
  have hdepth : (w.clients client).depth = d + 2 := h.depth
  have htame : StorageRequest.Tame client w (.unlockClient client) :=
    ⟨rfl, by rw [hdepth]; exact Nat.le_add_left 2 d⟩
  have hF := hE.step h.consistent h.owner h.lasting hexec htame
  obtain ⟨x, hexec⟩ := hE.exec hexec
  cases hexec
  refine h.setClient hK htame hF rfl ?_ ?_ h.inTransaction
  · dsimp only
    rw [hdepth, if_neg (by omega)]
    exact h.owner
  · dsimp only
    rw [hdepth]
    rfl

theorem triple_isConnected :
    Prog.Triple (Prog.recorded C G) (Calling i client own E d b K) (ask (.isConnected client))
      fun r => Calling i client own E d b fun t conn m => K t conn m ∧ conn.isSome = r := by
  refine triple_ask (fun _ => hE) (fun _ => hK.and) fun w t w' r h hexec => ?_
  have hF := hE.step h.consistent h.owner h.lasting hexec rfl
  obtain ⟨x, hexec⟩ := hE.exec hexec
  cases hexec
  have h' := h.read hK (q := .isConnected client) rfl hF
  exact { h' with known := ⟨h'.known, rfl⟩ }

theorem triple_isInTransaction :
    Prog.Triple (Prog.recorded C G) (Calling i client own E d b K)
      (ask (.isInTransaction client)) fun r => Calling i client own E d b
        fun t conn m => K t conn m ∧ r = b := by
  refine triple_ask (fun _ => hE) (fun r => hK.and (p := fun _ => r = b))
    fun w t w' r h hexec => ?_
  have hF := hE.step h.consistent h.owner h.lasting hexec rfl
  obtain ⟨x, hexec⟩ := hE.exec hexec
  cases hexec
  have h' := h.read hK (q := .isInTransaction client) rfl hF
  exact { h' with known := ⟨h'.known, h.inTransaction⟩ }

theorem triple_setInTransaction (value : Bool) :
    Prog.Triple (Prog.recorded C G) (Calling i client own E d b K)
      (ask (.setInTransaction client value)) fun _ => Calling i client own E d value K := by
  refine triple_ask (fun _ => hE) (fun _ => hK) fun w t w' r h hexec => ?_
  have hF := hE.step h.consistent h.owner h.lasting hexec rfl
  obtain ⟨x, hexec⟩ := hE.exec hexec
  cases hexec
  exact h.setClient hK (q := .setInTransaction client value) rfl hF rfl h.owner h.depth rfl

theorem triple_mysqlInsertId :
    Prog.Triple (Prog.recorded C G) (Calling i client own E d b K) (ask (.mysqlInsertId client))
      fun _ => Calling i client own E d b K := by
  refine triple_ask (fun _ => hE) (fun _ => hK) fun w t w' r h hexec => ?_
  have hF := hE.step h.consistent h.owner h.lasting hexec rfl
  obtain ⟨x, hexec⟩ := hE.exec hexec
  rcases Storage.onConn_cases hexec with ⟨-, rfl, -⟩ | ⟨a, m, -, heq, rfl⟩
  · exact h.read hK (q := .mysqlInsertId client) rfl hF
  · cases heq
    exact h.read hK (q := .mysqlInsertId client) rfl hF

/-- The body of a function under the mutex. -/
theorem triple_withLock {α : Type} {body : StorageM α} {own' : α → Option Conn} {b' : Bool}
    {F : α → Storage ι → List (StorageStep ι) → Prop}
    {K' : α → List (StorageStep ι) → Option Conn → Mysql → Prop}
    (hF : ∀ a, Lasting C G S i client (F a)) (hK' : ∀ a, Steady (own' a) (K' a))
    (hbody : Prog.Triple (Prog.recorded C G) (Calling i client own E (d + 1) b K) body
      fun a => Calling i client (own' a) (F a) (d + 1) b' (K' a)) :
    Prog.Triple (Prog.recorded C G) (Calling i client own E d b K)
      (MysqlClient.withLock client body)
      fun a => Calling i client (own' a) (F a) d b' (K' a) := by
  unfold MysqlClient.withLock
  refine .bind (triple_lockClient hE hK) fun _ => .bind hbody fun a => ?_
  exact .bind (triple_unlockClient (hF a) (hK' a)) fun _ => .pure fun _ h => h

/-! ## Connections -/

omit hK in
/-- `mysql_close`, and then the client has no connection. -/
theorem triple_mysqlClose {K' : List (StorageStep ι) → Option Conn → Mysql → Prop}
    (hK' : Steady own K') (hnone : ∀ t m, K t none m → K' t none m)
    (hcut : ∀ t c m, m.Consistent → K t (some c) m → K' t none (m.cut c)) :
    Prog.Triple (Prog.recorded C G) (Calling i client own E d b K) (ask (.mysqlClose client))
      fun _ => Calling i client own E d b fun t conn m => K' t conn m ∧ conn = none := by
  refine triple_ask (fun _ => hE) (fun _ => hK'.and (p := (· = none))) fun w t w' r h hexec => ?_
  have hF := hE.step h.consistent h.owner h.lasting hexec rfl
  obtain ⟨x, hexec⟩ := hE.exec hexec
  have heffect := Storage.exec_effect h.consistent hexec
  have hknown := h.known
  unfold Storage.exec at hexec
  dsimp only at hexec hknown
  split at hexec
  · next hconn =>
    cases hexec
    rw [hconn] at hknown
    refine { h with lasting := hF, known := ⟨?_, hconn⟩ }
    dsimp only
    rw [hconn]
    exact hK'.quiet t _ _ _ rfl (hnone t _ hknown)
  · next c hconn =>
    cases hexec
    rw [hconn] at hknown
    have hm := Storage.setClient_clients_self (w.setMysql (w.mysql.cut c)) client
      { w.clients client with conn := none }
    refine ⟨⟨(heffect.consistent h.consistent).1, fun a ha => ?_, hF, ?_,
      ?_, congrArg MysqlClient.conn hm⟩, ?_, ?_⟩
    · obtain ⟨hlt, hmine⟩ := h.privateConn a ha
      refine ⟨hlt, fun a' ha' => ?_⟩
      by_contra hne
      dsimp only at ha'
      rw [Storage.setClient_clients_of_ne hne] at ha'
      exact hne (hmine a' ha')
    · exact (congrArg MysqlClient.inTransaction hm).trans h.inTransaction
    · dsimp only
      rw [hm]
      exact hK'.quiet t _ _ _ rfl (hcut t c _ h.consistent.mysql hknown)
    · exact (congrArg MysqlClient.owner hm).trans h.owner
    · exact (congrArg MysqlClient.depth hm).trans h.depth

/-- `Disconnect` -/
theorem triple_disconnect {K' : List (StorageStep ι) → Option Conn → Mysql → Prop}
    (hK' : Steady own K') (hnone : ∀ t m, K t none m → K' t none m)
    (hcut : ∀ t c m, m.Consistent → K t (some c) m → K' t none (m.cut c)) :
    Prog.Triple (Prog.recorded C G) (Calling i client own E d b K)
      (MysqlClient.disconnect client) fun _ => Calling i client own E d b
        fun t conn m => K' t conn m ∧ conn = none := by
  unfold MysqlClient.disconnect
  refine triple_withLock hE hK (fun _ => hE) (fun _ => hK'.and (p := (· = none))) ?_
  refine .bind (triple_isConnected hE hK) fun r => .ite (fun hr => ?_) fun hr => ?_
  · refine triple_mysqlClose hE hK' (fun t m h => hnone t m h.1) fun t c m hm h => ?_
    exact hcut t c m hm h.1
  · refine .pure fun s h => ?_
    obtain ⟨hknown, hconn⟩ := h.known
    have hnoConn : (s.1.clients client).conn = none := by
      cases hc : (s.1.clients client).conn with
      | none => rfl
      | some c =>
        rw [hc] at hconn
        exact absurd hconn.symm hr
    refine { h with known := ⟨?_, hnoConn⟩ }
    rw [hnoConn] at hknown ⊢
    exact hnone _ _ hknown

/-- In a transaction `Connect` does nothing. -/
theorem triple_connect_inTransaction :
    Prog.Triple (Prog.recorded C G) (Calling i client own E d true K)
      (MysqlClient.connect client) fun r => Calling i client own E d true
        fun t conn m => K t conn m ∧ r = false := by
  unfold MysqlClient.connect
  refine triple_withLock hE hK (fun _ => hE) (fun r => hK.and (p := fun _ => r = false)) ?_
  refine .bind (triple_isInTransaction hE hK) fun r => .ite (fun hr => ?_) fun hr => ?_
  · exact .pure fun s h => { h with known := ⟨h.known.1, rfl⟩ }
  · exact fun s h => absurd h.known.2 hr

/-- So there is only the connection that there was. -/
theorem triple_hasConnection_inTransaction :
    Prog.Triple (Prog.recorded C G) (Calling i client own E d true K)
      (MysqlClient.hasConnection client) fun r => Calling i client own E d true
        fun t conn m => K t conn m ∧ conn.isSome = r := by
  unfold MysqlClient.hasConnection
  refine .bind (triple_isConnected hE hK) fun r => .ite (fun hr => ?_) fun hr => ?_
  · refine .pure fun s h => { h with known := ⟨h.known.1, h.known.2.trans hr⟩ }
  · refine (triple_connect_inTransaction hE hK.and).mono (fun s h => h) fun r' s h => ?_
    obtain ⟨⟨hknown, hconn⟩, hr'⟩ := h.known
    exact { h with known := ⟨hknown, by rw [hconn, hr', Bool.eq_false_iff.mpr hr]⟩ }

theorem triple_reset_inTransaction (lost : Bool) :
    Prog.Triple (Prog.recorded C G) (Calling i client own E d true K)
      (MysqlClient.resetOnConnectionError client lost)
      fun _ => Calling i client own E d true K := by
  unfold MysqlClient.resetOnConnectionError
  refine .bind (triple_isConnected hE hK) fun r => .ite (fun _ => ?_) fun _ => ?_
  · exact .pure fun s h => { h with known := h.known.1 }
  · refine .bind (triple_isInTransaction hE hK.and) fun r => .ite (fun _ => ?_) fun hr => ?_
    · exact .pure fun s h => { h with known := h.known.1.1 }
    · exact fun s h => absurd h.known.2 hr

end Game
