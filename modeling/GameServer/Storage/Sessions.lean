import GameServer.Storage.Duties
import GameServer.Storage.Transactions

/-!
# Threads that use the storage

The contract of a thread among others that do as they ought to (`thread`), and what a thread knows
between its calls (`Idle`) and in a call of a client (`InCall`).
-/

namespace Game

open Infra

/-- A step of the rest of the system. -/
def Other {ι : Type} [DecidableEq ι] (σ : Option ServiceId) (i : ι) (w w' : Storage ι) : Prop :=
  w.Lawful σ ∧ ((∃ e, w' = w.happen e) ∨
    ∃ (j : ι) (q : StorageRequest) (x : Outcome) (r : q.Reply),
      j ≠ i ∧ q.Duty σ j w ∧ Storage.exec j q x w = some (w', r))

/-- The thread `i`. If `S`, its requests succeed, and it only reads the tables. -/
def thread {ι : Type} [DecidableEq ι] (σ : Option ServiceId) (S : Prop) (i : ι) :
    Contract StorageRequest StorageRequest.Reply (Storage ι) where
  exec q w r w' := (∃ x, Storage.exec i q x w = some (w', r)) ∧ (S → q.Succeeds r)
  rely := Relation.ReflTransGen (Other σ i)
  guar q w w' := q.Duty σ i w ∧ (S → w'.mysql.db = w.mysql.db)

/-- A fact about the storage that the thread `i` does not lose. -/
def Stable {ι : Type} (σ : Option ServiceId) (i : ι) (T : Storage ι → Prop) : Prop :=
  ∀ w w', w.Lawful σ → w'.Lawful σ → w.Onward σ i w' → T w → T w'

/-- The thread `i` is in no call of a client. -/
structure Idle {ι : Type} (σ : Option ServiceId) (i : ι) (T : Storage ι → Prop) (w : Storage ι) :
    Prop where
  lawful : w.Lawful σ
  free : ∀ a, (w.clients a).owner ≠ some i
  known : T w

/-- The steps of the thread `i` meet its contract. -/
def Meets {ι : Type} (σ : Option ServiceId) (S : Prop) (i : ι) (t : List (StorageStep ι)) : Prop :=
  ∀ e ∈ t, e.request.Duty σ i e.before ∧ (S → e.after.mysql.db = e.before.mysql.db)

/-- The thread `i` is in a call of the client, which has made the statements that `T` is told. -/
structure InCall {ι : Type} (σ : Option ServiceId) (S : Prop) (i : ι) (client : ClientId)
    (T : Log → Storage ι → Prop) (w : Storage ι) (t : List (StorageStep ι)) : Prop where
  lawful : w.Lawful σ
  free : ∀ a, a ≠ client → (w.clients a).owner ≠ some i
  known : T (statements t) w
  meets : Meets σ S i t

variable {ι : Type} {σ : Option ServiceId} {S : Prop} {i : ι} {client : ClientId}
  {w w' : Storage ι} {T T' : Storage ι → Prop} {t : List (StorageStep ι)}

theorem Stable.and (hT : Stable σ i T) (hT' : Stable σ i T') :
    Stable σ i fun w => T w ∧ T' w :=
  fun w w' hw hw' h ⟨h₁, h₂⟩ => ⟨hT w w' hw hw' h h₁, hT' w w' hw hw' h h₂⟩

theorem stable_const (p : Prop) : Stable (ι := ι) σ i fun _ => p :=
  fun _ _ _ _ _ => id

theorem stable_onward (start : Storage ι) : Stable σ i (start.Onward σ i) :=
  fun _ _ _ _ h h' => h'.trans h

section

variable [DecidableEq ι]

/-! ## The others -/

theorem Other.spec (h : Other σ i w w') : w'.Lawful σ ∧ w.Onward σ i w' ∧
    ∀ a, (w'.clients a).owner = some i ↔ (w.clients a).owner = some i := by
  obtain ⟨hw, ⟨e, rfl⟩ | ⟨j, q, x, r, hij, hq, hexec⟩⟩ := h
  · obtain ⟨hw', honward⟩ := hw.happen e
    exact ⟨hw', honward i, fun a => by rw [Storage.happen_clients]⟩
  · exact ⟨hw.exec hq hexec, hw.onward_exec hij hq hexec⟩

theorem rely_spec (hw : w.Lawful σ) (h : Relation.ReflTransGen (Other σ i) w w') :
    w'.Lawful σ ∧ w.Onward σ i w' ∧
      ∀ a, (w'.clients a).owner = some i ↔ (w.clients a).owner = some i := by
  induction h with
  | refl => exact ⟨hw, .refl w, fun _ => Iff.rfl⟩
  | tail _ hstep ih =>
    obtain ⟨hw', honward, howner⟩ := hstep.spec
    exact ⟨hw', ih.2.1.trans honward, fun a => (howner a).trans (ih.2.2 a)⟩

theorem Other.elsewhere (howner : (w.clients client).owner = some i) (h : Other σ i w w') :
    Elsewhere client w w' := by
  obtain ⟨-, ⟨e, he⟩ | ⟨j, q, x, r, hij, hq, hexec⟩⟩ := h
  · exact .happen e he
  · exact .of_allowed hij howner hq.allowed hexec

theorem elsewhere_of_rely (hw : w.Lawful σ) (howner : (w.clients client).owner = some i)
    (h : Relation.ReflTransGen (Other σ i) w w') :
    Relation.ReflTransGen (Elsewhere client) w w' := by
  induction h with
  | refl => exact .refl
  | tail hbefore hstep ih =>
    obtain ⟨-, -, howner'⟩ := rely_spec hw hbefore
    exact ih.tail (hstep.elsewhere ((howner' client).mpr howner))

theorem Idle.rely (hT : Stable σ i T) (h : Idle σ i T w)
    (hrely : Relation.ReflTransGen (Other σ i) w w') : Idle σ i T w' := by
  obtain ⟨hw', honward, howner⟩ := rely_spec h.lawful hrely
  exact ⟨hw', fun a ha => h.free a ((howner a).mp ha), hT w w' h.lawful hw' honward h.known⟩

/-- **The contracts fit together.** -/
theorem fits_thread : Pool.Fits Storage.exec Storage.happen (thread (ι := ι) σ False)
    (Storage.Lawful · σ) where
  refl _ _ := .refl
  trans _ _ _ _ := .trans
  exec i q x w w' r hw hexec := by
    refine ⟨⟨⟨x, hexec⟩, False.elim⟩, fun hq => ⟨hw.exec hq.1 hexec, fun j hj => ?_⟩⟩
    exact .single ⟨hw, Or.inr ⟨i, q, x, r, hj.symm, hq.1, hexec⟩⟩
  env e w hw := ⟨(hw.happen e).1, fun i => .single ⟨hw, Or.inl ⟨e, rfl⟩⟩⟩

/-! ## Requests of a call -/

theorem InCall.step {U U' : Log → Storage ι → Prop} {q : StorageRequest} {r : q.Reply}
    (h : InCall σ S i client U w t) (hexec : (thread σ S i).exec q w r w') (hq : q.Duty σ i w)
    (hclient : q.client = some client) (hdb : S → w'.mysql.db = w.mysql.db)
    (hU : w'.Lawful σ → w.Onward σ i w' → U (statements t) w →
      U' (statements (t ++ [⟨w, q, r, w'⟩])) w') :
    InCall σ S i client U' w' (t ++ [⟨w, q, r, w'⟩]) := by
  obtain ⟨⟨x, hexec⟩, -⟩ := hexec
  have hw' := h.lawful.exec hq hexec
  refine ⟨hw', fun a ha => ?_, hU hw' (h.lawful.onward_self hq (hclient ▸ rfl) hexec) h.known,
    fun e he => ?_⟩
  · rw [Storage.exec_clients hexec (hclient ▸ fun heq => ha (Option.some.inj heq).symm)]
    exact h.free a ha
  · rcases List.mem_append.mp he with he | he
    · exact h.meets e he
    · cases List.mem_singleton.mp he
      exact ⟨hq, hdb⟩

omit [DecidableEq ι] in
theorem tame_duty {q : StorageRequest} (howner : (w.clients client).owner = some i)
    (hq : q.Tame client w) : q.Duty σ i w ∧ q.client = some client := by
  cases q with
  | lockClient a => exact ⟨trivial, congrArg some hq⟩
  | isConnected a | isInTransaction a | setInTransaction a | mysqlConnect a | mysqlClose a
  | mysqlInsertId a | mysqlRollback a =>
    cases hq
    exact ⟨howner, rfl⟩
  | unlockClient a =>
    obtain ⟨rfl, hdepth⟩ := hq
    exact ⟨⟨howner, fun h => absurd hdepth (Nat.not_lt.mpr h)⟩, rfl⟩
  | startTransaction a =>
    obtain ⟨rfl, hopen⟩ := hq
    exact ⟨⟨howner, hopen⟩, rfl⟩
  | mysqlQuery | mysqlCommit | lockService | unlockService | zadd => exact hq.elim

omit [DecidableEq ι] in
/-- A request on the connection that commits nothing. -/
theorem db_onConn {α : Type} {a : ClientId} {missing r : α} {f : Conn → Option (Mysql × α)}
    (hf : ∀ c m, (w.clients a).conn = some c → f c = some (m, r) → m.db = w.mysql.db)
    (h : w.onConn a missing f = some (w', r)) : w'.mysql.db = w.mysql.db := by
  rcases Storage.onConn_cases h with ⟨-, rfl, -⟩ | ⟨c, m, hc, heq, rfl⟩
  · rfl
  · exact hf c m hc heq

theorem db_requested {m m' : Mysql} {c : Conn} {act : Mysql → Mysql} {late : Option Inflight}
    {ok : Bool} (hact : m.isLinked c = true → (act m).db = m.db)
    (h : Mysql.Requested m c act late m' ok) : m'.db = m.db := by
  cases h with
  | failed | aborted | lost => rfl
  | done hlinked => exact hact hlinked

/-- Tame requests leave the tables alone. -/
theorem db_tame {q : StorageRequest} {x : Outcome} {r : q.Reply} (hw : w.Consistent)
    (hq : q.Tame client w) (h : Storage.exec i q x w = some (w', r)) :
    w'.mysql.db = w.mysql.db := by
  cases q with
  | lockClient a =>
    change w.lock i a = some (w', r) at h
    unfold Storage.lock at h
    dsimp only at h
    split at h
    · cases h
      rfl
    · split at h
      · cases h
        rfl
      · cases h
  | unlockClient | setInTransaction | isConnected | isInTransaction =>
    cases h
    rfl
  | mysqlConnect a =>
    cases h
    cases x <;> rfl
  | mysqlClose a =>
    unfold Storage.exec at h
    dsimp only at h
    split at h <;>
    · cases h
      rfl
  | mysqlInsertId a =>
    refine db_onConn (fun c m _ heq => ?_) h
    cases heq
    rfl
  | startTransaction a =>
    obtain ⟨rfl, hopen⟩ := hq
    refine db_onConn (fun c m hc heq => ?_) h
    refine db_requested (fun hlinked => ?_) (Mysql.request_cases (Option.some.inj heq))
    have hstart := hw.mysql.start hlinked
    rw [hopen c hc] at hstart
    exact hstart.db_eq
  | mysqlRollback a =>
    refine db_onConn (fun c m _ heq => ?_) h
    exact db_requested (fun _ => rfl) (Mysql.request_cases (Option.some.inj heq))
  | mysqlQuery | mysqlCommit | lockService | unlockService | zadd => exact hq.elim

/-- What a thread knows in a call lasts. -/
theorem lasting_inCall {U : Log → Storage ι → Prop} (hU : ∀ log, Stable σ i (U log)) :
    Lasting (thread σ S i) (Meets σ S i) S i client (InCall σ S i client U) where
  exec h := h.1
  succeeds h := h.2
  guar h := h.meets
  rely hw howner h hrely := by
    obtain ⟨hw', honward, howner'⟩ := rely_spec h.lawful hrely
    exact ⟨elsewhere_of_rely h.lawful howner hrely, hw',
      fun a ha ho => h.free a ha ((howner' a).mp ho), hU _ _ _ h.lawful hw' honward h.known,
      h.meets⟩
  step {w t q r w'} hw howner h hexec hq := by
    obtain ⟨hduty, hclient⟩ := tame_duty (σ := σ) howner hq
    obtain ⟨x, hx⟩ := hexec.1
    refine h.step hexec hduty hclient (fun _ => db_tame hw hq hx) fun hw' honward hknown => ?_
    rw [statements_quiet t (succeeded_tame hq r)]
    exact hU _ _ _ h.lawful hw' honward hknown

/-! ## From one call to the next -/

/-- The call is about to unlock the mutex. -/
structure Leaving (σ : Option ServiceId) (S : Prop) (i : ι) (client : ClientId)
    (T : Storage ι → Prop) (s : Storage ι × List (StorageStep ι)) : Prop where
  inCall : InCall σ S i client (fun _ => T) s.1 s.2
  owner : (s.1.clients client).owner = some i
  depth : (s.1.clients client).depth = 1
  atRest : s.1.AtRest client

/-- The call has begun. -/
abbrev Entered (σ : Option ServiceId) (S : Prop) (i : ι) (client : ClientId)
    (T : Storage ι → Prop) (start : Storage ι) (d : Nat) (p : Option Conn → Prop) :
    Storage ι × List (StorageStep ι) → Prop :=
  AtStart i client start (InCall σ S i client fun _ w => T w ∧ start.Onward σ i w) d p

/-- The mutex is locked for the first time. -/
theorem triple_enter (hT : Stable σ i T) {start : Storage ι} (hstart : Idle σ i T start) :
    Prog.Triple (Prog.recorded (thread σ S i) (Meets σ S i)) (· = (start, []))
      (ask (.lockClient client)) fun _ => Entered σ S i client T start 0 fun _ => True := by
  refine triple_ask
    (fun _ => lasting_inCall fun _ => hT.and (stable_onward start))
    (fun _ => steady_resting.and (p := fun _ => True)) fun w t w' r h hexec => ?_
  cases h
  have hinCall : InCall σ S i client (fun _ w => T w ∧ start.Onward σ i w) start [] :=
    ⟨hstart.lawful, fun a _ => hstart.free a, ⟨hstart.known, .refl start⟩,
      fun _ he => absurd he List.not_mem_nil⟩
  have hdb : w'.mysql.db = start.mysql.db := by
    obtain ⟨⟨x, hx⟩, -⟩ := hexec
    have htame : StorageRequest.Tame client start (.lockClient client) := rfl
    exact db_tame hstart.lawful.consistent htame hx
  have hafter : InCall σ S i client (fun _ w => T w ∧ start.Onward σ i w) w'
      ([] ++ [⟨start, .lockClient client, r, w'⟩]) :=
    hinCall.step hexec trivial rfl (fun _ => hdb) fun hw' honward hknown =>
      ⟨hT _ _ hstart.lawful hw' honward hknown.1, honward⟩
  obtain ⟨⟨x, hlock⟩, -⟩ := hexec
  refine Knowing.lock steady_resting.and (hstart.free client) (fun hnone => ?_) hlock hafter
  obtain ⟨hin, hconn⟩ := hstart.lawful.atRest client hnone
  exact ⟨hstart.lawful.consistent, fun _ h => (by cases h), trivial, hin,
    ⟨rfl, fun c hc => ⟨(hconn c hc).1, Or.inl (hconn c hc).2, rfl⟩⟩, trivial⟩

/-- The mutex is unlocked for the last time. -/
theorem triple_exit (hT : Stable σ i T) :
    Prog.Triple (Prog.recorded (thread σ S i) (Meets σ S i)) (Leaving σ S i client T)
      (ask (.unlockClient client)) fun _ s => Idle σ i T s.1 := by
  rintro ⟨w, t⟩ h r ⟨w', t'⟩ ⟨hexec, ht⟩
  dsimp only at ht
  subst ht
  have hduty : StorageRequest.Duty σ i w (.unlockClient client) := ⟨h.owner, fun _ => h.atRest⟩
  have hdb : w'.mysql.db = w.mysql.db := by
    obtain ⟨⟨x, hx⟩, -⟩ := hexec
    cases hx
    rfl
  have hafter : InCall σ S i client (fun _ => T) w'
      (t ++ [⟨w, .unlockClient client, r, w'⟩]) :=
    h.inCall.step hexec hduty rfl (fun _ => hdb) fun hw' honward hknown =>
      hT _ _ h.inCall.lawful hw' honward hknown
  refine ⟨hafter.meets, ?_⟩
  rintro ⟨w'', t''⟩ ⟨hrely, -⟩
  refine Idle.rely hT ⟨hafter.lawful, fun a => ?_, hafter.known⟩ hrely
  by_cases ha : a = client
  · subst ha
    obtain ⟨⟨x, hx⟩, -⟩ := hexec
    cases hx
    have howner : ((w.unlock a).clients a).owner = none :=
      Storage.owner_unlock (Nat.le_of_eq h.depth)
    exact fun hi => absurd (howner.symm.trans hi) nofun
  · exact hafter.free a ha

/-- **A call of a client.** -/
theorem triple_call {α : Type} {body : StorageM α} {F : α → Storage ι → Prop}
    (hT : Stable σ i T) (hF : ∀ a, Stable σ i (F a))
    (hbody : ∀ start, Prog.Triple (Prog.recorded (thread σ S i) (Meets σ S i))
      (Entered σ S i client T start 0 fun _ => True) body
      fun a => Leaving σ S i client (F a)) :
    Prog.Triple (thread σ S i) (Idle σ i T) (MysqlClient.withLock client body)
      fun a => Idle σ i (F a) := by
  intro w hw
  have hrecorded : Prog.Triple (Prog.recorded (thread σ S i) (Meets σ S i)) (· = (w, []))
      (MysqlClient.withLock client body) fun a s => Idle σ i (F a) s.1 :=
    .bind (triple_enter hT hw) fun _ => .bind (hbody w) fun a =>
      .bind (triple_exit (hF a)) fun _ => .pure fun _ h => h
  refine Prog.wp_mono (fun a w' ⟨_, h⟩ => h) (Prog.wp_of_recorded ?_ (hrecorded (w, []) rfl))
  exact fun t e h => h e (List.mem_append_right _ (List.mem_singleton_self _))

end

end Game
