import GameServer.Storage.Connections
import GameServer.Storage.MysqlClient

/-!
# Clients and their connections

Whatever the threads ask for, no two clients share a connection (`Storage.Consistent`). So what is
done through one client is nothing to the connections of the others (`Effect.kept`), and a
connection that nobody uses is left to itself.
-/

namespace Game

open Infra

/-- The client that a request goes to. -/
def StorageRequest.client : StorageRequest → Option ClientId
  | lockClient client | unlockClient client | isConnected client | isInTransaction client
  | setInTransaction client _ | mysqlConnect client | mysqlClose client | mysqlQuery client _
  | mysqlInsertId client | startTransaction client | mysqlCommit client | mysqlRollback client =>
    some client
  | lockService _ | unlockService _ _ _ | zadd _ _ => none

/-- The code makes no request to a client, and does not unlock a mutex, without holding the mutex. -/
def StorageRequest.Allowed {ι : Type} (i : ι) (w : Storage ι) : StorageRequest → Prop
  | lockClient _ | lockService _ | zadd _ _ => True
  | unlockService service _ _ => w.services service = some i
  | unlockClient client | isConnected client | isInTransaction client | setInTransaction client _
  | mysqlConnect client | mysqlClose client | mysqlQuery client _ | mysqlInsertId client
  | startTransaction client | mysqlCommit client | mysqlRollback client =>
    (w.clients client).owner = some i

namespace Storage

variable {ι : Type}

/-- The server is consistent, and each connection belongs to one client at most. -/
structure Consistent (w : Storage ι) : Prop where
  mysql : w.mysql.Consistent
  conn_lt : ∀ client c, (w.clients client).conn = some c → c < w.mysql.nextConn
  conn_inj : ∀ client client' c, (w.clients client).conn = some c →
    (w.clients client').conn = some c → client' = client

/-- What a request can make of the server and the connections. -/
inductive Effect (w : Storage ι) (client : Option ClientId) (w' : Storage ι) : Prop where
  | none (hmysql : w'.mysql = w.mysql)
      (hconn : ∀ a, (w'.clients a).conn = (w.clients a).conn)
  | request {c : Conn} {logs : List Log} {a : ClientId} (ha : client = some a)
      (hc : (w.clients a).conn = some c) (hadvance : Mysql.Advance c w.mysql w'.mysql logs)
      (hconn : ∀ b, (w'.clients b).conn = (w.clients b).conn)
  | connect (outcome : Outcome) {a : ClientId} (ha : client = some a)
      (hmysql : w'.mysql = (w.mysql.connect outcome).1)
      (hconn : (w'.clients a).conn = (w.mysql.connect outcome).2)
      (hothers : ∀ b, b ≠ a → (w'.clients b).conn = (w.clients b).conn)
  | close {c : Conn} {logs : List Log} {a : ClientId} (ha : client = some a)
      (hc : (w.clients a).conn = some c) (hadvance : Mysql.Advance c w.mysql w'.mysql logs)
      (hconn : (w'.clients a).conn = Option.none)
      (hothers : ∀ b, b ≠ a → (w'.clients b).conn = (w.clients b).conn)

variable {w w' : Storage ι} {i : ι} {q : StorageRequest} {x : Outcome} {r : q.Reply}
  {client : ClientId}

theorem consistent_init : Consistent ({} : Storage ι) where
  mysql := Mysql.consistent_init
  conn_lt _ _ h := by cases h
  conn_inj _ _ _ h := by cases h

@[simp] theorem setClient_clients_self (w : Storage ι) (client : ClientId) (c : MysqlClient ι) :
    (w.setClient client c).clients client = c :=
  Function.update_self ..

theorem setClient_clients_of_ne {a : ClientId} (h : a ≠ client) (w : Storage ι)
    (c : MysqlClient ι) : (w.setClient client c).clients a = w.clients a :=
  Function.update_of_ne h ..

/-- A change of a client that is not about its connection. -/
theorem conn_setClient {c : MysqlClient ι} (hc : c.conn = (w.clients client).conn) (a : ClientId) :
    ((w.setClient client c).clients a).conn = (w.clients a).conn := by
  by_cases ha : a = client
  · subst ha
    rw [setClient_clients_self, hc]
  · rw [setClient_clients_of_ne ha]

theorem Consistent.setClient (hw : w.Consistent) {c : MysqlClient ι}
    (hc : c.conn = (w.clients client).conn) : (w.setClient client c).Consistent where
  mysql := hw.mysql
  conn_lt a d hd := hw.conn_lt a d (conn_setClient hc a ▸ hd)
  conn_inj a b d ha hb := hw.conn_inj a b d (conn_setClient hc a ▸ ha) (conn_setClient hc b ▸ hb)

/-! ## Requests -/

section

variable [DecidableEq ι]

omit [DecidableEq ι] in
theorem onConn_cases {α : Type} {missing r : α} {f : Conn → Option (Mysql × α)}
    (h : w.onConn client missing f = some (w', r)) :
    ((w.clients client).conn = none ∧ w' = w ∧ r = missing) ∨
      ∃ c m, (w.clients client).conn = some c ∧ f c = some (m, r) ∧ w' = w.setMysql m := by
  unfold onConn at h
  split at h
  · next hconn =>
    cases h
    exact Or.inl ⟨hconn, rfl, rfl⟩
  · next c hconn =>
    obtain ⟨⟨m, r⟩, hf, heq⟩ := Option.map_eq_some_iff.mp h
    cases heq
    exact Or.inr ⟨c, m, hconn, hf, rfl⟩

omit [DecidableEq ι] in
/-- A request on the connection is a step of the connection. -/
theorem effect_onConn {α : Type} {missing r : α} {f : Conn → Option (Mysql × α)}
    (hf : ∀ c m, f c = some (m, r) → ∃ logs, Mysql.Advance c w.mysql m logs)
    (h : w.onConn client missing f = some (w', r)) : Effect w (some client) w' := by
  rcases onConn_cases h with ⟨-, rfl, -⟩ | ⟨c, m, hconn, heq, rfl⟩
  · exact .none rfl fun _ => rfl
  · obtain ⟨logs, hadvance⟩ := hf c m heq
    exact .request rfl hconn hadvance fun _ => rfl

theorem exec_effect (hw : w.Consistent) (h : exec i q x w = some (w', r)) :
    Effect w q.client w' := by
  cases q with
  | lockClient a =>
    change w.lock i a = some (w', r) at h
    unfold lock at h
    dsimp only at h
    split at h
    · cases h
      exact .none rfl (conn_setClient rfl)
    · split at h
      · cases h
        exact .none rfl (conn_setClient rfl)
      · cases h
  | unlockClient a | setInTransaction a value =>
    cases h
    exact .none rfl (conn_setClient rfl)
  | isConnected a | isInTransaction a | unlockService =>
    cases h
    exact .none rfl fun _ => rfl
  | lockService s =>
    unfold exec at h
    dsimp only at h
    split at h
    · cases h
      exact .none rfl fun _ => rfl
    · cases h
  | zadd p score =>
    cases x <;>
    · cases h
      exact .none rfl fun _ => rfl
  | mysqlConnect a =>
    cases h
    refine .connect x rfl rfl (congrArg MysqlClient.conn (setClient_clients_self ..)) fun b hb => ?_
    exact congrArg MysqlClient.conn (setClient_clients_of_ne hb ..)
  | mysqlClose a =>
    unfold exec at h
    dsimp only at h
    split at h
    · cases h
      exact .none rfl fun _ => rfl
    · next c hconn =>
      cases h
      refine .close rfl hconn (hw.mysql.cut c) ?_ fun b hb => ?_
      · exact congrArg MysqlClient.conn (setClient_clients_self ..)
      · exact congrArg MysqlClient.conn (setClient_clients_of_ne hb ..)
  | mysqlInsertId a =>
    refine effect_onConn (fun c m hf => ?_) h
    cases hf
    exact ⟨_, .refl hw.mysql c⟩
  | mysqlQuery a sql =>
    exact effect_onConn (fun c m hf => (Mysql.query_cases hf).advance hw.mysql) h
  | startTransaction a =>
    refine effect_onConn (fun c m hf => ?_) h
    exact (Mysql.request_cases (Option.some.inj hf)).advance hw.mysql fun hlinked =>
      ⟨_, hw.mysql.start hlinked⟩
  | mysqlCommit a =>
    refine effect_onConn (fun c m hf => ?_) h
    exact (Mysql.request_cases (Option.some.inj hf)).advance hw.mysql fun _ =>
      ⟨_, hw.mysql.commitOpen c⟩
  | mysqlRollback a =>
    refine effect_onConn (fun c m hf => ?_) h
    exact (Mysql.request_cases (Option.some.inj hf)).advance hw.mysql fun _ =>
      ⟨_, hw.mysql.finish c⟩

/-- **The mutex keeps the others away.** -/
theorem client_ne_of_owner {j : ι} (hij : j ≠ i) (howner : (w.clients client).owner = some i)
    (hq : q.Allowed j w) (h : exec j q x w = some (w', r)) : q.client ≠ some client := by
  have hne : ∀ {a : ClientId}, (w.clients a).owner = some j → some a ≠ some client := by
    rintro a ha heq
    cases heq
    exact hij (Option.some.inj (ha.symm.trans howner))
  cases q with
  | lockClient a =>
    rintro heq
    cases heq
    change w.lock j client = some (w', r) at h
    unfold lock at h
    dsimp only at h
    rw [howner] at h
    dsimp only at h
    rw [if_neg hij.symm] at h
    cases h
  | lockService | unlockService | zadd => exact nofun
  | _ => exact hne hq

/-! ## What a request leaves alone -/

/-- A request does not change the clients that it does not go to. -/
theorem exec_clients (h : exec i q x w = some (w', r)) (hq : q.client ≠ some client) :
    w'.clients client = w.clients client := by
  have hset : ∀ {u : Storage ι} {a : ClientId} {c : MysqlClient ι}, q.client = some a →
      (u.setClient a c).clients client = u.clients client := by
    intro u a c ha
    refine setClient_clients_of_ne (fun hne => hq ?_) u c
    rw [hne]
    exact ha
  have honConn : ∀ {α : Type} {a : ClientId} {missing r : α} {f : Conn → Option (Mysql × α)},
      w.onConn a missing f = some (w', r) → w'.clients client = w.clients client := by
    intro α a missing r f h
    rcases onConn_cases h with ⟨-, rfl, -⟩ | ⟨c, m, -, -, rfl⟩ <;> rfl
  cases q with
  | lockClient a =>
    change w.lock i a = some (w', r) at h
    unfold lock at h
    dsimp only at h
    split at h
    · cases h
      exact hset rfl
    · split at h
      · cases h
        exact hset rfl
      · cases h
  | unlockClient a | setInTransaction a value | mysqlConnect a =>
    cases h
    exact hset rfl
  | isConnected a | isInTransaction a | unlockService =>
    cases h
    rfl
  | lockService s =>
    unfold exec at h
    dsimp only at h
    split at h
    · cases h
      rfl
    · cases h
  | zadd p score =>
    cases x <;>
    · cases h
      rfl
  | mysqlClose a =>
    unfold exec at h
    dsimp only at h
    split at h
    · cases h
      rfl
    · cases h
      exact hset rfl
  | mysqlInsertId a | mysqlQuery a sql | startTransaction a | mysqlCommit a | mysqlRollback a =>
    exact honConn h

end

variable {c : Conn}

theorem Effect.consistent (hw : w.Consistent) {a : Option ClientId} (h : Effect w a w') :
    w'.Consistent ∧ w.mysql.nextConn ≤ w'.mysql.nextConn := by
  cases h with
  | none hmysql hconn =>
    refine ⟨⟨hmysql ▸ hw.mysql, fun b c hc => ?_, fun b b' c hc hc' => ?_⟩, by rw [hmysql]⟩
    · rw [hmysql]
      exact hw.conn_lt b c (hconn b ▸ hc)
    · exact hw.conn_inj b b' c (hconn b ▸ hc) (hconn b' ▸ hc')
  | request ha hc hadvance hconn =>
    refine ⟨⟨hadvance.consistent, fun b c hc => ?_, fun b b' c hc hc' => ?_⟩,
      hadvance.nextConn.ge⟩
    · rw [hadvance.nextConn]
      exact hw.conn_lt b c (hconn b ▸ hc)
    · exact hw.conn_inj b b' c (hconn b ▸ hc) (hconn b' ▸ hc')
  | @close d logs a ha hc hadvance hnone hconn =>
    have hold : ∀ b c, (w'.clients b).conn = some c → (w.clients b).conn = some c := by
      intro b c hb
      by_cases hba : b = a
      · rw [hba, hnone] at hb
        cases hb
      · exact hconn b hba ▸ hb
    refine ⟨⟨hadvance.consistent, fun b c hc => ?_, fun b b' c hc hc' => ?_⟩,
      hadvance.nextConn.ge⟩
    · rw [hadvance.nextConn]
      exact hw.conn_lt b c (hold b c hc)
    · exact hw.conn_inj b b' c (hold b c hc) (hold b' c hc')
  | @connect outcome a ha hmysql hnew hconn =>
    obtain ⟨hm, -, hle, -, hfresh⟩ := hw.mysql.connect outcome
    have hold : ∀ b c, (w'.clients b).conn = some c →
        (b ≠ a ∧ (w.clients b).conn = some c) ∨ (b = a ∧ c = w.mysql.nextConn ∧
          c < (w.mysql.connect outcome).1.nextConn) := by
      intro b c hb
      by_cases hba : b = a
      · rw [hba, hnew] at hb
        have hf := hfresh c hb
        exact Or.inr ⟨hba, hf.eq, hf.lt⟩
      · exact Or.inl ⟨hba, hconn b hba ▸ hb⟩
    refine ⟨⟨hmysql ▸ hm, fun b c hc => ?_, fun b b' c hc hc' => ?_⟩, hmysql ▸ hle⟩
    · rw [hmysql]
      rcases hold b c hc with ⟨-, hc⟩ | ⟨-, -, hlt⟩
      · exact Nat.lt_of_lt_of_le (hw.conn_lt b c hc) hle
      · exact hlt
    · -- A new connection is none of the old ones.
      rcases hold b c hc with ⟨-, hc⟩ | ⟨hb, heq, -⟩ <;>
        rcases hold b' c hc' with ⟨-, hc'⟩ | ⟨hb', heq', -⟩
      · exact hw.conn_inj b b' c hc hc'
      · exact absurd (hw.conn_lt b c hc) (heq' ▸ Nat.lt_irrefl _)
      · exact absurd (hw.conn_lt b' c hc') (heq ▸ Nat.lt_irrefl _)
      · rw [hb, hb']

/-- What has been committed stays committed. -/
theorem Effect.committed (hw : w.Consistent) {a : Option ClientId} (h : Effect w a w') :
    w.mysql.committed <+: w'.mysql.committed := by
  cases h with
  | none hmysql => exact hmysql ▸ List.prefix_rfl
  | request ha hc hadvance | close ha hc hadvance =>
    rw [hadvance.committed]
    exact List.prefix_append ..
  | connect outcome ha hmysql =>
    have heq := (congrArg Mysql.committed hmysql).trans (hw.mysql.connect outcome).2.2.2.1
    exact heq ▸ List.prefix_rfl

/-- The connection belongs to no other client. -/
def Private (w : Storage ι) (client : ClientId) (c : Conn) : Prop :=
  c < w.mysql.nextConn ∧ ∀ a, (w.clients a).conn = some c → a = client

theorem Consistent.privateConn (hw : w.Consistent) (hc : (w.clients client).conn = some c) :
    w.Private client c :=
  ⟨hw.conn_lt client c hc, fun a ha => hw.conn_inj client a c hc ha⟩

/-- What is done through other clients is nothing to the connection. -/
theorem Effect.kept (hw : w.Consistent) {a : Option ClientId} (ha : a ≠ some client)
    (h : Effect w a w') (hc : w.Private client c) :
    Mysql.Kept c w.mysql w'.mysql ∧ w'.Private client c := by
  obtain ⟨hlt, hmine⟩ := hc
  have hnext := (h.consistent hw).2
  cases h with
  | none hmysql hconn =>
    exact ⟨hmysql ▸ .refl c _, Nat.lt_of_lt_of_le hlt hnext, fun b hb => hmine b (hconn b ▸ hb)⟩
  | @request d logs b hb hd hadvance hconn =>
    refine ⟨hadvance.kept ?_, Nat.lt_of_lt_of_le hlt hnext, fun b hb => hmine b (hconn b ▸ hb)⟩
    rintro rfl
    exact ha (hmine b hd ▸ hb)
  | @connect outcome b hb hmysql hnew hconn =>
    refine ⟨hmysql ▸ Mysql.kept_connect hw.mysql outcome hlt, Nat.lt_of_lt_of_le hlt hnext,
      fun d hd => ?_⟩
    by_cases hdb : d = b
    · rw [hdb, hnew] at hd
      exact absurd hlt (((hw.mysql.connect outcome).2.2.2.2 c hd).eq ▸ Nat.lt_irrefl _)
    · exact hmine d (hconn d hdb ▸ hd)
  | @close d logs b hb hd hadvance hnone hconn =>
    refine ⟨hadvance.kept ?_, Nat.lt_of_lt_of_le hlt hnext, fun e he => ?_⟩
    · rintro rfl
      exact ha (hmine b hd ▸ hb)
    · by_cases heb : e = b
      · rw [heb, hnone] at he
        cases he
      · exact hmine e (hconn e heb ▸ he)

/-! ## What happens on its own -/

theorem happen_clients (w : Storage ι) (e : Happening) : (w.happen e).clients = w.clients := by
  cases e <;> rfl

theorem advance_happen (hw : w.Consistent) (e : Happening) :
    ∃ c logs, Mysql.Advance c w.mysql (w.happen e).mysql logs := by
  cases e with
  | cut c => exact ⟨c, _, hw.mysql.cut c⟩
  | drop c => exact ⟨c, _, hw.mysql.drop c⟩
  | resolve c => exact ⟨c, hw.mysql.resolve c⟩

theorem Consistent.happen (hw : w.Consistent) (e : Happening) : (w.happen e).Consistent := by
  obtain ⟨c, logs, h⟩ := advance_happen hw e
  refine ⟨h.consistent, fun a c hc => ?_, fun a b c ha hb => ?_⟩
  · rw [happen_clients] at hc
    rw [h.nextConn]
    exact hw.conn_lt a c hc
  · rw [happen_clients] at ha hb
    exact hw.conn_inj a b c ha hb

theorem aside_happen (hw : w.Consistent) (e : Happening) (c : Conn) :
    Mysql.Aside c w.mysql (w.happen e).mysql := by
  cases e with
  | cut d =>
    by_cases h : c = d
    · exact .cut (h ▸ rfl)
    · exact .kept ((hw.mysql.cut d).kept h)
  | drop d =>
    by_cases h : c = d
    · exact .drop (h ▸ rfl)
    · exact .kept ((hw.mysql.drop d).kept h)
  | resolve d =>
    by_cases h : c = d
    · exact .resolve (h ▸ rfl)
    · obtain ⟨logs, hadvance⟩ := hw.mysql.resolve d
      exact .kept (hadvance.kept h)

end Storage
end Game
