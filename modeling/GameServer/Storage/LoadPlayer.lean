import GameServer.Storage.Autocommit
import GameServer.Storage.SettlementService
import GameServer.Storage.Untouched

/-!
# Loading a player

`LoadPlayer` for a player who is in the database, whatever becomes of its statements. To the code a
`SELECT` that has failed is a player who is not there: it puts the data of a new player together,
gives the row the name of a new player, and reports no error. So the player is loaded as stored
exactly when the `SELECT` has been answered, or when there was nothing to lose.

The client is not locked from one statement to the next. Other threads may use it in between, for
other rows.
-/

namespace Game

open Infra PlayerRepository

variable {ι : Type} {i : ι} {client : ClientId} {p : PlayerId} {row : PlayerRow}
  {w w' start : Storage ι} {t : List (StorageStep ι)} {U U' : Prop}
  {V V' : List (StorageStep ι) → Prop}

/-! ## The upsert -/

theorem readLiteral_plain {value s : List Char} (h : backslash ∉ value)
    (hread : readLiteral value = some s) : s = value := by
  induction value generalizing s with
  | nil =>
    cases hread
    rfl
  | cons c value ih =>
    obtain ⟨hc, hvalue⟩ := not_or.mp (List.mem_cons.not.mp h)
    by_cases hquote : c = quote
    · -- A quote ends the literal too early.
      subst hquote
      cases value with
      | nil => cases hread
      | cons d rest =>
        rw [readLiteral, if_neg (Ne.symm hc), if_pos rfl] at hread
        cases hread
    · rw [readLiteral_cons (Ne.symm hc) hquote] at hread
      obtain ⟨s, hs, rfl⟩ := Option.map_eq_some_iff.mp hread
      rw [ih hvalue hs]

theorem backslash_not_mem_toString_nat (n : Nat) : backslash ∉ (toString n).toList := by
  intro h
  have hmem : backslash ∈ Nat.toDigits 10 n := by simpa using h
  have hdigit : backslash.isDigit = true := Nat.isDigit_of_mem_toDigits (by omega) (by omega) hmem
  exact absurd hdigit (by decide)

theorem backslash_not_mem_playerName (p : PlayerId) : backslash ∉ (Stmt.playerName p).toList := by
  have hp : backslash ∉ (toString p).toList := by
    cases p with
    | ofNat n => exact backslash_not_mem_toString_nat n
    | negSucc n =>
      intro h
      have hmem : backslash ∈ ("-" ++ toString (n + 1)).toList := h
      rw [String.toList_append] at hmem
      rcases List.mem_append.mp hmem with hmem | hmem
      · exact absurd hmem (by decide)
      · exact backslash_not_mem_toString_nat (n + 1) hmem
  unfold Stmt.playerName
  rw [String.toList_append]
  intro h
  rcases List.mem_append.mp h with h | h
  · exact absurd h (by decide)
  · exact hp h

/-- An upsert with the name that the row has. -/
theorem Sql.keeps_insertPlayer {literal : List Char} {score winCount loseCount : Int}
    (hname : ∀ s, readLiteral literal = some s → String.ofList s = row.name) :
    Sql.Keeps p row (.dml (.insertPlayer p literal score winCount loseCount)) := by
  intro n db db' answer hrow hperform
  obtain ⟨v, hact, rfl⟩ := Action.perform_row_eq_some.mp hperform
  change Stmt.insertPlayer literal score winCount loseCount (db (.player p)) = some (v, answer)
    at hact
  rw [Function.update_self]
  unfold Stmt.insertPlayer at hact
  split at hact
  · cases hact
  · next s hs =>
    rw [hrow] at hact
    dsimp only at hact
    split at hact
    · cases hact
      show some { row with name := String.ofList s } = some row
      rw [hname s hs]
    · cases hact

/-- What `EscapeString` can make of the name of a new player: without a connection it returns the
name as it is. -/
def NameLiteral (p : PlayerId) (literal : List Char) : Prop :=
  literal = (Stmt.playerName p).toList ∨
    literal = mysqlRealEscapeString (Stmt.playerName p).toList

theorem readLiteral_name {literal s : List Char} (hliteral : NameLiteral p literal)
    (hread : readLiteral literal = some s) : String.ofList s = Stmt.playerName p := by
  have hs : s = (Stmt.playerName p).toList := by
    rcases hliteral with rfl | rfl
    · exact readLiteral_plain (backslash_not_mem_playerName p) hread
    · rw [readLiteral_escape] at hread
      exact (Option.some.inj hread).symm
  rw [hs, String.ofList_toList]

/-! ## The others -/

/-- What the other threads keep to: their statements are not about the row of the player, and they
leave the clients at rest. -/
def StorageRequest.Aside (p : PlayerId) (w : Storage ι) : StorageRequest → Prop
  | mysqlQuery _ sql => ¬ sql.Names p
  | unlockClient a => (w.clients a).depth ≤ 1 → w.AtRest a
  | _ => True

theorem StorageRequest.Aside.harmless {q : StorageRequest} (h : q.Aside p w) :
    q.Harmless p row w := by
  cases q with
  | mysqlQuery a sql => exact fun _ _ hnames => absurd hnames h
  | _ => trivial

section

variable [DecidableEq ι]

/-- A step of the rest of the system. -/
def Bystander (p : PlayerId) (i : ι) (w w' : Storage ι) : Prop :=
  (∃ e, w' = w.happen e) ∨ ∃ (j : ι) (q : StorageRequest) (x : Outcome) (r : q.Reply),
    j ≠ i ∧ q.Allowed j w ∧ q.Aside p w ∧ Storage.exec j q x w = some (w', r)

/-- The requests of the thread `i`, which loads the player. -/
def loading (p : PlayerId) (i : ι) :
    Contract StorageRequest StorageRequest.Reply (Storage ι) where
  exec q w r w' := ∃ x, Storage.exec i q x w = some (w', r)
  rely := Relation.ReflTransGen (Bystander p i)
  guar _ _ _ := True

/-- What the others leave alone. -/
structure Undisturbed (i : ι) (p : PlayerId) (row : PlayerRow) (w w' : Storage ι) : Prop where
  consistent : w'.Consistent
  untouched : w.mysql.Untouched p row → w'.mysql.Untouched p row
  owner : ∀ a, (w'.clients a).owner = some i ↔ (w.clients a).owner = some i
  atRest : ∀ a, ((w.clients a).owner = none → w.AtRest a) →
    (w'.clients a).owner = none → w'.AtRest a

theorem Bystander.undisturbed (row : PlayerRow) (hw : w.Consistent) (h : Bystander p i w w') :
    Undisturbed i p row w w' := by
  rcases h with ⟨e, rfl⟩ | ⟨j, q, x, r, hij, hallowed, haside, hexec⟩
  · have hclients := Storage.happen_clients w e
    refine ⟨hw.happen e, fun h => Storage.untouched_happen h e, fun a => by rw [hclients],
      fun a hrest hnone => ?_⟩
    rw [hclients] at hnone
    exact (hrest hnone).of_kept hw (congrFun hclients a) fun c _ => Storage.aside_happen hw e c
  · refine ⟨((Storage.exec_effect hw hexec).consistent hw).1,
      fun h => Storage.untouched_exec h hw.mysql haside.harmless hexec,
      Storage.owner_exec hij hallowed hexec, fun a hrest hnone => ?_⟩
    refine Storage.atRest_exec hw hrest hallowed (fun heq hdepth => ?_) hexec hnone
    subst heq
    exact haside hdepth

theorem undisturbed_of_rely (row : PlayerRow) (hw : w.Consistent)
    (h : Relation.ReflTransGen (Bystander p i) w w') : Undisturbed i p row w w' := by
  induction h with
  | refl => exact ⟨hw, id, fun _ => Iff.rfl, fun _ => id⟩
  | tail _ hstep ih =>
    have h := hstep.undisturbed row ih.consistent
    exact ⟨h.consistent, fun hrow => h.untouched (ih.untouched hrow),
      fun a => (h.owner a).trans (ih.owner a), fun a hrest => h.atRest a (ih.atRest a hrest)⟩

theorem Bystander.elsewhere (howner : (w.clients client).owner = some i)
    (h : Bystander p i w w') : Elsewhere client w w' := by
  rcases h with ⟨e, he⟩ | ⟨j, q, x, r, hij, hallowed, -, hexec⟩
  · exact .happen e he
  · exact .of_allowed hij howner hallowed hexec

theorem elsewhere_of_bystanders (hw : w.Consistent) (howner : (w.clients client).owner = some i)
    (h : Relation.ReflTransGen (Bystander p i) w w') :
    Relation.ReflTransGen (Elsewhere client) w w' := by
  induction h with
  | refl => exact .refl
  | tail hbefore hstep ih =>
    -- The thread still has the mutex.
    have h := undisturbed_of_rely (p := p) ⟨"", 0, 0, 0⟩ hw hbefore
    exact ih.tail (hstep.elsewhere ((h.owner client).mpr howner))

end

/-! ## What is known in a call -/

/-- The `SELECT` of the player has been answered. -/
def Selected (p : PlayerId) : StorageStep ι → Prop
  | ⟨_, .mysqlQuery _ sql, .ok _, _⟩ => sql = .select (.player p)
  | _ => False

/-- If `U`, the row is left alone, and the steps of the thread meet `V`. -/
structure Leaves (p : PlayerId) (row : PlayerRow) (U : Prop) (V : List (StorageStep ι) → Prop)
    (w : Storage ι) (t : List (StorageStep ι)) : Prop where
  row : U → w.mysql.Untouched p row
  steps : V t

/-- Only an answer to the `SELECT` makes a difference. -/
def Lasts (p : PlayerId) (V : List (StorageStep ι) → Prop) : Prop :=
  ∀ t e, ¬ Selected p e → V t → V (t ++ [e])

theorem not_selected_tame {q : StorageRequest} (hq : q.Tame client w) (r : q.Reply) :
    ¬ Selected p ⟨w, q, r, w'⟩ := by
  cases q with
  | mysqlQuery a sql => exact hq.elim
  | _ => exact id

theorem lasts_unread (p : PlayerId) : Lasts (ι := ι) p fun t => ∀ e ∈ t, ¬ Selected p e := by
  intro t e he h a ha
  rcases List.mem_append.mp ha with ha | ha
  · exact h a ha
  · rw [List.mem_singleton.mp ha]
    exact he

theorem lasts_read (p : PlayerId) : Lasts (ι := ι) p fun t => ∃ e ∈ t, Selected p e :=
  fun _ _ _ ⟨a, ha, h⟩ => ⟨a, List.mem_append_left _ ha, h⟩

theorem Lasts.and (h : Lasts p V) (c : Prop) : Lasts p fun t => V t ∧ c :=
  fun t e he hV => ⟨h t e he hV.1, hV.2⟩

theorem Lasts.or (h : Lasts p V) (h' : Lasts p V') : Lasts p fun t => V t ∨ V' t :=
  fun t e he => Or.imp (h t e he) (h' t e he)

section

variable [DecidableEq ι]

theorem lasting_leaves (hV : Lasts p V) :
    Lasting (loading p i) (fun _ => True) False i client (Leaves p row U V) where
  exec h := h
  succeeds _ h := h.elim
  guar _ := trivial
  rely hw howner h hrely :=
    ⟨elsewhere_of_bystanders hw howner hrely,
      fun hU => (undisturbed_of_rely row hw hrely).untouched (h.row hU), h.steps⟩
  step {w t q r w'} hw _ h hexec hq := by
    obtain ⟨x, hexec⟩ := hexec
    refine ⟨fun hU => Storage.untouched_exec (h.row hU) hw.mysql ?_ hexec,
      hV t _ (not_selected_tame hq r) h.steps⟩
    cases q with
    | mysqlQuery => exact hq.elim
    | _ => trivial

/-- A statement that keeps the row. -/
theorem queries_leaves {sql : Sql} {V' : Reply sql → List (StorageStep ι) → Prop}
    (hkeeps : U → sql.Keeps p row)
    (hread : ∀ {w w' : Storage ι} {t reply}, (U → w.mysql.Untouched p row) →
      Answers w sql reply → V t → V' reply (t ++ [⟨w, .mysqlQuery client sql, reply, w'⟩])) :
    Queries (loading p i) i client sql (Leaves p row U V) fun reply =>
      Leaves p row U (V' reply) := by
  intro w t c m x reply hw howner hc hclosed hquery hexec h
  refine ⟨fun hU => (h.row hU).queried (fun _ => ⟨hkeeps hU, hclosed⟩) hquery, ?_⟩
  exact hread h.row (answers_of_queried hw.mysql hclosed hquery) h.steps

/-! ## From one call to the next -/

/-- The thread does not hold the mutex of the client. -/
structure Between (i : ι) (client : ClientId) (E : Storage ι → List (StorageStep ι) → Prop)
    (s : Storage ι × List (StorageStep ι)) : Prop where
  consistent : s.1.Consistent
  free : (s.1.clients client).owner ≠ some i
  atRest : (s.1.clients client).owner = none → s.1.AtRest client
  known : E s.1 s.2

theorem Between.rely (h : Between i client (Leaves p row U V) (w, t))
    (hrely : Relation.ReflTransGen (Bystander p i) w w') :
    Between i client (Leaves p row U V) (w', t) := by
  have hw := undisturbed_of_rely row h.consistent hrely
  exact ⟨hw.consistent, fun howner => h.free ((hw.owner client).mp howner),
    hw.atRest client h.atRest, fun hU => hw.untouched (h.known.row hU), h.known.steps⟩

/-- **A call of the client.** -/
theorem triple_between {α : Type} {body : StorageM α} {V' : α → List (StorageStep ι) → Prop}
    (hV : Lasts p V) (hV' : ∀ a, Lasts p (V' a))
    (hbody : Prog.Triple (Prog.recorded (loading p i) fun _ => True)
      (Calling i client none (Leaves p row U V) 0 false Rested) body
      fun a => Calling i client none (Leaves p row U (V' a)) 0 false Rested) :
    Prog.Triple (Prog.recorded (loading p i) fun _ => True)
      (Between i client (Leaves p row U V)) (MysqlClient.withLock client body)
      fun a => Between i client (Leaves p row U (V' a)) := by
  refine .bind (p := ask (.lockClient client)) (B := fun _ =>
    Calling i client none (Leaves p row U V) 0 false Rested) ?_ fun _ =>
    .bind hbody fun a => .bind (p := ask (.unlockClient client)) (B := fun _ =>
      Between i client (Leaves p row U (V' a))) ?_ fun _ => .pure fun _ h => h
  · refine triple_ask (fun _ => lasting_leaves hV) (fun _ => steady_rested)
      fun w t w' r h hexec => ?_
    obtain ⟨x, hexec⟩ := hexec
    refine Knowing.lock steady_rested h.free (fun hnone => ?_) hexec
      ⟨fun hU => Storage.untouched_exec (q := .lockClient client) (h.known.row hU)
        h.consistent.mysql trivial hexec, hV t _ id h.known.steps⟩
    obtain ⟨hin, hconn⟩ := h.atRest hnone
    exact ⟨h.consistent, fun _ h => (by cases h), trivial, hin, hconn⟩
  · rintro ⟨w, t⟩ h r ⟨w', t'⟩ ⟨⟨x, hexec⟩, ht⟩
    dsimp only at ht
    subst ht
    refine ⟨trivial, ?_⟩
    rintro ⟨w'', t''⟩ ⟨hrely, ht⟩
    dsimp only at ht
    subst ht
    have hconsistent := ((Storage.exec_effect h.consistent hexec).consistent h.consistent).1
    have hrow : U → w'.mysql.Untouched p row := fun hU =>
      Storage.untouched_exec (q := .unlockClient client) (h.lasting.row hU) h.consistent.mysql
        trivial hexec
    obtain rfl : w' = w.unlock client := by
      cases hexec
      rfl
    refine Between.rely ⟨hconsistent, ?_, fun _ => ?_, hrow, hV' a t _ id h.lasting.steps⟩ hrely
    · show ((w.unlock client).clients client).owner ≠ some i
      rw [Storage.owner_unlock (Nat.le_of_eq h.depth)]
      exact nofun
    · exact Storage.AtRest.unlock ⟨h.inTransaction, h.known⟩

/-! ## The functions -/

/-- The row as `FindPlayer` puts it. -/
def stored (p : PlayerId) (row : PlayerRow) : PlayerData :=
  { row with playerId := p }

/-- What the answer to the `SELECT` is, if there has been one. -/
def Read (p : PlayerId) (row : PlayerRow) (rows : List PlayerData)
    (t : List (StorageStep ι)) : Prop :=
  (∀ e ∈ t, ¬ Selected p e) ∧ rows = [] ∨ (∃ e ∈ t, Selected p e) ∧ rows = [stored p row]

omit [DecidableEq ι] in
theorem lasts_answer (rows : List PlayerData) : Lasts (ι := ι) p (Read p row rows) :=
  ((lasts_unread p).and _).or ((lasts_read p).and _)

/-- The row has been found, or the `SELECT` has failed. -/
theorem triple_query_player :
    Prog.Triple (Prog.recorded (loading p i) fun _ => True)
      (Between i client (Leaves p row True fun t => ∀ e ∈ t, ¬ Selected p e))
      (MysqlClient.query client (.player p))
      fun rows => Between i client (Leaves p row True (Read p row rows)) := by
  let H : Reply (.select (.player p)) → List (StorageStep ι) → Prop
    | .ok rows, t => Read p row rows t
    | .error _, t => ∀ e ∈ t, ¬ Selected p e
  have hH : ∀ reply, Lasts p (H reply) := by
    rintro (rows | lost)
    · exact lasts_answer rows
    · exact lasts_unread p
  refine triple_between (lasts_unread p) lasts_answer
    (triple_query (lasting_leaves (lasts_unread p)) (fun reply => lasting_leaves (hH reply))
      (queries_leaves (fun _ => Sql.keeps_select p row) ?_)
      (fun _ _ _ h => ⟨h.row, Or.inl ⟨h.steps, rfl⟩⟩) fun reply => ?_)
  · intro w w' t reply hrow hanswers hunread
    cases reply with
    | error lost => exact lasts_unread p t _ id hunread
    | ok rows =>
      obtain ⟨n, db, hperform⟩ := hanswers rows rfl
      obtain ⟨v, hact, -⟩ := Action.perform_row_eq_some.mp hperform
      cases hact
      rw [(hrow trivial).stored]
      exact Or.inr ⟨⟨_, List.mem_append_right _ (List.mem_singleton_self _), rfl⟩, rfl⟩
  · cases reply with
    | error lost =>
      exact triple_failed (lasting_leaves (hH (.error lost))) lost [] fun _ _ h =>
        ⟨h.row, Or.inl ⟨h.steps, rfl⟩⟩
    | ok rows =>
      exact triple_answered (C := loading p i) (G := fun _ => True) rows

/-- A new player's name is no news to a row that has it. -/
theorem triple_createPlayer (hV : Lasts p V) :
    Prog.Triple (Prog.recorded (loading p i) fun _ => True)
      (Between i client (Leaves p row (row = (newPlayer p).toPlayerRow) V))
      (createPlayer ⟨some client⟩ (newPlayer p))
      fun _ => Between i client (Leaves p row (row = (newPlayer p).toPlayerRow) V) := by
  have hescape : Prog.Triple (Prog.recorded (loading p i) fun _ => True)
      (Between i client (Leaves p row (row = (newPlayer p).toPlayerRow) V))
      (MysqlClient.escapeString client (Stmt.playerName p).toList) fun literal =>
      Between i client (Leaves p row (row = (newPlayer p).toPlayerRow) fun t =>
        V t ∧ NameLiteral p literal) :=
    triple_between hV (fun literal => hV.and _)
      (triple_escape (lasting_leaves hV) fun literal hliteral _ _ h => ⟨h.row, h.steps, hliteral⟩)
  refine .bind hescape fun literal s hs => ?_
  have hliteral : NameLiteral p literal := hs.known.steps.2
  -- The upsert gives the row the name of a new player, so only such a row stays as it is.
  have hkeeps : row = (newPlayer p).toPlayerRow → Sql.Keeps p row (.dml (.insertPlayer p literal
      (newPlayer p).score (newPlayer p).winCount (newPlayer p).loseCount)) := by
    intro hrow
    refine Sql.keeps_insertPlayer fun name hname => ?_
    rw [readLiteral_name hliteral hname, hrow]
    rfl
  have hexecute : Prog.Triple (Prog.recorded (loading p i) fun _ => True)
      (Between i client (Leaves p row (row = (newPlayer p).toPlayerRow) V))
      (MysqlClient.execute client (.insertPlayer p literal (newPlayer p).score
        (newPlayer p).winCount (newPlayer p).loseCount))
      fun _ => Between i client (Leaves p row (row = (newPlayer p).toPlayerRow) V) := by
    have hquery : Queries (loading p i) i client (.dml (.insertPlayer p literal
        (newPlayer p).score (newPlayer p).winCount (newPlayer p).loseCount))
        (Leaves p row (row = (newPlayer p).toPlayerRow) V)
        fun _ => Leaves p row (row = (newPlayer p).toPlayerRow) V := by
      refine queries_leaves hkeeps fun {w w' t reply} _ _ h => hV t _ (fun hselected => ?_) h
      cases reply with
      | ok answer => cases hselected
      | error lost => exact hselected
    refine triple_between hV (fun _ => hV) (triple_query (lasting_leaves hV)
      (fun _ => lasting_leaves hV) hquery (fun _ _ _ h => h) fun reply => ?_)
    cases reply with
    | error lost => exact triple_failed (lasting_leaves hV) lost false fun _ _ h => h
    | ok answer => exact triple_answered (C := loading p i) (G := fun _ => True) true
  exact hexecute s { hs with known := ⟨hs.known.row, hs.known.steps.1⟩ }

/-- The player has been loaded as stored, or as a new player. -/
inductive Loaded (i : ι) (client : ClientId) (p : PlayerId) (row : PlayerRow) (data : PlayerData)
    (s : Storage ι × List (StorageStep ι)) : Prop where
  | found (hdata : data = stored p row)
      (h : Between i client (Leaves p row True fun t => ∃ e ∈ t, Selected p e) s)
  | missed (hdata : data = newPlayer p)
      (h : Between i client (Leaves p row (row = (newPlayer p).toPlayerRow)
        fun t => ∀ e ∈ t, ¬ Selected p e) s)

theorem triple_loadPlayer :
    Prog.Triple (Prog.recorded (loading p i) fun _ => True)
      (Between i client (Leaves p row True fun t => ∀ e ∈ t, ¬ Selected p e))
      (loadPlayer ⟨some client⟩ p) fun data => Loaded i client p row data := by
  have hfind : Prog.Triple (Prog.recorded (loading p i) fun _ => True)
      (Between i client (Leaves p row True fun t => ∀ e ∈ t, ¬ Selected p e))
      (findPlayer ⟨some client⟩ p) fun found s => ∃ rows, found = rows.head? ∧
        Between i client (Leaves p row True (Read p row rows)) s :=
    .bind triple_query_player fun rows => .pure fun s h => ⟨rows, rfl, h⟩
  refine .bind hfind fun found => ?_
  rintro s ⟨rows, rfl, h⟩
  rcases h.known.steps with ⟨hunread, rfl⟩ | ⟨hread, rfl⟩
  · have hmissed : Between i client (Leaves p row (row = (newPlayer p).toPlayerRow)
        fun t => ∀ e ∈ t, ¬ Selected p e) s :=
      { h with known := ⟨fun _ => h.known.row trivial, hunread⟩ }
    have hcreate := triple_createPlayer (lasts_unread p) s hmissed
    exact Prog.wp_bind.mpr (Prog.wp_mono (fun _ _ h => .missed rfl h) hcreate)
  · exact .found rfl { h with known := ⟨h.known.row, hread⟩ }

theorem Loaded.iff {data : PlayerData} (h : Loaded i client p row data (w, t)) :
    (data = stored p row ∧ ∀ w', Relation.ReflTransGen (Bystander p i) w w' →
        w'.mysql.db (.player p) = some row) ↔
      (∃ e ∈ t, Selected p e) ∨ row = (newPlayer p).toPlayerRow := by
  cases h with
  | found hdata h =>
    refine iff_of_true ⟨hdata, fun w' hrely => ?_⟩ (Or.inl h.known.steps)
    exact ((h.rely hrely).known.row trivial).stored
  | missed hdata h =>
    constructor
    · rintro ⟨hstored, -⟩
      exact Or.inr (congrArg PlayerData.toPlayerRow (hstored.symm.trans hdata))
    · rintro (⟨e, he, hselected⟩ | hrow)
      · exact absurd hselected (h.known.steps e he)
      · refine ⟨?_, fun w' hrely => ((h.rely hrely).known.row hrow).stored⟩
        rw [hdata, hrow]
        rfl

/--
**A player is loaded as stored if and only if the `SELECT` has been answered**, or the row is that
of a new player anyway.

The row of the player is there, and nobody else is about to change it. Whatever becomes of the
statements and of the connections, and whatever other threads do with the client in between: when
`LoadPlayer` returns, it returns what is stored and leaves the row as it is under exactly this
condition.
-/
theorem loadPlayer_iff {repository : PlayerRepository} {data : PlayerData}
    (hstart : start.Consistent)
    (hfree : ∀ client, (start.clients client).owner ≠ some i)
    (hrest : ∀ client, (start.clients client).owner = none → start.AtRest client)
    (hrow : start.mysql.Untouched p row)
    (hrun : Prog.Run (loading p i) (repository.loadPlayer p) start t (.pure data) w) :
    (data = stored p row ∧ ∀ w', Relation.ReflTransGen (Bystander p i) w w' →
        w'.mysql.db (.player p) = some row) ↔
      (∃ e ∈ t, Selected p e) ∨ row = (newPlayer p).toPlayerRow := by
  obtain ⟨mysql⟩ := repository
  have hbetween : ∀ client, Between i client
      (Leaves p row True fun t => ∀ e ∈ t, ¬ Selected p e) (start, []) := fun client =>
    ⟨hstart, hfree client, hrest client, fun _ => hrow, fun _ he => absurd he List.not_mem_nil⟩
  cases mysql with
  | none =>
    -- Without a database nothing is requested, and every player is a new player.
    cases hrun
    exact Loaded.iff (.missed rfl
      { hbetween 0 with known := ⟨fun _ => hrow, fun _ he => absurd he List.not_mem_nil⟩ })
  | some client =>
    have hwp := triple_loadPlayer (start, []) (hbetween client)
    obtain ⟨-, hloaded⟩ := hrun.recorded (G := fun _ => True) trivial hwp
    exact Loaded.iff hloaded

end

/-! ## A `SELECT` that fails -/

/-- The database has one player, and nobody is connected. -/
def aliceStored : Storage Nat where
  mysql :=
    { locks := { rows := Function.update Db.empty (.player 7) (some ⟨"alice", 1500, 0, 0⟩) }
      committed := [(0, [⟨⟨1, .dml (.insertPlayer 7 "alice".toList 1500 0 0)⟩, (1 : Int)⟩])]
      nextConn := 1 }

theorem consistent_aliceStored : aliceStored.Consistent where
  mysql :=
    { fresh := fun _ _ => ⟨rfl, rfl, rfl⟩
      closed := fun _ _ => ⟨fun _ h => (by cases h), rfl⟩
      follows := fun _ => ⟨rfl, fun _ h => absurd h List.not_mem_nil⟩
      linked := fun _ _ => rfl
      replay := by
        refine ⟨_, Action.perform_row_eq_some.mpr ⟨some ⟨"alice", 1500, 0, 0⟩, ?_, rfl⟩, rfl⟩
        decide
      committed_lt := fun x hx => by
        rw [List.mem_singleton.mp hx]
        exact Nat.zero_lt_one }
  conn_lt _ _ h := by cases h
  conn_inj _ _ _ h := by cases h

theorem untouched_aliceStored : aliceStored.mysql.Untouched 7 ⟨"alice", 1500, 0, 0⟩ where
  stored := rfl
  free := rfl
  late _ _ h := by cases h

/-- Only the `SELECT` fails. -/
def selectFails : StorageRequest → Outcome
  | .mysqlQuery _ (.select _) => .error
  | _ => .ok

theorem run_aliceStored : ∃ (w : Storage Nat) (t : List (StorageStep Nat)),
    Prog.Run (loading 7 0) (loadPlayer ⟨some 0⟩ 7) aliceStored t (.pure (newPlayer 7)) w ∧
      w.mysql.db (.player 7) = some ⟨"player_7", 1500, 0, 0⟩ := by
  obtain ⟨w, heval, hrow⟩ : ∃ w, (loadPlayer ⟨some 0⟩ 7).eval
      (fun q w => Storage.exec 0 q (selectFails q) w) aliceStored = some (w, newPlayer 7) ∧
        w.mysql.db (.player 7) = some ⟨"player_7", 1500, 0, 0⟩ := ⟨_, rfl, by decide⟩
  obtain ⟨t, hrun⟩ := Prog.run_of_eval (C := loading 7 0)
    (fun q w w' r h => ⟨selectFails q, h⟩) (fun _ => .refl) heval
  exact ⟨w, t, hrun, hrow⟩

/-- The player is loaded as a new one, and the row has lost its name. -/
theorem loadPlayer_counterexample : ¬ ∀ (start w : Storage Nat) (t : List (StorageStep Nat))
    (p : PlayerId) (row : PlayerRow) (data : PlayerData),
    start.Consistent → (∀ client, start.AtRest client) → start.mysql.Untouched p row →
      Prog.Run (loading p 0) (loadPlayer ⟨some 0⟩ p) start t (.pure data) w →
      data = stored p row ∧ w.mysql.db (.player p) = some row := by
  intro h
  obtain ⟨w, t, hrun, -⟩ := run_aliceStored
  obtain ⟨hdata, -⟩ := h aliceStored w t 7 ⟨"alice", 1500, 0, 0⟩ (newPlayer 7)
    consistent_aliceStored (fun _ => ⟨rfl, fun _ h => by cases h⟩) untouched_aliceStored hrun
  exact absurd hdata (by decide)

/-- So the `SELECT` has not been answered. -/
theorem loadPlayer_aliceStored : ∃ (w : Storage Nat) (t : List (StorageStep Nat)),
    Prog.Run (loading 7 0) (loadPlayer ⟨some 0⟩ 7) aliceStored t (.pure (newPlayer 7)) w ∧
      ¬ ∃ e ∈ t, Selected 7 e := by
  obtain ⟨w, t, hrun, hrow⟩ := run_aliceStored
  refine ⟨w, t, hrun, fun hread => ?_⟩
  obtain ⟨-, hkept⟩ := (loadPlayer_iff consistent_aliceStored (fun _ h => by cases h)
    (fun _ _ => ⟨rfl, fun _ h => by cases h⟩) untouched_aliceStored hrun).mpr (Or.inl hread)
  have hkept := hkept w .refl
  rw [hrow] at hkept
  exact absurd hkept (by decide)

end Game
