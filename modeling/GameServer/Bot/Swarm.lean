import GameServer.Bot.Handshake
import GameServer.Protocol.EndToEnd
import GameServer.Server.ActingForOneself
import GameServer.Server.Identities

/-!
# A swarm of bots

`src/bot/bot_manager.cpp` and the server: any number of bots, and other clients that may do what
they like except log in under the name of a bot.

The bots and the server take their steps in any order. The server handles one request at a time, from
beginning to end. On a connection the requests are handled in the order in which they have been
written, and the messages are read in the order in which they have been sent. Connections may end at
any time, on both sides.
-/

namespace Game

open Infra

variable {F : Type} {n : Nat}

/-- The bots, the server and what is between them. -/
structure Swarm (F : Type) (n : Nat) where
  server : Server F
  bots : Fin n → BotClient F
  /-- The bot behind a session, and the number of its socket. Other clients have the rest. -/
  peer : SessionId → Option (Fin n × Nat) := fun _ => none
  /-- How many packets of a session have been handled. -/
  handled : SessionId → Nat := fun _ => 0
  /-- How many messages to a session have been read. -/
  received : SessionId → Nat := fun _ => 0

/-- The socket from which the first handler gets messages. -/
def BotClient.listens (b : BotClient F) : Option Nat :=
  match b.handlers with
  | .read socket .messages :: _ => if b.socket = some socket then some socket else none
  | _ => none

/-- What has been sent to a session. -/
def messagesTo (session : SessionId) (out : List (SessionId × Message F)) : List (Message F) :=
  out.filterMap fun x => if x.1 = session then some x.2 else none

theorem Call.Playing.request {p : PlayerId} {call : Call F} (h : call.Playing p) :
    ∃ request, call = .request request ∧ request.answer? ≠ some .login ∧
      request.answer? ≠ some .reconnect := by
  unfold Call.Playing at h
  split at h
  all_goals first
    | exact ⟨_, rfl, nofun, nofun⟩
    | exact h.elim

namespace Swarm

/-- What a bot is told when its first handler runs, if that is a read from the session. -/
def arrived (w : Swarm F n) (bot : Fin n) (session : SessionId) (count : Nat) :
    List (Message F) :=
  match (w.bots bot).listens with
  | none => []
  | some socket =>
    if w.peer session = some (bot, socket) then
      ((messagesTo session w.server.out).drop (w.received session)).take count
    else []

/-- The request that is handled next. -/
def next (w : Swarm F n) (session : SessionId) : Option (Call F) :=
  (w.peer session).bind fun (bot, socket) =>
    (((w.bots bot).wire socket)[w.handled session]?).map (·.2)

/-- The rest of the world does not see it yet. -/
def stepBot (w : Swarm F n) (bot : Fin n) (e : BotClient.Event F) : Swarm F n :=
  { w with bots := Function.update w.bots bot ((w.bots bot).step e) }

/-- Whether the event is one of another client, or of none. -/
def Foreign (w : Swarm F n) : Game.Event F → Prop
  | .packet session _ _ => w.peer session = none
  | _ => True

instance (w : Swarm F n) (e : Game.Event F) : Decidable (w.Foreign e) := by
  unfold Foreign
  split <;> infer_instance

/-- A socket of a bot that is not the peer of a session. -/
def Unaccepted (w : Swarm F n) (bot : Fin n) (socket : Nat) : Prop :=
  socket < (w.bots bot).sockets ∧
    ∀ session < w.server.nextSessionId, w.peer session ≠ some (bot, socket)

instance (w : Swarm F n) (bot : Fin n) (socket : Nat) : Decidable (w.Unaccepted bot socket) :=
  inferInstanceAs (Decidable (_ ∧ _))

/-- What can happen. -/
inductive Event (F : Type) (n : Nat) where
  /-- The first handler of a bot runs. If it reads, it gets up to `count` messages. -/
  | run (bot : Fin n) (resolved : Bool) (session : SessionId) (count : Nat)
  | fire (bot : Fin n) (timer : Nat)
  | connected (bot : Fin n) (failed : Bool)
  | read (bot : Fin n) (result : ReadResult)
  | written (bot : Fin n) (failed : Bool)
  | accept (nowMs : Int) (bot : Fin n) (socket : Nat)
  /-- The server handles the next request of a bot. -/
  | request (session : SessionId) (env : CallEnv)
  /-- Anything else that happens to the server. -/
  | other (e : Game.Event F)

variable [Axis F]

def step (w : Swarm F n) : Event F n → Swarm F n
  | .run bot resolved session count =>
    let arrived := w.arrived bot session count
    { w.stepBot bot (.run { resolved, arrived }) with
      received :=
        Function.update w.received session (w.received session + arrived.length) }
  | .fire bot timer => w.stepBot bot (.fire timer)
  | .connected bot failed => w.stepBot bot (.connected failed)
  | .read bot result => w.stepBot bot (.read result)
  | .written bot failed => w.stepBot bot (.written failed)
  | .accept nowMs bot socket =>
    if w.Unaccepted bot socket then
      { w with
        server := w.server.handle (.accept nowMs)
        peer := Function.update w.peer w.server.nextSessionId (some (bot, socket)) }
    else w
  | .request session env =>
    match (w.next session).bind fun call => (ServiceAction.call session env call).event? with
    | none => w
    | some e =>
      { w with
        server := w.server.handle e
        handled := Function.update w.handled session (w.handled session + 1) }
  | .other e => if w.Foreign e then { w with server := w.server.handle e } else w

/-- What `BotManager::Start` gives to a bot, and what the bot is going to throw. -/
structure Setup (F : Type) where
  options : BotOptions
  dice : Nat → Int
  axes : Nat → F
  resolved : Bool

/-- `BotManager::Start` -/
def start (roomPlayerCount : Int) (setups : Fin n → Setup F) : Swarm F n where
  server := Server.init roomPlayerCount
  bots i :=
    BotClient.start i (setups i).options (setups i).dice (setups i).axes (setups i).resolved

def run (w : Swarm F n) (events : List (Event F n)) : Swarm F n :=
  events.foldl step w

/-! ## Names -/

/-- The name under which a bot logs in. -/
def name (bot : Fin n) : String :=
  "bot_" ++ toString (bot : Nat)

theorem name_injective {i j : Fin n} (h : name i = name j) : i = j := by
  unfold name at h
  rw [String.append_right_inj] at h
  exact Fin.ext (Nat.repr_injective h)

theorem name_ne_empty (bot : Fin n) : name bot ≠ "" := by
  simp [name]

/-- A bot is no guest. -/
theorem name_ne_guest (bot : Fin n) (number : String) : name bot ≠ "guest_" ++ number := by
  intro h
  have hfirst := congrArg (fun s : String => s.toList.head?) h
  simp [name] at hfirst

/-- The player and the token that a bot has got from the server. -/
def who (w : Swarm F n) (bot : Fin n) : Option (PlayerId × String) :=
  w.server.loginService.identity (name bot)

/-- Nobody else logs in under the name of a bot. -/
def Event.LeavesNames : Event F n → Prop
  | .other (.packet _ _ (.login _ (some account))) => ∀ bot : Fin n, account ≠ name bot
  | _ => True

/-! ## The invariant -/

omit [Axis F] in
theorem mem_messagesTo {session : SessionId} {out : List (SessionId × Message F)}
    {m : Message F} : m ∈ messagesTo session out ↔ (session, m) ∈ out := by
  unfold messagesTo
  rw [List.mem_filterMap]
  constructor
  · rintro ⟨⟨σ, m'⟩, hm, heq⟩
    obtain ⟨rfl, h⟩ := Option.ite_none_right_eq_some.mp heq
    cases h
    exact hm
  · exact fun hm => ⟨(session, m), hm, if_pos rfl⟩

/-- The invariant. -/
structure Sound (w : Swarm F n) : Prop where
  index : ∀ i, (w.bots i).index = i
  interned : w.server.Interned
  numbered : w.server.presence.Numbered
  handshaking : ∀ i, (w.bots i).contact.Handshaking (w.who i)
  /-- Logins and reconnects are answered to sessions that have been accepted. -/
  asked : ∀ σ m, (σ, m) ∈ w.server.out → ¬ BotClient.Fine none m → σ < w.server.nextSessionId
  accepted : ∀ σ x, w.peer σ = some x → σ < w.server.nextSessionId
  unique : ∀ σ τ x, w.peer σ = some x → w.peer τ = some x → σ = τ
  fresh : ∀ σ, w.peer σ = none → w.handled σ = 0
  /-- What bots are told is good. -/
  fine : ∀ σ i k m, w.peer σ = some (i, k) → (σ, m) ∈ w.server.out → BotClient.Fine (w.who i) m
  /-- After the first request of a connection, the server knows whose it is. -/
  met : ∀ σ i k, w.peer σ = some (i, k) → w.handled σ ≠ 0 →
    ∃ token, w.who i = some ((w.server.sessionHeap σ).playerId, token)
  /-- It is the login that has given the bot its player. -/
  known : ∀ i, w.who i ≠ none → ∃ σ k, w.peer σ = some (i, k) ∧
    ∃ x ∈ ((w.bots i).wire k).take (w.handled σ), x.2.isLogin = true

omit [Axis F] in
theorem Sound.account {w : Swarm F n} (h : w.Sound) (i : Fin n) :
    (w.bots i).contact.account = name i := by
  show "bot_" ++ toString (w.bots i).index = _
  rw [h.index]
  rfl

omit [Axis F] in
theorem fine_none {m : Message F} (h : BotClient.Fine none m) (who : Option (PlayerId × String)) :
    BotClient.Fine who m := by
  cases m with
  | loginResponse code p playerName token =>
    obtain ⟨-, -, -, hnone⟩ := h
    cases hnone
  | reconnectResponse code roomId => exact h
  | _ => trivial

omit [Axis F] in
theorem fine_of_answer {m : Message F} (hlogin : m.answer? ≠ some .login)
    (hreconnect : m.answer? ≠ some .reconnect) (who : Option (PlayerId × String)) :
    BotClient.Fine who m := by
  cases m with
  | loginResponse code p playerName token => exact absurd rfl hlogin
  | reconnectResponse code roomId => exact absurd rfl hreconnect
  | _ => trivial

/-- What is sent without a login or a reconnect on the session is fine. -/
theorem fine_handle {s : Server F} {e : Game.Event F} {σ : SessionId}
    (hasks : ∀ nowMs request, e = .packet σ nowMs request →
      request.answer? ≠ some .login ∧ request.answer? ≠ some .reconnect)
    {m : Message F} (hm : (σ, m) ∈ (s.handle e).out) (who : Option (PlayerId × String)) :
    (σ, m) ∈ s.out ∨ BotClient.Fine who m := by
  obtain ⟨messages, hout, hanswers⟩ := s.out_handle e
  rw [hout] at hm
  refine (List.mem_append.mp hm).imp_right fun hm => ?_
  have hnot : ∀ a, m.answer? = some a → a ≠ .login ∧ a ≠ .reconnect := by
    intro a ha
    obtain ⟨nowMs, request, rfl, -, hrequest⟩ := Server.mem_asks (hanswers σ m a hm ha)
    obtain ⟨hlogin, hreconnect⟩ := hasks nowMs request rfl
    rw [hrequest] at hlogin hreconnect
    exact ⟨fun h => hlogin (congrArg some h), fun h => hreconnect (congrArg some h)⟩
  exact fine_of_answer (fun h => (hnot _ h).1 rfl) (fun h => (hnot _ h).2 rfl) who

/-! ## The bots -/

omit [Axis F] in
theorem fine_arrived {w : Swarm F n} (h : w.Sound) (bot : Fin n) (session : SessionId)
    (count : Nat) : ∀ m ∈ w.arrived bot session count, BotClient.Fine (w.who bot) m := by
  intro m hm
  unfold arrived at hm
  split at hm
  · cases hm
  · next k _ =>
    obtain ⟨hpeer, hm⟩ := List.mem_ite_nil_right.mp hm
    have hmem := mem_messagesTo.mp (List.mem_of_mem_drop (List.mem_of_mem_take hm))
    exact h.fine session bot k m hpeer hmem

omit [Axis F] in
/-- **A step of a bot.** -/
theorem Sound.stepBot {w : Swarm F n} (h : w.Sound) (bot : Fin n) (e : BotClient.Event F)
    (hfine : ∀ around, e = .run around → ∀ m ∈ around.arrived, BotClient.Fine (w.who bot) m) :
    (w.stepBot bot e).Sound := by
  have hgrows := BotClient.grows_step (w.bots bot) e hfine
  have hself : (w.stepBot bot e).bots bot = (w.bots bot).step e := Function.update_self ..
  have hother : ∀ i, i ≠ bot → (w.stepBot bot e).bots i = w.bots i := fun i hi =>
    Function.update_of_ne hi ..
  have hwires : ∀ i k, (w.bots i).wire k <+: ((w.stepBot bot e).bots i).wire k := by
    intro i k
    rcases eq_or_ne i bot with rfl | hi
    · rw [hself]
      exact hgrows.2 k
    · rw [hother i hi]
  refine
    { h with
      index := fun i => ?_
      handshaking := fun i => ?_
      known := fun i hi => ?_ }
  · rcases eq_or_ne i bot with rfl | hi
    · rw [hself, hgrows.1, h.index]
    · rw [hother i hi, h.index]
  · rcases eq_or_ne i bot with rfl | hi
    · rw [hself]
      exact BotClient.handshaking_step (h.handshaking i) e hfine
    · rw [hother i hi]
      exact h.handshaking i
  · obtain ⟨σ, k, hpeer, x, hx, hlogin⟩ := h.known i hi
    exact ⟨σ, k, hpeer, x, ((hwires i k).take _).subset hx, hlogin⟩

/-! ## The server -/

/-- **An event of the server**, after which `handled` packets have been handled. -/
theorem Sound.serve {w : Swarm F n} (h : w.Sound) (e : Game.Event F) (handled : SessionId → Nat)
    (hwho : ∀ i, (w.server.handle e).loginService.identity (name i) = w.who i ∨ w.who i = none)
    (hfine : ∀ σ i k m, w.peer σ = some (i, k) → (σ, m) ∈ (w.server.handle e).out →
      (σ, m) ∈ w.server.out ∨
        BotClient.Fine ((w.server.handle e).loginService.identity (name i)) m)
    (hplayer : ∀ σ x, w.peer σ = some x → w.handled σ ≠ 0 →
      ((w.server.handle e).sessionHeap σ).playerId = (w.server.sessionHeap σ).playerId)
    (hle : ∀ σ, w.handled σ ≤ handled σ) (hfresh : ∀ σ, w.peer σ = none → handled σ = 0)
    (hmet : ∀ σ i k, w.peer σ = some (i, k) → w.handled σ = 0 → handled σ ≠ 0 →
      ∃ token, (w.server.handle e).loginService.identity (name i) =
        some (((w.server.handle e).sessionHeap σ).playerId, token))
    (hknown : ∀ i, w.who i = none →
      (w.server.handle e).loginService.identity (name i) ≠ none → ∃ σ k,
        w.peer σ = some (i, k) ∧
          ∃ x ∈ ((w.bots i).wire k).take (handled σ), x.2.isLogin = true) :
    Sound { w with server := w.server.handle e, handled } where
  index := h.index
  interned := h.interned.handle e
  numbered := Server.Numbered.step h.numbered (Server.presenceStep_handle w.server e)
  handshaking i := by
    show (w.bots i).contact.Handshaking ((w.server.handle e).loginService.identity (name i))
    have hbefore := h.handshaking i
    rcases hwho i with hsame | hnone
    · rw [hsame]
      exact hbefore
    · rw [hnone] at hbefore
      exact hbefore.give _
  asked σ m hm hbad := by
    have hnext := w.server.nextSessionId_handle e
    by_contra hlt
    have hpacket : ∀ nowMs request, e ≠ .packet σ nowMs request := by
      rintro nowMs request rfl
      -- A packet without a session is dropped.
      have hdropped : w.server.handle (.packet σ nowMs request) = w.server :=
        if_neg fun hσ => hlt (hσ.trans_le hnext)
      exact hlt ((h.asked σ m (hdropped ▸ hm) hbad).trans_le hnext)
    rcases fine_handle (fun nowMs request he => absurd he (hpacket nowMs request)) hm none with
      hold | hgood
    · exact hlt ((h.asked σ m hold hbad).trans_le hnext)
    · exact hbad hgood
  accepted σ x hx := (h.accepted σ x hx).trans_le (w.server.nextSessionId_handle e)
  unique := h.unique
  fresh := hfresh
  fine σ i k m hpeer hm := by
    rcases hfine σ i k m hpeer hm with hold | hgood
    · show BotClient.Fine ((w.server.handle e).loginService.identity (name i)) m
      have hbefore := h.fine σ i k m hpeer hold
      rcases hwho i with hsame | hnone
      · rw [hsame]
        exact hbefore
      · exact fine_none (hnone ▸ hbefore) _
    · exact hgood
  met σ i k hpeer hne := by
    by_cases hzero : w.handled σ = 0
    · exact hmet σ i k hpeer hzero hne
    · obtain ⟨token, htoken⟩ := h.met σ i k hpeer hzero
      refine ⟨token, ?_⟩
      rw [hplayer σ _ hpeer hzero]
      exact ((hwho i).resolve_right fun hnone => by cases hnone.symm.trans htoken).trans htoken
  known i hi := by
    by_cases hnone : w.who i = none
    · exact hknown i hnone hi
    · obtain ⟨σ, k, hpeer, x, hx, hlogin⟩ := h.known i hnone
      exact ⟨σ, k, hpeer, x, (List.take_subset_take_left _ (hle σ)) hx, hlogin⟩

/-- An event that does not concern who the bots are. -/
theorem Sound.quiet {w : Swarm F n} (h : w.Sound) (e : Game.Event F)
    (hentering : ∀ i : Fin n, w.server.entering e ≠ some (name i))
    (hpacket : ∀ σ x nowMs request, w.peer σ = some x → e = .packet σ nowMs request →
      request.answer? ≠ some .login ∧ request.answer? ≠ some .reconnect)
    (handled : SessionId → Nat) (hle : ∀ σ, w.handled σ ≤ handled σ)
    (hfresh : ∀ σ, w.handled σ = 0 → handled σ = 0) :
    Sound { w with server := w.server.handle e, handled } := by
  have hwho : ∀ i, (w.server.handle e).loginService.identity (name i) = w.who i := fun i =>
    Server.identity_handle h.interned (hentering i)
  refine h.serve e handled (fun i => Or.inl (hwho i)) (fun σ i k m hpeer hm => ?_)
    (fun σ x hpeer _ => ?_) hle (fun σ hσ => hfresh σ (h.fresh σ hσ))
    (fun σ _ _ _ hzero hne => absurd (hfresh σ hzero) hne)
    fun i hnone hne => absurd ((hwho i).trans hnone) hne
  · exact fine_handle (fun nowMs request => hpacket σ _ nowMs request hpeer) hm _
  · refine Server.sessionPlayer_handle (h.accepted σ x hpeer) fun p hbinding => ?_
    obtain ⟨nowMs, request, he, hanswer⟩ := Server.packet_of_binding hbinding
    obtain ⟨hlogin, hreconnect⟩ := hpacket σ x nowMs request hpeer he
    exact hanswer.elim hlogin hreconnect

/-! ## Requests of bots -/

omit [Axis F] in
/-- What the next request of a bot can be. -/
theorem Sound.next {w : Swarm F n} (h : w.Sound) {σ : SessionId} {call : Call F}
    (hcall : w.next σ = some call) : ∃ i k x, w.peer σ = some (i, k) ∧
      ((w.bots i).wire k)[w.handled σ]? = some x ∧ x.2 = call ∧
      (call.opens = true ↔ w.handled σ = 0) ∧ call.For (name i) (w.who i) := by
  obtain ⟨⟨i, k⟩, hpeer, hmap⟩ := Option.bind_eq_some_iff.mp hcall
  obtain ⟨x, hx, rfl⟩ := Option.map_eq_some_iff.mp hmap
  have hwire := (w.bots i).contact.wire_prefix_stream k
  have hfor := (h.handshaking i).named k x (hwire.subset (List.mem_of_getElem? hx))
  rw [h.account] at hfor
  exact ⟨i, k, x, hpeer, hx, rfl, (((h.handshaking i).opened k).anti hwire).opens_iff hx, hfor⟩

omit [Axis F] in
/-- A bot that is about to log in has not been given a player. -/
theorem Sound.who_eq_none {w : Swarm F n} (h : w.Sound) {σ : SessionId} {i : Fin n} {k : Nat}
    (hpeer : w.peer σ = some (i, k)) {x : BotPacket F} (hx : x ∈ (w.bots i).wire k)
    (hlogin : x.2.isLogin = true) (hzero : w.handled σ = 0) : w.who i = none := by
  by_contra hne
  obtain ⟨τ, k', hpeer', y, hy, hlogin'⟩ := h.known i hne
  have hwire := (w.bots i).contact.wire_prefix_stream
  have hsocket : k = k' := (h.handshaking i).oneLogin k k' ⟨x, (hwire k).subset hx, hlogin⟩
    ⟨y, (hwire k').subset (List.mem_of_mem_take hy), hlogin'⟩
  subst hsocket
  rw [h.unique τ σ _ hpeer' hpeer, hzero] at hy
  cases hy

/-- The first request of the connection `σ` binds it to its bot. -/
theorem Sound.opens {w : Swarm F n} (h : w.Sound) {σ : SessionId} {i : Fin n} {k : Nat}
    (hpeer : w.peer σ = some (i, k)) (hzero : w.handled σ = 0) (nowMs : Int)
    {request : Request F} {x : BotPacket F} (hx : ((w.bots i).wire k)[0]? = some x)
    (hothers : ∀ j ≠ i, w.server.entering (.packet σ nowMs request) ≠ some (name j))
    (hfine : ∀ m, (σ, m) ∈ (w.server.handle (.packet σ nowMs request)).out →
      (σ, m) ∈ w.server.out ∨ BotClient.Fine
        ((w.server.handle (.packet σ nowMs request)).loginService.identity (name i)) m)
    (hwho : (w.server.handle (.packet σ nowMs request)).loginService.identity (name i) = w.who i ∨
      w.who i = none ∧ x.2.isLogin = true)
    (hplayer : ∃ token, (w.server.handle (.packet σ nowMs request)).loginService.identity (name i) =
      some (((w.server.handle (.packet σ nowMs request)).sessionHeap σ).playerId, token)) :
    Sound { w with
      server := w.server.handle (.packet σ nowMs request)
      handled := Function.update w.handled σ (w.handled σ + 1) } := by
  have hsame : ∀ j ≠ i, (w.server.handle (.packet σ nowMs request)).loginService.identity (name j) =
      w.who j := fun j hj => Server.identity_handle h.interned (hothers j hj)
  have hcount : ∀ τ, τ ≠ σ → Function.update w.handled σ (w.handled σ + 1) τ = w.handled τ :=
    fun τ hτ => Function.update_of_ne hτ ..
  refine h.serve _ _ (fun j => ?_) (fun τ j k' m hpeer' hm => ?_) (fun τ y hpeer' hne => ?_)
    (fun τ => ?_) (fun τ hτ => ?_) (fun τ j k' hpeer' hzero' hne => ?_) fun j hnone hne => ?_
  · rcases eq_or_ne j i with rfl | hj
    · exact hwho.imp_right And.left
    · exact Or.inl (hsame j hj)
  · rcases eq_or_ne τ σ with rfl | hτ
    · cases hpeer.symm.trans hpeer'
      exact hfine m hm
    · refine fine_handle (fun nowMs' request' he => ?_) hm _
      cases he
      exact absurd rfl hτ
  · have hτ : τ ≠ σ := fun heq => hne (heq ▸ hzero)
    refine Server.sessionPlayer_handle (h.accepted τ y hpeer') fun p hbinding => ?_
    obtain ⟨nowMs', request', he, -⟩ := Server.packet_of_binding hbinding
    cases he
    exact hτ rfl
  · rcases eq_or_ne τ σ with rfl | hτ
    · rw [Function.update_self]
      exact Nat.le_succ _
    · exact (hcount τ hτ).ge
  · rw [hcount τ fun heq => by cases (heq ▸ hτ).symm.trans hpeer]
    exact h.fresh τ hτ
  · rcases eq_or_ne τ σ with rfl | hτ
    · cases hpeer.symm.trans hpeer'
      exact hplayer
    · exact absurd ((hcount τ hτ).trans hzero') hne
  · have hj : j = i := by
      by_contra hj
      exact hne ((hsame j hj).trans hnone)
    subst hj
    obtain ⟨-, hlogin⟩ := hwho.resolve_left fun hkept => hne (hkept.trans hnone)
    refine ⟨σ, k, hpeer, x, ?_, hlogin⟩
    rw [Function.update_self, hzero]
    exact List.mem_of_getElem? ((List.getElem?_take_of_lt Nat.zero_lt_one).trans hx)

/-- **A request of a bot.** -/
theorem Sound.request {w : Swarm F n} (h : w.Sound) {σ : SessionId} {call : Call F}
    (hcall : w.next σ = some call) (env : CallEnv) {e : Game.Event F}
    (he : (ServiceAction.call σ env call).event? = some e) :
    Sound { w with
      server := w.server.handle e
      handled := Function.update w.handled σ (w.handled σ + 1) } := by
  obtain ⟨i, k, x, hpeer, hx, rfl, hopens, hfor⟩ := h.next hcall
  have hσ := h.accepted σ _ hpeer
  rcases hfor with hlogin | ⟨⟨p, token⟩, hwho, hreconnect⟩ | ⟨p, -, hplays⟩
  · rw [hlogin] at he hopens
    cases he
    have hzero := hopens.mp rfl
    rw [hzero] at hx
    have hnone := h.who_eq_none hpeer (List.mem_of_getElem? hx) (by rw [hlogin]; rfl) hzero
    obtain ⟨p, token, hp, htoken, hidentity, hsession, hout⟩ := Server.handle_login h.interned
      h.numbered hσ env.nowMs env.loaded (name_ne_empty i)
    refine h.opens hpeer hzero _ hx (fun j hj => ?_) (fun m hm => ?_) (Or.inr ⟨hnone, ?_⟩)
      ⟨token, hsession ▸ hidentity⟩
    · have hentering : w.server.entering (.packet σ env.nowMs (.login env.loaded (some (name i)))) =
          some (name i) := (if_pos hσ).trans (congrArg some (if_neg (name_ne_empty i)))
      rw [hentering]
      exact fun heq => hj (name_injective (Option.some.inj heq)).symm
    · rw [hout] at hm
      refine (List.mem_append.mp hm).imp_right fun hm => ?_
      cases List.mem_singleton.mp hm
      exact ⟨rfl, hp, htoken, hidentity⟩
    · rw [hlogin]
      rfl
  · rw [hreconnect] at he hopens
    cases he
    have hzero := hopens.mp rfl
    rw [hzero] at hx
    obtain ⟨-, htoken⟩ := LoginService.identity_eq_some_iff.mp hwho
    obtain ⟨hsession, roomId, hout⟩ := Server.handle_reconnect hσ env.nowMs htoken
    have hsame : (w.server.handle (.packet σ env.nowMs
        (.reconnect (some (p, token))))).loginService.identity (name i) = w.who i :=
      Server.identity_handle h.interned nofun
    refine h.opens hpeer hzero _ hx (fun j _ => nofun) (fun m hm => ?_) (Or.inl hsame)
      ⟨token, ?_⟩
    · rw [hout] at hm
      refine (List.mem_append.mp hm).imp_right fun hm => ?_
      cases List.mem_singleton.mp hm
      exact rfl
    · rw [hsame, hsession]
      exact hwho
  · have hne : w.handled σ ≠ 0 := fun hzero => by
      have hclosed := hplays.opens
      rw [hopens.mpr hzero] at hclosed
      cases hclosed
    obtain ⟨request, hrequest, hlogin, hreconnect⟩ := hplays.request
    rw [hrequest] at he
    cases he
    refine h.quiet _ (fun j hentering => ?_) (fun τ y nowMs request' _ heq => ?_) _ (fun τ => ?_)
      fun τ hτ => ?_
    · unfold Server.entering at hentering
      split at hentering
      · next heq =>
        cases heq
        exact hlogin rfl
      · cases hentering
    · cases heq
      exact ⟨hlogin, hreconnect⟩
    · rcases eq_or_ne τ σ with rfl | hτ
      · rw [Function.update_self]
        exact Nat.le_succ _
      · rw [Function.update_of_ne hτ]
    · have hτσ : τ ≠ σ := by
        rintro rfl
        exact hne hτ
      rw [Function.update_of_ne hτσ]
      exact hτ

/-! ## Runs -/

/-- A connection of a bot is accepted. -/
theorem Sound.accept {w : Swarm F n} (h : w.Sound) (nowMs : Int) {bot : Fin n} {socket : Nat}
    (hfree : w.Unaccepted bot socket) :
    Sound { w with
      server := w.server.handle (.accept nowMs)
      peer := Function.update w.peer w.server.nextSessionId (some (bot, socket)) } := by
  have hserver := h.quiet (.accept nowMs) (fun _ => nofun) (fun _ _ _ _ _ => nofun) w.handled
    (fun _ => le_rfl) fun _ hσ => hσ
  have hnew : ∀ x, w.peer w.server.nextSessionId ≠ some x := fun x hx =>
    absurd (h.accepted _ x hx) (lt_irrefl _)
  have hpeers : ∀ σ x, Function.update w.peer w.server.nextSessionId (some (bot, socket)) σ =
      some x → σ = w.server.nextSessionId ∧ x = (bot, socket) ∨ w.peer σ = some x := by
    intro σ x hx
    rw [Function.update_apply] at hx
    split at hx
    · next hσ => exact Or.inl ⟨hσ, (Option.some.inj hx).symm⟩
    · exact Or.inr hx
  have hold : ∀ σ x, w.peer σ = some x →
      Function.update w.peer w.server.nextSessionId (some (bot, socket)) σ = some x := by
    intro σ x hx
    have hσ : σ ≠ w.server.nextSessionId := by
      rintro rfl
      exact hnew x hx
    rw [Function.update_of_ne hσ]
    exact hx
  refine
    { hserver with
      accepted := fun σ x hx => ?_
      unique := fun σ τ x hσ hτ => ?_
      fresh := fun σ hσ => ?_
      fine := fun σ i k m hpeer hm => ?_
      met := fun σ i k hpeer hne => ?_
      known := fun i hi => ?_ }
  · rcases hpeers σ x hx with ⟨rfl, -⟩ | hx
    · exact Nat.lt_succ_self _
    · exact hserver.accepted σ x hx
  · rcases hpeers σ x hσ with ⟨rfl, rfl⟩ | hσ
    · rcases hpeers τ _ hτ with ⟨rfl, -⟩ | hτ
      · rfl
      · exact absurd hτ (hfree.2 τ (h.accepted τ _ hτ))
    · rcases hpeers τ x hτ with ⟨rfl, rfl⟩ | hτ
      · exact absurd hσ (hfree.2 σ (h.accepted σ _ hσ))
      · exact h.unique σ τ x hσ hτ
  · refine h.fresh σ ?_
    cases hpeer : w.peer σ with
    | none => rfl
    | some x => cases (hold σ x hpeer).symm.trans hσ
  · rcases hpeers σ _ hpeer with ⟨rfl, -⟩ | hpeer
    · -- Nothing has been sent to a session that did not exist.
      have hmem : (w.server.nextSessionId, m) ∈ w.server.out := hm
      refine fine_none (by_contra fun hbad => ?_) _
      exact absurd (h.asked _ m hmem hbad) (lt_irrefl _)
    · exact hserver.fine σ i k m hpeer hm
  · rcases hpeers σ _ hpeer with ⟨rfl, -⟩ | hpeer
    · refine absurd (h.fresh _ ?_) hne
      cases hpeer : w.peer w.server.nextSessionId with
      | none => rfl
      | some x => exact absurd hpeer (hnew x)
    · exact hserver.met σ i k hpeer hne
  · obtain ⟨σ, k, hpeer, hx⟩ := hserver.known i hi
    exact ⟨σ, k, hold σ _ hpeer, hx⟩

theorem Sound.step {w : Swarm F n} (h : w.Sound) (e : Event F n) (he : e.LeavesNames) :
    (w.step e).Sound := by
  cases e with
  | run bot resolved session count =>
    have hbot := h.stepBot bot (.run { resolved, arrived := w.arrived bot session count })
      fun around heq m hm => by
        cases heq
        exact fine_arrived h bot session count m hm
    exact { hbot with }
  | fire bot timer => exact h.stepBot bot _ nofun
  | connected bot failed => exact h.stepBot bot _ nofun
  | read bot result => exact h.stepBot bot _ nofun
  | written bot failed => exact h.stepBot bot _ nofun
  | request session env =>
    unfold Swarm.step
    dsimp only
    split
    · exact h
    · next e heq =>
      obtain ⟨call, hcall, hevent⟩ := Option.bind_eq_some_iff.mp heq
      exact h.request hcall env hevent
  | accept nowMs bot socket =>
    unfold Swarm.step
    dsimp only
    split
    · next hfree => exact h.accept nowMs hfree
    · exact h
  | other e =>
    unfold Swarm.step
    dsimp only
    split
    · next hforeign =>
      refine h.quiet e (fun i hentering => ?_) (fun σ x nowMs request hpeer heq => ?_) _
        (fun _ => le_rfl) fun _ hσ => hσ
      · unfold Server.entering at hentering
        split at hentering
        · next session nowMs data account =>
          obtain ⟨-, hkey⟩ := Option.ite_none_right_eq_some.mp hentering
          unfold Server.login LoginRecord.key at hkey
          dsimp only at hkey
          split at hkey
          · exact name_ne_guest i _ (Option.some.inj hkey).symm
          · exact he i (Option.some.inj hkey)
        · cases hentering
      · subst heq
        cases hpeer.symm.trans hforeign
    · exact h

omit [Axis F] in
theorem sound_start (roomPlayerCount : Int) (setups : Fin n → Setup F) :
    (start roomPlayerCount setups).Sound where
  index i := BotClient.index_start _ _ _ _ _
  interned := ⟨fun _ _ h => (by cases h), fun _ _ _ h => (by cases h)⟩
  numbered := Server.numbered_init roomPlayerCount
  handshaking i := BotClient.handshaking_start _ _ _ _ _
  asked _ _ hm := by cases hm
  accepted _ _ hpeer := by cases hpeer
  unique _ _ _ hpeer := by cases hpeer
  fresh _ _ := rfl
  fine _ _ _ _ hpeer := by cases hpeer
  met _ _ _ hpeer := by cases hpeer
  known _ hwho := absurd rfl hwho

/-- A request of a bot that is no login and no reconnect names the player of its session, or
nobody. -/
def NamesOneself (w : Swarm F n) : Event F n → Prop
  | .request session _ => ∀ call, w.next session = some call → call.opens = false →
      ∃ p, call.Playing p ∧ w.server.Own session p
  | _ => True

omit [Axis F] in
theorem Sound.namesOneself {w : Swarm F n} (h : w.Sound) (e : Event F n) : w.NamesOneself e := by
  cases e with
  | request σ env =>
    intro call hcall hclosed
    obtain ⟨i, k, x, hpeer, -, -, hopens, hfor⟩ := h.next hcall
    rcases hfor with rfl | ⟨w', -, rfl⟩ | ⟨p, hp, hplays⟩
    · cases hclosed
    · cases hclosed
    · have hne : w.handled σ ≠ 0 := fun hzero => by
        rw [hopens.mpr hzero] at hclosed
        cases hclosed
      obtain ⟨token, hwho⟩ := h.met σ i k hpeer hne
      refine ⟨p, hplays, hp.imp_right ?_⟩
      rintro ⟨token', hwho'⟩
      cases hwho.symm.trans hwho'
      rfl
  | _ => trivial

/-- **A run.** -/
theorem run_spec : ∀ (events : List (Event F n)) {w : Swarm F n}, w.Sound →
    (∀ e ∈ events, e.LeavesNames) → (w.run events).Sound ∧ AllSteps step NamesOneself w events
  | [], _, hsound, _ => ⟨hsound, trivial⟩
  | e :: events, _, hsound, hnames => by
    obtain ⟨hlast, hall⟩ := run_spec events (hsound.step e (hnames e List.mem_cons_self))
      fun e' he' => hnames e' (List.mem_cons_of_mem e he')
    exact ⟨hlast, hsound.namesOneself e, hall⟩

/-! ## A bot that logs in -/

def calm : Setup Coord where
  options := {}
  dice _ := 50
  axes _ := some 0
  resolved := true

/-- It connects, and has read the answer in the end. -/
def loginEvents : List (Event Coord 1) :=
  let env : CallEnv := { nowMs := 7, loaded := ⟨"", 0⟩, redis := none }
  [.connected 0 false, .run 0 true 0 0, .accept 0 0 0, .run 0 true 0 0, .request 1 env,
    .read 0 .messages, .run 0 true 1 5]

theorem loginEvents_leavesNames : ∀ e ∈ loginEvents, e.LeavesNames := by
  simp [loginEvents, Event.LeavesNames]

/-! ## The results -/

/--
**Bots are never refused.**

Bots and other clients play, in any order of steps, and nobody else logs in under the name of a bot.
Then no login and no reconnect of a bot ever fails, what a bot has been told of its player and its
token is what the server expects from it, and no two bots are the same player.
-/
theorem bots_welcome (roomPlayerCount : Int) (setups : Fin n → Setup F) (events : List (Event F n))
    (hnames : ∀ e ∈ events, e.LeavesNames) :
    let w := (start roomPlayerCount setups).run events
    ∀ i, (w.bots i).stats.loginFailed = 0 ∧ (w.bots i).stats.reconnectFailed = 0 ∧
      ((w.bots i).playerId ≠ 0 →
        w.server.loginService.accountPlayers (name i) = some (w.bots i).playerId ∧
        w.server.loginService.sessionTokens (w.bots i).playerId = some (w.bots i).sessionToken ∧
        ∀ j, (w.bots j).playerId = (w.bots i).playerId → j = i) := by
  intro w i
  have hsound : w.Sound := (run_spec events (sound_start roomPlayerCount setups) hnames).1
  have hknown : ∀ i, (w.bots i).playerId ≠ 0 →
      w.server.loginService.accountPlayers (name i) = some (w.bots i).playerId ∧
      w.server.loginService.sessionTokens (w.bots i).playerId = some (w.bots i).sessionToken := by
    intro i hne
    exact LoginService.identity_eq_some_iff.mp ((hsound.handshaking i).known.resolve_left hne)
  refine ⟨(hsound.handshaking i).failed.1, (hsound.handshaking i).failed.2, fun hne => ?_⟩
  obtain ⟨haccount, htoken⟩ := hknown i hne
  refine ⟨haccount, htoken, fun j hj => ?_⟩
  have haccount' := (hknown j (hj ▸ hne)).1
  rw [hj] at haccount'
  exact name_injective (hsound.interned.unique _ _ _ haccount' haccount)

omit [Axis F] in
/-- The bot has become the first player. -/
theorem bots_welcome_login :
    let w := (start 2 fun _ => calm).run loginEvents
    (w.bots 0).playerId = 100000 ∧ (w.bots 0).stats.loginFailed = 0 ∧
      w.server.loginService.accountPlayers (name (0 : Fin 1)) = some (w.bots 0).playerId := by
  have hplayer : (((start 2 fun _ => calm).run loginEvents).bots 0).playerId = 100000 := by rfl
  obtain ⟨hlogin, -, hknown⟩ :=
    bots_welcome 2 (fun _ => calm) loginEvents loginEvents_leavesNames 0
  exact ⟨hplayer, hlogin, (hknown (by rw [hplayer]; decide)).1⟩

/--
**Bots say who they are, and act for themselves.**

Under the same conditions, a bot begins each of its connections with a login or a reconnect and
sends no other one on it, it logs in on one connection only, and every other request of a bot names
the player of the session on which the server handles it, or nobody.
-/
theorem bots_act_for_themselves (roomPlayerCount : Int) (setups : Fin n → Setup F)
    (events : List (Event F n)) (hnames : ∀ e ∈ events, e.LeavesNames) :
    let w := (start roomPlayerCount setups).run events
    AllSteps step NamesOneself (start roomPlayerCount setups) events ∧
      ∀ i, (∀ k, Opened ((w.bots i).wire k)) ∧
        ∀ k k', ∀ x ∈ (w.bots i).wire k, ∀ y ∈ (w.bots i).wire k',
          x.2.isLogin = true → y.2.isLogin = true → k = k' := by
  intro w
  obtain ⟨hsound, hall⟩ := run_spec events (sound_start roomPlayerCount setups) hnames
  refine ⟨hall, fun i => ?_⟩
  have hwire := (w.bots i).contact.wire_prefix_stream
  refine ⟨fun k => ((hsound.handshaking i).opened k).anti (hwire k), ?_⟩
  intro k k' x hx y hy hlogin hlogin'
  exact (hsound.handshaking i).oneLogin k k' ⟨x, (hwire k).subset hx, hlogin⟩
    ⟨y, (hwire k').subset hy, hlogin'⟩

omit [Axis F] in
/-- The login has been written and handled. -/
theorem bots_act_for_themselves_login :
    let w := (start 2 fun _ => calm).run loginEvents
    w.handled 1 = 1 ∧ Opened ((w.bots 0).wire 0) := by
  refine ⟨by rfl, ?_⟩
  exact ((bots_act_for_themselves 2 (fun _ => calm) loginEvents loginEvents_leavesNames).2 0).1 0

end Swarm
end Game
