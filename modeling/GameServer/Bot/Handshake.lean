import GameServer.Bot.BotClient

/-!
# The handshake of a bot

Whatever messages a bot gets, and in whatever order its timers fire and its operations end:

* what it writes to a connection begins with a login or a reconnect, and there is no other one
  behind it
* it logs in once, on its first connection; on all later ones it reconnects
* its other requests name its own player, or nobody

A packet that has been posted is written if the bot is still connected when its turn comes. So it
matters that no packet is waiting when a new connection begins (`Handshaking.order`).
-/

namespace Game

variable {F : Type}

/-! ## Requests -/

/-- A login or a reconnect. -/
def Call.opens : Call F → Bool
  | .login _ => true
  | .request (.reconnect _) => true
  | _ => false

def Call.isLogin : Call F → Bool
  | .login _ => true
  | _ => false

/-- What a bot whose player is `p` sends while it plays. -/
def Call.Playing (p : PlayerId) : Call F → Prop
  | .request .heartbeat => True
  | .request (.ready _) => True
  | .request (.match (some q)) => q = p
  | .request (.cancelMatch (some q)) => q = p
  | .request (.input (some input)) => input.playerId = p
  | _ => False

theorem Call.Playing.opens {p : PlayerId} {c : Call F} (h : c.Playing p) : c.opens = false := by
  unfold Call.Playing at h
  split at h
  all_goals first | rfl | exact h.elim

theorem Call.isLogin_of_opens {c : Call F} (h : c.opens = false) : c.isLogin = false := by
  cases c with
  | login account => cases h
  | request r => rfl
  | rank r => rfl

/-- What a bot may send that logs in under `account`, and to which the server has given the player
and the token in `who`. -/
def Call.For (account : String) (who : Option (PlayerId × String)) (c : Call F) : Prop :=
  c = .login (some account) ∨ (∃ w, who = some w ∧ c = .request (.reconnect (some w))) ∨
    ∃ p, (p = 0 ∨ ∃ token, who = some (p, token)) ∧ c.Playing p

theorem Call.For.known {account : String} {c : Call F} (h : c.For account none)
    (who : Option (PlayerId × String)) : c.For account who := by
  rcases h with hlogin | ⟨w, hw, -⟩ | ⟨p, hp, hplays⟩
  · exact Or.inl hlogin
  · cases hw
  · exact Or.inr (Or.inr ⟨p, Or.inl (hp.resolve_right fun ⟨_, h⟩ => by cases h), hplays⟩)

/-- A login or a reconnect, and then none. -/
def Opened : List (BotPacket F) → Prop
  | [] => True
  | x :: rest => x.2.opens = true ∧ ∀ y ∈ rest, y.2.opens = false

theorem Opened.anti {l l' : List (BotPacket F)} (h : Opened l') (hl : l <+: l') : Opened l := by
  obtain ⟨more, rfl⟩ := hl
  cases l with
  | nil => trivial
  | cons x rest => exact ⟨h.1, fun y hy => h.2 y (List.mem_append_left more hy)⟩

theorem Opened.append {l l' : List (BotPacket F)} (h : Opened l) (hl : l ≠ [])
    (hl' : ∀ y ∈ l', y.2.opens = false) : Opened (l ++ l') := by
  cases l with
  | nil => exact absurd rfl hl
  | cons x rest =>
    exact ⟨h.1, fun y hy => (List.mem_append.mp hy).elim (h.2 y) (hl' y)⟩

/-- The opening packet is the first one. -/
theorem Opened.opens_iff {l : List (BotPacket F)} (h : Opened l) {j : Nat} {x : BotPacket F}
    (hx : l[j]? = some x) : x.2.opens = true ↔ j = 0 := by
  cases l with
  | nil => simp at hx
  | cons y rest =>
    cases j with
    | zero =>
      rw [List.getElem?_cons_zero] at hx
      cases hx
      exact iff_of_true h.1 rfl
    | succ j =>
      rw [List.getElem?_cons_succ] at hx
      rw [h.2 x (List.mem_of_getElem? hx)]
      simp

/-! ## Connections of a bot -/

/-- The attempt to connect that this is a part of, with its argument. -/
def BotTimer.attempt? : BotTimer → Option Bool
  | .connect reconnect => some reconnect
  | _ => none

namespace BotHandler

def attempt? : BotHandler F → Option Bool
  | .timer t => t.attempt?
  | .connected _ reconnect _ => some reconnect
  | _ => none

def packet? : BotHandler F → Option (BotPacket F)
  | .send x => some x
  | _ => none

end BotHandler

/-- What matters for the connections of a bot. -/
structure Contact (F : Type) where
  index : Nat
  loginFailed : Nat
  reconnectFailed : Nat
  socket : Option Nat
  sockets : Nat
  wire : Nat → List (BotPacket F)
  writeQueue : List (BotPacket F)
  connected : Bool
  playerId : PlayerId
  sessionToken : String
  connecting : Option Bool
  timers : List BotTimer
  handlers : List (BotHandler F)

def BotClient.contact (b : BotClient F) : Contact F where
  index := b.index
  loginFailed := b.stats.loginFailed
  reconnectFailed := b.stats.reconnectFailed
  socket := b.socket
  sockets := b.sockets
  wire := b.wire
  writeQueue := b.writeQueue
  connected := b.connected
  playerId := b.playerId
  sessionToken := b.sessionToken
  connecting := b.connecting
  timers := b.timers
  handlers := b.handlers

namespace Contact

/-- The name with which the bot logs in. -/
def account (c : Contact F) : String :=
  "bot_" ++ toString c.index

/-- All attempts to connect that are under way. -/
def attempts (c : Contact F) : List Bool :=
  c.timers.filterMap BotTimer.attempt? ++ c.connecting.toList ++
    c.handlers.filterMap BotHandler.attempt?

/-- The packets that `SendPacket` has posted. -/
def posted (c : Contact F) : List (BotPacket F) :=
  c.handlers.filterMap BotHandler.packet?

/-- What is not on the wire yet, and will be if nothing goes wrong. The front of the queue is. -/
def waiting (c : Contact F) : List (BotPacket F) :=
  c.writeQueue.tail ++ if c.connected then c.posted else []

/-- What has been or will be written to a socket. -/
def stream (c : Contact F) (socket : Nat) : List (BotPacket F) :=
  c.wire socket ++ if c.socket = some socket then c.waiting else []

/-- There is a login on the socket. -/
def LogsIn (c : Contact F) (socket : Nat) : Prop :=
  ∃ x ∈ c.stream socket, x.2.isLogin = true

/-- The invariant of a bot to which the server has given the player and the token in `who`. -/
structure Handshaking (who : Option (PlayerId × String)) (c : Contact F) : Prop where
  failed : c.loginFailed = 0 ∧ c.reconnectFailed = 0
  known : c.playerId = 0 ∨ who = some (c.playerId, c.sessionToken)
  socket_lt : ∀ k, c.socket = some k → k < c.sockets
  wire_new : ∀ k, c.sockets ≤ k → c.wire k = []
  opened : ∀ k, Opened (c.stream k)
  named : ∀ k, ∀ x ∈ c.stream k, x.2.For c.account who
  oneLogin : ∀ k k', c.LogsIn k → c.LogsIn k' → k = k'
  /-- A bot that is connected makes no other attempt, and it has sent something. -/
  up : c.connected = true → c.attempts = [] ∧ ∃ k, c.socket = some k ∧ c.stream k ≠ []
  once : c.attempts.length ≤ 1
  /-- Before it has ever been connected. -/
  first : false ∈ c.attempts → c.posted = [] ∧ ∀ k, c.stream k = []
  again : true ∈ c.attempts → c.playerId ≠ 0 ∧ c.sessionToken ≠ ""
  /-- Packets that have been posted come before the next attempt. -/
  order : ∀ l reconnect l', c.handlers = l ++ .timer (.connect reconnect) :: l' →
    l'.filterMap BotHandler.packet? = []
  /-- On a socket that is being connected there is nothing. -/
  starting : ∀ k, c.socket = some k →
    (c.connecting ≠ none ∨ ∃ reconnect failed, .connected k reconnect failed ∈ c.handlers) →
    c.writeQueue = [] ∧ c.wire k = [] ∧ c.posted = []

variable {who : Option (PlayerId × String)} {c : Contact F}

theorem connected_of_attempts (h : Handshaking who c) (hne : c.attempts ≠ []) :
    c.connected = false := by
  cases hc : c.connected with
  | false => rfl
  | true => exact absurd (h.up hc).1 hne

theorem wire_prefix_stream (c : Contact F) (k : Nat) : c.wire k <+: c.stream k :=
  List.prefix_append _ _

/-- The server has given the bot a player and a token. -/
theorem Handshaking.give (h : Handshaking none c) (who : Option (PlayerId × String)) :
    Handshaking who c :=
  { h with
    known := Or.inl (h.known.resolve_right fun h => by cases h)
    named := fun k x hx => (h.named k x hx).known who }

/-! ## Playing -/

/-- While it plays, the bot schedules timers and posts packets. -/
def Plays (c c' : Contact F) : Prop :=
  ∃ timers packets, c' = { c with
      timers := c.timers ++ timers
      handlers := c.handlers ++ packets.map .send } ∧
    timers.filterMap BotTimer.attempt? = [] ∧ (packets = [] ∨ c.connected = true) ∧
    ∀ x ∈ packets, x.2.Playing c.playerId

theorem Plays.refl (c : Contact F) : c.Plays c :=
  ⟨[], [], by simp, rfl, Or.inl rfl, by simp⟩

theorem Plays.trans {c' c'' : Contact F} (h : c.Plays c') (h' : c'.Plays c'') : c.Plays c'' := by
  obtain ⟨timers, packets, rfl, htimers, hconnected, hplaying⟩ := h
  obtain ⟨timers', packets', rfl, htimers', hconnected', hplaying'⟩ := h'
  refine ⟨timers ++ timers', packets ++ packets', by simp, ?_, ?_, ?_⟩
  · rw [List.filterMap_append, htimers, htimers', List.append_nil]
  · rcases hconnected with rfl | hc
    · exact hconnected'
    · exact Or.inr hc
  · exact fun x hx => (List.mem_append.mp hx).elim (hplaying x) (hplaying' x)

theorem attempts_of_plays {timers : List BotTimer} (packets : List (BotPacket F))
    (htimers : timers.filterMap BotTimer.attempt? = []) :
    attempts { c with
      timers := c.timers ++ timers
      handlers := c.handlers ++ packets.map .send } = c.attempts := by
  have hpackets : (packets.map BotHandler.send).filterMap BotHandler.attempt? = [] := by
    rw [List.filterMap_map]
    exact List.filterMap_eq_nil_iff.mpr fun _ _ => rfl
  unfold attempts
  dsimp only
  rw [List.filterMap_append, List.filterMap_append, htimers, hpackets, List.append_nil,
    List.append_nil]

theorem posted_of_plays (packets : List (BotPacket F)) :
    (c.handlers ++ packets.map BotHandler.send).filterMap BotHandler.packet? =
      c.posted ++ packets := by
  rw [List.filterMap_append, List.filterMap_map]
  exact congrArg _ (List.filterMap_some)

theorem attempts_eq_nil_iff : c.attempts = [] ↔
    (∀ t ∈ c.timers, t.attempt? = none) ∧ c.connecting = none ∧
      ∀ x ∈ c.handlers, x.attempt? = none := by
  unfold attempts
  rw [List.append_eq_nil_iff, List.append_eq_nil_iff, List.filterMap_eq_nil_iff,
    List.filterMap_eq_nil_iff, Option.toList_eq_nil_iff, and_assoc]

/-- What is posted while the bot is connected joins the stream of its socket. -/
theorem stream_of_plays (timers : List BotTimer) (packets : List (BotPacket F)) (k : Nat) :
    stream { c with
      timers := c.timers ++ timers
      handlers := c.handlers ++ packets.map .send } k =
      c.stream k ++ if c.socket = some k ∧ c.connected = true then packets else [] := by
  unfold stream waiting posted
  dsimp only
  rw [posted_of_plays]
  by_cases hk : c.socket = some k
  · cases hc : c.connected with
    | false => simp [hk]
    | true => simp [hk, posted]
  · simp [hk]

theorem Plays.handshaking {c' : Contact F} (hplays : c.Plays c') (h : Handshaking who c) :
    Handshaking who c' := by
  obtain ⟨timers, packets, rfl, htimers, hconnected, hplaying⟩ := hplays
  have hattempts := attempts_of_plays (c := c) packets htimers
  have hstream := stream_of_plays (c := c) timers packets
  have hposted : posted { c with
      timers := c.timers ++ timers
      handlers := c.handlers ++ packets.map .send } = c.posted ++ packets := posted_of_plays packets
  have hnone : c.attempts ≠ [] → packets = [] := fun hne =>
    hconnected.resolve_right (by simp [connected_of_attempts h hne])
  have hfor : ∀ x ∈ packets, x.2.For c.account who := fun x hx =>
    Or.inr (Or.inr ⟨c.playerId, h.known.imp_right fun hwho => ⟨_, hwho⟩, hplaying x hx⟩)
  have hlogs : ∀ k, LogsIn { c with
      timers := c.timers ++ timers
      handlers := c.handlers ++ packets.map .send } k → c.LogsIn k := by
    rintro k ⟨x, hx, hlogin⟩
    rw [hstream] at hx
    rcases List.mem_append.mp hx with hx | hx
    · exact ⟨x, hx, hlogin⟩
    · have hplay := hplaying x ((List.mem_ite_nil_right.mp hx).2)
      rw [Call.isLogin_of_opens hplay.opens] at hlogin
      cases hlogin
  refine
    { failed := h.failed
      known := h.known
      socket_lt := h.socket_lt
      wire_new := h.wire_new
      opened := fun k => ?_
      named := fun k x hx => ?_
      oneLogin := fun k k' hk hk' => h.oneLogin k k' (hlogs k hk) (hlogs k' hk')
      up := fun hc => ?_
      once := by rw [hattempts]; exact h.once
      first := fun hfalse => ?_
      again := by rw [hattempts]; exact h.again
      order := fun l reconnect l' hl => ?_
      starting := fun k hk hstarts => ?_ }
  · rw [hstream]
    split
    · next hup =>
      obtain ⟨-, k', hk', hne⟩ := h.up hup.2
      cases hup.1.symm.trans hk'
      exact (h.opened k).append hne fun y hy => (hplaying y hy).opens
    · rw [List.append_nil]
      exact h.opened k
  · rw [hstream] at hx
    rcases List.mem_append.mp hx with hx | hx
    · exact h.named k x hx
    · exact hfor x (List.mem_ite_nil_right.mp hx).2
  · obtain ⟨hnil, k, hk, hne⟩ := h.up hc
    refine ⟨hattempts.trans hnil, k, hk, ?_⟩
    rw [hstream]
    exact fun h => hne (List.append_eq_nil_iff.mp h).1
  · rw [hattempts] at hfalse
    obtain ⟨hp, hs⟩ := h.first hfalse
    have hnil := hnone (List.ne_nil_of_mem hfalse)
    refine ⟨by rw [hposted, hp, hnil, List.append_nil], fun k => ?_⟩
    rw [hstream, hs, hnil, ite_self, List.append_nil]
  · have hmem : .timer (.connect reconnect) ∈ c.handlers ++ packets.map BotHandler.send := by
      rw [show c.handlers ++ packets.map BotHandler.send = _ from hl]
      simp
    have hin : .timer (.connect reconnect) ∈ c.handlers :=
      (List.mem_append.mp hmem).resolve_right (by simp)
    have hnil := hnone fun hnil => by
      have := (attempts_eq_nil_iff.mp hnil).2.2 _ hin
      cases this
    exact h.order l reconnect l' (by simpa [hnil] using hl)
  · have hin : c.connecting ≠ none ∨
        ∃ reconnect failed, .connected k reconnect failed ∈ c.handlers := by
      refine hstarts.imp_right ?_
      rintro ⟨reconnect, failed, hmem⟩
      exact ⟨reconnect, failed, (List.mem_append.mp hmem).resolve_right (by simp)⟩
    have hnil := hnone fun hnil => by
      obtain ⟨-, hconnecting, hhandlers⟩ := attempts_eq_nil_iff.mp hnil
      rcases hin with hne | ⟨reconnect, failed, hmem⟩
      · exact hne hconnecting
      · have := hhandlers _ hmem
        cases this
    obtain ⟨hqueue, hwire, hp⟩ := h.starting k hk hin
    exact ⟨hqueue, hwire, by rw [hposted, hp, hnil, List.append_nil]⟩

/-! ## Handlers that write -/

/-- The streams become shorter, or stay what they are. -/
theorem Handshaking.shorter (h : Handshaking who c) (c' : Contact F) (hindex : c'.index = c.index)
    (hstream : ∀ k, c'.stream k <+: c.stream k) :
    (∀ k, Opened (c'.stream k)) ∧ (∀ k, ∀ x ∈ c'.stream k, x.2.For c'.account who) ∧
      ∀ k k', c'.LogsIn k → c'.LogsIn k' → k = k' := by
  have hlogs : ∀ k, c'.LogsIn k → c.LogsIn k := by
    rintro k ⟨x, hx, hlogin⟩
    exact ⟨x, (hstream k).subset hx, hlogin⟩
  refine ⟨fun k => (h.opened k).anti (hstream k), fun k x hx => ?_, fun k k' hk hk' => ?_⟩
  · unfold account
    rw [hindex]
    exact h.named k x ((hstream k).subset hx)
  · exact h.oneLogin k k' (hlogs k hk) (hlogs k' hk')

/-- Packets move on towards the wire, and other handlers come and go. -/
theorem Handshaking.steady (h : Handshaking who c) (handlers : List (BotHandler F))
    (writeQueue : List (BotPacket F)) (wire : Nat → List (BotPacket F))
    (hattempts : handlers.filterMap BotHandler.attempt? = c.handlers.filterMap BotHandler.attempt?)
    (hmem : ∀ x ∈ handlers, x.attempt? ≠ none → x ∈ c.handlers)
    (hposted : c.posted = [] → handlers.filterMap BotHandler.packet? = [])
    (horder : ∀ l reconnect l', handlers = l ++ .timer (.connect reconnect) :: l' →
      l'.filterMap BotHandler.packet? = [])
    (hstream : ∀ k, stream { c with handlers, writeQueue, wire } k = c.stream k)
    (hqueue : c.attempts ≠ [] → c.writeQueue = [] → writeQueue = []) :
    Handshaking who { c with handlers, writeQueue, wire } := by
  have hsame : attempts { c with handlers, writeQueue, wire } = c.attempts := by
    unfold attempts
    exact congrArg _ hattempts
  obtain ⟨hopened, hnamed, honce⟩ := h.shorter { c with handlers, writeQueue, wire } rfl
    fun k => hstream k ▸ List.prefix_refl _
  refine
    { failed := h.failed
      known := h.known
      socket_lt := h.socket_lt
      wire_new := fun k hk => ?_
      opened := hopened
      named := hnamed
      oneLogin := honce
      up := fun hc => ?_
      once := by rw [hsame]; exact h.once
      first := fun hfalse => ?_
      again := by rw [hsame]; exact h.again
      order := horder
      starting := fun k hk hstarts => ?_ }
  · have hnil : c.stream k = [] := by
      have hne : c.socket ≠ some k := fun hs => absurd (h.socket_lt k hs) (Nat.not_lt.mpr hk)
      unfold stream
      rw [h.wire_new k hk, if_neg hne]
      rfl
    exact (List.append_eq_nil_iff.mp ((hstream k).trans hnil)).1
  · obtain ⟨hnil, k, hk, hne⟩ := h.up hc
    exact ⟨hsame.trans hnil, k, hk, by rw [hstream]; exact hne⟩
  · rw [hsame] at hfalse
    obtain ⟨hp, hs⟩ := h.first hfalse
    exact ⟨hposted hp, fun k => (hstream k).trans (hs k)⟩
  · have hin : c.connecting ≠ none ∨
        ∃ reconnect failed, .connected k reconnect failed ∈ c.handlers := by
      refine hstarts.imp_right ?_
      rintro ⟨reconnect, failed, hx⟩
      exact ⟨reconnect, failed, hmem _ hx (Option.some_ne_none reconnect)⟩
    obtain ⟨hq, hw, hp⟩ := h.starting k hk hin
    have hne : c.attempts ≠ [] := fun hnil => by
      obtain ⟨-, hconnecting, hhandlers⟩ := attempts_eq_nil_iff.mp hnil
      rcases hin with hne | ⟨reconnect, failed, hx⟩
      · exact hne hconnecting
      · have := hhandlers _ hx
        cases this
    have hnil : c.stream k = [] := by
      unfold stream waiting
      rw [hw, hq, hp]
      simp
    have hwire := (List.append_eq_nil_iff.mp ((hstream k).trans hnil)).1
    exact ⟨hqueue hne hq, hwire, hposted hp⟩

/-- A handler that neither connects nor sends has its turn. -/
theorem Handshaking.pop (h : Handshaking who c) {x : BotHandler F} {rest : List (BotHandler F)}
    (hc : c.handlers = x :: rest) (hattempt : x.attempt? = none) (hpacket : x.packet? = none) :
    Handshaking who { c with handlers := rest } := by
  have hposted : c.posted = rest.filterMap BotHandler.packet? := by
    unfold posted
    rw [hc, List.filterMap_cons, hpacket]
  refine h.steady _ c.writeQueue c.wire ?_ ?_ ?_ ?_ ?_ ?_
  · rw [hc, List.filterMap_cons, hattempt]
  · exact fun y hy _ => hc ▸ List.mem_cons_of_mem x hy
  · exact fun hp => hposted ▸ hp
  · exact fun l reconnect l' hl => h.order (x :: l) reconnect l' (by rw [hc, hl]; rfl)
  · intro k
    unfold stream waiting
    rw [hposted]
    rfl
  · exact fun _ hq => hq

theorem Handshaking.order_push (h : Handshaking who c) {x : BotHandler F}
    (hpacket : x.packet? = none) (l : List (BotHandler F)) (reconnect : Bool)
    (l' : List (BotHandler F)) (hl : c.handlers ++ [x] = l ++ .timer (.connect reconnect) :: l') :
    l'.filterMap BotHandler.packet? = [] := by
  rcases List.eq_nil_or_concat' l' with rfl | ⟨l', y, rfl⟩
  · rfl
  · have hsplit : c.handlers ++ [x] = (l ++ .timer (.connect reconnect) :: l') ++ [y] := by
      rw [hl]
      simp
    obtain ⟨hinit, hlast⟩ := List.append_inj' hsplit rfl
    cases hlast
    rw [List.filterMap_append, h.order l reconnect l' hinit, List.filterMap_cons, hpacket]
    rfl

theorem posted_push {x : BotHandler F} (hpacket : x.packet? = none) :
    (c.handlers ++ [x]).filterMap BotHandler.packet? = c.posted := by
  rw [List.filterMap_append, List.filterMap_cons, hpacket, List.filterMap_nil, List.append_nil]
  rfl

/-- Such a handler becomes ready. -/
theorem Handshaking.push (h : Handshaking who c) {x : BotHandler F} (hattempt : x.attempt? = none)
    (hpacket : x.packet? = none) : Handshaking who { c with handlers := c.handlers ++ [x] } := by
  refine h.steady _ c.writeQueue c.wire ?_ ?_ ?_ ?_ ?_ ?_
  · rw [List.filterMap_append, List.filterMap_cons, hattempt, List.filterMap_nil, List.append_nil]
  · intro y hy hne
    rcases List.mem_append.mp hy with hy | hy
    · exact hy
    · rw [List.mem_singleton.mp hy] at hne
      exact absurd hattempt hne
  · exact fun hp => (posted_push hpacket).trans hp
  · exact h.order_push hpacket
  · intro k
    unfold stream waiting
    dsimp only
    rw [show posted { c with handlers := c.handlers ++ [x] } = c.posted from posted_push hpacket]
  · exact fun _ hq => hq

/-- A packet that has been posted has its turn. -/
theorem Handshaking.send (h : Handshaking who c) {packet : BotPacket F}
    {rest : List (BotHandler F)} (hc : c.handlers = .send packet :: rest)
    (hup : c.connected = true) {k : Nat} (hk : c.socket = some k) :
    Handshaking who { c with
      handlers := rest
      writeQueue := c.writeQueue ++ [packet]
      wire := if c.writeQueue = [] then Function.update c.wire k (c.wire k ++ [packet])
        else c.wire } := by
  have hposted : c.posted = packet :: rest.filterMap BotHandler.packet? := by
    unfold posted
    rw [hc]
    rfl
  refine h.steady _ _ _ ?_ ?_ ?_ ?_ ?_ ?_
  · rw [hc]
    rfl
  · exact fun y hy _ => hc ▸ List.mem_cons_of_mem _ hy
  · exact fun hp => by rw [hposted] at hp; cases hp
  · exact fun l reconnect l' hl => h.order (.send packet :: l) reconnect l' (by rw [hc, hl]; rfl)
  · intro k'
    unfold stream waiting
    rw [hposted]
    unfold posted
    dsimp only
    rcases eq_or_ne k' k with rfl | hne
    · cases hq : c.writeQueue with
      | nil => simp [hk, hup]
      | cons front queue => simp [hk, hup]
    · have hother : c.socket ≠ some k' := by
        rw [hk]
        exact fun heq => hne (Option.some.inj heq).symm
      rw [if_neg hother, if_neg hother]
      split
      · rw [Function.update_of_ne hne]
      · rfl
  · exact fun hne => absurd (h.up hup).1 hne

/-- A packet that comes too late. -/
theorem Handshaking.drop (h : Handshaking who c) {packet : BotPacket F}
    {rest : List (BotHandler F)} (hc : c.handlers = .send packet :: rest)
    (hdown : c.connected = false) : Handshaking who { c with handlers := rest } := by
  refine h.steady _ c.writeQueue c.wire ?_ ?_ ?_ ?_ ?_ ?_
  · rw [hc]
    rfl
  · exact fun y hy _ => hc ▸ List.mem_cons_of_mem _ hy
  · intro hp
    unfold posted at hp
    rw [hc] at hp
    cases hp
  · exact fun l reconnect l' hl => h.order (.send packet :: l) reconnect l' (by rw [hc, hl]; rfl)
  · intro k
    unfold stream waiting
    rw [hdown]
    rfl
  · exact fun _ hq => hq

/-- The front of the queue has been written. -/
theorem Handshaking.written (h : Handshaking who c) {k : Nat} (hk : c.socket = some k) :
    Handshaking who { c with
      writeQueue := c.writeQueue.tail
      wire := Function.update c.wire k (c.wire k ++ c.writeQueue.tail.take 1) } := by
  refine h.steady c.handlers _ _ rfl (fun _ hx _ => hx) (fun hp => hp) h.order ?_ ?_
  · intro k'
    unfold stream waiting posted
    dsimp only
    rcases eq_or_ne k' k with rfl | hne
    · rcases c.writeQueue.tail with _ | ⟨front, queue⟩
      · simp [hk]
      · simp [hk]
    · have hother : c.socket ≠ some k' := by
        rw [hk]
        exact fun heq => hne (Option.some.inj heq).symm
      rw [Function.update_of_ne hne, if_neg hother, if_neg hother]
  · intro _ hq
    rw [hq]
    rfl

/-! ## Handlers that connect -/

/-- A timer fires, or an attempt to connect ends: it is in another place now. -/
theorem Handshaking.requeue (h : Handshaking who c) (timers : List BotTimer)
    (connecting : Option Bool) {x : BotHandler F} (hpacket : x.packet? = none)
    (hattempts : (attempts { c with timers, connecting, handlers := c.handlers ++ [x] }).Perm
      c.attempts) (hconnecting : connecting ≠ none → c.connecting ≠ none)
    (hx : ∀ k reconnect failed, x = .connected k reconnect failed → c.connecting ≠ none) :
    Handshaking who { c with timers, connecting, handlers := c.handlers ++ [x] } := by
  have hposted : posted { c with timers, connecting, handlers := c.handlers ++ [x] } = c.posted :=
    posted_push hpacket
  have hstream : ∀ k, stream { c with timers, connecting, handlers := c.handlers ++ [x] } k =
      c.stream k := by
    intro k
    unfold stream waiting
    rw [hposted]
  obtain ⟨hopened, hnamed, honce⟩ := h.shorter
    { c with timers, connecting, handlers := c.handlers ++ [x] } rfl
    fun k => hstream k ▸ List.prefix_refl _
  refine
    { failed := h.failed
      known := h.known
      socket_lt := h.socket_lt
      wire_new := h.wire_new
      opened := hopened
      named := hnamed
      oneLogin := honce
      up := fun hc => ?_
      once := by rw [hattempts.length_eq]; exact h.once
      first := fun hfalse => ?_
      again := fun htrue => h.again (hattempts.mem_iff.mp htrue)
      order := h.order_push hpacket
      starting := fun k hk hstarts => ?_ }
  · obtain ⟨hnil, k, hk, hne⟩ := h.up hc
    rw [hnil] at hattempts
    exact ⟨hattempts.eq_nil, k, hk, by rw [hstream]; exact hne⟩
  · obtain ⟨hp, hs⟩ := h.first (hattempts.mem_iff.mp hfalse)
    exact ⟨hposted.trans hp, fun k => (hstream k).trans (hs k)⟩
  · rw [hposted]
    refine h.starting k hk ?_
    rcases hstarts with hne | ⟨reconnect, failed, hmem⟩
    · exact Or.inl (hconnecting hne)
    · rcases List.mem_append.mp hmem with hmem | hmem
      · exact Or.inr ⟨reconnect, failed, hmem⟩
      · exact Or.inl (hx k reconnect failed (List.mem_singleton.mp hmem).symm)

/-- The handler of an attempt has its turn: there is no other attempt. -/
theorem attempts_cons (h : Handshaking who c) {x : BotHandler F} {rest : List (BotHandler F)}
    {reconnect : Bool} (hc : c.handlers = x :: rest) (hx : x.attempt? = some reconnect) :
    reconnect ∈ c.attempts ∧ c.connected = false ∧
      (∀ t ∈ c.timers, t.attempt? = none) ∧ c.connecting = none ∧
        ∀ y ∈ rest, y.attempt? = none := by
  have hsplit : c.attempts = c.timers.filterMap BotTimer.attempt? ++ c.connecting.toList ++
      (reconnect :: rest.filterMap BotHandler.attempt?) := by
    unfold attempts
    rw [hc, List.filterMap_cons, hx]
  have hmem : reconnect ∈ c.attempts := by
    rw [hsplit]
    simp
  have honce := h.once
  rw [hsplit, List.length_append, List.length_append, List.length_cons] at honce
  refine ⟨hmem, connected_of_attempts h (List.ne_nil_of_mem hmem), ?_, ?_, ?_⟩
  · exact List.filterMap_eq_nil_iff.mp (List.length_eq_zero_iff.mp (by omega))
  · exact Option.toList_eq_nil_iff.mp (List.length_eq_zero_iff.mp (by omega))
  · exact List.filterMap_eq_nil_iff.mp (List.length_eq_zero_iff.mp (by omega))

/-- The bot is not connected, or not any more. -/
theorem Handshaking.down (h : Handshaking who c) {socket : Option Nat} {sockets : Nat}
    {writeQueue : List (BotPacket F)} (connecting : Option Bool) (timers : List BotTimer)
    (handlers : List (BotHandler F)) (hlt : ∀ k, socket = some k → k < sockets)
    (hle : c.sockets ≤ sockets)
    (hqueue : writeQueue = [] ∨ writeQueue = c.writeQueue ∧ socket = c.socket)
    (honce : (attempts { c with connecting, timers, handlers }).length ≤ 1)
    (hattempts : ∀ r ∈ attempts { c with connecting, timers, handlers },
      r ∈ c.attempts ∨ r = true ∧ c.playerId ≠ 0 ∧ c.sessionToken ≠ "")
    (hhandlers : handlers <:+ c.handlers)
    (hstarting : ∀ k, socket = some k →
      (connecting ≠ none ∨ ∃ reconnect failed, .connected k reconnect failed ∈ handlers) →
      writeQueue = [] ∧ c.wire k = [] ∧ handlers.filterMap BotHandler.packet? = []) :
    Handshaking who { c with
      socket, sockets, writeQueue, connecting, timers, handlers, connected := false } := by
  have hstream : ∀ k, stream { c with
      socket, sockets, writeQueue, connecting, timers, handlers, connected := false } k <+:
        c.stream k := by
    intro k
    unfold stream waiting
    rcases hqueue with rfl | ⟨rfl, rfl⟩
    · simp
    · simp only [Bool.false_eq_true, if_false, List.append_nil]
      refine (List.prefix_append_right_inj _).mpr ?_
      split
      · exact List.prefix_append _ _
      · exact List.prefix_refl _
  obtain ⟨hopened, hnamed, hone⟩ := h.shorter { c with
      socket, sockets, writeQueue, connecting, timers, handlers, connected := false } rfl hstream
  obtain ⟨before, hsuffix⟩ := hhandlers
  exact
    { failed := h.failed
      known := h.known
      socket_lt := hlt
      wire_new := fun k hk => h.wire_new k (hle.trans hk)
      opened := hopened
      named := hnamed
      oneLogin := hone
      up := fun hc => by cases hc
      once := honce
      first := fun hfalse => by
        obtain ⟨hp, hs⟩ := h.first ((hattempts false hfalse).resolve_right fun h => by cases h.1)
        refine ⟨?_, fun k => List.prefix_nil.mp (hs k ▸ hstream k)⟩
        unfold posted at hp
        rw [← hsuffix, List.filterMap_append] at hp
        exact (List.append_eq_nil_iff.mp hp).2
      again := fun htrue => (hattempts true htrue).elim h.again fun h => h.2
      order := fun l reconnect l' hl => by
        have hsplit : handlers = l ++ .timer (.connect reconnect) :: l' := hl
        exact h.order (before ++ l) reconnect l' (by rw [← hsuffix, hsplit, List.append_assoc])
      starting := hstarting }

/-- `Connect` -/
theorem Handshaking.connect (h : Handshaking who c) {reconnect : Bool}
    {rest : List (BotHandler F)} (hc : c.handlers = .timer (.connect reconnect) :: rest)
    (connecting : Option Bool) (timers : List BotTimer)
    (hone : connecting = some reconnect ∧ timers = [] ∨
      connecting = none ∧ timers = [.connect reconnect]) :
    Handshaking who { c with
      socket := some c.sockets
      sockets := c.sockets + 1
      writeQueue := []
      connecting
      timers := c.timers ++ timers
      handlers := rest
      connected := false } := by
  obtain ⟨hmem, -, htimers, -, hrest⟩ := attempts_cons h hc rfl
  have hattempts : attempts { c with
      connecting, timers := c.timers ++ timers, handlers := rest } = [reconnect] := by
    unfold attempts
    rw [List.filterMap_append, List.filterMap_eq_nil_iff.mpr htimers,
      List.filterMap_eq_nil_iff.mpr hrest]
    rcases hone with ⟨rfl, rfl⟩ | ⟨rfl, rfl⟩
    · rfl
    · rfl
  refine h.down _ _ _ ?_ (Nat.le_succ _) (Or.inl rfl) (by rw [hattempts]; rfl) ?_ ?_ ?_
  · intro k hk
    cases hk
    exact Nat.lt_succ_self _
  · intro r hr
    rw [hattempts] at hr
    exact Or.inl (List.mem_singleton.mp hr ▸ hmem)
  · exact hc ▸ List.suffix_cons _ _
  · intro k hk _
    cases hk
    exact ⟨rfl, h.wire_new _ le_rfl, h.order [] reconnect rest hc⟩

/-- An attempt to connect has failed, or the socket is another one by now. -/
theorem Handshaking.missed (h : Handshaking who c) {k : Nat} {reconnect failed : Bool}
    {rest : List (BotHandler F)} (hc : c.handlers = .connected k reconnect failed :: rest)
    {timers : List BotTimer} (hone : timers = [] ∨ timers = [.connect reconnect]) :
    Handshaking who { c with
      timers := c.timers ++ timers
      handlers := rest
      connected := false } := by
  obtain ⟨hmem, -, htimers, hconnecting, hrest⟩ := attempts_cons h hc rfl
  have hattempts : attempts { c with timers := c.timers ++ timers, handlers := rest } =
      timers.filterMap BotTimer.attempt? := by
    unfold attempts
    dsimp only
    rw [List.filterMap_append, List.filterMap_eq_nil_iff.mpr htimers, hconnecting,
      List.filterMap_eq_nil_iff.mpr hrest]
    simp
  refine h.down c.connecting _ _ h.socket_lt le_rfl (Or.inr ⟨rfl, rfl⟩) ?_ ?_ ?_ ?_
  · rw [hattempts]
    rcases hone with rfl | rfl
    · exact Nat.zero_le 1
    · exact le_rfl
  · intro r hr
    rw [hattempts] at hr
    rcases hone with rfl | rfl
    · cases hr
    · exact Or.inl (List.mem_singleton.mp hr ▸ hmem)
  · exact hc ▸ List.suffix_cons _ _
  · rintro k' - (hne | ⟨r, f, hin⟩)
    · exact absurd hconnecting hne
    · have := hrest _ hin
      cases this

/-- `CloseSocket`, and perhaps `ScheduleReconnect`. -/
theorem Handshaking.close (h : Handshaking who c) (timers : List BotTimer)
    (htimers : timers = [] ∨ timers = [.connect true] ∧ c.attempts = [] ∧ c.playerId ≠ 0 ∧
      c.sessionToken ≠ "") :
    Handshaking who { c with
      socket := none
      writeQueue := []
      connecting := none
      timers := c.timers ++ timers
      connected := false } := by
  refine h.down _ _ c.handlers (fun _ hk => by cases hk) le_rfl (Or.inl rfl) ?_ ?_
    (List.suffix_refl _) fun _ hk => by cases hk
  · rcases htimers with rfl | ⟨rfl, hnil, -⟩
    · refine le_trans (List.Sublist.length_le ?_) h.once
      unfold attempts
      dsimp only
      rw [List.append_nil, Option.toList_none, List.append_nil]
      exact (List.sublist_append_left _ _).append_right _
    · obtain ⟨htimers, -, hhandlers⟩ := attempts_eq_nil_iff.mp hnil
      unfold attempts
      dsimp only
      rw [List.filterMap_append, List.filterMap_eq_nil_iff.mpr htimers,
        List.filterMap_eq_nil_iff.mpr hhandlers]
      exact le_rfl
  · intro r hr
    unfold attempts at hr ⊢
    dsimp only at hr
    rcases htimers with rfl | ⟨rfl, -, hplayer⟩
    · refine Or.inl ?_
      simp only [List.append_nil, Option.toList_none, List.mem_append] at hr ⊢
      exact hr.elim (fun hr => Or.inl (Or.inl hr)) Or.inr
    · simp only [List.filterMap_append, Option.toList_none, List.append_nil,
        List.mem_append] at hr ⊢
      rcases hr with (hr | hr) | hr
      · exact Or.inl (Or.inl (Or.inl hr))
      · exact Or.inr ⟨List.mem_singleton.mp hr, hplayer⟩
      · exact Or.inl (Or.inr hr)

/-- A read has failed. -/
theorem Handshaking.readFailed (h : Handshaking who c) :
    Handshaking who { c with connected := false } := by
  exact h.down c.connecting c.timers c.handlers h.socket_lt le_rfl (Or.inr ⟨rfl, rfl⟩) h.once
    (fun _ hr => Or.inl hr) (List.suffix_refl _) h.starting

/-- The bot is connected, and says who it is. -/
theorem Handshaking.opens (h : Handshaking who c) {k : Nat} {reconnect : Bool}
    {rest : List (BotHandler F)} (hc : c.handlers = .connected k reconnect false :: rest)
    (hk : c.socket = some k) (packet : BotPacket F)
    (hpacket : (reconnect = false ∧ packet.2 = .login (some c.account)) ∨
      (c.playerId ≠ 0 ∧ packet.2 = .request (.reconnect (some (c.playerId, c.sessionToken))))) :
    Handshaking who { c with connected := true, handlers := rest ++ [.send packet] } := by
  obtain ⟨hmem, hdown, htimers, hconnecting, hrest⟩ := attempts_cons h hc rfl
  obtain ⟨hqueue, hwire, hposted⟩ := h.starting k hk
    (Or.inr ⟨reconnect, false, hc ▸ List.mem_cons_self⟩)
  have hattempts :
      attempts { c with connected := true, handlers := rest ++ [.send packet] } = [] := by
    refine attempts_eq_nil_iff.mpr ⟨htimers, hconnecting, fun y hy => ?_⟩
    rcases List.mem_append.mp hy with hy | hy
    · exact hrest y hy
    · rw [List.mem_singleton.mp hy]
      rfl
  have hrestPosted : rest.filterMap BotHandler.packet? = [] := by
    unfold posted at hposted
    rwa [hc] at hposted
  have hself : stream { c with connected := true, handlers := rest ++ [.send packet] } k =
      [packet] := by
    unfold stream waiting posted
    dsimp only
    rw [hwire, hqueue, if_pos hk, if_pos rfl, List.filterMap_append, hrestPosted]
    rfl
  have hother : ∀ k' ≠ k,
      stream { c with connected := true, handlers := rest ++ [.send packet] } k' = c.stream k' := by
    intro k' hne
    have hsocket : c.socket ≠ some k' := by
      rw [hk]
      exact fun heq => hne (Option.some.inj heq).symm
    unfold stream
    dsimp only
    rw [if_neg hsocket, if_neg hsocket]
  have hfor : packet.2.opens = true ∧ packet.2.For c.account who := by
    rcases hpacket with ⟨-, hlogin⟩ | ⟨hne, hreconnect⟩
    · rw [hlogin]
      exact ⟨rfl, Or.inl rfl⟩
    · rw [hreconnect]
      exact ⟨rfl, Or.inr (Or.inl ⟨_, h.known.resolve_left hne, rfl⟩)⟩
  refine
    { failed := h.failed
      known := h.known
      socket_lt := h.socket_lt
      wire_new := h.wire_new
      opened := fun k' => ?_
      named := fun k' x hx => ?_
      oneLogin := ?_
      up := fun _ => ⟨hattempts, k, hk, by rw [hself]; exact List.cons_ne_nil _ _⟩
      once := by rw [hattempts]; exact Nat.zero_le 1
      first := fun hfalse => by rw [hattempts] at hfalse; cases hfalse
      again := fun htrue => by rw [hattempts] at htrue; cases htrue
      order := fun l r l' hl => ?_
      starting := ?_ }
  · rcases eq_or_ne k' k with rfl | hne
    · rw [hself]
      exact ⟨hfor.1, fun y hy => by cases hy⟩
    · rw [hother k' hne]
      exact h.opened k'
  · rcases eq_or_ne k' k with rfl | hne
    · rw [hself] at hx
      rw [List.mem_singleton.mp hx]
      exact hfor.2
    · rw [hother k' hne] at hx
      exact h.named k' x hx
  · rcases hpacket with ⟨rfl, -⟩ | ⟨-, hreconnect⟩
    · -- The first login: nothing has been written before.
      have honly : ∀ k',
          LogsIn { c with connected := true, handlers := rest ++ [.send packet] } k' → k' = k := by
        rintro k' ⟨x, hx, -⟩
        by_contra hne
        rw [hother k' hne, (h.first hmem).2 k'] at hx
        cases hx
      exact fun k₁ k₂ h₁ h₂ => (honly k₁ h₁).trans (honly k₂ h₂).symm
    · have hold : ∀ k', LogsIn { c with connected := true, handlers := rest ++ [.send packet] } k' →
          c.LogsIn k' := by
        rintro k' ⟨x, hx, hlogin⟩
        rcases eq_or_ne k' k with rfl | hne
        · rw [hself] at hx
          rw [List.mem_singleton.mp hx, hreconnect] at hlogin
          cases hlogin
        · exact ⟨x, hother k' hne ▸ hx, hlogin⟩
      exact fun k₁ k₂ h₁ h₂ => h.oneLogin k₁ k₂ (hold k₁ h₁) (hold k₂ h₂)
  · have hin : .timer (.connect r) ∈ rest ++ [.send packet] := by
      rw [show rest ++ [.send packet] = _ from hl]
      simp
    have := hrest _ ((List.mem_append.mp hin).resolve_right (by simp))
    cases this
  · rintro k' - (hne | ⟨r, f, hin⟩)
    · exact absurd hconnecting hne
    · have := hrest _ ((List.mem_append.mp hin).resolve_right (by simp))
      cases this

/-- The server has answered the login. -/
theorem Handshaking.loggedIn (h : Handshaking who c) {p : PlayerId} {token : String}
    (hp : p ≠ 0) (htoken : token ≠ "") (hwho : who = some (p, token)) :
    Handshaking who { c with playerId := p, sessionToken := token } :=
  { h with
    known := Or.inr hwho
    again := fun _ => ⟨hp, htoken⟩
    first := h.first
    opened := h.opened }

end Contact

namespace BotClient

open Contact

variable {who : Option (PlayerId × String)}

/-! ## What a bot does while it plays -/

theorem plays_of_eq {b b' : BotClient F} (h : b'.contact = b.contact) :
    b.contact.Plays b'.contact := by
  rw [h]
  exact .refl _

theorem plays_scheduleTimer (b : BotClient F) (timer : BotTimer) (h : timer.attempt? = none) :
    b.contact.Plays (b.scheduleTimer timer).contact := by
  refine ⟨[timer], [], ?_, ?_, Or.inl rfl, fun _ hx => by cases hx⟩
  · rw [List.map_nil, List.append_nil]
    rfl
  · rw [List.filterMap_cons, h]
    rfl

theorem plays_sendPacket {b : BotClient F} (call : Call F) (hup : b.connected = true)
    (hcall : call.Playing b.playerId) : b.contact.Plays (b.sendPacket call).contact := by
  refine ⟨[], [(b.seq + 1, call)], ?_, rfl, Or.inr hup, fun x hx => ?_⟩
  · rw [List.append_nil]
    rfl
  · rw [List.mem_singleton.mp hx]
    exact hcall

theorem plays_percentHit (percent : Int) (b : BotClient F) :
    b.contact.Plays (b.percentHit percent).2.contact := by
  unfold percentHit
  split
  · exact .refl _
  · split
    · exact .refl _
    · exact plays_of_eq rfl

theorem plays_heartbeat (b : BotClient F) : b.contact.Plays b.heartbeat.contact := by
  unfold heartbeat
  split
  · next hup =>
    refine (plays_sendPacket (.request .heartbeat) hup trivial).trans ?_
    exact plays_scheduleTimer _ _ rfl
  · exact plays_scheduleTimer _ _ rfl

theorem plays_scheduleHeartbeat (b : BotClient F) :
    b.contact.Plays b.scheduleHeartbeat.contact := by
  unfold scheduleHeartbeat
  split
  · exact .refl _
  · exact plays_scheduleTimer { b with heartbeatStarted := true } _ rfl

theorem up_of_not {b : BotClient F} {p : Prop} (h : ¬ (b.connected = false ∨ p)) :
    b.connected = true :=
  Bool.eq_true_of_not_eq_false fun hdown => h (Or.inl hdown)

theorem plays_match (b : BotClient F) : b.contact.Plays b.match.contact := by
  unfold «match»
  split
  · exact .refl _
  · next h => exact plays_sendPacket (b := { b with state := .matching }) _ (up_of_not h) rfl

theorem plays_cancelMatch (b : BotClient F) : b.contact.Plays b.cancelMatch.contact := by
  unfold cancelMatch
  split
  · exact .refl _
  · next h =>
    refine (plays_sendPacket (.request (.cancelMatch (some b.playerId))) (up_of_not h)
      rfl).trans ?_
    exact plays_scheduleTimer { b.sendPacket (.request (.cancelMatch (some b.playerId))) with
      cancelledThisRound := true
      state := .loggedIn
      stats := _ } _ rfl

theorem plays_maybeScheduleDisconnect (point : DisconnectPoint) (b : BotClient F) :
    b.contact.Plays (b.maybeScheduleDisconnect point).2.contact := by
  unfold maybeScheduleDisconnect
  split
  · exact .refl _
  · have hdice := plays_percentHit (disconnectPercent b.options point) b
    split
    · next b' heq =>
      rw [heq] at hdice
      exact hdice
    · next b' heq =>
      rw [heq] at hdice
      refine hdice.trans ?_
      have hflag : (b'.setDisconnectThisRound point).contact = b'.contact := by cases point <;> rfl
      exact (plays_of_eq hflag).trans (plays_scheduleTimer _ _ rfl)

theorem plays_ready (b : BotClient F) : b.contact.Plays b.ready.contact := by
  unfold ready
  split
  · exact .refl _
  · next h => exact plays_sendPacket (.request (.ready (some true))) (up_of_not h) trivial

theorem plays_unready (b : BotClient F) : b.contact.Plays b.unready.contact := by
  unfold unready
  split
  · exact .refl _
  · next h => exact plays_sendPacket (.request (.ready (some false))) (up_of_not h) trivial

theorem plays_scheduleReadyFlow (b : BotClient F) :
    b.contact.Plays b.scheduleReadyFlow.contact := by
  unfold scheduleReadyFlow
  split
  · exact .refl _
  · have hdice := plays_percentHit b.options.readyTogglePercent b
    split
    next toggles b' heq =>
    rw [heq] at hdice
    have hready := hdice.trans (plays_ready b')
    split
    · exact hready.trans (plays_scheduleTimer _ _ rfl)
    · exact hready

theorem plays_sendInput (b : BotClient F) : b.contact.Plays b.sendInput.contact := by
  unfold sendInput
  split
  · exact .refl _
  · next h =>
    dsimp only
    refine Plays.trans ?_ (plays_scheduleTimer _ _ rfl)
    exact plays_sendPacket (b := { b with inputSeq := b.inputSeq + 1, drawn := b.drawn + 3 }) _
      (up_of_not h) rfl

theorem plays_startInputLoop (b : BotClient F) : b.contact.Plays b.startInputLoop.contact := by
  unfold startInputLoop
  split
  · exact .refl _
  · exact plays_sendInput { b with inputLoopActive := true }

/-! ## Messages -/

theorem plays_handleMatchResponse (code : Int) (b : BotClient F) :
    b.contact.Plays (b.handleMatchResponse code).contact := by
  unfold handleMatchResponse
  split
  · have hdice : ∀ b : BotClient F, b.contact.Plays (if b.cancelledThisRound then (false, b)
        else b.percentHit b.options.cancelMatchPercent).2.contact := by
      intro b
      split
      · exact .refl _
      · exact plays_percentHit _ _
    have hrest : ∀ x : Bool × BotClient F, x.2.contact.Plays (if x.1 then
        x.2.scheduleTimer .cancelMatch else (x.2.maybeScheduleDisconnect .queue).2).contact := by
      intro x
      split
      · exact plays_scheduleTimer _ _ rfl
      · exact plays_maybeScheduleDisconnect _ _
    have hcancel := hdice { b with
      state := .matching
      stats := { b.stats with matchOk := b.stats.matchOk + 1 } }
    exact Plays.trans hcancel (hrest _)
  · split
    · exact plays_of_eq rfl
    · exact plays_scheduleTimer { b with stats := _, state := .loggedIn } _ rfl

theorem plays_handleMatchSuccess (roomId : RoomId) (b : BotClient F) :
    b.contact.Plays (b.handleMatchSuccess roomId).contact := by
  unfold handleMatchSuccess
  dsimp only
  have hdisconnect := plays_maybeScheduleDisconnect .room { b with
    roomId
    state := .inRoom
    inputLoopActive := false
    stats := { b.stats with matchSuccess := b.stats.matchSuccess + 1 } }
  split
  · next b' heq =>
    rw [heq] at hdisconnect
    exact hdisconnect
  · next b' heq =>
    rw [heq] at hdisconnect
    exact Plays.trans hdisconnect (plays_scheduleTimer _ _ rfl)

/-- The battle has begun. -/
theorem plays_play (b : BotClient F) :
    b.contact.Plays (b.startInputLoop.maybeScheduleDisconnect .playing).2.contact :=
  (plays_startInputLoop b).trans (plays_maybeScheduleDisconnect _ _)

theorem plays_handleRoomState (roomId : RoomId) (state : Int) (b : BotClient F) :
    b.contact.Plays (b.handleRoomState roomId state).contact := by
  unfold handleRoomState
  dsimp only
  split
  · exact plays_play { b with
      roomId
      state := .playing
      stats := { b.stats with roomPlaying := b.stats.roomPlaying + 1 } }
  · exact plays_of_eq rfl

theorem plays_handleGameState (b : BotClient F) : b.contact.Plays b.handleGameState.contact := by
  unfold handleGameState
  dsimp only
  split
  · exact plays_play { b with
      stats := { b.stats with gameState := b.stats.gameState + 1 }
      state := .playing }
  · exact plays_of_eq rfl

/-- The message does not say that something has gone wrong, and a login response is that of the
account of the bot. -/
def Fine (who : Option (PlayerId × String)) : Message F → Prop
  | .loginResponse code p _ token => code = 0 ∧ p ≠ 0 ∧ token ≠ "" ∧ who = some (p, token)
  | .reconnectResponse code _ => code = 0
  | _ => True

/-- A fine message makes the bot play on, and perhaps tells it who it is. -/
theorem plays_onMessage (b : BotClient F) {m : Message F} (hm : Fine who m) :
    b.contact.Plays (b.onMessage m).contact ∨
    ∃ p token, p ≠ 0 ∧ token ≠ "" ∧ who = some (p, token) ∧
      Plays { b.contact with playerId := p, sessionToken := token } (b.onMessage m).contact := by
  unfold onMessage
  split
  · obtain ⟨rfl, hp, htoken, hwho⟩ := hm
    rw [if_pos rfl]
    refine Or.inr ⟨_, _, hp, htoken, hwho, ?_⟩
    refine Plays.trans ?_ (plays_scheduleTimer _ _ rfl)
    exact plays_scheduleHeartbeat { b with
      playerId := _, sessionToken := _, state := .loggedIn, stats := _ }
  · next roomId =>
    obtain rfl := hm
    rw [if_pos rfl]
    refine Or.inl ?_
    dsimp only
    split
    · refine Plays.trans ?_ (plays_startInputLoop _)
      exact plays_scheduleReadyFlow { b with roomId, state := _, stats := _ }
    · exact plays_scheduleTimer { b with
        roomId
        state := if roomId = 0 then .loggedIn else .inRoom
        stats := { b.stats with reconnectOk := b.stats.reconnectOk + 1 } } .match rfl
  · exact Or.inl (plays_handleMatchResponse _ b)
  · exact Or.inl (plays_handleMatchSuccess _ b)
  · exact Or.inl (plays_handleRoomState _ _ b)
  · exact Or.inl (plays_handleGameState b)
  · refine Or.inl ?_
    exact plays_scheduleTimer { b with
      roomId := 0, inputLoopActive := false, state := .loggedIn, cancelledThisRound := false
      queueDisconnectThisRound := false, roomDisconnectThisRound := false
      playingDisconnectThisRound := false, reconnectCount := 0, inputSeq := 0, stats := _ } _ rfl
  · exact Or.inl (.refl _)

theorem handshaking_messages : ∀ (messages : List (Message F)) {b : BotClient F},
    Handshaking who b.contact → (∀ m ∈ messages, Fine who m) →
    Handshaking who (messages.foldl onMessage b).contact
  | [], _, h, _ => h
  | m :: messages, b, h, hfine => by
    refine handshaking_messages messages (b := b.onMessage m) ?_
      fun m' hm' => hfine m' (List.mem_cons_of_mem m hm')
    rcases plays_onMessage b (hfine m List.mem_cons_self) with
      hplays | ⟨p, token, hp, htoken, hwho, hplays⟩
    · exact hplays.handshaking h
    · exact hplays.handshaking (h.loggedIn hp htoken hwho)

/-! ## Handlers -/

theorem handshaking_closeSocket {b : BotClient F} (h : Handshaking who b.contact) :
    Handshaking who b.closeSocket.contact := by
  have hclosed := h.close [] (Or.inl rfl)
  rw [List.append_nil] at hclosed
  exact hclosed

theorem handshaking_simulateDisconnect {b : BotClient F} (h : Handshaking who b.contact) :
    Handshaking who b.simulateDisconnect.contact := by
  unfold simulateDisconnect
  split
  · exact h
  · next hnot =>
    dsimp only
    unfold scheduleReconnect
    split
    · exact handshaking_closeSocket (b := { b with reconnectCount := _, stats := _ }) h
    · next hknown =>
      obtain ⟨hp, htoken⟩ := not_or.mp hknown
      exact h.close _ (Or.inr ⟨rfl, (h.up (up_of_not hnot)).1, hp, htoken⟩)

/-- A timer that is not about connecting. -/
theorem plays_onTimer (b : BotClient F) (resolved : Bool) {timer : BotTimer}
    (hattempt : timer.attempt? = none) (hclose : ∀ point, timer ≠ .simulateDisconnect point) :
    b.contact.Plays (b.onTimer resolved timer).contact := by
  cases timer with
  | connect reconnect => cases hattempt
  | heartbeat => exact plays_heartbeat b
  | «match» => exact plays_match b
  | rematch =>
    unfold onTimer
    dsimp only
    split
    · exact plays_match b
    · exact .refl _
  | cancelMatch => exact plays_cancelMatch b
  | simulateDisconnect point => exact absurd rfl (hclose point)
  | readyFlow =>
    unfold onTimer
    dsimp only
    split
    · exact plays_scheduleReadyFlow b
    · exact .refl _
  | unready => exact (plays_unready b).trans (plays_scheduleTimer _ _ rfl)
  | ready => exact plays_ready b
  | sendInput => exact plays_sendInput b

theorem handshaking_onTimer {b : BotClient F} (h : Handshaking who b.contact) (resolved : Bool)
    {timer : BotTimer} (htimer : timer.attempt? = none) :
    Handshaking who (b.onTimer resolved timer).contact := by
  by_cases hclose : ∃ point, timer = .simulateDisconnect point
  · obtain ⟨point, rfl⟩ := hclose
    exact handshaking_simulateDisconnect h
  · exact (plays_onTimer b resolved htimer fun point heq => hclose ⟨point, heq⟩).handshaking h

theorem handshaking_connect {b : BotClient F} (h : Handshaking who b.contact) {reconnect : Bool}
    {rest : List (BotHandler F)} (hb : b.handlers = .timer (.connect reconnect) :: rest)
    (resolved : Bool) :
    Handshaking who ({ b with handlers := rest }.connect reconnect resolved).contact := by
  unfold connect
  dsimp only
  split
  · have hconnects := h.connect hb (some reconnect) [] (Or.inl ⟨rfl, rfl⟩)
    rw [List.append_nil] at hconnects
    exact hconnects
  · exact h.connect hb _ _ (Or.inr ⟨rfl, rfl⟩)

theorem handshaking_onConnected {b : BotClient F} (h : Handshaking who b.contact) {k : Nat}
    {reconnect failed : Bool} {rest : List (BotHandler F)}
    (hb : b.handlers = .connected k reconnect failed :: rest) :
    Handshaking who ({ b with handlers := rest }.onConnected k reconnect failed).contact := by
  obtain ⟨hmem, hdown, -⟩ := attempts_cons h hb rfl
  have hdown' : b.connected = false := hdown
  have hmissed : ∀ timers, (timers = [] ∨ timers = [.connect reconnect]) → Handshaking who
      { b.contact with timers := b.timers ++ timers, handlers := rest } := by
    intro timers htimers
    have hstep := h.missed hb htimers
    rw [← hdown] at hstep
    exact hstep
  unfold onConnected
  split
  · have hnone := hmissed [] (Or.inl rfl)
    rw [List.append_nil] at hnone
    exact hnone
  · next hsocket =>
    have hk : b.socket = some k := not_not.mp hsocket
    split
    · exact hmissed _ (Or.inr rfl)
    · next hok =>
      cases Bool.eq_false_of_not_eq_true hok
      dsimp only
      split
      · next hagain =>
        exact h.opens hb hk (b.seq + 1, _) (Or.inr ⟨hagain.2.1, rfl⟩)
      · next hfirst =>
        have hfalse : reconnect = false := by
          cases hr : reconnect with
          | false => rfl
          | true =>
            subst hr
            exact absurd ⟨rfl, h.again hmem⟩ hfirst
        exact h.opens hb hk (b.seq + 1, _) (Or.inl ⟨hfalse, rfl⟩)

theorem onSend_of_down {b : BotClient F} (h : b.connected = false) (packet : BotPacket F) :
    b.onSend packet = b :=
  if_pos (Or.inl h)

theorem contact_doWrite {b : BotClient F} {k : Nat} (hk : b.socket = some k)
    {packet : BotPacket F} (queue : List (BotPacket F)) (hqueue : b.writeQueue = packet :: queue) :
    b.doWrite.contact =
      { b.contact with wire := Function.update b.wire k (b.wire k ++ [packet]) } := by
  unfold doWrite
  split
  · next hsocket hfront =>
    cases hk.symm.trans hsocket
    cases hqueue.symm.trans hfront
    rfl
  · next hnone => exact (hnone k packet queue hk hqueue).elim

theorem contact_onSend {b : BotClient F} (hup : b.connected = true) {k : Nat}
    (hk : b.socket = some k) (packet : BotPacket F) : (b.onSend packet).contact =
      { b.contact with
        writeQueue := b.writeQueue ++ [packet]
        wire := if b.writeQueue = [] then Function.update b.wire k (b.wire k ++ [packet])
          else b.wire } := by
  have honSend : b.onSend packet =
      if b.writeQueue ≠ [] then { b with writeQueue := b.writeQueue ++ [packet] }
      else { b with writeQueue := b.writeQueue ++ [packet] }.doWrite := if_neg (by simp [hup, hk])
  rw [honSend]
  by_cases hnil : b.writeQueue = []
  · rw [if_neg (not_not.mpr hnil), if_pos hnil]
    exact contact_doWrite (b := { b with writeQueue := b.writeQueue ++ [packet] }) hk []
      (by rw [hnil]; rfl)
  · rw [if_pos hnil, if_neg hnil]
    rfl

theorem handshaking_onSend {b : BotClient F} (h : Handshaking who b.contact)
    {packet : BotPacket F} {rest : List (BotHandler F)} (hb : b.handlers = .send packet :: rest) :
    Handshaking who ({ b with handlers := rest }.onSend packet).contact := by
  by_cases hup : b.connected = true
  · obtain ⟨-, k, hk, -⟩ := h.up hup
    rw [contact_onSend (b := { b with handlers := rest }) hup hk]
    exact h.send hb hup hk
  · have hdown := Bool.eq_false_of_not_eq_true hup
    rw [onSend_of_down (b := { b with handlers := rest }) hdown]
    exact h.drop hb hdown

theorem handshaking_onWritten {b : BotClient F} (h : Handshaking who b.contact) (k : Nat)
    (failed : Bool) : Handshaking who (b.onWritten k failed).contact := by
  unfold onWritten
  split
  · exact h
  · next hsocket =>
    have hk : b.socket = some k := not_not.mp hsocket
    split
    · exact handshaking_closeSocket h
    · have hwritten := h.written hk
      have hqueue : b.contact.writeQueue = b.writeQueue := rfl
      rw [hqueue] at hwritten
      dsimp only
      split
      · next hne =>
        cases htail : b.writeQueue.tail with
        | nil => exact absurd htail hne
        | cons front queue =>
          rw [contact_doWrite (b := { b with writeQueue := front :: queue }) hk queue rfl]
          rw [htail] at hwritten
          exact hwritten
      · next hnil =>
        have htail : b.writeQueue.tail = [] := not_not.mp hnil
        rw [htail, List.take_nil, List.append_nil, Function.update_eq_self] at hwritten
        rw [htail]
        exact hwritten

theorem handshaking_onRead {b : BotClient F} (h : Handshaking who b.contact) (k : Nat)
    (result : ReadResult) {arrived : List (Message F)} (harrived : ∀ m ∈ arrived, Fine who m) :
    Handshaking who (b.onRead k result arrived).contact := by
  unfold onRead
  split
  · exact h
  · cases result with
    | failed => exact h.readFailed
    | malformed => exact handshaking_closeSocket h
    | messages => exact handshaking_messages arrived h harrived

/-- **Every handler keeps the invariant.** -/
theorem handshaking_onHandler {b : BotClient F} (h : Handshaking who b.contact)
    {handler : BotHandler F} {rest : List (BotHandler F)} (hb : b.handlers = handler :: rest)
    {around : Surroundings F} (harrived : ∀ m ∈ around.arrived, Fine who m) :
    Handshaking who ({ b with handlers := rest }.onHandler around handler).contact := by
  cases handler with
  | timer timer =>
    cases htimer : timer.attempt? with
    | none =>
      have hpop := h.pop hb htimer rfl
      exact handshaking_onTimer (b := { b with handlers := rest }) hpop _ htimer
    | some reconnect =>
      cases timer with
      | connect r => exact handshaking_connect h hb _
      | _ => cases htimer
  | send packet => exact handshaking_onSend h hb
  | connected k reconnect failed => exact handshaking_onConnected h hb
  | read k result =>
    exact handshaking_onRead (b := { b with handlers := rest }) (h.pop hb rfl rfl) k result harrived
  | written k failed =>
    exact handshaking_onWritten (b := { b with handlers := rest }) (h.pop hb rfl rfl) k failed

/-! ## Events -/

theorem attempts_fire (b : BotClient F) {n : Nat} {timer : BotTimer}
    (hn : b.timers[n]? = some timer) : (attempts { b.contact with
      timers := b.timers.eraseIdx n
      handlers := b.handlers ++ [.timer timer] }).Perm b.contact.attempts := by
  obtain ⟨hlt, rfl⟩ := List.getElem?_eq_some_iff.mp hn
  have hperm := (List.getElem_cons_eraseIdx_perm hlt).filterMap BotTimer.attempt?
  unfold attempts
  dsimp only
  rw [List.filterMap_append]
  have hlast : [BotHandler.timer b.timers[n]].filterMap (BotHandler.attempt? (F := F)) =
      [b.timers[n]].filterMap BotTimer.attempt? := by
    rw [List.filterMap_cons, List.filterMap_cons]
    rfl
  rw [hlast, ← List.append_assoc]
  refine List.perm_append_comm.trans ?_
  rw [← List.append_assoc, ← List.append_assoc]
  refine List.Perm.append_right _ (List.Perm.append_right _ ?_)
  rw [← List.filterMap_append]
  exact hperm

theorem attempts_connected (b : BotClient F) {k : Nat} {reconnect failed : Bool}
    (hconnecting : b.connecting = some reconnect) : (attempts { b.contact with
      connecting := none
      handlers := b.handlers ++ [.connected k reconnect failed] }).Perm b.contact.attempts := by
  unfold attempts
  rw [show b.contact.connecting = some reconnect from hconnecting]
  dsimp only
  rw [List.filterMap_append, Option.toList_none, List.append_nil, List.append_assoc]
  exact List.Perm.append_left _ List.perm_append_comm

/-- **The invariant of a bot.** -/
theorem handshaking_step {b : BotClient F} (h : Handshaking who b.contact) (e : Event F)
    (hfine : ∀ around, e = .run around → ∀ m ∈ around.arrived, Fine who m) :
    Handshaking who (b.step e).contact := by
  cases e with
  | run around =>
    unfold step
    dsimp only
    split
    · exact h
    · next hb => exact handshaking_onHandler h hb (hfine around rfl)
  | fire n =>
    unfold step
    dsimp only
    split
    · exact h
    · next hn =>
      refine h.requeue _ b.connecting rfl (attempts_fire b hn) id ?_
      intro _ _ _ heq
      cases heq
  | connected failed =>
    unfold step
    dsimp only
    split
    · next hk hconnecting =>
      refine h.requeue b.timers _ rfl (attempts_connected b hconnecting) (absurd rfl) ?_
      intro _ _ _ _ hnone
      cases hconnecting.symm.trans hnone
    · exact h
  | read result =>
    unfold step
    dsimp only
    split
    · split
      · exact h.push rfl rfl
      · exact h
    · exact h
  | written failed =>
    unfold step
    dsimp only
    split
    · split
      · exact h.push rfl rfl
      · exact h
    · exact h

/-- A bot that has been started has not logged in. -/
theorem handshaking_start (index : Nat) (options : BotOptions) (dice : Nat → Int) (axes : Nat → F)
    (resolved : Bool) : Handshaking none (start index options dice axes resolved).contact := by
  have hstream : ∀ b : BotClient F, b.socket = none → b.wire = (fun _ => []) →
      ∀ k, b.contact.stream k = [] := by
    intro b hsocket hwire k
    unfold stream
    rw [show b.contact.socket = none from hsocket, show b.contact.wire = _ from hwire]
    rfl
  -- `Start` calls `Connect` as the timers do.
  have hblank : Handshaking none ({
      index, options, dice, axes, handlers := [.timer (.connect false)] } : BotClient F).contact :=
    { failed := ⟨rfl, rfl⟩
      known := Or.inl rfl
      socket_lt := fun _ hk => by cases hk
      wire_new := fun _ _ => rfl
      opened := fun k => by rw [hstream _ rfl rfl]; trivial
      named := fun k x hx => by rw [hstream _ rfl rfl] at hx; cases hx
      oneLogin := fun k k' hk => by
        obtain ⟨x, hx, -⟩ := hk
        rw [hstream _ rfl rfl] at hx
        cases hx
      up := fun hc => by cases hc
      once := le_rfl
      first := fun _ => ⟨rfl, hstream _ rfl rfl⟩
      again := fun htrue => by
        have hfalse : true ∈ [false] := htrue
        simp at hfalse
      order := fun l reconnect l' hl => by
        have hsplit : [.timer (.connect false)] = l ++ .timer (.connect reconnect) :: l' := hl
        have hlength := congrArg List.length hsplit
        simp only [List.length_append, List.length_cons, List.length_nil] at hlength
        rw [List.length_eq_zero_iff.mp (show l'.length = 0 by omega)]
        rfl
      starting := fun k hk => by cases hk }
  exact handshaking_connect hblank rfl resolved

theorem index_start (index : Nat) (options : BotOptions) (dice : Nat → Int) (axes : Nat → F)
    (resolved : Bool) : (start index options dice axes resolved).index = index := by
  unfold start connect
  dsimp only
  split <;> rfl

/-! ## What is on the wire stays there -/

/-- The bot keeps its name, and writes on. -/
def Grows (b b' : BotClient F) : Prop :=
  b'.index = b.index ∧ ∀ k, b.wire k <+: b'.wire k

theorem Grows.refl (b : BotClient F) : b.Grows b :=
  ⟨rfl, fun _ => List.prefix_refl _⟩

theorem Grows.trans {b b' b'' : BotClient F} (h : b.Grows b') (h' : b'.Grows b'') : b.Grows b'' :=
  ⟨h'.1.trans h.1, fun k => (h.2 k).trans (h'.2 k)⟩

theorem grows_of_eq {b b' : BotClient F} (hindex : b'.index = b.index) (hwire : b'.wire = b.wire) :
    b.Grows b' :=
  ⟨hindex, fun _ => hwire ▸ List.prefix_refl _⟩

theorem grows_of_plays {b b' : BotClient F} {p : PlayerId} {token : String}
    (h : Plays { b.contact with playerId := p, sessionToken := token } b'.contact) :
    b.Grows b' := by
  obtain ⟨timers, packets, heq, -⟩ := h
  exact grows_of_eq (congrArg Contact.index heq) (congrArg Contact.wire heq)

theorem grows_messages : ∀ (messages : List (Message F)) (b : BotClient F),
    (∀ m ∈ messages, Fine who m) → b.Grows (messages.foldl onMessage b)
  | [], b, _ => .refl b
  | m :: messages, b, hfine => by
    refine Grows.trans ?_ (grows_messages messages (b.onMessage m)
      fun m' hm' => hfine m' (List.mem_cons_of_mem m hm'))
    rcases plays_onMessage b (hfine m List.mem_cons_self) with hplays | ⟨_, _, -, -, -, hplays⟩
    · exact grows_of_plays hplays
    · exact grows_of_plays hplays

theorem grows_doWrite (b : BotClient F) : b.Grows b.doWrite := by
  unfold doWrite
  split
  · next socket packet _ _ _ =>
    refine ⟨rfl, fun k => ?_⟩
    dsimp only
    rcases eq_or_ne k socket with rfl | hne
    · rw [Function.update_self]
      exact List.prefix_append _ _
    · rw [Function.update_of_ne hne]
  · exact .refl b

theorem grows_simulateDisconnect (b : BotClient F) : b.Grows b.simulateDisconnect := by
  unfold simulateDisconnect scheduleReconnect
  split
  · exact .refl b
  · dsimp only
    split <;> exact grows_of_eq rfl rfl

theorem grows_onTimer (b : BotClient F) (resolved : Bool) (timer : BotTimer) :
    b.Grows (b.onTimer resolved timer) := by
  cases hattempt : timer.attempt? with
  | some reconnect =>
    cases timer with
    | connect reconnect =>
      unfold onTimer connect
      dsimp only
      split <;> exact grows_of_eq rfl rfl
    | _ => cases hattempt
  | none =>
    by_cases hclose : ∃ point, timer = .simulateDisconnect point
    · obtain ⟨point, rfl⟩ := hclose
      exact grows_simulateDisconnect b
    · exact grows_of_plays (plays_onTimer b resolved hattempt fun point heq => hclose ⟨point, heq⟩)

theorem grows_onHandler (b : BotClient F) (handler : BotHandler F) {around : Surroundings F}
    (hfine : ∀ m ∈ around.arrived, Fine who m) : b.Grows (b.onHandler around handler) := by
  cases handler with
  | timer timer => exact grows_onTimer b _ timer
  | send packet =>
    unfold onHandler onSend
    dsimp only
    split
    · exact .refl b
    · split
      · exact grows_of_eq rfl rfl
      · exact grows_doWrite { b with writeQueue := b.writeQueue ++ [packet] }
  | connected k reconnect failed =>
    unfold onHandler onConnected
    dsimp only
    split
    · exact .refl b
    · split
      · exact grows_of_eq rfl rfl
      · split <;> exact grows_of_eq rfl rfl
  | read k result =>
    unfold onHandler onRead
    dsimp only
    split
    · exact .refl b
    · cases result with
      | failed => exact grows_of_eq rfl rfl
      | malformed => exact grows_of_eq rfl rfl
      | messages => exact (grows_messages _ b hfine).trans (grows_of_eq rfl rfl)
  | written k failed =>
    unfold onHandler onWritten
    dsimp only
    split
    · exact .refl b
    · split
      · exact grows_of_eq rfl rfl
      · split
        · exact grows_doWrite { b with writeQueue := b.writeQueue.tail }
        · exact grows_of_eq rfl rfl

theorem grows_step (b : BotClient F) (e : Event F)
    (hfine : ∀ around, e = .run around → ∀ m ∈ around.arrived, Fine who m) :
    b.Grows (b.step e) := by
  unfold step
  split
  · next around =>
    split
    · exact .refl b
    · exact grows_onHandler { b with handlers := _ } _ (hfine around rfl)
  · split
    · exact .refl b
    · exact grows_of_eq rfl rfl
  · split
    · exact grows_of_eq rfl rfl
    · exact .refl b
  · split
    · split
      · exact grows_of_eq rfl rfl
      · exact .refl b
    · exact .refl b
  · split
    · split
      · exact grows_of_eq rfl rfl
      · exact .refl b
    · exact .refl b

end BotClient
end Game
