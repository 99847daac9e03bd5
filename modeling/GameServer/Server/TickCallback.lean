import GameServer.Game.Winnable
import GameServer.Infra.Run
import GameServer.Server.Threads

/-!
# The arguments of the tick callback

`callback(room->RoomId(), room->State(), room->IsGameOver(), room->WinnerId())`: every getter locks
the room for itself, and nothing says which of them is called first. A surrender on a network thread
falls between `Tick` and the first getter, or between two getters.

## When the arguments fit together

* A surrender that does not end the battle touches nothing but the state. The arguments are those of
  the moment at which the state is read.
* A surrender that ends the battle between two getters tears them apart: what is read before tells of
  a running battle, what is read after it of an ended one (`Torn`).
* A player who is alone and surrenders before the first tick leaves nobody alive.
-/

namespace Game

open Infra

variable {F : Type}

/-! ## The loop and one room -/

/-- Where the game loop is with one room. -/
inductive TickPc (F : Type) where
  | popAll
  | advance (inputs : List (InputCommand F))
  | arguments (state : Option (GameState F)) (gameOver : Option Bool) (winnerId : Option PlayerId)
  | callback (state : GameState F) (gameOver : Bool) (winnerId : PlayerId)

/-- One step of the loop; `getter` is the argument that is evaluated next. -/
def TickPc.next [Axis F] (getter : Getter) (game : GameRoom F) :
    TickPc F → GameRoom F × TickPc F
  | .popAll => (game.popAll.2, .advance game.popAll.1)
  | .advance inputs => (game.advance inputs, .arguments none none none)
  | .arguments (some state) (some gameOver) (some winnerId) =>
    (game, .callback state gameOver winnerId)
  | .arguments state gameOver winnerId =>
    match getter with
    | .state => (game, .arguments (state.getD game.state) gameOver winnerId)
    | .isGameOver => (game, .arguments state (gameOver.getD game.gameOver) winnerId)
    | .winnerId => (game, .arguments state gameOver (winnerId.getD game.winnerId))
  | .callback _ _ _ => (game, .popAll)

/-- One more argument is read. -/
theorem TickPc.next_arguments [Axis F] (getter : Getter) (game : GameRoom F)
    {state : Option (GameState F)} {gameOver : Option Bool} {winnerId : Option PlayerId}
    (hmore : ¬ (state.isSome = true ∧ gameOver.isSome = true ∧ winnerId.isSome = true)) :
    (arguments state gameOver winnerId).next getter game = match getter with
      | .state => (game, .arguments (state.getD game.state) gameOver winnerId)
      | .isGameOver => (game, .arguments state (gameOver.getD game.gameOver) winnerId)
      | .winnerId => (game, .arguments state gameOver (winnerId.getD game.winnerId)) := by
  cases state <;> cases gameOver <;> cases winnerId
  case some.some.some => exact absurd ⟨rfl, rfl, rfl⟩ hmore
  all_goals rfl

/-- A room, and where the loop is with it. -/
structure Ticking (F : Type) where
  game : GameRoom F
  pc : TickPc F

/-- The loop takes a step, or a network thread calls the room. -/
inductive TickEvent (F : Type) where
  | loop (getter : Getter)
  | handleInput (input : InputCommand F)
  | eliminatePlayer (playerId : PlayerId)

/-- The effect of an event. -/
def Ticking.step [Axis F] (c : Ticking F) : TickEvent F → Ticking F
  | .loop getter => let (game, pc) := c.pc.next getter c.game; { game := game, pc := pc }
  | .handleInput input => { c with game := c.game.exec (.handleInput input) }
  | .eliminatePlayer playerId => { c with game := c.game.exec (.eliminatePlayer playerId) }

/-- A room that has just been started, before the loop comes to it. -/
def Ticking.init [Axis F] (g : GameRoom F) (ids : List PlayerId) : Ticking F where
  game := g.start ids
  pc := .popAll

/-- Where the loop is, as far as room `r` is concerned. -/
def LoopPc.tickPc (r : RoomId) : LoopPc F → TickPc F
  | .advance roomId inputs _ => if roomId = r then .advance inputs else .popAll
  | .arguments roomId state gameOver winnerId _ =>
    if roomId = r then .arguments state gameOver winnerId else .popAll
  | .callback roomId state gameOver winnerId _ =>
    if roomId = r then .callback state gameOver winnerId else .popAll
  | _ => .popAll

variable [Axis F]

omit [Axis F] in
theorem TailPc.gameHeap_next (s : Server F) (pc : TailPc) : (pc.next s).1.gameHeap = s.gameHeap := by
  cases pc with
  | announce r winnerId losers => rfl
  | notify r winnerId losers todo =>
    cases todo with
    | nil => rfl
    | cons p todo =>
      dsimp only [next]
      split <;> rfl
  | close r => rfl
  | removing pc =>
    cases pc with
    | erase r => rfl
    | resetSession r todo =>
      cases todo with
      | nil => rfl
      | cons p todo =>
        dsimp only [next, RemovePc.next]
        split <;> rfl
    | resetRoom r p online todo => rfl
    | resetStatus r p online todo => rfl
    | removeGame r => rfl

/-- **The loop of the server** does with a room what `TickPc.next` does, or nothing. -/
theorem LoopPc.tickPc_next (ch : LoopChoice) (s : Server F) (r : RoomId) (pc : LoopPc F) :
    ((pc.next ch s).1.gameHeap r, (pc.next ch s).2.tickPc r) =
        (pc.tickPc r).next ch.getter (s.gameHeap r) ∨
      (pc.next ch s).1.gameHeap r = s.gameHeap r ∧ (pc.next ch s).2.tickPc r = pc.tickPc r := by
  -- A section of another room leaves this one alone.
  have hother : ∀ {r'} (f : GameRoom F → GameRoom F), r' ≠ r →
      (s.updateGame r' f).gameHeap r = s.gameHeap r :=
    fun f hr => Function.update_of_ne (Ne.symm hr) ..
  have hself : ∀ f : GameRoom F → GameRoom F, (s.updateGame r f).gameHeap r = f (s.gameHeap r) :=
    fun f => Function.update_self ..
  cases pc with
  | copyRooms =>
    refine Or.inr ?_
    dsimp only [next]
    split <;> exact ⟨rfl, rfl⟩
  | tick rooms =>
    cases rooms with
    | nil => exact Or.inr ⟨rfl, rfl⟩
    | cons r' rooms =>
      by_cases hr : r' = r
      · subst hr
        left
        show ((s.updateGame r' (·.popAll.2)).gameHeap r', tickPc r' (.advance r' _ rooms)) = _
        rw [hself, tickPc, if_pos rfl]
        rfl
      · right
        refine ⟨hother (·.popAll.2) hr, ?_⟩
        show tickPc r (.advance r' _ rooms) = .popAll
        rw [tickPc, if_neg hr]
  | advance r' inputs rooms =>
    by_cases hr : r' = r
    · subst hr
      left
      show ((s.updateGame r' (·.advance inputs)).gameHeap r',
        tickPc r' (.arguments r' none none none rooms)) = _
      rw [hself, tickPc, tickPc, if_pos rfl, if_pos rfl]
      rfl
    · right
      refine ⟨hother (·.advance inputs) hr, ?_⟩
      show tickPc r (.arguments r' none none none rooms) = _
      rw [tickPc, tickPc, if_neg hr, if_neg hr]
  | arguments r' state gameOver winner rooms =>
    -- The arguments are evaluated one after the other, in the order that `ch.getter` picks.
    by_cases hr : r' = r
    · subst hr
      left
      cases state <;> cases gameOver <;> cases winner
      case some.some.some st go w => simp [next, tickPc, TickPc.next]
      all_goals
        cases hgetter : ch.getter
        all_goals simp [next, tickPc, TickPc.next, hgetter]
    · right
      rcases next_arguments ch s r' state gameOver winner rooms with
        ⟨st, go, w, -, -, -, hnext⟩ | ⟨st, go, w, hnext, -⟩
      · rw [hnext, tickPc, tickPc, if_neg hr, if_neg hr]
        exact ⟨rfl, rfl⟩
      · rw [hnext, tickPc, tickPc, if_neg hr, if_neg hr]
        exact ⟨rfl, rfl⟩
  | callback r' st go w rooms =>
    have hnext : (next ch s (.callback r' st go w rooms)).1.gameHeap = s.gameHeap ∧
        (next ch s (.callback r' st go w rooms)).2.tickPc r = .popAll := by
      dsimp only [next]
      split <;> exact ⟨rfl, rfl⟩
    rw [hnext.1, hnext.2]
    by_cases hr : r' = r
    · left
      rw [tickPc, if_pos hr]
      rfl
    · right
      rw [tickPc, if_neg hr]
      exact ⟨rfl, rfl⟩
  | stateNotify r' st go w rooms =>
    right
    dsimp only [next]
    split <;> exact ⟨rfl, rfl⟩
  | setSettlement r' w losers rooms => exact Or.inr ⟨rfl, rfl⟩
  | attempt r' w losers rooms =>
    right
    dsimp only [next]
    split <;> exact ⟨rfl, rfl⟩
  | createBattle r' w losers rooms =>
    right
    dsimp only [next]
    split <;> exact ⟨rfl, rfl⟩
  | settleBattle r' w losers rooms =>
    right
    dsimp only [next]
    split
    · exact ⟨rfl, rfl⟩
    · split <;> exact ⟨rfl, rfl⟩
  | tail pc rooms =>
    right
    have hheap := TailPc.gameHeap_next s pc
    dsimp only [next]
    split
    · next hpc => rw [hpc] at hheap; exact ⟨congrFun hheap r, rfl⟩
    · next hpc => rw [hpc] at hheap; exact ⟨congrFun hheap r, rfl⟩

/-! ## Moments of a room -/

namespace GameRoom

/-- A state that a started room can get into. -/
def Reached (g₀ : GameRoom F) (ids : List PlayerId) (g : GameRoom F) : Prop :=
  ∃ sections, (g₀.start ids).run sections = g

/-- A battle that goes on has two live players. Before the first tick this need not be so. -/
def Checked (g : GameRoom F) : Prop :=
  g.gameOver = false → g.state.players.keys ≠ [] → 2 ≤ g.state.aliveIds.length

variable {g₀ g : GameRoom F} {ids : List PlayerId}

theorem Reached.exec (h : Reached g₀ ids g) (sec : Section F) : Reached g₀ ids (g.exec sec) := by
  obtain ⟨sections, rfl⟩ := h
  exact ⟨sections ++ [sec], List.foldl_append⟩

/-- All states of a room have the same players. -/
theorem Reached.keys (h : Reached g₀ ids g) :
    g.state.players.keys = (g₀.start ids).state.players.keys := by
  obtain ⟨sections, rfl⟩ := h
  exact keys_run sections _

theorem Reached.settled (h : Reached g₀ ids g) (hkeys : 2 ≤ g.state.players.keys.length) :
    g.Settled := by
  rw [h.keys] at hkeys
  obtain ⟨sections, rfl⟩ := h
  exact settled_run sections (settled_start_of_keys g₀ hkeys)

theorem Reached.winner_ne_zero (h : Reached g₀ ids g) (hsettled : g.Settled) (h0 : 0 ∉ ids)
    (hover : g.gameOver = true) : g.winnerId ≠ 0 := by
  obtain ⟨sections, rfl⟩ := h
  have halive := (hsettled.outcome.2.2.2 hover).1
  intro hzero
  rw [hzero] at halive
  exact h0 (mem_of_aliveAt_run halive)

omit [Axis F] in
theorem checked_checkGameOver (g : GameRoom F) : g.checkGameOver.Checked := by
  rw [checkGameOver_eq]
  split
  · exact nofun
  · next h =>
    intro _ hkeys
    by_contra hfew
    exact h ⟨by omega, hkeys⟩

theorem Checked.exec (h : g.Checked) (sec : Section F) : (g.exec sec).Checked := by
  cases sec with
  | handleInput input => exact h
  | popAll => exact h
  | advance inputs =>
    rw [GameRoom.exec, advance]
    split
    · exact h
    · exact checked_checkGameOver _
  | eliminatePlayer p =>
    rw [GameRoom.exec, eliminatePlayer]
    split
    · exact h
    · split
      · exact h
      · exact checked_checkGameOver _

theorem checked_advance (g : GameRoom F) (inputs : List (InputCommand F)) :
    (g.exec (.advance inputs)).Checked := by
  rw [GameRoom.exec, advance]
  split
  · next hover =>
    intro hrunning
    rw [hover] at hrunning
    cases hrunning
  · exact checked_checkGameOver _

/-- The surrender of a live player. -/
theorem exec_surrender {p : PlayerId} (hover : g.gameOver = false)
    (halive : g.state.aliveAt p = true) :
    (g.exec (.eliminatePlayer p)).state.aliveIds = g.others p ∧
    ((g.exec (.eliminatePlayer p)).gameOver = true ↔ (g.others p).length ≤ 1) := by
  have hkeys : g.state.players.keys ≠ [] :=
    List.ne_nil_of_mem (List.mem_filter.mp (GameState.mem_aliveIds.mpr halive)).1
  rw [exec, eliminatePlayer, if_neg (by simp [hover]), if_neg (by simp [halive]),
    checkGameOver_state, checkGameOver_eq]
  refine ⟨aliveIds_surrender g p, ?_⟩
  rw [aliveIds_surrender]
  split
  · next h => exact iff_of_true rfl h.1
  · next h =>
    refine iff_of_false (by simp [hover]) fun hfew => h ⟨hfew, ?_⟩
    exact hkeys

/-- While somebody is reading, a call from outside changes neither `game_over_` nor `winner_id_`,
if surrenders are safe. -/
theorem exec_outcome {sec : Section F} (hsec : ∀ inputs, sec ≠ .advance inputs)
    {reading : Prop} (hsafe : ∀ p, sec = .eliminatePlayer p → g.SafeSurrender p reading)
    (hreading : reading) :
    (g.exec sec).gameOver = g.gameOver ∧ (g.exec sec).winnerId = g.winnerId := by
  cases sec with
  | handleInput input => exact ⟨rfl, rfl⟩
  | popAll => exact ⟨rfl, rfl⟩
  | advance inputs => exact absurd rfl (hsec inputs)
  | eliminatePlayer p =>
    cases hover : g.gameOver with
    | true =>
      obtain ⟨-, ho, hw⟩ := exec_over hover (.eliminatePlayer p)
      exact ⟨ho, hw⟩
    | false =>
      have hafter := gameOver_surrender (hsafe p rfl) hreading hover
      refine ⟨hafter, ?_⟩
      rw [exec, eliminatePlayer] at hafter ⊢
      split
      · rfl
      · split
        · rfl
        · next hrunning halive =>
          rw [if_neg hrunning, if_neg halive, checkGameOver_eq] at hafter
          rw [checkGameOver_eq]
          split
          · next h => rw [if_pos h] at hafter; cases hafter
          · rfl

end GameRoom

open GameRoom

/-! ## Runs in which all is well -/

/-- What has been read so far is true of `m`. -/
structure Snapshot (state : Option (GameState F)) (gameOver : Option Bool)
    (winnerId : Option PlayerId) (m : GameRoom F) : Prop where
  state : ∀ s ∈ state, m.state = s
  gameOver : ∀ b ∈ gameOver, m.gameOver = b
  winnerId : ∀ w ∈ winnerId, m.winnerId = w

/-- Something has been read, but not everything. -/
def TickPc.Reading : TickPc F → Prop
  | .arguments state gameOver winnerId =>
    (state.isSome = true ∨ gameOver.isSome = true ∨ winnerId.isSome = true) ∧
      ¬ (state.isSome = true ∧ gameOver.isSome = true ∧ winnerId.isSome = true)
  | _ => False

/-- There is a moment `m` of which everything read so far is true. As long as something is left to
read, only the state may have changed since, and only if it has been read. -/
def TickPc.Fits (g₀ : GameRoom F) (ids : List PlayerId) (g : GameRoom F) : TickPc F → Prop
  | .popAll => True
  | .advance _ => True
  | .arguments state gameOver winnerId => g.Checked ∧
      ∃ m, Reached g₀ ids m ∧ m.Lively ∧ Snapshot state gameOver winnerId m ∧
        (¬ (state.isSome = true ∧ gameOver.isSome = true ∧ winnerId.isSome = true) →
          m.gameOver = g.gameOver ∧ m.winnerId = g.winnerId ∧ (state = none → m.state = g.state))
  | .callback state gameOver winnerId => g.Checked ∧
      ∃ m, Reached g₀ ids m ∧ m.Lively ∧ Snapshot (some state) (some gameOver) (some winnerId) m

/-- The invariant of the runs in which all is well. -/
structure Ticking.Good (g₀ : GameRoom F) (ids : List PlayerId) (c : Ticking F) : Prop where
  reached : Reached g₀ ids c.game
  lively : c.game.Lively
  fits : c.pc.Fits g₀ ids c.game

/-- The events of such a run: a surrender leaves somebody alive, and it does not end the battle
between two getters. -/
def Ticking.Safe (c : Ticking F) : TickEvent F → Prop
  | .eliminatePlayer p => c.game.SafeSurrender p c.pc.Reading
  | _ => True

variable {g₀ g : GameRoom F} {ids : List PlayerId} {c : Ticking F}

/-- **A call from outside** leaves a moment of which everything read is true. -/
theorem TickPc.Fits.exec {pc : TickPc F} (h : pc.Fits g₀ ids g) {sec : GameRoom.Section F}
    (hsec : ∀ inputs, sec ≠ .advance inputs)
    (hsafe : ∀ p, sec = .eliminatePlayer p → g.SafeSurrender p pc.Reading)
    (hreached : Reached g₀ ids g) (hlively : g.Lively) : pc.Fits g₀ ids (g.exec sec) := by
  have hlively' : (g.exec sec).Lively := by
    refine hlively.exec sec fun p hp hover halive => ?_
    exact ⟨(hsafe p hp hover halive).1, False.elim⟩
  cases pc with
  | popAll => trivial
  | advance inputs => trivial
  | callback st go w => exact ⟨h.1.exec sec, h.2⟩
  | arguments st go w =>
    obtain ⟨hchecked, m, hm, hmlively, hsnap, hmore⟩ := h
    refine ⟨hchecked.exec sec, ?_⟩
    by_cases hall : st.isSome = true ∧ go.isSome = true ∧ w.isSome = true
    · exact ⟨m, hm, hmlively, hsnap, absurd hall⟩
    · obtain ⟨hover, hwinner, hstate⟩ := hmore hall
      by_cases hreading : (TickPc.arguments st go w).Reading
      · obtain ⟨hover', hwinner'⟩ := exec_outcome hsec hsafe hreading
        cases st with
        | none =>
          -- The state is still to be read, so the moment is now.
          refine ⟨g.exec sec, hreached.exec sec, hlively', ⟨nofun, ?_, ?_⟩,
            fun _ => ⟨rfl, rfl, fun _ => rfl⟩⟩
          · rw [hover', ← hover]
            exact hsnap.gameOver
          · rw [hwinner', ← hwinner]
            exact hsnap.winnerId
        | some s =>
          exact ⟨m, hm, hmlively, hsnap, fun _ => ⟨hover.trans hover'.symm,
            hwinner.trans hwinner'.symm, nofun⟩⟩
      · -- Nothing has been read.
        have hnothing : st = none ∧ go = none ∧ w = none := by
          have hnone := not_or.mp fun hsome => hreading ⟨hsome, hall⟩
          rw [not_or] at hnone
          simpa using hnone
        obtain ⟨rfl, rfl, rfl⟩ := hnothing
        exact ⟨g.exec sec, hreached.exec sec, hlively', ⟨nofun, nofun, nofun⟩,
          fun _ => ⟨rfl, rfl, fun _ => rfl⟩⟩

/-- **A getter** returns what is true of the moment. -/
theorem TickPc.Fits.read {st : Option (GameState F)} {go : Option Bool} {w : Option PlayerId}
    (h : (arguments st go w).Fits g₀ ids g) (getter : Getter) :
    ((arguments st go w).next getter g).1 = g ∧
      ((arguments st go w).next getter g).2.Fits g₀ ids g := by
  obtain ⟨hchecked, m, hm, hmlively, hsnap, hmore⟩ := h
  by_cases hall : st.isSome = true ∧ go.isSome = true ∧ w.isSome = true
  · obtain ⟨hst, hgo, hw⟩ := hall
    obtain ⟨st, rfl⟩ := Option.isSome_iff_exists.mp hst
    obtain ⟨go, rfl⟩ := Option.isSome_iff_exists.mp hgo
    obtain ⟨w, rfl⟩ := Option.isSome_iff_exists.mp hw
    exact ⟨rfl, hchecked, m, hm, hmlively, hsnap⟩
  · obtain ⟨hover, hwinner, hstate⟩ := hmore hall
    rw [next_arguments getter g hall]
    cases getter with
    | state =>
      refine ⟨rfl, hchecked, m, hm, hmlively, ⟨?_, hsnap.gameOver, hsnap.winnerId⟩,
        fun _ => ⟨hover, hwinner, nofun⟩⟩
      intro s hs
      cases st with
      | none =>
        cases hs
        exact hstate rfl
      | some st => exact hsnap.state s hs
    | isGameOver =>
      refine ⟨rfl, hchecked, m, hm, hmlively, ⟨hsnap.state, ?_, hsnap.winnerId⟩,
        fun _ => ⟨hover, hwinner, hstate⟩⟩
      intro b hb
      cases go with
      | none =>
        cases hb
        exact hover
      | some go => exact hsnap.gameOver b hb
    | winnerId =>
      refine ⟨rfl, hchecked, m, hm, hmlively, ⟨hsnap.state, hsnap.gameOver, ?_⟩,
        fun _ => ⟨hover, hwinner, hstate⟩⟩
      intro p hp
      cases w with
      | none =>
        cases hp
        exact hwinner
      | some w => exact hsnap.winnerId p hp

/-- **An event** keeps the invariant, if it is safe. -/
theorem Ticking.good_step (h : c.Good g₀ ids) {e : TickEvent F} (hsafe : c.Safe e) :
    (c.step e).Good g₀ ids := by
  obtain ⟨game, pc⟩ := c
  obtain ⟨hreached, hlively, hfits⟩ := h
  cases e with
  | handleInput input =>
    exact ⟨hreached.exec (.handleInput input), hlively.exec (.handleInput input) nofun,
      hfits.exec nofun nofun hreached hlively⟩
  | eliminatePlayer p =>
    have hone : ∀ q, (.eliminatePlayer p : GameRoom.Section F) = .eliminatePlayer q →
        game.SafeSurrender q pc.Reading := by
      intro q hq
      cases hq
      exact hsafe
    refine ⟨hreached.exec (.eliminatePlayer p), hlively.exec (.eliminatePlayer p) ?_,
      hfits.exec nofun hone hreached hlively⟩
    intro q hq hover halive
    exact ⟨(hone q hq hover halive).1, False.elim⟩
  | loop getter =>
    cases pc with
    | popAll => exact ⟨hreached.exec .popAll, hlively.exec .popAll nofun, trivial⟩
    | advance inputs =>
      have hreached' := hreached.exec (.advance inputs)
      have hlively' := hlively.exec (.advance inputs) nofun
      exact ⟨hreached', hlively', checked_advance game inputs, _, hreached', hlively',
        ⟨nofun, nofun, nofun⟩, fun _ => ⟨rfl, rfl, fun _ => rfl⟩⟩
    | arguments st go w =>
      obtain ⟨hgame, hread⟩ := hfits.read getter
      show Ticking.Good g₀ ids ⟨(TickPc.next getter game (.arguments st go w)).1,
        (TickPc.next getter game (.arguments st go w)).2⟩
      rw [hgame]
      exact ⟨hreached, hlively, hread⟩
    | callback st go w => exact ⟨hreached, hlively, trivial⟩

/-! ## What the callback gets -/

/-- If the callback is called now, its arguments are those of one state of the room; and when the
battle is said to be over, the winner is the only one alive. -/
def Ticking.OneMoment (g₀ : GameRoom F) (ids : List PlayerId) (c : Ticking F) : Prop :=
  ∀ state gameOver winnerId, c.pc = .callback state gameOver winnerId →
    (∃ m, Reached g₀ ids m ∧ m.state = state ∧ m.gameOver = gameOver ∧ m.winnerId = winnerId) ∧
    (gameOver = true → state.aliveIds = [winnerId])

theorem Ticking.Good.oneMoment (h : c.Good g₀ ids) : c.OneMoment g₀ ids := by
  intro st go w hpc
  have hfits := h.fits
  rw [hpc] at hfits
  obtain ⟨-, m, hm, hmlively, hsnap⟩ := hfits
  have hstate := hsnap.state st rfl
  have hover := hsnap.gameOver go rfl
  have hwinner := hsnap.winnerId w rfl
  refine ⟨⟨m, hm, hstate, hover, hwinner⟩, fun hgo => ?_⟩
  rw [← hstate, ← hwinner]
  exact hmlively.ended (hover.trans hgo)

theorem Ticking.good_init (g₀ : GameRoom F) (ids : List PlayerId) :
    (Ticking.init g₀ ids).Good g₀ ids :=
  ⟨⟨[], rfl⟩, lively_start g₀ ids, trivial⟩

/-! ## Torn arguments -/

/-- One of the values tells of a running battle, and not all three do. -/
def Torn (state : Option (GameState F)) (gameOver : Option Bool) (winnerId : Option PlayerId) :
    Prop :=
  ((∃ s ∈ state, 2 ≤ s.aliveIds.length) ∨ gameOver = some false ∨ winnerId = some 0) ∧
    ¬ ((∃ s ∈ state, 2 ≤ s.aliveIds.length) ∧ gameOver = some false ∧ winnerId = some 0)

omit [Axis F] in
/-- What is read of an ended battle leaves torn arguments torn. -/
theorem Torn.read {st : Option (GameState F)} {go : Option Bool} {w : Option PlayerId}
    (h : Torn st go w) (hsettled : g.Settled) (hover : g.gameOver = true) (hwinner : g.winnerId ≠ 0) :
    Torn (some (st.getD g.state)) go w ∧ Torn st (some (go.getD g.gameOver)) w ∧
      Torn st go (some (w.getD g.winnerId)) := by
  have hone : ¬ 2 ≤ g.state.aliveIds.length := by
    rw [hsettled.ended hover, List.length_singleton]
    omega
  have hstate : (∃ s ∈ some (st.getD g.state), 2 ≤ s.aliveIds.length) ↔
      ∃ s ∈ st, 2 ≤ s.aliveIds.length := by
    cases st with
    | none => simpa using hone
    | some s => exact Iff.rfl
  have hgameOver : some (go.getD g.gameOver) = some false ↔ go = some false := by
    cases go with
    | none => simp [hover]
    | some b => exact Iff.rfl
  have hwinnerId : some (w.getD g.winnerId) = some 0 ↔ w = some 0 := by
    cases w with
    | none => simpa using hwinner
    | some p => exact Iff.rfl
  unfold Torn at h ⊢
  rw [hstate, hgameOver, hwinnerId]
  exact ⟨h, h, h⟩

omit [Axis F] in
/-- No state of a room with two players gives such arguments. -/
theorem not_torn (hsettled : g.Settled) (hwinner : g.gameOver = true → g.winnerId ≠ 0) :
    ¬ Torn (some g.state) (some g.gameOver) (some g.winnerId) := by
  rintro ⟨hold, hnew⟩
  cases hover : g.gameOver with
  | false =>
    obtain ⟨htwo, hzero⟩ := hsettled.running hover
    exact hnew ⟨⟨g.state, rfl, htwo⟩, congrArg some hover, congrArg some hzero⟩
  | true =>
    rcases hold with ⟨s, hs, htwo⟩ | hgo | hw
    · cases hs
      rw [hsettled.ended hover] at htwo
      simp at htwo
    · rw [hover] at hgo
      cases hgo
    · exact hwinner hover (Option.some.inj hw)

/-- All that has been read is of a battle in which nobody is left. -/
def TickPc.Hollow : TickPc F → Prop
  | .arguments state gameOver _ => (∀ s ∈ state, s.aliveIds = []) ∧ ∀ b ∈ gameOver, b = true
  | .callback state gameOver _ => state.aliveIds = [] ∧ gameOver = true
  | _ => True

/-- The arguments will not fit together any more. -/
def TickPc.TornApart (g : GameRoom F) : TickPc F → Prop
  | .arguments state gameOver winnerId => g.gameOver = true ∧ Torn state gameOver winnerId
  | .callback state gameOver winnerId => Torn (some state) (some gameOver) (some winnerId)
  | _ => False

/-- The next callback will go wrong. -/
def Ticking.Doomed (g₀ : GameRoom F) (ids : List PlayerId) (c : Ticking F) : Prop :=
  Reached g₀ ids c.game ∧
    (c.game.gameOver = true ∧ c.game.state.aliveIds = [] ∧ c.pc.Hollow ∨
      2 ≤ c.game.state.players.keys.length ∧ c.pc.TornApart c.game)

/-- **The callback** goes wrong. -/
theorem Ticking.Doomed.not_oneMoment (h : c.Doomed g₀ ids) (h0 : 0 ∉ ids) {st : GameState F}
    {go : Bool} {w : PlayerId} (hpc : c.pc = .callback st go w) : ¬ c.OneMoment g₀ ids := by
  intro hmoment
  obtain ⟨⟨m, hm, rfl, rfl, rfl⟩, honly⟩ := hmoment st go w hpc
  obtain ⟨hreached, ⟨-, -, hhollow⟩ | ⟨hkeys, htorn⟩⟩ := h
  · rw [hpc] at hhollow
    have hids := honly hhollow.2
    rw [hhollow.1] at hids
    cases hids
  · rw [hpc] at htorn
    have hsettled : m.Settled := by
      refine hm.settled ?_
      rwa [hm.keys, ← hreached.keys]
    exact not_torn hsettled (hm.winner_ne_zero hsettled h0) htorn

/-- An ended battle on which a section is run. -/
theorem TickPc.TornApart.exec {pc : TickPc F} (h : pc.TornApart g) (sec : GameRoom.Section F) :
    pc.TornApart (g.exec sec) := by
  cases pc with
  | popAll => exact h
  | advance inputs => exact h
  | arguments st go w => exact ⟨(exec_over h.1 sec).2.1, h.2⟩
  | callback st go w => exact h

/-- **Nothing helps any more** until the callback has been called. -/
theorem Ticking.doomed_step (h0 : 0 ∉ ids) (e : TickEvent F) (h : c.Doomed g₀ ids)
    (hmoment : c.OneMoment g₀ ids) : (c.step e).Doomed g₀ ids := by
  have hcallback : ∀ st go w, c.pc ≠ .callback st go w := fun st go w hpc =>
    h.not_oneMoment h0 hpc hmoment
  obtain ⟨game, pc⟩ := c
  obtain ⟨hreached, hdoomed⟩ := h
  -- What a call from outside leaves of it; the loop's own sections are of this kind as well.
  have hexec : ∀ sec, Reached g₀ ids (game.exec sec) ∧
      (game.gameOver = true ∧ game.state.aliveIds = [] →
        (game.exec sec).gameOver = true ∧ (game.exec sec).state.aliveIds = []) := by
    intro sec
    refine ⟨hreached.exec sec, fun ⟨hover, hnobody⟩ => ?_⟩
    obtain ⟨hs, ho, -⟩ := exec_over hover sec
    rw [hs]
    exact ⟨ho, hnobody⟩
  have hcall : ∀ sec, Ticking.Doomed g₀ ids ⟨game.exec sec, pc⟩ := by
    intro sec
    refine ⟨(hexec sec).1, ?_⟩
    rcases hdoomed with ⟨hover, hnobody, hhollow⟩ | ⟨hkeys, htorn⟩
    · obtain ⟨hover', hnobody'⟩ := (hexec sec).2 ⟨hover, hnobody⟩
      exact Or.inl ⟨hover', hnobody', hhollow⟩
    · refine Or.inr ⟨?_, htorn.exec sec⟩
      show 2 ≤ (game.exec sec).state.players.keys.length
      rw [keys_exec]
      exact hkeys
  cases e with
  | handleInput input => exact hcall (.handleInput input)
  | eliminatePlayer p => exact hcall (.eliminatePlayer p)
  | loop getter =>
    cases pc with
    | popAll =>
      refine ⟨(hexec .popAll).1, ?_⟩
      rcases hdoomed with ⟨hover, hnobody, -⟩ | ⟨-, htorn⟩
      · exact Or.inl ⟨hover, hnobody, trivial⟩
      · exact htorn.elim
    | advance inputs =>
      refine ⟨(hexec (.advance inputs)).1, ?_⟩
      rcases hdoomed with ⟨hover, hnobody, -⟩ | ⟨-, htorn⟩
      · obtain ⟨hover', hnobody'⟩ := (hexec (.advance inputs)).2 ⟨hover, hnobody⟩
        exact Or.inl ⟨hover', hnobody', nofun, nofun⟩
      · exact htorn.elim
    | callback st go w => exact absurd rfl (hcallback st go w)
    | arguments st go w =>
      have hread : ∀ st' go' w', (st' = st ∨ st' = some (st.getD game.state)) →
          (go' = go ∨ go' = some (go.getD game.gameOver)) →
          (Torn st go w → game.gameOver = true → game.Settled → game.winnerId ≠ 0 →
            Torn st' go' w') →
          Ticking.Doomed g₀ ids ⟨game, .arguments st' go' w'⟩ := by
        intro st' go' w' hst hgo htear
        refine ⟨hreached, ?_⟩
        rcases hdoomed with ⟨hover, hnobody, hhollow⟩ | ⟨hkeys, hover, htorn⟩
        · refine Or.inl ⟨hover, hnobody, ?_, ?_⟩
          · rcases hst with rfl | rfl
            · exact hhollow.1
            · rintro _ ⟨⟩
              cases st with
              | none => exact hnobody
              | some s => exact hhollow.1 s rfl
          · rcases hgo with rfl | rfl
            · exact hhollow.2
            · rintro _ ⟨⟩
              cases go with
              | none => exact hover
              | some b => exact hhollow.2 b rfl
        · have hsettled : game.Settled := hreached.settled hkeys
          exact Or.inr ⟨hkeys, hover,
            htear htorn hover hsettled (hreached.winner_ne_zero hsettled h0 hover)⟩
      by_cases hall : st.isSome = true ∧ go.isSome = true ∧ w.isSome = true
      · obtain ⟨hst, hgo, hw⟩ := hall
        obtain ⟨st, rfl⟩ := Option.isSome_iff_exists.mp hst
        obtain ⟨go, rfl⟩ := Option.isSome_iff_exists.mp hgo
        obtain ⟨w, rfl⟩ := Option.isSome_iff_exists.mp hw
        refine ⟨hreached, ?_⟩
        rcases hdoomed with ⟨hover, hnobody, hhollow⟩ | ⟨hkeys, -, htorn⟩
        · exact Or.inl ⟨hover, hnobody, hhollow.1 st rfl, hhollow.2 go rfl⟩
        · exact Or.inr ⟨hkeys, htorn⟩
      · have hnext := TickPc.next_arguments getter game hall
        show Ticking.Doomed g₀ ids ⟨(TickPc.next getter game (.arguments st go w)).1,
          (TickPc.next getter game (.arguments st go w)).2⟩
        rw [hnext]
        cases getter with
        | state =>
          exact hread _ go w (Or.inr rfl) (Or.inl rfl) fun ht ho hs hw => (ht.read hs ho hw).1
        | isGameOver =>
          exact hread st _ w (Or.inl rfl) (Or.inr rfl) fun ht ho hs hw => (ht.read hs ho hw).2.1
        | winnerId =>
          exact hread st go _ (Or.inl rfl) (Or.inl rfl) fun ht ho hs hw => (ht.read hs ho hw).2.2

/-- **An unsafe surrender** spoils the next callback. -/
theorem Ticking.doomed_of_unsafe (h : c.Good g₀ ids) {e : TickEvent F} (hstale : ¬ c.Safe e) :
    (c.step e).Doomed g₀ ids := by
  obtain ⟨game, pc⟩ := c
  obtain ⟨hreached, -, hfits⟩ := h
  cases e with
  | loop getter => exact absurd trivial hstale
  | handleInput input => exact absurd trivial hstale
  | eliminatePlayer p =>
    have hsurrender : ¬ game.SafeSurrender p pc.Reading := hstale
    unfold GameRoom.SafeSurrender at hsurrender
    rw [Classical.not_imp, Classical.not_imp] at hsurrender
    obtain ⟨hover, halive, hbad⟩ := hsurrender
    obtain ⟨hids, hends⟩ := exec_surrender hover halive
    refine ⟨hreached.exec (.eliminatePlayer p), ?_⟩
    have hkeys : game.state.players.keys ≠ [] :=
      List.ne_nil_of_mem (List.mem_filter.mp (GameState.mem_aliveIds.mpr halive)).1
    -- After a tick there are two live players, so one of them is left.
    have hleft : game.Checked → game.others p ≠ [] := by
      intro hchecked
      rw [← aliveIds_surrender]
      exact aliveIds_eliminate (hchecked hover hkeys) p
    by_cases hnobody : game.others p = []
    · refine Or.inl ⟨hends.mpr (by simp [hnobody]), hids.trans hnobody, ?_⟩
      cases pc with
      | popAll => trivial
      | advance inputs => trivial
      | arguments st go w => exact absurd hnobody (hleft hfits.1)
      | callback st go w => exact absurd hnobody (hleft hfits.1)
    · have hreading : pc.Reading ∧ (game.others p).length ≤ 1 := by
        rw [not_and, Classical.not_imp] at hbad
        obtain ⟨hreading, hfew⟩ := hbad hnobody
        exact ⟨hreading, by omega⟩
      obtain ⟨hreading, hfew⟩ := hreading
      cases pc with
      | popAll => exact hreading.elim
      | advance inputs => exact hreading.elim
      | callback st go w => exact hreading.elim
      | arguments st go w =>
        obtain ⟨hchecked, m, hm, -, hsnap, hmore⟩ := hfits
        obtain ⟨hsome, hnotall⟩ := hreading
        obtain ⟨hmover, hmwinner, -⟩ := hmore hnotall
        have htwo : 2 ≤ game.state.players.keys.length :=
          Nat.le_trans (hchecked hover hkeys) (List.length_filter_le ..)
        refine Or.inr ⟨?_, hends.mpr hfew, ?_⟩
        · show 2 ≤ (game.exec _).state.players.keys.length
          rw [keys_exec]
          exact htwo
        -- All that has been read tells of a running battle.
        · have hmsettled : m.Settled := hm.settled (by rwa [hm.keys, ← hreached.keys])
          obtain ⟨hmtwo, hmzero⟩ := hmsettled.running (hmover.trans hover)
          constructor
          · rcases hsome with hst | hgo | hw
            · obtain ⟨s, rfl⟩ := Option.isSome_iff_exists.mp hst
              exact Or.inl ⟨s, rfl, hsnap.state s rfl ▸ hmtwo⟩
            · obtain ⟨b, rfl⟩ := Option.isSome_iff_exists.mp hgo
              right
              left
              rw [← hsnap.gameOver b rfl, hmover, hover]
            · obtain ⟨q, rfl⟩ := Option.isSome_iff_exists.mp hw
              right
              right
              rw [← hsnap.winnerId q rfl, hmzero]
          · rintro ⟨⟨s, hs, -⟩, rfl, rfl⟩
            exact hnotall ⟨by rw [Option.mem_def.mp hs]; rfl, rfl, rfl⟩

/--
**The arguments of the tick callback.**

Any earlier use of the `GameRoom` object, `Start` with any players, then the game loop, tick after
tick, and calls of `HandleInput` and `EliminatePlayer` at any moment. As long as every surrender is
safe, the arguments of every callback are those of one moment. In a run that ends with a callback,
one that is not safe spoils some callback.
-/
theorem callback_oneMoment_iff (g₀ : GameRoom F) (ids : List PlayerId)
    (events : List (TickEvent F)) :
    (AllSteps Ticking.step Ticking.Safe (Ticking.init g₀ ids) events →
      AllStates Ticking.step (Ticking.OneMoment g₀ ids) (Ticking.init g₀ ids) events) ∧
    ((0 : PlayerId) ∉ ids →
      (∃ state gameOver winnerId, (events.foldl Ticking.step (Ticking.init g₀ ids)).pc =
        .callback state gameOver winnerId) →
      (AllStates Ticking.step (Ticking.OneMoment g₀ ids) (Ticking.init g₀ ids) events ↔
        AllSteps Ticking.step Ticking.Safe (Ticking.init g₀ ids) events)) := by
  have hgood := Ticking.good_init g₀ ids
  have hsound : AllSteps Ticking.step Ticking.Safe (Ticking.init g₀ ids) events →
      AllStates Ticking.step (Ticking.OneMoment g₀ ids) (Ticking.init g₀ ids) events := by
    intro hsafe
    have hall := AllStates.of_allSteps (I := Ticking.Good g₀ ids)
      (fun _ _ h hs => Ticking.good_step h hs) events hgood hsafe
    exact hall.imp (fun _ h => h.oneMoment) events
  refine ⟨hsound, fun h0 ⟨st, go, w, hpc⟩ => ⟨fun hall => ?_, hsound⟩⟩
  refine allSteps_of_allStates (I := Ticking.Good g₀ ids) (B := Ticking.Doomed g₀ ids)
    (fun _ _ h hs => Ticking.good_step h hs) (fun _ _ h hu => Ticking.doomed_of_unsafe h hu)
    (fun _ e h hm => Ticking.doomed_step h0 e h hm) events hgood ?_ hall
  exact fun hdoomed => hdoomed.not_oneMoment h0 hpc

/-- A surrender between `State` and `IsGameOver`. -/
theorem callback_counterexample :
    ¬ AllStates Ticking.step (Ticking.OneMoment ({ roomId := 1000 } : GameRoom Coord) [1, 2])
      (Ticking.init { roomId := 1000 } [1, 2])
      [.loop .state, .loop .state, .loop .state, .eliminatePlayer 1, .loop .isGameOver,
        .loop .winnerId, .loop .state] := by
  intro h
  have hlast := h.last _ _ _ _ rfl
  have hids := hlast.2 rfl
  cases hids

end Game
