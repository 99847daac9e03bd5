import GameServer.Server.Board
import GameServer.Server.Tasks

/-!
# Ended games can be settled

In every run of the server, whatever it is asked to do and in whatever order its threads take their
steps, the tick callback asks for settlements that `SettleBattle` accepts (`settleable`), as long as
no surrender hits the only live player of a battle that is not over, and none ends a battle while
the game loop is between `WinnerId` and `IsGameOver`.

A battle of one player is the first exception: a surrender before its first tick ends it without a
winner, and its room is never settled.
-/

namespace Game

open Infra

variable {ι F : Type}

/-! ## The view of the server -/

namespace Server

/-- The ids. -/
def ids (s : Server F) : Ids where
  nextPlayerId := s.nextPlayerId
  accounts := s.loginService.accountPlayers
  tokens := s.loginService.sessionTokens
  session session := (s.sessionHeap session).playerId

/-- The view. -/
def board (s : Server F) : Board F where
  ids := s.ids
  nextRoomId := s.nextRoomId
  ready r p := ((s.roomHeap r).players.get p).map RoomPlayer.ready
  state r := (s.roomHeap r).state
  games := s.gameLoop
  gameHeap := s.gameHeap
  log := s.battleLog

/-- A section of a session that leaves its player alone. -/
theorem board_updateSession (s : Server F) (session : SessionId) {f : Session → Session}
    (hf : ∀ state, (f state).playerId = state.playerId) :
    (s.updateSession session f).board = s.board := by
  unfold board ids updateSession
  congr 2
  funext session'
  by_cases h : session' = session
  · rw [h]
    dsimp only
    rw [Function.update_self, hf]
  · dsimp only
    rw [Function.update_of_ne h]

@[simp] theorem board_setSessionRoomId (s : Server F) (session : SessionId) (r : RoomId) :
    (s.setSessionRoomId session r).board = s.board :=
  board_updateSession s session fun _ => rfl

/-- A section of a room. -/
theorem board_updateRoom (s : Server F) (r : RoomId) (f : Room → Room) :
    (s.updateRoom r f).board =
      { s.board with
        ready := Function.update s.board.ready r
          fun p => ((f (s.roomHeap r)).players.get p).map RoomPlayer.ready
        state := Function.update s.board.state r (f (s.roomHeap r)).state } := by
  unfold board updateRoom
  congr 1
  · funext r' p
    by_cases h : r' = r
    · rw [h]
      dsimp only
      rw [Function.update_self, Function.update_self]
    · dsimp only
      rw [Function.update_of_ne h, Function.update_of_ne h]
  · funext r'
    by_cases h : r' = r
    · rw [h]
      dsimp only
      rw [Function.update_self, Function.update_self]
    · dsimp only
      rw [Function.update_of_ne h, Function.update_of_ne h]

/-- A section of a room that leaves the flags of its players alone. -/
theorem board_updateRoom_state (s : Server F) (r : RoomId) {f : Room → Room}
    (hready : ∀ room p, ((f room).players.get p).map RoomPlayer.ready =
      (room.players.get p).map RoomPlayer.ready) : (s.updateRoom r f).board =
      { s.board with state := Function.update s.board.state r (f (s.roomHeap r)).state } := by
  rw [board_updateRoom]
  simp only [hready]
  exact congrArg (fun ready =>
    { s.board with
      ready := ready
      state := Function.update s.board.state r (f (s.roomHeap r)).state })
    (Function.update_eq_self r s.board.ready)

/-- A section of a room that leaves its state alone, too. -/
theorem board_updateRoom_same (s : Server F) (r : RoomId) {f : Room → Room}
    (hready : ∀ room p, ((f room).players.get p).map RoomPlayer.ready =
      (room.players.get p).map RoomPlayer.ready)
    (hstate : ∀ room, (f room).state = room.state) : (s.updateRoom r f).board = s.board := by
  rw [board_updateRoom_state s r hready, hstate]
  exact congrArg (fun state => { s.board with state := state })
    (Function.update_eq_self r s.board.state)

theorem ready_modify (players : UMap PlayerId RoomPlayer) (p q : PlayerId) (connected : Bool) :
    ((players.modify p ({ · with connected := connected })).get q).map RoomPlayer.ready =
      (players.get q).map RoomPlayer.ready := by
  rw [UMap.get_modify]
  split
  · next h =>
    rw [h]
    cases players.get p <;> rfl
  · rfl

@[simp] theorem board_onPlayerReconnect (s : Server F) (r : RoomId) (p : PlayerId) :
    (s.updateRoom r (·.onPlayerReconnect p)).board = s.board :=
  board_updateRoom_same s r (fun room q => ready_modify room.players p q true) fun _ => rfl

@[simp] theorem board_onPlayerDisconnect (s : Server F) (r : RoomId) (p : PlayerId) :
    (s.updateRoom r (·.onPlayerDisconnect p)).board = s.board :=
  board_updateRoom_same s r (fun room q => ready_modify room.players p q false) fun _ => rfl

/-- The players of a new room are not ready. -/
theorem ready_addPlayers : ∀ (players : List PlayerId) (room : Room) (p : PlayerId),
    room.state = .waiting → (∀ q, (room.players.get q).all (!·.ready)) →
    ((players.foldl Room.addPlayer room).players.get p).map RoomPlayer.ready =
      if p ∈ players ∨ (room.players.get p).isSome then some false else none
  | [], room, p, _, hready => by
    have := hready p
    cases h : room.players.get p with
    | none => simp [h]
    | some x => simpa [h] using this
  | q :: players, room, p, hstate, hready => by
    have hadd : room.addPlayer q = { room with players := room.players.insert q {} } := by
      rw [Room.addPlayer, if_neg (not_not.mpr hstate)]
    rw [List.foldl_cons, hadd,
      ready_addPlayers players { room with players := room.players.insert q {} } p hstate]
    · simp only [UMap.get_insert, List.mem_cons]
      by_cases hp : p = q <;> simp [hp]
    · intro p'
      simp only [UMap.get_insert]
      split
      · rfl
      · exact hready p'

/-- `CreateRoom`. -/
theorem board_createRoom (s : Server F) (players : List PlayerId) :
    (s.createRoom players).2.board =
      { s.board with
        nextRoomId := s.nextRoomId + 1
        ready := Function.update s.board.ready s.nextRoomId
          fun p => if p ∈ players then some false else none
        state := Function.update s.board.state s.nextRoomId .waiting } := by
  have hsame : (s.createRoom players).2.board = (s.openRoom players).board :=
    view_enterRooms board (fun _ _ _ => rfl) board_setSessionRoomId s.nextRoomId players _
  rw [hsame]
  unfold board openRoom
  congr 1
  · funext r p
    by_cases h : r = s.nextRoomId
    · rw [h]
      dsimp only
      rw [Function.update_self, Function.update_self, ready_addPlayers players {} p rfl (by simp)]
      simp
    · dsimp only
      rw [Function.update_of_ne h, Function.update_of_ne h]
  · funext r
    by_cases h : r = s.nextRoomId
    · rw [h]
      dsimp only
      rw [Function.update_self, Function.update_self, state_addPlayers]
    · dsimp only
      rw [Function.update_of_ne h, Function.update_of_ne h]

end Server

/-! ## What a task carries with it -/

/-- The players of a room to come. -/
def MatchPc.Local : MatchPc → Prop
  | .createRoom players => 0 ∉ players
  | _ => True

/-- The room whose battle a request is about to register. -/
def HandlerPc.starts : HandlerPc F → Option RoomId
  | .readyNotify _ roomId _ true => some roomId
  | .startSnapshot roomId => some roomId
  | .addGame roomId _ => some roomId
  | _ => none

/-- The player of a request is that of its session, and the players of a battle are ready. -/
def HandlerPc.Local : HandlerPc F → Prop
  | .matching pc _ => pc.Local
  | .setReady p _ _ => 0 ≤ p
  | .addGame _ players => players ≠ [] ∧ ∀ p ∈ players, 0 < p
  | _ => True

/-- The id that a login has found or taken. -/
def AccountPc.Local : AccountPc → Prop
  | .enter _ p => 0 < p
  | .createPlayer _ p => 0 < p
  | .done _ p _ => 0 < p
  | _ => True

/-- The player of a login, once its account or its token has been looked up. -/
def LoginPc.Local : LoginPc → Prop
  | .account _ call => call.Local
  | .storeToken _ p => 0 < p
  | .closeOther _ p _ => 0 < p
  | .bindPlayerId _ p _ => 0 < p
  | _ => True

/-- The room whose battle a task is about to register. -/
def Task.starts : Task F → Option RoomId
  | .worker pc => pc.starts
  | _ => none

/-- What a task that is not the game loop carries with it. -/
def Task.Local : Task F → Prop
  | .worker pc => pc.Local
  | .login pc => pc.Local
  | .loop _ => False
  | _ => True

/-! ## Every step is a change -/

section

variable [Axis F] {safe : RoomId → PlayerId → Prop} {s : Server F}

/-- A step with no effect on the view. -/
theorem Server.board_stay {s' : Server F} (a : Option RoomId) (h : s'.board = s.board) :
    s.board.Change safe a s'.board a := by
  rw [h]
  exact .stay a

theorem MatchPc.change {pc : MatchPc} (hlocal : pc.Local) :
    s.board.Change safe none (pc.next s).1.board none ∧ ∀ pc' ∈ (pc.next s).2, pc'.Local := by
  cases pc with
  | push p session =>
    rw [next]
    split
    · exact ⟨.stay _, fun _ hpc' => by cases hpc'⟩
    · refine ⟨.stay _, fun pc' hpc' => ?_⟩
      cases hpc'
      split <;> trivial
  | contains p session =>
    rw [next]
    refine ⟨.stay _, fun pc' hpc' => ?_⟩
    cases hpc'
    split <;> trivial
  | setStatus p session pushed => exact ⟨.stay _, fun pc' hpc' => by cases hpc'; trivial⟩
  | setPlayerRoom p session pushed => exact ⟨.stay _, fun pc' hpc' => by cases hpc'; trivial⟩
  | setSessionRoom p session pushed =>
    exact ⟨Server.board_stay _ (s.board_setSessionRoomId session 0),
      fun pc' hpc' => by cases hpc'; trivial⟩
  | reply session pushed =>
    rw [next]
    split
    · exact ⟨.stay _, fun pc' hpc' => by cases hpc'; trivial⟩
    · exact ⟨.stay _, fun _ hpc' => by cases hpc'⟩
  | tryPop =>
    refine ⟨.stay _, fun pc' hpc' => ?_⟩
    rw [next] at hpc'
    dsimp only at hpc'
    split at hpc'
    · cases hpc'
    · cases hpc'
      intro h0
      refine s.matchQueue.zero_notMem ?_
      rw [← s.matchQueue.tryPopN_append s.needCount]
      exact List.mem_append_left _ h0
  | createRoom players =>
    refine ⟨?_, fun pc' hpc' => by cases hpc'; trivial⟩
    rw [next]
    dsimp only
    rw [Server.board_createRoom]
    exact .openRoom players hlocal
  | joinStatus r players todo =>
    cases todo <;> exact ⟨.stay _, fun pc' hpc' => by cases hpc'; trivial⟩
  | joinRoom r players p todo => exact ⟨.stay _, fun pc' hpc' => by cases hpc'; trivial⟩
  | joinNotify r players p todo =>
    refine ⟨Server.board_stay _ ?_, fun pc' hpc' => by cases hpc'; trivial⟩
    rw [next]
    dsimp only
    split <;> rfl

omit [Axis F] in
/-- `RemoveRoom` takes the battle off at the end. -/
theorem RemovePc.board_next (s : Server F) (pc : RemovePc) : (pc.next s).1.board = s.board ∨
    ∃ r, (pc.next s).1.board = { s.board with games := s.board.games.erase r } := by
  cases pc with
  | resetSession r todo =>
    cases todo with
    | nil => exact Or.inl rfl
    | cons p todo =>
      rw [next]
      split
      · exact Or.inl (s.board_setSessionRoomId _ 0)
      · exact Or.inl rfl
  | removeGame r => exact Or.inr ⟨r, rfl⟩
  | _ => exact Or.inl rfl

theorem RemovePc.change (pc : RemovePc) : s.board.Change safe none (pc.next s).1.board none := by
  rcases pc.board_next s with h | ⟨r, h⟩
  · exact Server.board_stay _ h
  · rw [h]
    exact .unregister r

/-- **Every step of a request is a change**, and the request stays one that knows its players. -/
theorem HandlerPc.change {pc : HandlerPc F} (hlocal : pc.Local) (hids : s.ids.Positive)
    (hstarted : ∀ r, pc.starts = some r → s.board.Started r)
    (hsafe : ∀ session p r, pc = .eliminate session p r → safe r p) :
    s.board.Change safe pc.starts (pc.next s).1.board (pc.next s).2.starts ∧
      (pc.next s).2.Local := by
  cases pc with
  | done => exact ⟨.stay _, trivial⟩
  | handleMatch session requested =>
    rw [next]
    split <;> exact ⟨.stay _, trivial⟩
  | matching pc rest =>
    have h : s.board.Change safe none (pc.next s).1.board none ∧ _ := MatchPc.change hlocal
    rw [next]
    split
    · next heq => rw [heq] at h; exact ⟨h.1, h.2 _ rfl⟩
    · next heq => rw [heq] at h; exact ⟨h.1, trivial⟩
  | requeue todo =>
    cases todo with
    | nil => exact ⟨.stay _, trivial⟩
    | cons p todo =>
      rw [next]
      split <;> exact ⟨.stay _, trivial⟩
  | handleReady session ready =>
    rw [next]
    split
    · exact ⟨.stay _, hids.session session⟩
    · exact ⟨.stay _, trivial⟩
  | setReady p r ready =>
    rw [next]
    split
    · next started room hready =>
      obtain ⟨hwait, hstate⟩ := Room.state_setReadyAndTryStart hready
      obtain ⟨hmem, hplayers, hall⟩ := Room.players_setReadyAndTryStart hready
      -- The players stay the same, and a flag set to true is that of the sender, whose id is
      -- not negative.
      have hflags : ∀ q, ((room.players.get q).map RoomPlayer.ready).isSome ↔
          (s.board.ready r q).isSome := by
        intro q
        rw [hplayers, UMap.get_modify]
        unfold Server.board
        split
        · next hq => rw [hq]; simp
        · rfl
      have hnew : ∀ q, (room.players.get q).map RoomPlayer.ready = some true →
          s.board.ready r q = some true ∨ 0 ≤ q := by
        intro q hq
        rw [hplayers, UMap.get_modify] at hq
        split at hq
        · next hqp => exact Or.inr (hqp ▸ hlocal)
        · exact Or.inl hq
      refine ⟨?_, trivial⟩
      dsimp only
      rw [Server.board_updateRoom, hstate]
      cases started with
      | false =>
        have hsame : Function.update s.board.state r .waiting = s.board.state := by
          rw [← hwait]
          exact Function.update_eq_self r s.board.state
        rw [if_neg (by simp), hsame]
        exact .setReady r _ hflags hnew
      | true =>
        -- All are ready: this request is the one that starts the battle.
        refine .start r _ hflags hnew hwait ⟨p, ?_⟩ fun q hq => ?_
        · rwa [← hflags, hplayers, UMap.get_modify_self, Option.isSome_map, Option.isSome_map]
        · obtain ⟨x, hx⟩ := Option.isSome_iff_exists.mp (Option.isSome_map .. ▸ hq)
          rw [hx, Option.map_some, Room.ready_of_allReady (hall rfl) hx]
    · exact ⟨.stay _, trivial⟩
  | readyNotify p r ready started => cases started <;> exact ⟨.stay _, trivial⟩
  | startSnapshot r =>
    obtain ⟨-, -, ⟨p, hp⟩, hpositive⟩ := hstarted r rfl
    have hmem : ∀ q, q ∈ (s.roomHeap r).playerIds ↔ (s.board.ready r q).isSome := by
      intro q
      unfold Server.board
      rw [Option.isSome_map]
      exact (s.roomHeap r).players.mem_keys
    exact ⟨.stay _, List.ne_nil_of_mem ((hmem p).mpr hp), fun q hq => hpositive q ((hmem q).mp hq)⟩
  | addGame r players => exact ⟨.register r players hlocal.1 hlocal.2, trivial⟩
  | startStatus r players todo => cases todo <;> exact ⟨.stay _, trivial⟩
  | startRoom r players p todo => exact ⟨.stay _, trivial⟩
  | startNotify r players => exact ⟨.stay _, trivial⟩
  | handleLeave session requested =>
    rw [next]
    split
    · exact ⟨.stay _, trivial⟩
    · split <;> exact ⟨.stay _, trivial⟩
  | ifWaiting session p r =>
    rw [next]
    split <;> exact ⟨.stay _, trivial⟩
  | ifPlaying session p r =>
    rw [next]
    split <;> exact ⟨.stay _, trivial⟩
  | leaveSnapshot session p r => exact ⟨.stay _, trivial⟩
  | leaveNotify session p r rest => exact ⟨.stay _, trivial⟩
  | removing pc rest =>
    have h : s.board.Change safe none (pc.next s).1.board none := pc.change
    rw [next]
    split <;> (next heq => rw [heq] at h; exact ⟨h, trivial⟩)
  | findGame session p r =>
    rw [next]
    split <;> exact ⟨.stay _, trivial⟩
  | eliminate session p r =>
    refine ⟨.exec r (.eliminatePlayer p) (fun _ hsec => by cases hsec) fun q hq => ?_, trivial⟩
    cases hq
    exact hsafe session p r rfl
  | surrenderNotify session p r => exact ⟨.stay _, trivial⟩
  | handleInput session nowMs request =>
    rw [next]
    split <;> exact ⟨.stay _, trivial⟩
  | pushInput r input => exact
    ⟨.exec r (.handleInput input) (fun _ hsec => by cases hsec) fun _ hsec => (by cases hsec),
      trivial⟩

/-! ## Logins, closes and the rest -/

/-- A step that only concerns player ids. -/
theorem Server.board_bind {s' : Server F} (h : s'.board = { s.board with ids := s'.ids })
    (hids : s.ids.Positive → s'.ids.Positive) : s.board.Change safe none s'.board none := by
  rw [h]
  exact .bind _ hids

theorem Ids.Positive.of_next {ids : Ids} (h : ids.Positive) :
    { ids with nextPlayerId := ids.nextPlayerId + 1 }.Positive :=
  { h with next := Int.lt_add_one_of_le h.next.le }

theorem AccountPc.change (call : AccountPc) (hlocal : call.Local) (hids : s.ids.Positive) :
    s.board.Change safe none (call.next s).1.board none ∧ (call.next s).2.Local := by
  cases call with
  | start account =>
    rw [next]
    split
    · exact ⟨Server.board_bind rfl Ids.Positive.of_next, trivial⟩
    · exact ⟨.stay _, trivial⟩
  | find key =>
    rw [next]
    split
    · next p hp => exact ⟨.stay _, hids.account key p hp⟩
    · exact ⟨.stay _, trivial⟩
  | takeId key => exact ⟨Server.board_bind rfl Ids.Positive.of_next, hids.next⟩
  | enter key p =>
    refine ⟨Server.board_bind rfl fun h => { h with account := fun account q hq => ?_ }, hlocal⟩
    change Function.update s.loginService.accountPlayers key (some p) account = some q at hq
    rw [Function.update_apply] at hq
    split at hq
    · cases hq
      exact hlocal
    · exact h.account account q hq
  | createPlayer key p => exact ⟨.stay _, hlocal⟩
  | done key p created => exact ⟨.stay _, hlocal⟩

/-- A section of a session that binds its player. -/
theorem Server.change_updateSession (session : SessionId) {f : Session → Session}
    (hf : ∀ state, 0 ≤ (f state).playerId) :
    s.board.Change safe none (s.updateSession session f).board none := by
  refine board_bind rfl fun h => { h with session := fun session' => ?_ }
  change 0 ≤ (Function.update s.sessionHeap session (f (s.sessionHeap session)) session').playerId
  rw [Function.update_apply]
  split
  · exact hf _
  · exact h.session session'

theorem LoginPc.change {pc : LoginPc} (hlocal : pc.Local) (hids : s.ids.Positive)
    (ch : LoginChoice) :
    s.board.Change safe none (pc.next ch s).1.board none ∧ (pc.next ch s).2.Local := by
  cases pc with
  | account session call =>
    cases call with
    | done key p created => exact ⟨.stay _, hlocal⟩
    | start account => exact AccountPc.change (.start account) hlocal hids
    | find key => exact AccountPc.change (.find key) hlocal hids
    | takeId key => exact AccountPc.change (.takeId key) hlocal hids
    | enter key p => exact AccountPc.change (.enter key p) hlocal hids
    | createPlayer key p => exact AccountPc.change (.createPlayer key p) hlocal hids
  | storeToken session p =>
    refine ⟨Server.board_bind rfl fun h => { h with token := fun q token hq => ?_ }, hlocal⟩
    change Function.update s.loginService.sessionTokens p _ q = some token at hq
    rw [Function.update_apply] at hq
    split at hq
    · next hqp => exact hqp ▸ hlocal
    · exact h.token q token hq
  | closeOther session p token =>
    refine ⟨?_, hlocal⟩
    rw [next, Server.closeOther]
    split
    · split
      · exact Server.board_stay _ (s.board_updateSession _ fun _ => rfl)
      · exact .stay _
    · exact .stay _
  | checkToken session p sessionToken =>
    rw [next]
    split
    · exact ⟨.stay _, trivial⟩
    · next h => exact ⟨.stay _, hids.token p sessionToken (not_not.mp h)⟩
  | bindPlayerId session p token =>
    cases token <;>
      exact ⟨Server.change_updateSession session fun _ => Int.le_of_lt hlocal, trivial⟩
  | bindPlayer session p token => cases token <;> exact ⟨.stay _, trivial⟩
  | setScore session p token => exact ⟨.stay _, trivial⟩
  | setOnline session p answer => cases answer <;> exact ⟨.stay _, trivial⟩
  | getPlayer session p => exact ⟨.stay _, trivial⟩
  | findRoom session p answer =>
    rw [next]
    split <;> exact ⟨.stay _, trivial⟩
  | onReconnect session p answer r =>
    exact ⟨Server.board_stay _ (s.board_onPlayerReconnect r p), trivial⟩
  | setSessionRoom session p answer r =>
    exact ⟨Server.board_stay _ (s.board_setSessionRoomId session r), trivial⟩
  | setPlayerRoom session p answer r => exact ⟨.stay _, trivial⟩
  | readState session p answer r => exact ⟨.stay _, trivial⟩
  | setStatus session p answer r status => exact ⟨.stay _, trivial⟩
  | clearRoom session p answer => exact ⟨.stay _, trivial⟩
  | respond session p answer r => exact ⟨.stay _, trivial⟩
  | done session p answer => exact ⟨.stay _, trivial⟩
  | refused session p => exact ⟨.stay _, trivial⟩

omit [Axis F] in
theorem CancelPc.board_next (s : Server F) (pc : CancelPc) : (pc.next s).1.board = s.board := by
  cases pc with
  | setSessionRoom session => exact s.board_setSessionRoomId session 0
  | _ => rfl

omit [Axis F] in
theorem ClosePc.board_next (s : Server F) (pc : ClosePc) : (pc.next s).1.board = s.board := by
  cases pc with
  | check session =>
    rw [next]
    split
    · rfl
    · split <;> rfl
  | findRoom session =>
    rw [next]
    split
    · split <;> rfl
    · rfl
  | onDisconnect session r => exact s.board_onPlayerDisconnect r _
  | _ => rfl

omit [Axis F] in
/-- The heartbeat timer binds no players. -/
theorem Server.board_heartbeatScan (s : Server F) (nowMs : Int) :
    (s.heartbeatScan nowMs).board = s.board := by
  unfold board ids heartbeatScan
  congr 2
  funext session
  dsimp only
  split <;> rfl

/-- **Every step of a task that is not the game loop is a change.** -/
theorem Task.change {t : Task F} (hlocal : t.Local) (hids : s.ids.Positive)
    (hstarted : ∀ r, t.starts = some r → s.board.Started r)
    (hsafe : ∀ session p r, t = .worker (.eliminate session p r) → safe r p) (ch : TaskChoice) :
    s.board.Change safe t.starts (t.next ch s).1.board (t.next ch s).2.starts ∧
      (t.next ch s).2.Local := by
  cases t with
  | worker pc =>
    exact HandlerPc.change hlocal hids hstarted fun session p r h => hsafe session p r (h ▸ rfl)
  | cancel pc => exact ⟨Server.board_stay _ (pc.board_next s), trivial⟩
  | login pc => exact LoginPc.change hlocal hids ch.login
  | close pc => exact ⟨Server.board_stay _ (pc.board_next s), trivial⟩
  | accept nowMs =>
    refine ⟨?_, trivial⟩
    exact Server.change_updateSession (s := { s with nextSessionId := s.nextSessionId + 1 })
      s.nextSessionId (f := fun _ => { lastHeartbeatMs := nowMs }) fun _ => Int.le_refl 0
  | heartbeat session nowMs =>
    exact ⟨Server.board_stay _ (s.board_updateSession session
      (f := ({ · with lastHeartbeatMs := nowMs })) fun _ => rfl), trivial⟩
  | heartbeatScan nowMs => exact ⟨Server.board_stay _ (s.board_heartbeatScan nowMs), trivial⟩
  | loop pc => exact hlocal.elim
  | done => exact ⟨.stay _, trivial⟩

/-! ## The game loop -/

variable {starts : ι → Option RoomId}

omit [Axis F] in
theorem TailPc.fair {pc : TailPc} {rooms : List RoomId} (h : s.board.Fair starts (.tail pc rooms)) :
    (pc.next s).1.board.Fair starts (LoopPc.tailed rooms (pc.next s).2) := by
  cases pc with
  | announce r winnerId losers =>
    exact (h.logged (e := .gameOver r) trivial).goto (fun _ => Or.inl) trivial
  | notify r winnerId losers todo =>
    cases todo with
    | nil => exact h.goto (fun _ => Or.inl) trivial
    | cons p todo =>
      rw [next]
      dsimp only
      split <;> exact h.goto (fun _ => Or.inl) trivial
  | close r =>
    rw [next]
    dsimp only
    rw [Server.board_updateRoom_state s r (f := Room.close) fun _ _ => rfl]
    have hclosed : RoomState.closed ≠ .waiting := by decide
    exact (h.setState List.mem_cons_self hclosed).goto (fun _ => Or.inl) trivial
  | removing pc =>
    have hlog : (s.logRemoval pc).board.Fair starts (.tail (.removing pc) rooms) := by
      cases pc with
      | erase r => exact h.logged (e := .removeRoom r) trivial
      | _ => exact h
    have hboard : (pc.next (s.logRemoval pc)).1.board.Fair starts (.tail (.removing pc) rooms) := by
      rcases pc.board_next (s.logRemoval pc) with hb | ⟨r, hb⟩
      · rw [hb]
        exact hlog
      · rw [hb]
        exact hlog.unregister r
    rw [next]
    dsimp only
    cases hpc : (pc.next (s.logRemoval pc)).2 with
    | none => exact hboard.goto (fun _ hr => Or.inl (List.mem_cons_of_mem _ hr)) trivial
    | some pc' =>
      refine hboard.goto (fun r hr => Or.inl ?_) trivial
      change r ∈ pc'.roomId :: rooms at hr
      rwa [RemovePc.roomId_next hpc] at hr

/-- **Every step of the game loop keeps the view fair.** -/
theorem LoopPc.fair {pc : LoopPc F} (h : s.board.Fair starts pc) (ch : LoopChoice) :
    (pc.next ch s).1.board.Fair starts (pc.next ch s).2 := by
  cases pc with
  | copyRooms =>
    rw [next]
    split
    · next horder =>
      refine h.goto (fun r hr => Or.inr ?_) trivial
      change r ∈ s.gameLoop
      rw [← horder.2]
      exact List.mem_toFinset.mpr hr
    · exact h
  | tick rooms =>
    cases rooms with
    | nil => exact h.goto (fun _ hr => (List.not_mem_nil hr).elim) trivial
    | cons r rooms =>
      exact (h.tick r .popAll (fun _ hsec => by cases hsec) fun _ => trivial).goto
        (fun _ => Or.inl) trivial
  | advance r inputs rooms =>
    exact (h.tick r (.advance inputs) (fun _ hsec => by cases hsec) fun _ => trivial).goto
      (fun _ => Or.inl)
      ⟨fun _ hst => (by cases hst), fun hgo => (by cases hgo), fun _ hw => by cases hw⟩
  | arguments r state gameOver winnerId rooms =>
    -- The getters may come in any order: what each of them reads is fair.
    have hstate : s.board.Fair starts
        (arguments r (state.getD (s.gameHeap r).state) gameOver winnerId rooms) :=
      h.goto (fun _ => Or.inl) (h.holds.readState (h.winnable r))
    have hover : s.board.Fair starts
        (arguments r state (gameOver.getD (s.gameHeap r).gameOver) winnerId rooms) :=
      h.goto (fun _ => Or.inl) h.holds.readGameOver
    have hwinner : s.board.Fair starts
        (arguments r state gameOver (winnerId.getD (s.gameHeap r).winnerId) rooms) :=
      h.goto (fun _ => Or.inl) (h.holds.readWinner (h.winnable r))
    cases state <;> cases gameOver <;> cases winnerId
    case some.some.some st go w => exact h.goto (fun _ => Or.inl) h.holds.call
    all_goals
      cases hgetter : ch.getter
      all_goals
        simp only [next, hgetter]
        first
        | exact hstate
        | exact hover
        | exact hwinner
  | callback r state gameOver winnerId rooms =>
    rw [next]
    split
    · next r' hr =>
      obtain rfl := (Server.getRoom_eq_some hr).1
      exact h.goto (fun _ => Or.inl) h.holds
    · exact h.goto (fun _ hr => Or.inl (List.mem_cons_of_mem _ hr)) trivial
  | stateNotify r state gameOver winnerId rooms =>
    obtain ⟨hpos, hwinner⟩ := h.holds
    rw [next]
    cases gameOver with
    | false => exact h.goto (fun _ hr => Or.inl (List.mem_cons_of_mem _ hr)) trivial
    | true =>
      refine h.goto (fun _ => Or.inl) ⟨hwinner rfl, fun p hp => ?_⟩
      obtain ⟨hp, hne⟩ := List.mem_filter.mp hp
      exact ⟨hpos p hp, by simpa using hne⟩
  | setSettlement r winnerId losers rooms =>
    have hstarted := (h.known r (Or.inr List.mem_cons_self)).state
    rw [next]
    dsimp only
    rw [Server.board_updateRoom_state s r fun room p => by unfold Room.setSettlement; split <;> rfl]
    exact (h.setState List.mem_cons_self (Room.started_setSettlement hstarted)).goto
      (fun _ => Or.inl) h.holds
  | attempt r winnerId losers rooms =>
    simp only [next]
    split
    · exact h.goto (fun _ hr => Or.inl (List.mem_cons_of_mem _ hr)) trivial
    · exact (h.logged (e := .attempt r ch.steadyMs) trivial).goto (fun _ => Or.inl) h.holds
  | createBattle r winnerId losers rooms =>
    simp only [next]
    split
    · exact (h.logged (e := .createBattle r ch.battleId) trivial).goto (fun _ => Or.inl) h.holds
    · exact h.goto (fun _ => Or.inl) h.holds
  | settleBattle r winnerId losers rooms =>
    have hroom := (h.known r (Or.inr List.mem_cons_self)).room
    -- What was read in the callback passes the checks of `SettleBattle`.
    have haccepted : (BattleEvent.settleBattle r (s.pending r).battleId winnerId losers
        ch.settled).Accepted :=
      fun hb => settleBattleAccepts_iff.mpr ⟨hb, hroom, h.holds.1, h.holds.2⟩
    simp only [next]
    split
    · exact h.goto (fun _ hr => Or.inl (List.mem_cons_of_mem _ hr)) trivial
    · split
      · exact (h.logged haccepted).goto (fun _ => Or.inl) trivial
      · exact (h.logged haccepted).goto (fun _ hr => Or.inl (List.mem_cons_of_mem _ hr)) trivial
  | tail pc rooms =>
    have hfair := TailPc.fair h
    rw [next]
    split <;> (next heq => rw [heq] at hfair; exact hfair)

end

/-! ## Runs -/

/-- The arguments with which the tick callback, having seen `game_over`, calls `SettleBattle`. -/
def LoopPc.settlement : LoopPc F → Option (RoomId × PlayerId × List PlayerId)
  | .setSettlement roomId winnerId losers _ => some (roomId, winnerId, losers)
  | .attempt roomId winnerId losers _ => some (roomId, winnerId, losers)
  | .createBattle roomId winnerId losers _ => some (roomId, winnerId, losers)
  | .settleBattle roomId winnerId losers _ => some (roomId, winnerId, losers)
  | _ => none

/-- The same for a task. -/
def Task.settlement : Task F → Option (RoomId × PlayerId × List PlayerId)
  | .loop pc => pc.settlement
  | _ => none

/-- The game loop has read `WinnerId` of the room for its callback, and not yet `IsGameOver`. -/
def Task.reading (r : RoomId) : Task F → Bool
  | .loop pc => pc.reading r
  | _ => false

/-- The player and the room of a call of `EliminatePlayer`. -/
def Task.surrender : Task F → Option (PlayerId × RoomId)
  | .worker (.eliminate _ p roomId) => some (p, roomId)
  | _ => none

/-- What the tick callback asks of `SettleBattle`, or has asked, passes its checks. -/
structure Tasks.Settleable (c : Tasks ι F) : Prop where
  asked : ∀ e ∈ c.shared.battleLog, e.Accepted
  asks : ∀ roomId winnerId losers, (c.threads none).settlement = some (roomId, winnerId, losers) →
    ∀ battleId, 0 < battleId → settleBattleAccepts battleId roomId winnerId losers = true

/-- `EliminatePlayer` does not hit the only live player of a battle that is not over, and it does
not end the battle while the game loop is between `WinnerId` and `IsGameOver`. -/
def Tasks.SurrendersSafely (c : Tasks ι F) (e : Option ι × TaskChoice) : Prop :=
  ∀ x ∈ (c.threads e.1).surrender,
    (c.shared.gameHeap x.2).SafeSurrender x.1 ((c.threads none).reading x.2 = true)

instance (c : Tasks ι F) (e : Option ι × TaskChoice) : Decidable (c.SurrendersSafely e) :=
  inferInstanceAs (Decidable (∀ x ∈ (c.threads e.1).surrender, _))

/-- The invariant of a run. -/
structure Tasks.Fair [Axis F] (c : Tasks ι F) : Prop where
  tasks : ∀ i, (c.threads (some i)).Local
  board : ∃ pc, c.threads none = .loop pc ∧
    c.shared.board.Fair (fun i => (c.threads (some i)).starts) pc

variable [Axis F]

omit [Axis F] in
theorem LoopPc.Holds.settlement {v : Board F} {pc : LoopPc F} (h : pc.Holds v) {r : RoomId}
    {w : PlayerId} {losers : List PlayerId} (hasks : pc.settlement = some (r, w, losers)) :
    r ∈ pc.rooms ∧ 0 < w ∧ ∀ p ∈ losers, 0 < p ∧ p ≠ w := by
  cases pc with
  | setSettlement r' w' losers' rooms => cases hasks; exact ⟨List.mem_cons_self, h⟩
  | attempt r' w' losers' rooms => cases hasks; exact ⟨List.mem_cons_self, h⟩
  | createBattle r' w' losers' rooms => cases hasks; exact ⟨List.mem_cons_self, h⟩
  | settleBattle r' w' losers' rooms => cases hasks; exact ⟨List.mem_cons_self, h⟩
  | _ => cases hasks

theorem Tasks.Fair.requestsWinnable {c : Tasks ι F} (h : c.Fair) : c.Settleable := by
  obtain ⟨pc, hpc, hfair⟩ := h.board
  refine ⟨hfair.log, fun r w losers hasks battleId hb => ?_⟩
  rw [hpc] at hasks
  obtain ⟨hr, hargs⟩ := hfair.holds.settlement hasks
  exact settleBattleAccepts_iff.mpr ⟨hb, (hfair.known r (Or.inr hr)).room, hargs⟩

/-- **One step keeps a run fair**, if its surrender is safe. -/
theorem Tasks.Fair.step [DecidableEq ι] {c : Tasks ι F} (h : c.Fair) (e : Option ι × TaskChoice)
    (hsafe : c.SurrendersSafely e) : (c.step e).Fair := by
  obtain ⟨i, ch⟩ := e
  obtain ⟨pc, hpc, hfair⟩ := h.board
  cases i with
  | none =>
    obtain ⟨hshared, hself, hsame⟩ := Tasks.step_loop hpc ch
    refine ⟨fun i => hsame i ▸ h.tasks i, _, hself, ?_⟩
    simp only [hsame]
    rw [hshared]
    exact LoopPc.fair hfair ch.loop
  | some i =>
    have hsurrender : ∀ session p r, c.threads (some i) = .worker (.eliminate session p r) →
        (c.shared.gameHeap r).SafeSurrender p (pc.reading r = true) := by
      intro session p r hi
      have := hsafe (p, r) (by rw [hi]; rfl)
      rwa [hpc] at this
    obtain ⟨hchange, hlocal⟩ := Task.change (h.tasks i) hfair.ids (hfair.started i) hsurrender ch
    · have hshared : (c.step (some i, ch)).shared = (Task.next ch c.shared (c.threads (some i))).1 :=
        rfl
      have hloop : (c.step (some i, ch)).threads none = c.threads none :=
        Sys.step_threads_of_ne (Option.some_ne_none i).symm
      refine ⟨fun j => ?_, pc, hloop.trans hpc, ?_⟩
      · rw [Sys.step_threads]
        split
        · exact hlocal
        · exact h.tasks j
      · rw [hshared]
        refine hfair.change hchange (fun j => ?_) fun r p hsafe => hsafe
        rw [Sys.step_threads]
        by_cases hj : j = i
        · rw [hj, if_pos rfl, if_pos rfl]
        · rw [if_neg hj, if_neg fun h => hj (Option.some.inj h)]

omit [Axis F] in
theorem Task.Local.of_starts {t : Task F} (h : t.Starts) : t.Local := by
  cases h <;> trivial

omit [Axis F] in
theorem Task.starts_of_starts {t : Task F} (h : t.Starts) : t.starts = none := by
  cases h <;> rfl

theorem Tasks.fair_init (roomPlayerCount : Int) {tasks : ι → Task F} (htasks : ∀ i, (tasks i).Starts) :
    (init roomPlayerCount tasks).Fair := by
  have hstarts : ∀ i r, (tasks i).starts ≠ some r := by
    intro i r h
    rw [Task.starts_of_starts (htasks i)] at h
    cases h
  have hplayer : (0 : PlayerId) < 100000 := by decide
  have hroom : (0 : RoomId) < 1000 := by decide
  refine ⟨fun i => .of_starts (htasks i), .copyRooms, rfl, ?_⟩
  exact {
    ids := ⟨hplayer, nofun, nofun, fun _ => Int.le_refl 0⟩
    next := hroom
    fresh := fun _ _ => ⟨rfl, fun _ => rfl⟩
    room := nofun
    zero := fun _ => rfl
    ready := nofun
    winnable := fun _ => ⟨nofun, nofun, fun _ h => absurd rfl h⟩
    started := fun i r h => absurd h (hstarts i r)
    unique := fun i _ r h => absurd h (hstarts i r)
    apart := fun i r h => absurd h (hstarts i r)
    known := fun r h => by rcases h with h | h <;> cases h
    holds := trivial
    log := nofun }

/-- **An ended game can be settled**, in every run whose surrenders are safe. -/
theorem Tasks.settleable [DecidableEq ι] (roomPlayerCount : Int) {tasks : ι → Task F}
    (htasks : ∀ i, (tasks i).Starts) (events : List (Option ι × TaskChoice))
    (hsafe : AllSteps step SurrendersSafely (init roomPlayerCount tasks) events) :
    AllStates step Settleable (init roomPlayerCount tasks) events :=
  AllStates.imp (fun _ h => h.requestsWinnable) events
    (AllStates.of_allSteps (fun _ e h => h.step e) events (fair_init roomPlayerCount htasks) hsafe)

/-! ## One player -/

/-- A player logs in, asks for a match, gets ready and surrenders. -/
def onePlayer : Fin 5 → Task Coord
  | 0 => .accept 0
  | 1 => .login (.account 1 (.start "a"))
  | 2 => .worker (.handleMatch 1 0)
  | 3 => .worker (.handleReady 1 true)
  | 4 => .worker (.handleLeave 1 0)

theorem onePlayer_starts : ∀ i, (onePlayer i).Starts
  | 0 => .accept 0
  | 1 => .login 1 "a"
  | 2 => .match 1 0
  | 3 => .ready 1 true
  | 4 => .leave 1 0

/-- `n` steps of one task. -/
def taskTurns (i : Option (Fin 5)) (n : Nat) : List (Option (Fin 5) × TaskChoice) :=
  List.replicate n (i, { loop := { order := [1000] } })

/-- One request after the other until the battle is registered. -/
def untilBattle : List (Option (Fin 5) × TaskChoice) :=
  taskTurns (some 0) 1 ++ taskTurns (some 1) 18 ++ taskTurns (some 2) 16 ++ taskTurns (some 3) 10

/-- The callback of the first tick, up to its settlement. -/
def firstCallback : List (Option (Fin 5) × TaskChoice) :=
  [(none, { loop := {} }), (none, { loop := { getter := .isGameOver } }),
    (none, { loop := { getter := .winnerId } })] ++ taskTurns none 3

/-- The player surrenders before the first tick. -/
def surrenderFirst : List (Option (Fin 5) × TaskChoice) :=
  untilBattle ++ taskTurns (some 4) 8 ++ taskTurns none 3 ++ firstCallback

/-- The first tick comes before the surrender. -/
def tickFirst : List (Option (Fin 5) × TaskChoice) :=
  untilBattle ++ taskTurns none 3 ++ taskTurns (some 4) 8 ++ firstCallback

theorem settleable_tickFirst :
    AllStates Tasks.step Tasks.Settleable (Tasks.init 1 onePlayer) tickFirst :=
  Tasks.settleable 1 onePlayer_starts tickFirst (by decide +kernel)

theorem settleable_counterexample :
    ¬ ∀ (roomPlayerCount : Int) (tasks : Fin 5 → Task Coord)
      (events : List (Option (Fin 5) × TaskChoice)), 1 ≤ roomPlayerCount →
      (∀ i, (tasks i).Starts) →
      AllStates Tasks.step Tasks.Settleable (Tasks.init roomPlayerCount tasks) events := by
  intro h
  have hlast := (h 1 onePlayer surrenderFirst (by decide) onePlayer_starts).last
  have haccepts := hlast.asks 1000 0 [100000] (by decide +kernel) 1 (by decide)
  exact absurd haccepts (by decide)

end Game
