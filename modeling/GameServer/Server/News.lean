import GameServer.Server.EndedGames

/-!
# News of battles

What the clients are told about a battle: a `GameStateNotify` for each tick and a `GameOverNotify`
in the end. Only the game loop sends them. What every other task does to the rooms and battles, it
does without a word about them (`Task.scene`).
-/

namespace Game

open Infra

variable {ι F : Type}

/-! ## The view -/

/-- A message about a battle. -/
def Message.isNews : Message F → Bool
  | .gameStateNotify _ _ _ => true
  | .gameOverNotify _ _ _ => true
  | _ => false

/-- The messages about battles that have been sent, oldest first. -/
def Server.news (s : Server F) : List (SessionId × Message F) :=
  s.out.filter (·.2.isNews)

/-- The result that the loop is telling the players of the room. -/
def LoopPc.announces : LoopPc F → Option (RoomId × PlayerId × List PlayerId)
  | .tail (.announce roomId winnerId losers) _ => some (roomId, winnerId, losers)
  | .tail (.notify roomId winnerId losers _) _ => some (roomId, winnerId, losers)
  | _ => none

/-- Where the rooms and the battles are, and what has been said about them. -/
structure Scene (F : Type) where
  nextRoomId : RoomId
  state : RoomId → RoomState
  members : RoomId → List PlayerId
  rooms : Finset RoomId
  games : Finset RoomId
  gameHeap : RoomId → GameRoom F
  pending : RoomId → Option PendingSettlement
  news : List (SessionId × Message F)
  /-- The calls of the tick callback. -/
  log : List BattleEvent

/-- The scene of a server. -/
def Server.scene (s : Server F) : Scene F where
  nextRoomId := s.nextRoomId
  state r := (s.roomHeap r).state
  members r := (s.roomHeap r).playerIds
  rooms := s.roomManager.rooms
  games := s.gameLoop
  gameHeap := s.gameHeap
  pending := s.pendingSettlements
  news := s.news
  log := s.battleLog

/-- What one step of a task can do to the scene. The options are the room whose battle the task is
about to register, before and after the step; `surrenders` says whom it may eliminate. -/
inductive Scene.Change [Axis F] (surrenders : RoomId → PlayerId → Prop) (v : Scene F) :
    Option RoomId → Scene F → Option RoomId → Prop where
  | stay (a : Option RoomId) : Change surrenders v a v a
  | openRoom (players : List PlayerId) :
      Change surrenders v none
        { v with
          nextRoomId := v.nextRoomId + 1
          state := Function.update v.state v.nextRoomId .waiting
          members := Function.update v.members v.nextRoomId players
          rooms := insert v.nextRoomId v.rooms } none
  | eraseRoom (r : RoomId) : Change surrenders v none { v with rooms := v.rooms.erase r } none
  | start (r : RoomId) (hwait : v.state r = .waiting) (hmembers : v.members r ≠ []) :
      Change surrenders v none { v with state := Function.update v.state r .playing } (some r)
  | register (r : RoomId) (players : List PlayerId) :
      Change surrenders v (some r)
        { v with
          games := insert r v.games
          gameHeap := Function.update v.gameHeap r (GameRoom.start { roomId := r } players) } none
  | unregister (r : RoomId) : Change surrenders v none { v with games := v.games.erase r } none
  | exec (r : RoomId) (sec : GameRoom.Section F) (hsec : ∀ inputs, sec ≠ .advance inputs)
      (hsurrender : ∀ p, sec = .eliminatePlayer p → surrenders r p) :
      Change surrenders v none
        { v with gameHeap := Function.update v.gameHeap r ((v.gameHeap r).exec sec) } none

namespace Server

variable {s : Server F}

/-! ## Single steps -/

@[simp] theorem news_send (s : Server F) (session : SessionId) {msg : Message F}
    (h : msg.isNews = false) : (s.send session msg).news = s.news := by
  unfold news send
  rw [List.filter_append, List.filter_cons_of_neg (by simp [h]), List.filter_nil, List.append_nil]

@[simp] theorem news_broadcast (s : Server F) (r : RoomId) {msg : Message F}
    (h : msg.isNews = false) : (s.broadcast r msg).news = s.news := by
  unfold news broadcast
  rw [List.filter_append]
  refine List.append_right_eq_self.mpr (List.filter_eq_nil_iff.mpr fun sent hsent => ?_)
  obtain ⟨session, -, rfl⟩ := List.mem_map.mp hsent
  simp [h]

theorem scene_send (s : Server F) (session : SessionId) {msg : Message F}
    (h : msg.isNews = false) : (s.send session msg).scene = s.scene :=
  congrArg (fun news => { s.scene with news := news }) (news_send s session h)

theorem scene_broadcast (s : Server F) (r : RoomId) {msg : Message F} (h : msg.isNews = false) :
    (s.broadcast r msg).scene = s.scene :=
  congrArg (fun news => { s.scene with news := news }) (news_broadcast s r h)

/-- Reading a field of the room that has been changed, and of the others. -/
theorem update_room {α : Type} (rooms : RoomId → Room) (r : RoomId) (room : Room)
    (read : Room → α) : (fun r' => read (Function.update rooms r room r')) =
      Function.update (fun r' => read (rooms r')) r (read room) := by
  funext r'
  by_cases h : r' = r
  · rw [h, Function.update_self, Function.update_self]
  · rw [Function.update_of_ne h, Function.update_of_ne h]

/-- A section of a room, in which nobody comes or goes. -/
theorem scene_updateRoom (s : Server F) (r : RoomId) {f : Room → Room}
    (hf : (f (s.roomHeap r)).playerIds = (s.roomHeap r).playerIds) :
    (s.updateRoom r f).scene =
      { s.scene with state := Function.update s.scene.state r (f (s.roomHeap r)).state } := by
  have hmembers : (fun r' => ((s.updateRoom r f).roomHeap r').playerIds) = s.scene.members :=
    (update_room s.roomHeap r _ Room.playerIds).trans (by rw [hf]; exact Function.update_eq_self ..)
  have hstate := update_room s.roomHeap r (f (s.roomHeap r)) Room.state
  exact congrArg₂ (fun state members => { s.scene with state := state, members := members })
    hstate hmembers

/-- A section of a room that leaves its state alone, too. -/
theorem scene_updateRoom_same (s : Server F) (r : RoomId) {f : Room → Room}
    (hids : (f (s.roomHeap r)).playerIds = (s.roomHeap r).playerIds)
    (hf : (f (s.roomHeap r)).state = (s.roomHeap r).state) :
    (s.updateRoom r f).scene = s.scene := by
  rw [scene_updateRoom s r hids, hf]
  exact congrArg (fun state => { s.scene with state := state })
    (Function.update_eq_self r s.scene.state)

theorem scene_createRoom (s : Server F) (players : List PlayerId) :
    (s.createRoom players).2.scene =
      { s.scene with
        nextRoomId := s.nextRoomId + 1
        state := Function.update s.scene.state s.nextRoomId .waiting
        members := Function.update s.scene.members s.nextRoomId
          (players.foldl Room.addPlayer {}).playerIds
        rooms := insert s.nextRoomId s.roomManager.rooms } := by
  have hstate := update_room s.roomHeap s.nextRoomId (players.foldl Room.addPlayer {}) Room.state
  rw [state_addPlayers] at hstate
  have hmembers := update_room s.roomHeap s.nextRoomId (players.foldl Room.addPlayer {})
    Room.playerIds
  have hsame : (s.createRoom players).2.scene = (s.openRoom players).scene :=
    view_enterRooms scene (fun _ _ _ => rfl) (fun _ _ _ => rfl) s.nextRoomId players _
  refine hsame.trans ?_
  exact congrArg₂ (fun state members =>
    { s.scene with
      nextRoomId := s.nextRoomId + 1
      state := state
      members := members
      rooms := insert s.nextRoomId s.roomManager.rooms }) hstate hmembers

end Server

/-! ## Every step is a change -/

section

variable [Axis F] {s : Server F} {surrenders : RoomId → PlayerId → Prop}

theorem Server.scene_stay {s' : Server F} (a : Option RoomId) (h : s'.scene = s.scene) :
    s.scene.Change surrenders a s'.scene a := by
  rw [h]
  exact .stay a

theorem MatchPc.scene (pc : MatchPc) :
    s.scene.Change surrenders none (pc.next s).1.scene none := by
  have hsame : ∀ s', Server.scene s' = s.scene → s.scene.Change surrenders none s'.scene none :=
    fun _ => Server.scene_stay none
  cases pc with
  | push p session =>
    rw [next]
    split
    · exact hsame _ (s.scene_send session rfl)
    · exact hsame _ rfl
  | reply session pushed =>
    rw [next]
    split <;> exact hsame _ (s.scene_send session rfl)
  | createRoom players =>
    rw [next]
    dsimp only
    rw [Server.scene_createRoom]
    exact .openRoom _
  | joinStatus r players todo => cases todo <;> exact hsame _ rfl
  | joinNotify r players p todo =>
    rw [next]
    dsimp only
    split
    · exact hsame _ (s.scene_send _ rfl)
    · exact hsame _ rfl
  | _ => exact hsame _ rfl

theorem RemovePc.scene (pc : RemovePc) :
    s.scene.Change surrenders none (pc.next s).1.scene none := by
  have hsame : ∀ s', Server.scene s' = s.scene → s.scene.Change surrenders none s'.scene none :=
    fun _ => Server.scene_stay none
  cases pc with
  | erase r => exact .eraseRoom r
  | resetSession r todo =>
    cases todo with
    | nil => exact hsame _ rfl
    | cons p todo =>
      rw [next]
      split <;> exact hsame _ rfl
  | removeGame r => exact .unregister r
  | _ => exact hsame _ rfl

/-- A request. -/
theorem HandlerPc.scene {pc : HandlerPc F}
    (hsurrender : ∀ session p r, pc = .eliminate session p r → surrenders r p) :
    s.scene.Change surrenders pc.starts (pc.next s).1.scene (pc.next s).2.starts := by
  have hsame : ∀ a s', Server.scene s' = s.scene → s.scene.Change surrenders a s'.scene a :=
    fun a _ => Server.scene_stay a
  cases pc with
  | handleMatch session requested =>
    rw [next]
    split
    · exact hsame _ _ (s.scene_send session rfl)
    · exact .stay _
  | matching pc rest =>
    have hpc : s.scene.Change surrenders none (pc.next s).1.scene none := pc.scene
    rw [next]
    split <;> (next heq => rw [heq] at hpc; exact hpc)
  | requeue todo =>
    cases todo with
    | nil => exact .stay _
    | cons p todo =>
      rw [next]
      split <;> exact .stay _
  | handleReady session ready =>
    rw [next]
    split <;> exact .stay _
  | setReady p r ready =>
    rw [next]
    split
    · next started room hready =>
      obtain ⟨hwait, hstate⟩ := Room.state_setReadyAndTryStart hready
      have hids := Room.playerIds_setReadyAndTryStart hready
      obtain ⟨hmem, -, -⟩ := Room.players_setReadyAndTryStart hready
      cases started with
      | true =>
        dsimp only
        rw [Server.scene_updateRoom s r hids, hstate]
        exact .start r hwait (List.ne_nil_of_mem ((s.roomHeap r).players.mem_keys.mpr hmem))
      | false => exact hsame _ _ (s.scene_updateRoom_same r hids (hstate.trans hwait.symm))
    · exact .stay _
  | readyNotify p r ready started =>
    cases started <;> exact hsame _ _ (s.scene_broadcast r rfl)
  | addGame r players => exact .register r players
  | startStatus r players todo => cases todo <;> exact .stay _
  | startNotify r players => exact hsame _ _ (s.scene_broadcast r rfl)
  | handleLeave session requested =>
    rw [next]
    split
    · exact hsame _ _ (s.scene_send session rfl)
    · split
      · exact hsame _ _ (s.scene_send session rfl)
      · exact .stay _
  | ifWaiting session p r =>
    rw [next]
    split <;> exact .stay _
  | ifPlaying session p r =>
    rw [next]
    split
    · exact .stay _
    · exact hsame _ _ (s.scene_send session rfl)
  | leaveNotify session p r rest =>
    refine hsame _ _ ?_
    exact (Server.scene_send _ session rfl).trans (s.scene_broadcast r rfl)
  | removing pc rest =>
    have hpc : s.scene.Change surrenders none (pc.next s).1.scene none := pc.scene
    rw [next]
    split <;> (next heq => rw [heq] at hpc; exact hpc)
  | findGame session p r =>
    rw [next]
    split
    · exact .stay _
    · exact hsame _ _ (s.scene_send session rfl)
  | eliminate session p r =>
    refine .exec r (.eliminatePlayer p) (fun _ hsec => ?_) fun q hq => ?_
    · cases hsec
    · cases hq
      exact hsurrender session p r rfl
  | surrenderNotify session p r =>
    refine hsame _ _ ?_
    exact (Server.scene_send _ session rfl).trans (s.scene_broadcast r rfl)
  | handleInput session nowMs request =>
    rw [next]
    split <;> exact .stay _
  | pushInput r input =>
    refine .exec r (.handleInput input) (fun _ hsec => ?_) fun _ hsec => ?_ <;> cases hsec
  | _ => exact .stay _

omit [Axis F] in
theorem AccountPc.scene_next (s : Server F) (call : AccountPc) :
    (call.next s).1.scene = s.scene := by
  cases call with
  | start account =>
    rw [next]
    split <;> rfl
  | find key =>
    rw [next]
    split <;> rfl
  | _ => rfl

omit [Axis F] in
theorem LoginPc.scene_next (s : Server F) (pc : LoginPc) (ch : LoginChoice) :
    (pc.next ch s).1.scene = s.scene := by
  cases pc with
  | account session call =>
    cases call with
    | done key p created => rfl
    | start account => exact AccountPc.scene_next s (.start account)
    | find key => exact AccountPc.scene_next s (.find key)
    | takeId key => rfl
    | enter key p => rfl
    | createPlayer key p => rfl
  | closeOther session p token =>
    rw [next, Server.closeOther]
    split
    · split <;> rfl
    · rfl
  | checkToken session p sessionToken =>
    rw [next]
    split
    · exact s.scene_send session rfl
    · rfl
  | bindPlayerId session p token => cases token <;> rfl
  | findRoom session p answer =>
    rw [next]
    split <;> rfl
  | onReconnect session p answer r => exact s.scene_updateRoom_same r rfl rfl
  | respond session p answer r => cases answer <;> exact s.scene_send session rfl
  | _ => rfl

omit [Axis F] in
theorem CancelPc.scene_next (s : Server F) (pc : CancelPc) : (pc.next s).1.scene = s.scene := by
  cases pc with
  | reply session removed => cases removed <;> exact s.scene_send session rfl
  | _ => rfl

omit [Axis F] in
theorem ClosePc.scene_next (s : Server F) (pc : ClosePc) : (pc.next s).1.scene = s.scene := by
  cases pc with
  | check session =>
    rw [next]
    split
    · rfl
    · split <;> rfl
  | findRoom session =>
    rw [next]
    split
    · split <;> rfl
    · rfl
  | onDisconnect session r => exact s.scene_updateRoom_same r rfl rfl
  | _ => rfl

/-- The thread of the game loop. -/
def Task.isLoop : Task F → Bool
  | .loop _ => true
  | _ => false

omit [Axis F] in
theorem Task.isLoop_of_starts {t : Task F} (h : t.Starts) : t.isLoop = false := by
  cases h <;> rfl

/-- **Only the game loop speaks of battles.** -/
theorem Task.scene {t : Task F} (ht : t.isLoop = false)
    (hsurrender : ∀ p r, t.surrender = some (p, r) → surrenders r p) (ch : TaskChoice) :
    s.scene.Change surrenders t.starts (t.next ch s).1.scene (t.next ch s).2.starts ∧
      (t.next ch s).2.isLoop = false := by
  cases t with
  | worker pc =>
    refine ⟨HandlerPc.scene fun session p r hpc => hsurrender p r ?_, rfl⟩
    rw [hpc]
    rfl
  | cancel pc => exact ⟨Server.scene_stay _ (pc.scene_next s), rfl⟩
  | login pc => exact ⟨Server.scene_stay _ (LoginPc.scene_next s pc ch.login), rfl⟩
  | close pc => exact ⟨Server.scene_stay _ (pc.scene_next s), rfl⟩
  | accept nowMs => exact ⟨.stay _, rfl⟩
  | heartbeat session nowMs => exact ⟨Server.scene_stay _ (Server.scene_send _ session rfl), rfl⟩
  | heartbeatScan nowMs => exact ⟨.stay _, rfl⟩
  | loop pc => cases ht
  | done => exact ⟨.stay _, rfl⟩

end

/-- What a change does not touch. -/
theorem Scene.Change.quiet [Axis F] {surrenders : RoomId → PlayerId → Prop} {v v' : Scene F}
    {a a' : Option RoomId} (h : v.Change surrenders a v' a') :
    v'.news = v.news ∧ v'.pending = v.pending ∧ v'.log = v.log := by
  cases h <;> exact ⟨rfl, rfl, rfl⟩

end Game
