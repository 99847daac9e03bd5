import GameServer.Game.GameState

/-!
# GameRoom

`src/game/game_room.cpp` and `src/game/input_buffer.cpp`: one battle.

`mutex_` protects the state and `input_buffer_` has a mutex of its own, so `Tick` consists of two
critical sections: `popAll` and, with the inputs it has taken, `advance`.
-/

namespace Game

open Infra

variable {F : Type} [Axis F]

/-- A battle: its state, the inputs not consumed yet and the outcome. -/
structure GameRoom (F : Type) where
  roomId : RoomId
  state : GameState F := {}
  inputBuffer : List (InputCommand F) := []
  gameOver : Bool := false
  winnerId : PlayerId := 0

namespace GameRoom

/-! ## ApplyInput -/

/-- A hit: 10 points, and death at 0. -/
def damage (target : EntityState F) : EntityState F :=
  let hp := target.hp - 10
  if hp ≤ 0 then { target with hp := 0, alive := false } else { target with hp := hp }

/-- One round of the loop over the targets in `ApplyInput`. -/
def shoot (shooterId : PlayerId) (players : UMap PlayerId (EntityState F)) (targetId : PlayerId) :
    UMap PlayerId (EntityState F) :=
  match players.get shooterId, players.get targetId with
  | some shooter, some target =>
    if targetId = shooterId ∨ target.alive = false then players
    else if Axis.withinFire (Axis.sub target.x shooter.x) (Axis.sub target.y shooter.y) then
      players.modify targetId damage
    else players
  | _, _ => players

/-- The move of `ApplyInput`: at most `maxAxis * moveScale` on each axis. -/
def move (input : InputCommand F) (e : EntityState F) : EntityState F :=
  let dx := Axis.clamp input.moveX (Axis.neg Axis.maxAxis) Axis.maxAxis
  let dy := Axis.clamp input.moveY (Axis.neg Axis.maxAxis) Axis.maxAxis
  { e with
    x := Axis.add e.x (Axis.mul dx Axis.moveScale)
    y := Axis.add e.y (Axis.mul dy Axis.moveScale) }

/-- `GameRoom::ApplyInput`. -/
def applyInput (s : GameState F) (input : InputCommand F) : GameState F :=
  if s.aliveAt input.playerId = false then s
  else
    let players := s.players.modify input.playerId (move input)
    if input.fire = false then { s with players := players }
    else { s with players := players.keys.foldl (shoot input.playerId) players }

/-! ## Start, EliminatePlayer, Tick -/

/-- `GameRoom::CheckGameOver`. The loop counts the live players and remembers the last one. -/
def checkGameOver (g : GameRoom F) : GameRoom F :=
  let (aliveCount, alivePlayer) := g.state.players.keys.foldl
    (fun (acc : Nat × PlayerId) playerId =>
      if g.state.aliveAt playerId then (acc.1 + 1, playerId) else acc) (0, 0)
  if aliveCount ≤ 1 ∧ g.state.players.keys ≠ [] then
    { g with gameOver := true, winnerId := alivePlayer }
  else g

/-- The loop of `Start`: the entities are placed side by side. -/
def spawn (spawnX : F) (players : UMap PlayerId (EntityState F)) :
    List PlayerId → UMap PlayerId (EntityState F)
  | [] => players
  | playerId :: rest =>
    spawn (Axis.add spawnX Axis.spawnGap)
      (players.insert playerId { playerId := playerId, x := spawnX, y := Axis.zero }) rest

/-- `GameRoom::Start`. -/
def start (g : GameRoom F) (playerIds : List PlayerId) : GameRoom F :=
  { g with
    state := { frameId := 0, players := spawn Axis.zero UMap.empty playerIds }
    gameOver := false
    winnerId := 0 }

/-- `GameRoom::HandleInput`, that is `InputBuffer::Push`. -/
def handleInput (g : GameRoom F) (input : InputCommand F) : GameRoom F :=
  { g with inputBuffer := g.inputBuffer ++ [input] }

/-- `GameRoom::EliminatePlayer`. -/
def eliminatePlayer (g : GameRoom F) (playerId : PlayerId) : GameRoom F :=
  if g.gameOver then g
  else if g.state.aliveAt playerId = false then g
  else
    let players := g.state.players.modify playerId fun e => { e with hp := 0, alive := false }
    checkGameOver { g with state := { g.state with players := players } }

/-- `InputBuffer::PopAll`, the first critical section of `Tick`. -/
def popAll (g : GameRoom F) : List (InputCommand F) × GameRoom F :=
  (g.inputBuffer, { g with inputBuffer := [] })

/-- The second critical section of `Tick`: one frame with the inputs that were taken. -/
def advance (g : GameRoom F) (inputs : List (InputCommand F)) : GameRoom F :=
  if g.gameOver then g
  else
    checkGameOver
      { g with state := inputs.foldl applyInput { g.state with frameId := g.state.frameId + 1 } }

/-- `GameRoom::Tick` without interference between its two critical sections. -/
def tick (g : GameRoom F) : GameRoom F :=
  let (inputs, g) := g.popAll
  g.advance inputs

/-! ## Critical sections -/

/-- The critical sections of a running battle, as the scheduler can order them.
The inputs of `advance` are those an earlier `popAll` has taken; nothing is assumed about them. -/
inductive Section (F : Type) where
  | handleInput (input : InputCommand F)
  | popAll
  | advance (inputs : List (InputCommand F))
  | eliminatePlayer (playerId : PlayerId)

/-- The effect of one critical section. -/
def exec (g : GameRoom F) : Section F → GameRoom F
  | .handleInput input => g.handleInput input
  | .popAll => g.popAll.2
  | .advance inputs => g.advance inputs
  | .eliminatePlayer playerId => g.eliminatePlayer playerId

/-- A sequence of critical sections. -/
def run (g : GameRoom F) (sections : List (Section F)) : GameRoom F :=
  sections.foldl exec g

theorem tick_eq_run (g : GameRoom F) : g.tick = g.run [.popAll, .advance g.inputBuffer] := rfl

end GameRoom
end Game
