import GameServer.Infra.UMap
import Mathlib.Data.Option.NAry
import Mathlib.Data.Rat.Defs

/-!
# State of one battle

`src/game/game_state.h` and `src/game/input_buffer.h`.

Coordinates are `float` in the source. They are kept abstract here: `Axis` lists the constants,
the arithmetic and the comparisons that the battle uses, and nothing else.
-/

namespace Game

open Infra

/-- `int64_t` ids of players and rooms. -/
abbrev PlayerId := Int

abbrev RoomId := Int

/-- What the battle needs from `float`. -/
class Axis (F : Type) where
  /-- `0.0f` -/
  zero : F
  /-- `1.0f`, the largest move on one axis -/
  maxAxis : F
  /-- `0.6f`, the distance of a full move -/
  moveScale : F
  /-- `5.0f`, the distance between two spawn points -/
  spawnGap : F
  neg : F → F
  add : F → F → F
  sub : F → F → F
  mul : F → F → F
  /-- `a < b` -/
  lt : F → F → Bool
  /-- `std::hypot(dx, dy) <= 8.0f` -/
  withinFire : F → F → Bool

/-- `std::clamp`. -/
def Axis.clamp {F : Type} [Axis F] (v lo hi : F) : F :=
  if Axis.lt v lo then lo else if Axis.lt hi v then hi else v

/-- A number or NaN: comparisons with NaN are false and arithmetic with NaN gives NaN. -/
abbrev Coord := Option ℚ

instance : Axis Coord where
  zero := some 0
  maxAxis := some 1
  moveScale := some (3 / 5)
  spawnGap := some 5
  neg := Option.map (-·)
  add := Option.map₂ (· + ·)
  sub := Option.map₂ (· - ·)
  mul := Option.map₂ (· * ·)
  lt a b := (Option.map₂ (fun x y => decide (x < y)) a b).getD false
  withinFire a b := (Option.map₂ (fun x y => decide (x * x + y * y ≤ 64)) a b).getD false

/-- One player in one frame. -/
structure EntityState (F : Type) where
  playerId : PlayerId := 0
  x : F
  y : F
  hp : Int := 100
  alive : Bool := true

/-- One frame of a battle. `players` is keyed by the player id. -/
structure GameState (F : Type) where
  frameId : Int := 0
  players : UMap PlayerId (EntityState F) := UMap.empty

/-- One input of a player, as `HandleInput` puts it together. -/
structure InputCommand (F : Type) where
  playerId : PlayerId := 0
  inputSeq : Int := 0
  moveX : F
  moveY : F
  fire : Bool := false
  timestampMs : Int := 0

variable {F : Type}

/-- Whether the state has a live entity under `p`. -/
def GameState.aliveAt (s : GameState F) (p : PlayerId) : Bool :=
  match s.players.get p with
  | some e => e.alive
  | none => false

/-- The players alive, in the order of the map. -/
def GameState.aliveIds (s : GameState F) : List PlayerId :=
  s.players.keys.filter s.aliveAt

theorem GameState.mem_aliveIds {s : GameState F} {p : PlayerId} :
    p ∈ s.aliveIds ↔ s.aliveAt p = true := by
  rw [aliveIds, List.mem_filter]
  refine ⟨And.right, fun h => ⟨?_, h⟩⟩
  rw [UMap.mem_keys]
  unfold aliveAt at h
  cases hg : s.players.get p with
  | none => rw [hg] at h; simp at h
  | some e => rfl

theorem GameState.aliveIds_nodup (s : GameState F) : s.aliveIds.Nodup :=
  s.players.keys_nodup.filter _

end Game
