import TileWalk.Map.Grid
import TileWalk.Random.Draws

/-!
# Random maps

A random map has one goal, which is never at the origin, and a number of walls and of water tiles
on what is left of the grass. A place that is taken is drawn again.
-/

namespace TileWalk

open TileWalk.Random

/-- What a random map is to hold. -/
structure MapPlan where
  size : Int := Grid.standardSize
  walls : Int := 20
  water : Int := 10
deriving DecidableEq, Repr

inductive GenerationError where
  | doesNotFit (plan : MapPlan)
  | drawsExhausted
deriving DecidableEq, Repr

def GenerationError.message : GenerationError → String
  | .doesNotFit plan =>
    s!"{plan.walls} walls and {plan.water} water tiles do not fit on a {plan.size}x{plan.size} grid."
  | .drawsExhausted => "no draws left"

/-- A random map, how it came about, and the draws after it. -/
structure GeneratedMap where
  grid : Grid
  goal : Nat × Nat
  retries : Nat
  draws : Draws

namespace GeneratedMap

/-- What is logged of a generated map. -/
def report (map : GeneratedMap) : String :=
  s!"Generated {map.grid.length}x{map.grid.length} map, goal at ({map.goal.1}, {map.goal.2}), " ++
    s!"{map.retries} placement retries."

end GeneratedMap

namespace MapPlan

/-- Whether the tiles fit: the goal needs a cell besides the origin. -/
def fits (plan : MapPlan) : Bool :=
  2 ≤ plan.size && 1 + plan.walls + plan.water ≤ plan.size * plan.size

/-- Draws places until one is not the origin. -/
def drawGoal (size : Nat) (draws : Draws) : Option ((Nat × Nat) × Draws) :=
  match h : draws.pair size with
  | none => none
  | some (place, rest) =>
    have := Draws.pair_supply h
    if place = (0, 0) then drawGoal size rest else some (place, rest)
termination_by draws.supply

/-- The cell at natural coordinates is grass. -/
def isGrass (grid : Grid) (place : Nat × Nat) : Bool :=
  (grid[place.2]?.bind (·[place.1]?)) = some (.tile .grass)

/-- Puts a tile on the first drawn place that is grass. The answer also tells how many drawn places
were not. -/
def placeOnGrass (size : Nat) (tile : Tile) (grid : Grid) (draws : Draws) :
    Option (Grid × Nat × Draws) :=
  match h : draws.pair size with
  | none => none
  | some (place, rest) =>
    have := Draws.pair_supply h
    if isGrass grid place then some (grid.put place.1 place.2 tile, 0, rest)
    else (placeOnGrass size tile grid rest).map fun (grid, retries, final) =>
      (grid, retries + 1, final)
termination_by draws.supply

/-- Places tiles one after another, adding up the retries. -/
def placeAll (size : Nat) : List Tile → Grid → Draws → Option (Grid × Nat × Draws)
  | [], grid, draws => some (grid, 0, draws)
  | tile :: tiles, grid, draws =>
    match placeOnGrass size tile grid draws with
    | none => none
    | some (placed, retries, rest) =>
      (placeAll size tiles placed rest).map fun (grid, more, final) => (grid, retries + more, final)

/-- The tiles to be placed on grass: first the walls, then the water. -/
def scattered (plan : MapPlan) : List Tile :=
  List.replicate plan.walls.toNat .wall ++ List.replicate plan.water.toNat .water

def generate (plan : MapPlan) (draws : Draws) : Except GenerationError GeneratedMap :=
  if !plan.fits then .error (.doesNotFit plan)
  else
    let size := plan.size.toNat
    match drawGoal size draws with
    | none => .error .drawsExhausted
    | some (goal, rest) =>
      match placeAll size plan.scattered ((Grid.empty size).put goal.1 goal.2 (.tile .goal)) rest with
      | none => .error .drawsExhausted
      | some (grid, retries, final) => .ok { grid, goal, retries, draws := final }

end MapPlan

end TileWalk
