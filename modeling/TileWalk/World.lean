import TileWalk.Map.Grid

/-!
# Worlds

A world is a map with one agent on it. The size that bounds the agent's walk is kept apart from
the map.
-/

namespace TileWalk

structure Agent where
  position : Position := .origin
  target : Position := .origin
  dead : Bool := false
deriving DecidableEq, Repr

/-- A map, its agent, and the number of columns and rows it may walk on. -/
structure World where
  grid : Grid
  agent : Agent := {}
  size : Nat := Grid.standardSize
deriving DecidableEq, Repr

namespace World

/-- Whether a position lies beyond the bounds. -/
def isOutOfBounds (world : World) (position : Position) : Bool :=
  position.x < 0 || (world.size : Int) ≤ position.x || position.y < 0 ||
    (world.size : Int) ≤ position.y

def cellAt (world : World) (position : Position) : Except GridError Cell :=
  world.grid.cellAt position

/-- Whether the agent cannot survive at a position. -/
def isCollision (world : World) (position : Position) : Except GridError Bool :=
  (world.cellAt position).map (·.isBlocking)

/-- Whether the goal is at a position. -/
def isGoal (world : World) (position : Position) : Except GridError Bool :=
  (world.cellAt position).map (· = .tile .goal)

/-- Puts the agent, and its target, at a position. -/
def place (world : World) (position : Position) : World :=
  { world with agent := { world.agent with position, target := position } }

def aim (world : World) (target : Position) : World :=
  { world with agent := { world.agent with target } }

def setDead (world : World) (dead : Bool) : World :=
  { world with agent := { world.agent with dead } }

def load (world : World) (grid : Grid) : World :=
  { world with grid }

def resetAgent (world : World) : World :=
  { world with agent := {} }

end World

end TileWalk
