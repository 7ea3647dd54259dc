/-!
# Tiles and cells

A map is made of four tiles. A cell of a map on hand may also hold a code that names no tile.
-/

namespace TileWalk

/-- What covers a cell of a map. -/
inductive Tile where
  | grass
  | wall
  | water
  | goal
deriving DecidableEq, Repr

namespace Tile

/-- All tiles in the order of their codes. -/
def all : List Tile := [.grass, .wall, .water, .goal]

/-- The code that stands for a tile in a stored map. -/
def code : Tile → Nat
  | .grass => 0
  | .wall => 1
  | .water => 2
  | .goal => 3

def ofCode? (code : Int) : Option Tile :=
  all.find? fun tile => (tile.code : Int) = code

def name : Tile → String
  | .grass => "grass"
  | .wall => "wall"
  | .water => "water"
  | .goal => "goal"

/-- The message for a number that is no tile's code. -/
def unknownMessage (code : Int) : String :=
  s!"{code} is not a valid Tile"

@[simp] theorem ofCode?_code (tile : Tile) : ofCode? tile.code = some tile := by
  cases tile <;> rfl

end Tile

/-- One cell of a map: a tile, or a code that names none. -/
inductive Cell where
  | tile (tile : Tile)
  | stray (code : Int)
deriving DecidableEq, Repr

namespace Cell

instance : Coe Tile Cell := ⟨.tile⟩

/-- The cell that a code stands for. -/
def ofCode (code : Int) : Cell :=
  match Tile.ofCode? code with
  | some known => .tile known
  | none => .stray code

def code : Cell → Int
  | .tile known => known.code
  | .stray number => number

/-- Walls and water kill an agent that walks into them. -/
def isBlocking (cell : Cell) : Bool :=
  cell = .tile .wall || cell = .tile .water

end Cell

end TileWalk
