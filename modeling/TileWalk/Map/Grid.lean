import TileWalk.Map.Tile
import TileWalk.Numeral

/-!
# Grids

A grid is a list of rows of cells. Columns are counted from the left and rows from the top; a
negative coordinate counts back from the far end.
-/

namespace TileWalk

/-- A place on a map, given by its column and its row. -/
structure Position where
  x : Int
  y : Int
deriving DecidableEq, Repr

namespace Position

def origin : Position := ⟨0, 0⟩

/-- The place that lies this many columns and rows further on. -/
def offset (position : Position) (dx dy : Int) : Position :=
  ⟨position.x + dx, position.y + dy⟩

/-- The next place in a direction given by its change of column and row. -/
def shift (position : Position) (delta : Int × Int) : Position :=
  position.offset delta.1 delta.2

end Position

inductive GridError where
  /-- There is no such row, or no such cell to read. -/
  | outside
  /-- There is no such cell to write. -/
  | writeOutside
  /-- The coordinate is beyond those that any grid could have. -/
  | unindexable
deriving DecidableEq, Repr

def GridError.message : GridError → String
  | .outside => "list index out of range"
  | .writeOutside => "list assignment index out of range"
  | .unindexable => "cannot fit 'int' into an index-sized integer"

/-- Rows of cells, from the top. The rows may differ in length. -/
abbrev Grid := List (List Cell)

namespace Grid

/-- The usual number of rows and of columns. -/
def standardSize : Nat := 12

/-- The index that a coordinate stands for among `length` items. -/
def index? (length : Nat) (coordinate : Int) : Option Nat :=
  if 0 ≤ coordinate then
    if coordinate < length then some coordinate.toNat else none
  else if -(length : Int) ≤ coordinate then some (coordinate + length).toNat
  else none

/-- The index that a coordinate stands for among `length` items. A coordinate without an item is
refused with `absent`, or as such when it does not fit into a word. -/
def index (absent : GridError) (length : Nat) (coordinate : Int) : Except GridError Nat :=
  match index? length coordinate with
  | some place => .ok place
  | none => .error (if Numeral.fitsWord coordinate then absent else .unindexable)

def rowAt (grid : Grid) (coordinate : Int) : Except GridError (List Cell) :=
  (index .outside grid.length coordinate).map (grid[·]?.getD [])

/-- The cell at a position: first its row is looked up, then the cell. -/
def cellAt (grid : Grid) (position : Position) : Except GridError Cell := do
  let row ← grid.rowAt position.y
  let column ← index .outside row.length position.x
  return row[column]?.getD (.tile .grass)

def empty (size : Nat) : Grid :=
  List.replicate size (List.replicate size (.tile .grass))

def put (grid : Grid) (column row : Nat) (cell : Cell) : Grid :=
  grid.modify row (·.set column cell)

/-- Replaces the cell at a position: first its row is looked up, then the cell is written. -/
def write (grid : Grid) (position : Position) (cell : Cell) : Except GridError Grid := do
  let row ← index .outside grid.length position.y
  let column ← index .writeOutside (grid[row]?.getD []).length position.x
  return grid.put column row cell

def count (grid : Grid) (tile : Tile) : Nat :=
  grid.flatten.count (Cell.tile tile)

/-- A square grid of tiles with `size` rows. -/
def WellFormed (size : Nat) (grid : Grid) : Prop :=
  grid.length = size ∧ ∀ row ∈ grid, row.length = size ∧ ∀ cell ∈ row, ∃ tile, cell = .tile tile

end Grid

end TileWalk
