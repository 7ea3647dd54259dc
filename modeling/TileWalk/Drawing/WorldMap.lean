import TileWalk.Drawing.Basic
import TileWalk.World

/-!
# The drawn map

A map is drawn as one line per row, one glyph per cell with a blank between neighbours. The agent
covers the cell that it stands on, and a cursor reverses the style of its cell.
-/

namespace TileWalk

/-- How something is drawn in a cell. -/
structure Glyph where
  text : String
  style : String
deriving DecidableEq, Repr

namespace Glyph

def ofTile : Tile → Glyph
  | .grass => ⟨".", "green3"⟩
  | .wall => ⟨"#", "grey50"⟩
  | .water => ⟨"~", "bright_blue"⟩
  | .goal => ⟨"G", "bold yellow"⟩

/-- The glyph of a cell. A code that names no tile shows as a question mark. -/
def ofCell : Cell → Glyph
  | .tile known => ofTile known
  | .stray _ => ⟨"?", "grey70"⟩

/-- The glyph of an agent, living or dead. -/
def ofAgent (dead : Bool) : Glyph :=
  if dead then ⟨"X", "bold red reverse"⟩ else ⟨"@", "bold bright_red"⟩

def reversed (glyph : Glyph) : Glyph :=
  { glyph with style := glyph.style ++ " reverse" }

end Glyph

/-- What is drawn over the cells of a map. -/
structure Overlay where
  agent : Option Position := none
  dead : Bool := false
  cursor : Option Position := none
deriving DecidableEq, Repr

namespace Overlay

/-- The glyph at a position that holds a cell. -/
def glyphAt (overlay : Overlay) (position : Position) (cell : Cell) : Glyph :=
  let drawn := if overlay.agent = some position then Glyph.ofAgent overlay.dead else Glyph.ofCell cell
  if overlay.cursor = some position then drawn.reversed else drawn

/-- Draws the cells of a row from a column on, behind a line that has been begun. -/
def drawCells (overlay : Overlay) (row : Nat) : (column : Nat) → List Cell → StyledText → StyledText
  | _, [], line => line
  | column, cell :: cells, line =>
    let glyph := overlay.glyphAt ⟨column, row⟩ cell
    let drawn := line.append glyph.text glyph.style
    overlay.drawCells row (column + 1) cells (if cells = [] then drawn else drawn.appendPlain " ")

end Overlay

namespace Grid

def draw (grid : Grid) (overlay : Overlay) : List StyledText :=
  grid.zipIdx.map fun (cells, row) => overlay.drawCells row 0 cells {}

end Grid

namespace World

/-- The drawn lines of a world with its agent. -/
def draw (world : World) : List StyledText :=
  world.grid.draw { agent := some world.agent.position, dead := world.agent.dead }

end World

def drawLegend : StyledText :=
  let tiles := Tile.all.foldl (fun line tile =>
    let glyph := Glyph.ofTile tile
    (line.append glyph.text glyph.style).appendPlain s!" {tile.name}  ") ({} : StyledText)
  let agent := Glyph.ofAgent false
  (tiles.append agent.text agent.style).appendPlain " you"

/-- The panel with a world and the explanation of its glyphs. -/
def drawWorldPanel (world : World) : Drawing :=
  .panel (.group (world.draw.map .styled ++ [.styled {}, .styled drawLegend])) (some "World")

end TileWalk
