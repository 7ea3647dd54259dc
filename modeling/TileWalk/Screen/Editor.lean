import TileWalk.Drawing.Console
import TileWalk.Library
import TileWalk.Screen.Widget

/-!
# The map editor

The editor holds a map, a cursor and a brush. A map keeps a single goal when one is painted, and the
goal never gets onto the tile where the agent starts. Only maps with exactly one goal are saved.
-/

namespace TileWalk

open TileWalk.Storage TileWalk.Random

structure EditorState where
  name : Text
  grid : Grid := Grid.empty Grid.standardSize
  cursor : Position := .origin
  brush : Tile := .wall
  lastMessage : Text := []
deriving DecidableEq, Repr

namespace EditorState

def withoutGoals (grid : Grid) : Grid :=
  grid.map (·.map fun cell => if cell = .tile .goal then .tile .grass else cell)

/-- Paints a cell, or the one under the cursor. Other goals are gone as soon as the goal is to be
painted, even when there turns out to be no such cell. -/
def paint (editor : EditorState) (cell : Option Position) : Except GridError Unit × EditorState :=
  let place := cell.getD editor.cursor
  if editor.brush = .goal ∧ place = .origin then
    (.ok (), { editor with lastMessage := "The goal cannot be placed on the start tile." })
  else
    let ground := if editor.brush = .goal then withoutGoals editor.grid else editor.grid
    match ground.write place (.tile editor.brush) with
    | .error error => (.error error, { editor with grid := ground })
    | .ok painted =>
      (.ok (), { editor with
        grid := painted
        lastMessage := s!"Painted {editor.brush.name} at {place.x}, {place.y}." })

/-- A coordinate kept within a map of this size. -/
def keepInside (size : Nat) (coordinate : Int) : Int :=
  max 0 (min ((size : Int) - 1) coordinate)

/-- Moves the cursor, but not off the map. -/
def moveCursor (editor : EditorState) (dx dy : Int) : EditorState :=
  let size := editor.grid.length
  { editor with
    cursor := ⟨keepInside size (editor.cursor.x + dx), keepInside size (editor.cursor.y + dy)⟩ }

/-- Saves the map when it has exactly one goal. The answer is whether it was saved. -/
def save (editor : EditorState) (library : Library) (archive : Archive) :
    Except LibraryError Bool × EditorState × Archive :=
  if editor.grid.count .goal ≠ 1 then
    (.ok false, { editor with lastMessage := "Place exactly one goal before saving." }, archive)
  else
    match library.save (.text editor.name) (MapDocument.encodeGrid editor.grid) archive with
    | (.error error, after) => (.error error, editor, after)
    | (.ok _, after) =>
      (.ok true, { editor with lastMessage := "Saved " ++ editor.name ++ "." }, after)

/-- The table of what the editor holds. -/
def table (editor : EditorState) : Drawing :=
  let glyph := Glyph.ofTile editor.brush
  let brush := (({} : StyledText).append glyph.text glyph.style).appendPlain s!" {editor.brush.name}"
  let count := fun tile => Drawing.plain (toString (editor.grid.count tile))
  let note := if editor.lastMessage = [] then [] else [("Note", Drawing.plain editor.lastMessage)]
  drawFields ([
    ("Map", .plain editor.name),
    ("Cursor", .plain s!"{editor.cursor.x}, {editor.cursor.y}"),
    ("Brush", .styled brush),
    ("Walls", count .wall),
    ("Water", count .water),
    ("Goals", count .goal)] ++ note)

/-- The drawn lines of the map with the cursor. -/
def lines (editor : EditorState) : List StyledText :=
  editor.grid.draw { cursor := some editor.cursor }

/-- The editor for a named map of a library, or for an empty map when there is none of that name. -/
def ofLibrary (library : Library) (name : Text) (archive : Archive) : Archived EditorState :=
  match library.load name archive with
  | (.ok grid, after) => (.ok { name, grid }, after)
  | (.error (.unknownMap _ _), after) => (.ok { name }, after)
  | (.error error, after) => (.error error, after)

end EditorState

/-- Why an action of the editor's screen fails. -/
inductive EditorFault where
  | grid (error : GridError)
  | library (error : LibraryError)
  | generation (error : GenerationError)
  /-- No brush belongs to this key. -/
  | unknownBrush (key : Text)
deriving DecidableEq, Repr

structure EditorScreen where
  editor : EditorState
  library : Library
  disk : Disk
  widget : GridWidget
  /-- Whether the widgets are there. -/
  mounted : Bool := false
  /-- The calls to widgets so far, the newest first. -/
  calls : List WidgetCall := []

/-- An action on the editor's screen. What it changed before it failed stays changed. -/
abbrev EditorAction (α : Type) := ExceptT EditorFault (StateM EditorScreen) α

namespace EditorScreen

def title : String := "Codimoji Editor"

def help : String :=
  "arrows=move | space/click=paint | 1-4=brush | n=random | c=clear | s=save | q=quit"

def brushOf? (key : Text) : Option Tile :=
  [(("1" : Text), Tile.grass), ("2", .wall), ("3", .water), ("4", .goal)].lookup key

def call (request : WidgetCall) (screen : EditorScreen) : EditorScreen :=
  { screen with calls := request :: screen.calls }

/-- Shows the state of the editor, once the widgets are there. -/
def refresh : EditorAction Unit :=
  modify fun screen =>
    if screen.mounted then
      ((screen.call (.refresh .grid)).call
        (.update .editorPanel (.panel screen.editor.table (some "Editor")))).call
        (.update .statusBar (.panel (.styled (StyledText.ofText help "bold")) none))
    else screen

def onEditor (change : EditorState → EditorState) : EditorAction Unit :=
  modify fun screen => { screen with editor := change screen.editor }

/-- Paints a cell, or the one under the cursor. -/
def paint (cell : Option Position) : EditorAction Unit := do
  let (result, editor) := (← get).editor.paint cell
  onEditor fun _ => editor
  match result with
  | .ok () => pure ()
  | .error error => throw (.grid error)

/-- Saves the map. The answer is whether it was saved. -/
def save : EditorAction Bool := do
  let screen ← get
  let (result, editor, archive) := screen.editor.save screen.library { disk := screen.disk }
  set { screen with editor, disk := archive.disk }
  match result with
  | .ok saved => return saved
  | .error error => throw (.library error)

def mount : EditorAction Unit := do
  modify fun screen => { screen with mounted := true }
  refresh

def arrow (dx dy : Int) : EditorAction Unit := do
  onEditor (·.moveCursor dx dy)
  refresh

def space : EditorAction Unit := do
  paint none
  refresh

def chooseBrush (key : Text) : EditorAction Unit := do
  match brushOf? key with
  | none => throw (.unknownBrush key)
  | some brush =>
    onEditor fun editor => { editor with brush, lastMessage := s!"Brush: {brush.name}." }
    refresh

/-- Starts over on a map of grass. -/
def clear : EditorAction Unit := do
  onEditor fun editor =>
    { editor with grid := Grid.empty editor.grid.length, lastMessage := "Cleared." }
  refresh

/-- Starts over on a random map of the same size. -/
def randomize (draws : Draws) : EditorAction Unit := do
  match MapPlan.generate { size := (← get).editor.grid.length } draws with
  | .error error => throw (.generation error)
  | .ok made =>
    onEditor fun editor =>
      { editor with grid := made.grid, lastMessage := "Generated a random layout." }
    refresh

def saveKey : EditorAction Unit := do
  let _ ← save
  refresh

def quit : EditorAction Unit :=
  modify (call .exit)

/-- A click at a column and a row of the grid widget, or outside of it. The cell that is clicked
takes the cursor and is painted. The answer holds the cells that were reported. -/
def click (offset : Option (Int × Int)) : EditorAction (List Position) := do
  let widget := (← get).widget
  match offset.bind fun (column, row) => widget.cellAt? column row with
  | none => return []
  | some cell =>
    onEditor fun editor => { editor with cursor := cell }
    paint (some cell)
    refresh
    return [cell]

def list : EditorAction (List String) := do
  let screen ← get
  match screen.library.list { disk := screen.disk } with
  | (.ok names, _) => return names
  | (.error error, _) => throw (.library error)

end EditorScreen

end TileWalk
