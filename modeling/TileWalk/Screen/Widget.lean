import TileWalk.Drawing.WorldMap

/-!
# Widgets

The screens speak to their widgets in a few calls, which are kept as data. The grid widget turns the
place of a click back into the cell that is drawn there.
-/

namespace TileWalk

/-- The parts that screens are made of. -/
inductive Widget where
  | grid
  | editorPanel
  | statusBar
  | codeEditor
  | worldMap
  | console
deriving DecidableEq, Repr

/-- The name by which a screen finds a widget. -/
def Widget.name : Widget → String
  | .grid => "#grid"
  | .editorPanel => "#editor-panel"
  | .statusBar => "#status-bar"
  | .codeEditor => "#code-editor"
  | .worldMap => "#world-map"
  | .console => "#console"

/-- What a screen asks of a widget, or of the application. -/
inductive WidgetCall where
  | refresh (widget : Widget)
  | update (widget : Widget) (content : Drawing)
  | write (widget : Widget) (line : StyledText)
  | clear (widget : Widget)
  | focus (widget : Widget) (width : Nat)
  /-- Puts the cursor of a text where it is already, which takes away any selection. -/
  | moveCursor (widget : Widget)
  | selectLine (widget : Widget) (line : Int)
  | exit

/-- A widget that shows square cells and reports clicks on them. -/
structure GridWidget where
  size : Nat
  reportsClicks : Bool
deriving DecidableEq, Repr

namespace GridWidget

/-- The columns that a cell takes: its glyph and a blank. -/
def cellWidth : Int := 2

/-- The cell that a click inside the widget reports. -/
def cellAt? (widget : GridWidget) (column row : Int) : Option Position :=
  let x := Int.fdiv column cellWidth
  if widget.reportsClicks && 0 ≤ x && x < widget.size && 0 ≤ row && row < widget.size then
    some ⟨x, row⟩
  else
    none

end GridWidget

end TileWalk
