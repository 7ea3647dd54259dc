import TileWalk.Drawing.Basic

/-!
# Drawings without styles

Where there are no styles, a drawing is a list of plain lines. The parts of a drawing stand below
each other, and a panel has its title above it.
-/

namespace TileWalk

namespace Drawing

mutual

def plainLines : Drawing → List Text
  | .plain text => [text]
  | .styled content => [content.text]
  | .group parts => partLines parts
  | .columns parts => partLines parts
  | .panel content title => title.toList.map Text.ofString ++ plainLines content
  | .table _ _ rows => rowLines rows

def partLines : List Drawing → List Text
  | [] => []
  | part :: parts => plainLines part ++ partLines parts

/-- One line for each row of a table. -/
def rowLines : List (List Drawing) → List Text
  | [] => []
  | row :: rows => Text.join "  " (partLines row) :: rowLines rows

end

end Drawing

end TileWalk
