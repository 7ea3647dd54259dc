import TileWalk.Text.Scan

/-!
# Source lines

A program is read line by line. Blank lines count for the numbering of physical lines, but are no
statements.
-/

namespace TileWalk

open TileWalk.Text

/-- A line that holds a statement: its place among the statements, the number of its physical
line, and its text without blanks at the ends. -/
structure SourceLine where
  index : Nat
  lineNumber : Nat
  text : Text
deriving DecidableEq, Repr

namespace SourceLine

/-- The trimmed lines that are not blank, each with the number of its physical line. -/
def numbered (source : Text) : List (Text × Nat) :=
  ((splitLines source).map trim).zipIdx.filter fun line => !line.1.isEmpty

/-- The statement lines of a program, in order. -/
def ofSource (source : Text) : List SourceLine :=
  (numbered source).zipIdx.map fun ((text, lineNumber), index) => { index, lineNumber, text }

end SourceLine

end TileWalk
