import TileWalk.Text.Basic

/-!
# Paths

A path is a list of names under a root or under the working folder. Empty names and single dots
are dropped when a path is read; a step to the parent folder is kept, for only the disk knows where
it leads.
-/

namespace TileWalk.Storage

open TileWalk.Text

/-- Where a path starts. Two slashes in front are a root of their own; three or more are one. -/
inductive Anchor where
  | workingFolder
  | root
  | doubleRoot
deriving DecidableEq, Repr

structure Path where
  anchor : Anchor
  parts : List Text
deriving DecidableEq, Repr

namespace Path

/-- The names between slashes, without empty ones and single dots. -/
def splitNames (text : Text) : List Text :=
  (text.splitOn (.char '/')).filter fun name => !(name = [] || name = ".")

/-- Where the text of a path starts. -/
def anchorOf : Text → Anchor
  | .char '/' :: .char '/' :: .char '/' :: _ => .root
  | .char '/' :: .char '/' :: _ => .doubleRoot
  | .char '/' :: _ => .root
  | _ => .workingFolder

def ofText (text : Text) : Path :=
  ⟨anchorOf text, splitNames text⟩

def anchorText : Anchor → Text
  | .workingFolder => ""
  | .root => "/"
  | .doubleRoot => "//"

/-- Writes a path; the working folder itself is a dot. -/
def toText (path : Path) : Text :=
  let text := anchorText path.anchor ++ Text.join "/" path.parts
  if text = [] then "." else text

/-- The path that a text leads to from a path. A text that starts at a root leads there by itself. -/
def join (path : Path) (text : Text) : Path :=
  match anchorOf text with
  | .workingFolder => ⟨path.anchor, path.parts ++ splitNames text⟩
  | anchor => ⟨anchor, splitNames text⟩

def parent (path : Path) : Path :=
  ⟨path.anchor, path.parts.dropLast⟩

end Path

end TileWalk.Storage
