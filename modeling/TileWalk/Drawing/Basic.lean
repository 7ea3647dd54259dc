import TileWalk.Text.Basic

/-!
# Drawings

What the program shows is a tree of styled texts, groups, columns, panels and tables. How a
terminal lays the tree out is not settled here.
-/

namespace TileWalk

/-- A style for the characters of a text from `start` up to `stop`. -/
structure Span where
  start : Nat
  stop : Nat
  style : String
deriving DecidableEq, Repr

/-- A text with a style of its own and spans of further styles. -/
structure StyledText where
  text : Text := []
  style : String := ""
  spans : List Span := []
deriving DecidableEq, Repr

namespace StyledText

/-- The control characters that are never shown: bell, backspace, vertical tab, form feed and
carriage return. -/
def isHidden (point : Text.CodePoint) : Bool :=
  [7, 8, 11, 12, 13].contains point.code

def shown (text : Text) : Text :=
  text.filter (!isHidden ·)

def ofText (text : Text) (style : String) : StyledText :=
  { text := shown text, style }

/-- Adds a text in the style of the whole. -/
def appendPlain (styled : StyledText) (more : Text) : StyledText :=
  { styled with text := styled.text ++ shown more }

/-- Adds a text in a style of its own. -/
def append (styled : StyledText) (more : Text) (style : String) : StyledText :=
  let start := styled.text.length
  { styled with
    text := styled.text ++ shown more
    spans := styled.spans ++ [⟨start, start + (shown more).length, style⟩] }

end StyledText

inductive Drawing where
  | plain (text : Text)
  | styled (text : StyledText)
  | group (parts : List Drawing)
  | columns (parts : List Drawing)
  | panel (content : Drawing) (title : Option String)
  | table (headers : List String) (showHeader : Bool) (rows : List (List Drawing))

end TileWalk
