import TileWalk.Text.Class

/-!
# Scanning a text

Taking away what stands around a text, finding the first place at which a pattern fits, and cutting
a text into its physical lines.
-/

namespace TileWalk.Text

/-! ## Blanks around a text -/

/-- The text from its first code point that is not of a class. -/
def stripStart (outer : CodePoint → Bool) (text : Text) : Text :=
  text.dropWhile outer

/-- The text up to its last code point that is not of a class. -/
def stripEnd (outer : CodePoint → Bool) (text : Text) : Text :=
  (text.reverse.dropWhile outer).reverse

/-- The text without the code points of a class at either end. -/
def strip (outer : CodePoint → Bool) (text : Text) : Text :=
  stripEnd outer (stripStart outer text)

/-- The text from its first code point that is not blank. -/
def trimStart (text : Text) : Text :=
  stripStart isBlank text

/-- The text without the blanks at either end. -/
def trim (text : Text) : Text :=
  strip isBlank text

@[simp] theorem trim_nil : trim [] = [] := rfl

/-! ## Searching

Beginnings, and the first place at which a pattern fits. -/

/-- What follows `lead` when the text starts with it. -/
def after? : Text → Text → Option Text
  | [], text => some text
  | _ :: _, [] => none
  | expected :: lead, point :: text => if point = expected then after? lead text else none

/-- The answer of `pattern` at the first place of the text where it has one. The place behind the
last code point counts. -/
def search? {α : Type} (pattern : Text → Option α) : Text → Option α
  | [] => pattern []
  | point :: rest =>
    match pattern (point :: rest) with
    | some found => some found
    | none => search? pattern rest

/-- Whether two neighbouring code points are both `point`. -/
def hasDouble (point : CodePoint) : Text → Bool
  | [] => false
  | first :: rest => (first = point && rest.head? = some point) || hasDouble point rest

theorem after?_eq_some_iff {lead text rest : Text} :
    after? lead text = some rest ↔ text = lead ++ rest := by
  induction lead generalizing text with
  | nil => simp [after?]
  | cons expected lead ih =>
    cases text with
    | nil => simp [after?]
    | cons point text =>
      by_cases h : point = expected
      · simp [after?, h, ih]
      · simp [after?, h]

/-! ## Physical lines

A text is cut into lines at every line separator. A carriage return followed by a line feed is
one separator, and a separator at the very end opens no further line. -/

/-- Line feed, vertical tab, form feed, carriage return, the file, group and record separators,
next line, and the line and paragraph separators. -/
def isLineBreak (point : CodePoint) : Bool :=
  let code := point.code
  (0x0A ≤ code && code ≤ 0x0D) || (0x1C ≤ code && code ≤ 0x1E) || code == 0x85 ||
  code == 0x2028 || code == 0x2029

/-- Puts one more code point in front of the first line. -/
def consFirst (point : CodePoint) : List Text → List Text
  | [] => [[point]]
  | line :: lines => (point :: line) :: lines

/-- The lines of a text, without their separators. -/
def splitLines : Text → List Text
  | [] => []
  | .char '\r' :: .char '\n' :: rest => [] :: splitLines rest
  | point :: rest =>
    if isLineBreak point then [] :: splitLines rest else consFirst point (splitLines rest)

end TileWalk.Text
