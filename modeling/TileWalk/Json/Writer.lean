import TileWalk.Decimal.Writer
import TileWalk.Json.Basic

/-!
# Writing JSON

Written text is plain ASCII. The indented form puts every item and field on a line of its own,
two blanks further in than its parent; the compact form has no blanks at all.
-/

namespace TileWalk.Json

open TileWalk.Text

def hexFigure (value : Nat) : Char :=
  if value < 10 then Char.ofNat ('0'.toNat + value) else Char.ofNat ('a'.toNat + value - 10)

/-- The escape of a code unit by its four hexadecimal figures. -/
def unicodeEscape (unit : Nat) : List Char :=
  ['\\', 'u', hexFigure (unit / 4096 % 16), hexFigure (unit / 256 % 16),
   hexFigure (unit / 16 % 16), hexFigure (unit % 16)]

/-- How a code point stands in a written text. Beyond the basic plane it is a surrogate pair. -/
def writeCode (code : Nat) : List Char :=
  if code = '"'.toNat then ['\\', '"']
  else if code = '\\'.toNat then ['\\', '\\']
  else if code = 0x0A then ['\\', 'n']
  else if code = 0x0D then ['\\', 'r']
  else if code = 0x09 then ['\\', 't']
  else if code = 0x08 then ['\\', 'b']
  else if code = 0x0C then ['\\', 'f']
  else if 0x20 ≤ code ∧ code < 0x7F then [Char.ofNat code]
  else if code < 0x10000 then unicodeEscape code
  else unicodeEscape (0xD800 + (code - 0x10000) / 0x400) ++
    unicodeEscape (0xDC00 + (code - 0x10000) % 0x400)

def writeText (text : Text) : List Char :=
  '"' :: text.flatMap (fun point => writeCode point.code) ++ ['"']

/-- A double: its shortest text, or the name of what is not finite. -/
def writeFloat (value : Float) : List Char :=
  (Decimal.renderShortest "Infinity" "NaN" value).toList

/-- A line break followed by two blanks for each level. -/
def newLine (level : Nat) : List Char :=
  '\n' :: List.replicate (2 * level) ' '

/-- The text of a value that holds no others. -/
def writeAtom : Json → List Char
  | .null => "null".toList
  | .bool value => (if value then "true" else "false").toList
  | .integer value => (toString value).toList
  | .float value => writeFloat value
  | .text value => writeText value
  | .array _ => ['[', ']']
  | .object _ => ['{', '}']

mutual

/-- The indented text of a value at a level of nesting, and what comes after it. -/
def indented (level : Nat) (value : Json) (after : List Char) : List Char :=
  match value with
  | .array (item :: items) =>
    '[' :: newLine (level + 1) ++ indented (level + 1) item
      (indentedItems (level + 1) items (newLine level ++ ']' :: after))
  | .object ((key, value) :: fields) =>
    '{' :: newLine (level + 1) ++ writeText key ++ ':' :: ' ' :: indented (level + 1) value
      (indentedFields (level + 1) fields (newLine level ++ '}' :: after))
  | atom => writeAtom atom ++ after

/-- Further items, each behind a comma and on its own line, and what comes after them. -/
def indentedItems (level : Nat) (items : List Json) (after : List Char) : List Char :=
  match items with
  | [] => after
  | item :: items =>
    ',' :: newLine level ++ indented level item (indentedItems level items after)

/-- Further fields, each behind a comma and on its own line, and what comes after them. -/
def indentedFields (level : Nat) (fields : List (Text × Json)) (after : List Char) : List Char :=
  match fields with
  | [] => after
  | (key, value) :: fields =>
    ',' :: newLine level ++ writeText key ++ ':' :: ' ' :: indented level value
      (indentedFields level fields after)

end

mutual

/-- The text of a value without blanks, and what comes after it. -/
def compact (value : Json) (after : List Char) : List Char :=
  match value with
  | .array (item :: items) => '[' :: compact item (compactItems items (']' :: after))
  | .object ((key, value) :: fields) =>
    '{' :: writeText key ++ ':' :: compact value (compactFields fields ('}' :: after))
  | atom => writeAtom atom ++ after

/-- Further items, each behind a comma, and what comes after them. -/
def compactItems (items : List Json) (after : List Char) : List Char :=
  match items with
  | [] => after
  | item :: items => ',' :: compact item (compactItems items after)

/-- Further fields, each behind a comma, and what comes after them. -/
def compactFields (fields : List (Text × Json)) (after : List Char) : List Char :=
  match fields with
  | [] => after
  | (key, value) :: fields =>
    ',' :: writeText key ++ ':' :: compact value (compactFields fields after)

end

/-- The indented text of a whole value. -/
def pretty (value : Json) : String :=
  String.ofList (indented 0 value [])

/-- The compact text of a whole value. -/
def render (value : Json) : String :=
  String.ofList (compact value [])

end TileWalk.Json
