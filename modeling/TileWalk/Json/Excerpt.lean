import TileWalk.Decimal.Writer
import TileWalk.Json.Basic
import TileWalk.Text.Quoted

/-!
# Values in messages

A message shows a value as one line, in which texts are quoted as everywhere in messages. A long
line is cut: its two ends stay, and three dots stand for what is left out.
-/

namespace TileWalk.Json

open TileWalk.Text

/-- The word for the sort of a value. -/
def kindName : Json → String
  | .null => "NoneType"
  | .bool _ => "bool"
  | .integer _ => "int"
  | .float _ => "float"
  | .text _ => "str"
  | .array _ => "list"
  | .object _ => "dict"

/-- The line of a value that holds no others. -/
def atomLine : Json → List Char
  | .null => "None".toList
  | .bool value => (if value then "True" else "False").toList
  | .integer value => (toString value).toList
  | .float value => (Decimal.renderShortest "inf" "nan" value).toList
  | .text value => (quote value).toList
  | .array _ => ['[', ']']
  | .object _ => ['{', '}']

mutual

/-- The line of a value, and what comes after it. -/
def line (value : Json) (after : List Char) : List Char :=
  match value with
  | .array (item :: items) => '[' :: line item (itemsLine items (']' :: after))
  | .object ((key, value) :: fields) =>
    '{' :: (quote key).toList ++ ':' :: ' ' :: line value (fieldsLine fields ('}' :: after))
  | atom => atomLine atom ++ after

/-- Further items, each behind a comma and a blank, and what comes after them. -/
def itemsLine (items : List Json) (after : List Char) : List Char :=
  match items with
  | [] => after
  | item :: items => ',' :: ' ' :: line item (itemsLine items after)

/-- Further fields, each behind a comma and a blank, and what comes after them. -/
def fieldsLine (fields : List (Text × Json)) (after : List Char) : List Char :=
  match fields with
  | [] => after
  | (key, value) :: fields =>
    ',' :: ' ' :: (quote key).toList ++ ':' :: ' ' :: line value (fieldsLine fields after)

end

def octetCount (chars : List Char) : Nat :=
  chars.foldl (fun count char => count + char.utf8Size) 0

/-- The most characters at the front that take no more octets than there is room for. -/
def takeOctets (room : Nat) : List Char → List Char
  | [] => []
  | char :: rest =>
    if char.utf8Size ≤ room then char :: takeOctets (room - char.utf8Size) rest else []

/-- The most octets of a line that is shown whole. -/
def excerptSize : Nat := 50

/-- A line with its middle left out when it is long. -/
def shorten (chars : List Char) : List Char :=
  if octetCount chars ≤ excerptSize then chars
  else
    let half := excerptSize / 2
    takeOctets half chars ++ ['.', '.', '.'] ++ (takeOctets (half - 1) chars.reverse).reverse

/-- What a message shows of a value: its line, which may be cut, and the word for its sort. -/
structure Excerpt where
  shown : String
  kind : String
deriving DecidableEq, Repr

/-- What a message shows of a value. -/
def excerpt (value : Json) : Excerpt :=
  ⟨String.ofList (shorten (line value [])), kindName value⟩

end TileWalk.Json
