import TileWalk.Decimal.Double
import TileWalk.Json.Basic
import TileWalk.Numeral

/-!
# Reading JSON

The reader takes the standard grammar, and besides it the names of the doubles that are not
finite. A repeated key keeps its first place and its last value.
-/

namespace TileWalk.Json

open TileWalk.Text

/-- The two sorts of values that hold others. -/
inductive Shape where
  | array
  | object
deriving DecidableEq, Repr

def Shape.name : Shape → String
  | .array => "array"
  | .object => "object"

/-- Why a text is not read as JSON. -/
inductive ReadError where
  /-- The text does not follow the grammar. -/
  | malformed
  /-- Arrays and objects are nested too deeply, as was found at one of this shape. -/
  | tooDeep (shape : Shape)
  /-- A whole number has more digits than are converted. -/
  | longNumeral (cause : Numeral.TooLong)
deriving DecidableEq, Repr

/-- Drops the four blanks of the grammar. -/
def skipSpace (chars : List Char) : List Char :=
  chars.dropWhile fun char => char == ' ' || char == '\t' || char == '\n' || char == '\r'

def hexDigit? (char : Char) : Option Nat :=
  if '0' ≤ char ∧ char ≤ '9' then some (char.toNat - '0'.toNat)
  else if 'a' ≤ char ∧ char ≤ 'f' then some (char.toNat - 'a'.toNat + 10)
  else if 'A' ≤ char ∧ char ≤ 'F' then some (char.toNat - 'A'.toNat + 10)
  else none

/-- The number spelled by four hexadecimal digits. -/
def hexFour? (first second third fourth : Char) : Option Nat := do
  let a ← hexDigit? first
  let b ← hexDigit? second
  let c ← hexDigit? third
  let d ← hexDigit? fourth
  return ((a * 16 + b) * 16 + c) * 16 + d

/-- The character that a one-letter escape stands for. -/
def shortEscape? : Char → Option Char
  | '"' => some '"'
  | '\\' => some '\\'
  | '/' => some '/'
  | 'b' => some '\x08'
  | 'f' => some '\x0C'
  | 'n' => some '\n'
  | 'r' => some '\r'
  | 't' => some '\t'
  | _ => none

/-- Reads code units up to the closing quote. Control characters must be escaped. -/
def readUnits : List Char → Option (Text × List Char)
  | [] => none
  | '"' :: rest => some ([], rest)
  | '\\' :: 'u' :: a :: b :: c :: d :: rest => do
    let code ← hexFour? a b c d
    let (units, after) ← readUnits rest
    return (CodePoint.ofCode code :: units, after)
  | '\\' :: letter :: rest => do
    let char ← shortEscape? letter
    let (units, after) ← readUnits rest
    return (.char char :: units, after)
  | char :: rest => do
    if char.toNat < 0x20 then none
    let (units, after) ← readUnits rest
    return (.char char :: units, after)

/-- Reads a text whose opening quote has been taken. -/
def readText (chars : List Char) : Except ReadError (Text × List Char) :=
  match readUnits chars with
  | some (units, rest) => .ok (units.joinPairs, rest)
  | none => .error .malformed

/-- The longest run of the digits 0 to 9, and what follows it. -/
def takeFigures (chars : List Char) : List Char × List Char :=
  (chars.takeWhile Char.isDigit, chars.dropWhile Char.isDigit)

/-- Digits after a point, when there is a point with a digit after it. -/
def takeFraction : List Char → Option (List Char) × List Char
  | '.' :: rest =>
    let (figures, after) := takeFigures rest
    if figures = [] then (none, '.' :: rest) else (some figures, after)
  | chars => (none, chars)

/-- A sign, if there is one, and what follows it: whether the sign is a minus. -/
def takeSign : List Char → Bool × List Char
  | '-' :: rest => (true, rest)
  | '+' :: rest => (false, rest)
  | chars => (false, chars)

/-- A power of ten after `e` or `E`, when a digit follows it. -/
def takePower : List Char → Option Int × List Char
  | [] => (none, [])
  | mark :: rest =>
    let (negative, body) := takeSign rest
    let (figures, after) := takeFigures body
    if (mark = 'e' ∨ mark = 'E') ∧ figures ≠ [] then
      let value : Int := Numeral.valueOf (Text.ofChars figures)
      (some (if negative then -value else value), after)
    else (none, mark :: rest)

/-- The figures before a point: a single zero, or a run that starts with another digit. -/
def takeWhole : List Char → List Char × List Char
  | '0' :: rest => (['0'], rest)
  | chars => takeFigures chars

/-- Reads a number whose minus sign, if any, has been taken. -/
def readNumber (negative : Bool) (chars : List Char) : Except ReadError (Json × List Char) :=
  let (whole, afterWhole) := takeWhole chars
  let (fraction, afterFraction) := takeFraction afterWhole
  let (power, rest) := takePower afterFraction
  if whole = [] then .error .malformed
  else if fraction = none ∧ power = none then
    match Numeral.convert (Text.ofChars whole) with
    | .ok size => .ok (.integer (if negative then -(size : Int) else size), rest)
    | .error cause => .error (.longNumeral cause)
  else
    let figures := fraction.getD []
    .ok (.float (Decimal.nearestDecimal negative (Numeral.valueOf (Text.ofChars (whole ++ figures)))
      (power.getD 0 - figures.length)), rest)

/-- The words of the grammar, and the doubles that are not finite. -/
def words : List (String × Json) :=
  [("null", .null), ("true", .bool true), ("false", .bool false),
   ("NaN", .float (Float.ofBits 0x7FF8000000000000)),
   ("Infinity", .float (Float.ofBits 0x7FF0000000000000)),
   ("-Infinity", .float (Float.ofBits 0xFFF0000000000000))]

/-- The word that a text starts with. -/
def readWord? (chars : List Char) : Option (Json × List Char) :=
  words.findSome? fun (word, value) =>
    if word.toList.isPrefixOf chars then some (value, chars.drop word.length) else none

mutual

/-- Reads a value that starts right here. `levels` more arrays and objects may be opened. The first
argument bounds the count of steps; twice the length of the text is always enough. -/
def readValue : Nat → (levels : Nat) → List Char → Except ReadError (Json × List Char)
  | 0, _, _ => .error .malformed
  | fuel + 1, levels, chars =>
    match readWord? chars with
    | some found => .ok found
    | none =>
      match chars, levels with
      | '"' :: rest, _ => do
        let (value, after) ← readText rest
        return (.text value, after)
      | '[' :: _, 0 => .error (.tooDeep .array)
      | '[' :: rest, levels + 1 =>
        match skipSpace rest with
        | ']' :: after => .ok (.array [], after)
        | body => do
          let (items, after) ← readItems fuel levels body
          return (.array items, after)
      | '{' :: _, 0 => .error (.tooDeep .object)
      | '{' :: rest, levels + 1 =>
        match skipSpace rest with
        | '}' :: after => .ok (.object [], after)
        | body => do
          let (pairs, after) ← readFields fuel levels body
          return (.object (Fields.ofPairs pairs), after)
      | '-' :: rest, _ => readNumber true rest
      | _, _ => readNumber false chars

/-- Reads the items of an array up to its closing bracket. -/
def readItems : Nat → (levels : Nat) → List Char → Except ReadError (List Json × List Char)
  | 0, _, _ => .error .malformed
  | fuel + 1, levels, chars => do
    let (item, after) ← readValue fuel levels chars
    match skipSpace after with
    | ']' :: rest => return ([item], rest)
    | ',' :: rest =>
      let (items, final) ← readItems fuel levels (skipSpace rest)
      return (item :: items, final)
    | _ => .error .malformed

/-- Reads the fields of an object up to its closing brace. -/
def readFields : Nat → (levels : Nat) → List Char →
    Except ReadError (List (Text × Json) × List Char)
  | 0, _, _ => .error .malformed
  | fuel + 1, levels, chars =>
    match chars with
    | '"' :: afterQuote => do
      let (key, afterKey) ← readText afterQuote
      match skipSpace afterKey with
      | ':' :: afterColon =>
        let (value, after) ← readValue fuel levels (skipSpace afterColon)
        match skipSpace after with
        | '}' :: rest => return ([(key, value)], rest)
        | ',' :: rest =>
          let (fields, final) ← readFields fuel levels (skipSpace rest)
          return ((key, value) :: fields, final)
        | _ => .error .malformed
      | _ => .error .malformed
    | _ => .error .malformed

end

/-- Reads a whole text as one JSON value with blanks around it. Arrays and objects may be nested
`levels` deep. -/
def read (levels : Nat) (text : String) : Except ReadError Json := do
  let chars := text.toList
  let (value, rest) ← readValue (2 * chars.length + 1) levels (skipSpace chars)
  if skipSpace rest = [] then return value else .error .malformed

end TileWalk.Json
