import TileWalk.Decimal.Double
import TileWalk.Map.Grid
import TileWalk.Numeral
import TileWalk.Text.Scan
import TileWalk.Validation

/-!
# Map documents

A map document is a named map as it is stored: twelve rows of twelve tiles. Reading one from a raw
value reports every field and every cell that is wrong; the shape is looked at only when there is
nothing else to report.
-/

namespace TileWalk

open TileWalk.Text

structure MapDocument where
  name : String
  rows : List (List Tile)
deriving DecidableEq, Repr

namespace MapDocument

def grid (document : MapDocument) : Grid :=
  document.rows.map (·.map Cell.tile)

/-- The stored form of rows of tiles: lists of codes. -/
def encodeRows (rows : List (List Tile)) : Json :=
  .array (rows.map fun row => .array (row.map fun tile => .integer tile.code))

/-- The raw form of a grid: lists of codes, whatever they stand for. -/
def encodeGrid (grid : Grid) : Json :=
  .array (grid.map fun row => .array (row.map fun cell => .integer cell.code))

/-! ## Cells -/

/-- A double's value, when it is whole. -/
def wholeFloat? (value : Float) : Option Int :=
  match Decimal.Double.ofFloat value with
  | .finite parts =>
    let scaled := parts.mantissa * Nat.pow 2 parts.exponent.toNat
    let divisor := Nat.pow 2 (-parts.exponent).toNat
    if scaled % divisor = 0 then
      let size : Int := (scaled / divisor : Nat)
      some (if parts.negative then -size else size)
    else none
  | _ => none

/-- A text without the sign in front of it, and whether that is a minus sign. No minus sign may
follow a plus sign. -/
def splitSign? : Text → Option (Bool × Text)
  | .char '+' :: .char '-' :: _ => none
  | .char '+' :: rest => some (false, rest)
  | .char '-' :: rest => some (true, rest)
  | text => some (false, text)

/-- What stays of the text behind zeros, the last of which is given. This one stays too when nothing
else is left before a point or the end. Behind the zeros the number starts with a figure, or with a
minus sign. -/
def behindZeros? (last : CodePoint) : Text → Option Text
  | [] => some [last]
  | .char '.' :: fraction => some (last :: '.' :: fraction)
  | point :: more => if isFigure point || point = '-' then some (point :: more) else none

/-- Leaves out zeros, and underscores among them, in front of a number, which starts with a
figure. -/
def dropLeadingZeros? : Text → Option Text
  | .char '0' :: rest =>
    let zeros := rest.takeWhile fun point => point == .char '0' || point == .char '_'
    behindZeros? (zeros.getLast?.getD '0') (rest.drop zeros.length)
  | text => if text.head?.any isFigure then some text else none

/-- Leaves out a fraction that has only zeros, at least one; another fraction is refused. -/
def dropZeroFraction? (text : Text) : Option Text :=
  match text.dropWhile (· != .char '.') with
  | [] => some text
  | [_] => none
  | _ :: fraction => if fraction.all (· == .char '0') then some (text.takeWhile (· != .char '.')) else none

/-- Leaves out underscores, which may only stand alone between other code points. -/
def dropUnderscores? (text : Text) : Option Text :=
  if text.head? = some (.char '_') || text.getLast? = some (.char '_') || hasDouble '_' text then
    none
  else some (text.filter (· != .char '_'))

/-- A natural number in figures, without zeros in front of it; too many figures are refused. -/
def plainNatural? : Text → Option Nat
  | [] => none
  | first :: rest =>
    if first = '0' ∧ rest ≠ [] then none
    else if (first :: rest).all isFigure then (Numeral.convert (first :: rest)).toOption
    else none

/-- A whole number in figures with an optional minus sign. -/
def plainInteger? : Text → Option Int
  | .char '-' :: figures => (plainNatural? figures).map fun (size : Nat) => -(size : Int)
  | figures => (plainNatural? figures).map Int.ofNat

/-- The whole number that a text spells: spaces around it, a sign, leading zeros, single underscores
between figures and a fraction of zeros are allowed. The sign is set aside while the rest is made
plain, and a minus sign is put back. -/
def textInteger? (text : Text) : Option Int := do
  let (negative, unsigned) ← splitSign? (strip isSpace text)
  let significant ← dropLeadingZeros? unsigned
  let whole ← dropZeroFraction? significant
  let figures ← dropUnderscores? whole
  plainInteger? (if negative then .char '-' :: figures else figures)

/-- The whole number that a raw value reads as: a whole number of any size, a whole double that fits
into a word, a truth value or a text that spells a whole number. -/
def wholeNumber? : Json → Option Int
  | .integer value => some value
  | .float value => (wholeFloat? value).filter Numeral.fitsWord
  | .bool value => some (if value then 1 else 0)
  | .text value => textInteger? value
  | _ => none

/-- What is said of a value that is no tile. -/
def notATile : IssueKind := .notOneOf "0, 1, 2 or 3"

/-- The tile that a raw value reads as, or what is wrong and the value that is at fault. That is the
number which was read when it is too large for a word, and the raw value otherwise. -/
def readTile (value : Json) : Except (IssueKind × Json) Tile :=
  match wholeNumber? value with
  | none => .error (notATile, value)
  | some code =>
    if Numeral.fitsWord code then
      match Tile.ofCode? code with
      | some tile => .ok tile
      | none => .error (notATile, value)
    else .error (.tooLarge, .integer code)

/-! ## Fields -/

/-- Results of reading the parts of a list, or all their issues in order. -/
def collect {α : Type} : List (Except (List Issue) α) → Except (List Issue) (List α)
  | [] => .ok []
  | .ok value :: rest => (collect rest).map (value :: ·)
  | .error issues :: rest =>
    match collect rest with
    | .ok _ => .error issues
    | .error more => .error (issues ++ more)

/-- Reads a cell; `place` leads to it. -/
def readCell (place : List PathStep) (value : Json) : Except (List Issue) Tile :=
  match readTile value with
  | .ok tile => .ok tile
  | .error (kind, fault) => .error [.of place kind fault]

/-- Reads each item of a list at its own place. -/
def readItems {α : Type} (read : List PathStep → Json → Except (List Issue) α)
    (place : List PathStep) : Json → Except (List Issue) (List α)
  | .array items => collect (items.zipIdx.map fun (item, index) => read (place ++ [.index index]) item)
  | value => .error [.of place .notAList value]

def readRows (value : Json) : Except (List Issue) (List (List Tile)) :=
  readItems (readItems readCell) [.named "grid"] value

def readName : Json → Except (List Issue) String
  | .text value =>
    match value.toString? with
    | none => .error [.of [.named "name"] .brokenText (.text value)]
    | some text =>
      if text.isEmpty then .error [.of [.named "name"] .emptyText (.text value)] else .ok text
  | value => .error [.of [.named "name"] .notText value]

/-- Reads the field with this name, which has to be there. -/
def readField {α : Type} (name : String) (read : Json → Except (List Issue) α)
    (fields : Json.Fields) : Except (List Issue) α :=
  match fields.get? name with
  | none => .error [.of [.named name] .missing (.object fields)]
  | some value => read value

def issuesOf {α : Type} : Except (List Issue) α → List Issue
  | .ok _ => []
  | .error issues => issues

/-- What is wrong with the shape of rows of tiles. -/
def shapeIssue? (rows : List (List Tile)) : Option String :=
  if rows.length ≠ Grid.standardSize then some s!"grid must have {Grid.standardSize} rows"
  else if rows.any (·.length ≠ Grid.standardSize) then
    some s!"grid rows must have {Grid.standardSize} tiles"
  else none

/-- The name of the record in reports. -/
def recordName : String := "MapDocument"

/-- Reads a document from the fields of a record. -/
def ofFields (fields : Json.Fields) : Except Invalid MapDocument :=
  let name := readField "name" readName fields
  let rows := readField "grid" readRows fields
  let unknown := unknownFields ["name", "grid"] fields
  match name, rows, unknown with
  | .ok name, .ok rows, [] =>
    match shapeIssue? rows with
    | none => .ok { name, rows }
    | some reason => .error ⟨recordName, [.of [] (.rejected reason) (.object fields)]⟩
  | _, _, _ => .error ⟨recordName, issuesOf name ++ issuesOf rows ++ unknown⟩

/-- Reads a document from any raw value. -/
def ofJson : Json → Except Invalid MapDocument
  | .object fields =>
    match brokenKey? recordName fields with
    | some invalid => .error invalid
    | none => ofFields fields
  | value => .error ⟨recordName, [.of [] (.notARecord recordName) value]⟩

/-- Reads a document from a raw name and a raw grid. -/
def ofParts (name grid : Json) : Except Invalid MapDocument :=
  ofFields [("name", name), ("grid", grid)]

end MapDocument

end TileWalk
