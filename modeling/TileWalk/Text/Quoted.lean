import TileWalk.Text.Basic
import TileWalk.Text.Printable

/-!
# Quoted text

Names are quoted in messages so that every code point shows: between single quotes, or between
double ones when the text has a single quote and no double one. What is not printable is written
by number.
-/

namespace TileWalk.Text

/-- The quote that a text is put between. -/
def quoteMark (text : Text) : Char :=
  if text.contains '\'' && !text.contains '"' then '"' else '\''

/-- A number in lower-case hexadecimal, with zeros in front up to a width. -/
def hexPadded (width value : Nat) : List Char :=
  let figures := Nat.toDigits 16 value
  List.replicate (width - figures.length) '0' ++ figures

/-- A code point written by its number. -/
def escapeByNumber (code : Nat) : List Char :=
  if code < 0x100 then '\\' :: 'x' :: hexPadded 2 code
  else if code < 0x10000 then '\\' :: 'u' :: hexPadded 4 code
  else '\\' :: 'U' :: hexPadded 8 code

/-- The form of a character between two quotes. -/
def quoteChar (mark char : Char) : List Char :=
  let code := char.toNat
  if char = mark ∨ char = '\\' then ['\\', char]
  else if char = '\t' then ['\\', 't']
  else if char = '\n' then ['\\', 'n']
  else if char = '\r' then ['\\', 'r']
  else if 0x20 ≤ code ∧ code < 0x7F then [char]
  else if isPrintable code then [char]
  else escapeByNumber code

/-- The form of a code point between two quotes. -/
def quotePoint (mark : Char) (point : CodePoint) : List Char :=
  match point.char? with
  | some char => quoteChar mark char
  | none => escapeByNumber point.code

def quote (text : Text) : String :=
  let mark := quoteMark text
  String.ofList (mark :: text.flatMap (quotePoint mark) ++ [mark])

end TileWalk.Text
