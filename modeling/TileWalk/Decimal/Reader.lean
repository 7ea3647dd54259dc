import TileWalk.Decimal.Double
import TileWalk.Numeral

/-!
# Reading decimals

A decimal may have spaces around it, a sign, digits of any script set apart by single underscores,
a point and a power of ten. Infinity and the value that is no number are written by name, in any
case.
-/

namespace TileWalk.Decimal

open TileWalk.Text TileWalk.Numeral

/-- The exact number spelled by digits before and after a point and a power of ten. -/
def assemble (negative : Bool) (whole fraction : Text) (power : Int) : Float :=
  nearestDecimal negative (valueOf (whole ++ fraction)) (power - fraction.length)

/-- Splits a text at the first mark: what stands before it, and what stands after it when there is
one. -/
def splitAtFirst (isMark : CodePoint → Bool) (text : Text) : Text × Option Text :=
  match text.dropWhile (!isMark ·) with
  | [] => (text, none)
  | _ :: rest => (text.takeWhile (!isMark ·), some rest)

/-- Digits that may be missing: none at all, or grouped ones. -/
def optionalDigits? (text : Text) : Option Text :=
  if text = [] then some [] else if isGrouped text then some (text.filter isDigit) else none

/-- A power of ten after its mark: a sign and at least one digit. -/
def power? (text : Text) : Option Int :=
  let (negative, digits) := takeSign text
  if isGrouped digits then
    let value : Int := valueOf (digits.filter isDigit)
    some (if negative then -value else value)
  else none

def unsigned? (negative : Bool) (text : Text) : Option Float := do
  let (body, powerText) := splitAtFirst (fun point => point == 'e' || point == 'E') text
  let (wholeText, fractionText) := splitAtFirst (· == '.') body
  let whole ← optionalDigits? wholeText
  let fraction ← optionalDigits? (fractionText.getD [])
  let power ← match powerText with
    | none => some 0
    | some text => power? text
  if whole = [] ∧ fraction = [] then none else some (assemble negative whole fraction power)

/-- A text with its plain capital letters made small. -/
def lower (text : Text) : Text :=
  text.map fun
    | .char value => .char value.toLower
    | point => point

def read? (text : Text) : Option Float :=
  let (negative, body) := takeSign (strip isSpace text)
  let name := lower body
  if name = "inf" ∨ name = "infinity" then
    some (Float.ofBits (UInt64.ofNat (2047 * Nat.pow 2 52 + if negative then Nat.pow 2 63 else 0)))
  else if name = "nan" then
    some (Float.ofBits (UInt64.ofNat (2047 * Nat.pow 2 52 + Nat.pow 2 51)))
  else
    unsigned? negative body

end TileWalk.Decimal
