import TileWalk.Decimal.Double

/-!
# Doubles in text

A double is written with a fixed number of decimal places, or with the fewest digits that are read
back as the same double.
-/

namespace TileWalk.Decimal

/-! ## Fixed places

The exact value is rounded, and a half goes to the even neighbour. -/

/-- `mantissa · 2 ^ exponent` as a whole number of units in the last of `places` places. -/
def unitsInPlaces (places mantissa : Nat) (exponent : Int) : Nat :=
  divideToEven (mantissa * Nat.pow 2 exponent.toNat * Nat.pow 10 places)
    (Nat.pow 2 (-exponent).toNat)

/-- A count of units with the point before its last `places` digits. -/
def placePoint (places units : Nat) : List Char :=
  let digits := Nat.toDigits 10 units
  let padded := List.replicate (places + 1 - digits.length) '0' ++ digits
  let whole := padded.length - places
  padded.take whole ++ (if places = 0 then [] else '.' :: padded.drop whole)

/-- The text of a double with `places` decimal places. -/
def renderFixed (places : Nat) (value : Float) : String :=
  match Double.ofFloat value with
  | .finite parts =>
    let text := placePoint places (unitsInPlaces places parts.mantissa parts.exponent)
    String.ofList (if parts.negative then '-' :: text else text)
  | .infinite negative => if negative then "-inf" else "inf"
  | .notANumber => "nan"

/-! ## Shortest decimals

The fewest significant digits that are read back as the same double, and of those the closest to
its value, the even one of two that are equally close. They are written positionally for decimal
exponents from -4 to 15, otherwise with an exponent of at least two digits. -/

/-- A decimal `digits · 10 ^ exponent`. -/
structure Scaled where
  digits : Nat
  exponent : Int
deriving DecidableEq, Repr

/-- The decimal `digits · 10 ^ power` and the number `quarters · 2 ^ shift` on one common scale,
so that comparing the two answers compares the two numbers. -/
def commonScale (digits : Nat) (power : Int) (quarters : Nat) (shift : Int) : Nat × Nat :=
  (digits * Nat.pow 10 power.toNat * Nat.pow 2 (-shift).toNat,
    quarters * Nat.pow 2 shift.toNat * Nat.pow 10 (-power).toNat)

/-- Whether a decimal is read back as `mantissa · 2 ^ exponent`. The interval of such decimals
holds its ends exactly for an even mantissa; below a power of two it is half as wide. -/
def readsBack (mantissa : Nat) (exponent : Int) (decimal : Scaled) : Bool :=
  let narrow : Bool := mantissa = Nat.pow 2 52 && exponent > -1074
  let low := commonScale decimal.digits decimal.exponent
    (4 * mantissa - if narrow then 1 else 2) (exponent - 2)
  let high := commonScale decimal.digits decimal.exponent (4 * mantissa + 2) (exponent - 2)
  if mantissa % 2 = 0 then low.2 ≤ low.1 && high.1 ≤ high.2
  else low.2 < low.1 && high.1 < high.2

/-- The least `k` with `mantissa · 2 ^ exponent < 10 ^ k`, for a positive mantissa. -/
def magnitude (mantissa : Nat) (exponent : Int) : Int :=
  let guess := Int.fdiv (((mantissa.log2 : Int) + exponent) * 30103) 100000 + 1
  let scaled := commonScale 1 guess mantissa exponent
  if scaled.1 ≤ scaled.2 then guess + 1 else guess

/-- The decimal of `count` significant digits closest to `mantissa · 2 ^ exponent`, if one of the
two next to it on their grid is read back. -/
def withDigits? (mantissa : Nat) (exponent : Int) (count : Nat) : Option Scaled :=
  let power := magnitude mantissa exponent - count
  let unit := commonScale 1 power mantissa exponent
  let below := unit.2 / unit.1
  let rest := unit.2 % unit.1
  match readsBack mantissa exponent ⟨below, power⟩, readsBack mantissa exponent ⟨below + 1, power⟩ with
  | true, true =>
    let nearer := if 2 * rest < unit.1 then below
      else if 2 * rest = unit.1 then below + below % 2
      else below + 1
    some ⟨nearer, power⟩
  | true, false => some ⟨below, power⟩
  | false, true => some ⟨below + 1, power⟩
  | false, false => none

/-- The shortest decimal that is read back. Seventeen digits always are. -/
def shortest (mantissa : Nat) (exponent : Int) : Scaled :=
  (((List.range 17).map (· + 1)).findSome? (withDigits? mantissa exponent)).getD ⟨mantissa, 0⟩

/-- Digits without the zeros at their end, and how many zeros there were. -/
def dropZeros (digits : List Char) : List Char × Nat :=
  let reversed := digits.reverse
  ((reversed.dropWhile (· == '0')).reverse, (reversed.takeWhile (· == '0')).length)

/-- Writes significant digits with the decimal point after the first `point` of them. -/
def writePositional (digits : List Char) (point : Int) : List Char :=
  if point ≤ 0 then
    '0' :: '.' :: List.replicate (-point).toNat '0' ++ digits
  else if digits.length ≤ point.toNat then
    digits ++ List.replicate (point.toNat - digits.length) '0' ++ ['.', '0']
  else
    digits.take point.toNat ++ '.' :: digits.drop point.toNat

/-- Writes significant digits with the point after the first one, and a power of ten. -/
def writeExponent (digits : List Char) (power : Int) : List Char :=
  let figures := Nat.toDigits 10 power.natAbs
  digits.take 1 ++ (if digits.length > 1 then '.' :: digits.drop 1 else []) ++
    'e' :: (if power < 0 then '-' else '+') ::
    (if figures.length < 2 then '0' :: figures else figures)

/-- The text of a decimal: positional from `0.0001` up to sixteen places before the point. -/
def Scaled.render (decimal : Scaled) : List Char :=
  if decimal.digits = 0 then ['0', '.', '0']
  else
    let trimmed := dropZeros (Nat.toDigits 10 decimal.digits)
    let point := (trimmed.1.length : Int) + trimmed.2 + decimal.exponent
    if -4 < point ∧ point ≤ 16 then writePositional trimmed.1 point
    else writeExponent trimmed.1 (point - 1)

/-- The shortest text of a double; `infinity` and `missing` are the names of what is not finite. -/
def renderShortest (infinity missing : String) (value : Float) : String :=
  match Double.ofFloat value with
  | .finite parts =>
    let text := if parts.mantissa = 0 then ['0', '.', '0']
      else (shortest parts.mantissa parts.exponent).render
    String.ofList (if parts.negative then '-' :: text else text)
  | .infinite negative => if negative then "-" ++ infinity else infinity
  | .notANumber => missing

end TileWalk.Decimal
