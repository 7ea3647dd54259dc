/-!
# Doubles as exact numbers

A finite double is a whole number times a power of two. `Double.parts` reads that pair off its
bits, and `Double.nearest` goes back: the double closest to a quotient of two natural numbers.
-/

namespace TileWalk.Decimal

/-- A finite number `± mantissa · 2 ^ exponent`. -/
structure Dyadic where
  negative : Bool
  mantissa : Nat
  exponent : Int
deriving DecidableEq, Repr

/-- The kinds of values that a double holds. -/
inductive Double where
  | finite (value : Dyadic)
  | infinite (negative : Bool)
  | notANumber
deriving DecidableEq, Repr

/-- Reads the sign, the eleven exponent bits and the fifty-two fraction bits. -/
def Double.ofBits (bits : Nat) : Double :=
  let negative : Bool := bits / Nat.pow 2 63 % 2 = 1
  let field : Nat := bits / Nat.pow 2 52 % Nat.pow 2 11
  let fraction : Nat := bits % Nat.pow 2 52
  if field = 2047 then
    if fraction = 0 then .infinite negative else .notANumber
  else if field = 0 then
    .finite ⟨negative, fraction, -1074⟩
  else
    .finite ⟨negative, Nat.pow 2 52 + fraction, (field : Int) - 1075⟩

def Double.ofFloat (value : Float) : Double :=
  Double.ofBits value.toBits.toNat

/-- The quotient rounded to the nearest whole number, a half going to the even neighbour. -/
def divideToEven (numerator denominator : Nat) : Nat :=
  let quotient := numerator / denominator
  let twice := 2 * (numerator % denominator)
  if twice < denominator then quotient
  else if twice = denominator then quotient + quotient % 2
  else quotient + 1

/-- `value · 2 ^ exponent` as a quotient. -/
def scaleByPower (numerator denominator : Nat) (exponent : Int) : Nat × Nat :=
  (numerator * Nat.pow 2 exponent.toNat, denominator * Nat.pow 2 (-exponent).toNat)

/-- The bits of the positive double closest to a positive quotient, or of infinity when the
quotient is too large. -/
def nearestBits (numerator denominator : Nat) : Nat :=
  let guess : Int := (numerator.log2 : Int) - denominator.log2 - 52
  let atGuess := scaleByPower numerator denominator (-guess)
  let exponent := max (-1074) (if atGuess.1 < Nat.pow 2 52 * atGuess.2 then guess - 1 else guess)
  let scaled := scaleByPower numerator denominator (-exponent)
  let rounded := divideToEven scaled.1 scaled.2
  let mantissa := if rounded = Nat.pow 2 53 then Nat.pow 2 52 else rounded
  let final := if rounded = Nat.pow 2 53 then exponent + 1 else exponent
  if final > 971 then 2047 * Nat.pow 2 52
  else if mantissa < Nat.pow 2 52 then mantissa
  else (final + 1075).toNat * Nat.pow 2 52 + (mantissa - Nat.pow 2 52)

/-- The double closest to `± numerator / denominator`, ties going to the even mantissa. -/
def nearest (negative : Bool) (numerator denominator : Nat) : Float :=
  let bits := if numerator = 0 then 0 else nearestBits numerator denominator
  Float.ofBits (UInt64.ofNat (bits + if negative then Nat.pow 2 63 else 0))

/-- The double closest to `± digits · 10 ^ exponent`. Exponents far outside the range of doubles
are settled without computing the power. -/
def nearestDecimal (negative : Bool) (digits : Nat) (exponent : Int) : Float :=
  if digits = 0 then nearest negative 0 1
  else
    let magnitude : Int := exponent + (Nat.toDigits 10 digits).length
    if magnitude > 400 then
      Float.ofBits (UInt64.ofNat (2047 * Nat.pow 2 52 + if negative then Nat.pow 2 63 else 0))
    else if magnitude < -400 then nearest negative 0 1
    else nearest negative (digits * Nat.pow 10 exponent.toNat) (Nat.pow 10 (-exponent).toNat)

end TileWalk.Decimal
