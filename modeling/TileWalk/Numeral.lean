import TileWalk.Text.Scan

/-!
# Whole numbers in text

Numerals may use the decimal digits of any script, mixed and with leading zeros. A numeral of more
than 4300 digits is refused when it is converted, not when it is recognised.
-/

namespace TileWalk.Numeral

open TileWalk.Text

/-- The most digits that a numeral may have to be converted. -/
def maxDigits : Nat := 4300

/-- A numeral has this many digits, which are too many. -/
structure TooLong where
  digits : Nat
deriving DecidableEq, Repr

/-- Why a text has no value as a whole number. -/
inductive Failure where
  | notANumeral
  | tooLong (cause : TooLong)
deriving DecidableEq, Repr

/-- Whether a number fits into a signed word of sixty-four bits. -/
def fitsWord (number : Int) : Bool :=
  -Int.pow 2 63 ≤ number && number < Int.pow 2 63

/-- The number that digits spell in base ten; what is no digit is passed over. -/
def valueOf (digits : Text) : Nat :=
  digits.foldl (fun value point => match digit? point with
    | some digit => 10 * value + digit
    | none => value) 0

/-- Digits of any script, at least one, and at most one line feed after them. -/
def isUnsigned (text : Text) : Bool :=
  let rest := text.dropWhile isDigit
  !(text.takeWhile isDigit).isEmpty && (rest = [] || rest = "\n")

/-- The number that digits spell, unless they are too many. -/
def convert (digits : Text) : Except TooLong Nat :=
  if digits.length > maxDigits then .error ⟨digits.length⟩ else .ok (valueOf digits)

/-- The value of a text that `isUnsigned` accepts. -/
def unsigned (text : Text) : Except TooLong Nat :=
  convert (text.takeWhile isDigit)

/-- Whether digits are set apart by single underscores only, none at either end. -/
def isGrouped : Text → Bool
  | [] => false
  | [point] => isDigit point
  | point :: .char '_' :: rest => isDigit point && isGrouped rest
  | point :: rest => isDigit point && isGrouped rest

/-- A sign in front of a text, if it has one, and the text after it: whether the sign is a minus. -/
def takeSign : Text → Bool × Text
  | .char '-' :: rest => (true, rest)
  | .char '+' :: rest => (false, rest)
  | text => (false, text)

/-- Reads a whole number: spaces around it, a sign, and underscores between digits are allowed. -/
def signed (text : Text) : Except Failure Int :=
  let (negative, body) := takeSign (strip isSpace text)
  if isGrouped body then
    match convert (body.filter isDigit) with
    | .ok size => .ok (if negative then -(size : Int) else size)
    | .error cause => .error (.tooLong cause)
  else
    .error .notANumeral

/-- The message for a numeral that is too long. -/
def TooLong.message (cause : TooLong) : String :=
  s!"Exceeds the limit ({maxDigits} digits) for integer string conversion: value has {cause.digits} " ++
    "digits; use sys.set_int_max_str_digits() to increase the limit"

end TileWalk.Numeral
