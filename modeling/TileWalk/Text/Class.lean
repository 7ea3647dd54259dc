import TileWalk.Text.Basic

/-!
# Classes of code points

Blanks, decimal digits, and classes that are given by the ranges of their code points.
-/

namespace TileWalk.Text

/-! ## Ranges -/

/-- Closed ranges of code points, the first number of each pair being its lower end. -/
abbrev Ranges := List (Nat × Nat)

def Ranges.covers (ranges : Ranges) (code : Nat) : Bool :=
  ranges.any fun range => range.1 ≤ code && code ≤ range.2

theorem Ranges.covers_iff {ranges : Ranges} {code : Nat} :
    ranges.covers code = true ↔ ∃ range ∈ ranges, range.1 ≤ code ∧ code ≤ range.2 := by
  simp [Ranges.covers]

/-! ## Blanks -/

/-- Tabs, line and page breaks, the information separators, and every Unicode space. The
zero-width characters are not blank. -/
def isBlank (point : CodePoint) : Bool :=
  let code := point.code
  (0x09 ≤ code && code ≤ 0x0D) || (0x1C ≤ code && code ≤ 0x20) || code == 0x85 || code == 0xA0 ||
  code == 0x1680 || (0x2000 ≤ code && code ≤ 0x200A) || code == 0x2028 || code == 0x2029 ||
  code == 0x202F || code == 0x205F || code == 0x3000

/-- The blanks that may stand around a number; the information separators may not. -/
def isSpace (point : CodePoint) : Bool :=
  isBlank point && !(0x1C ≤ point.code && point.code ≤ 0x1F)

/-! ## Decimal digits

The decimal digits of all scripts. Each script's ten digits follow one another, so a script is
given by the code point of its zero. -/

/-- The code points of the digits zero. -/
def zeroDigits : List Nat :=
  [0x30, 0x660, 0x6F0, 0x7C0, 0x966, 0x9E6, 0xA66, 0xAE6, 0xB66, 0xBE6, 0xC66, 0xCE6, 0xD66,
   0xDE6, 0xE50, 0xED0, 0xF20, 0x1040, 0x1090, 0x17E0, 0x1810, 0x1946, 0x19D0, 0x1A80, 0x1A90,
   0x1B50, 0x1BB0, 0x1C40, 0x1C50, 0xA620, 0xA8D0, 0xA900, 0xA9D0, 0xA9F0, 0xAA50, 0xABF0, 0xFF10,
   0x104A0, 0x10D30, 0x11066, 0x110F0, 0x11136, 0x111D0, 0x112F0, 0x11450, 0x114D0, 0x11650,
   0x116C0, 0x11730, 0x118E0, 0x11950, 0x11C50, 0x11D50, 0x11DA0, 0x16A60, 0x16AC0, 0x16B50,
   0x1D7CE, 0x1D7D8, 0x1D7E2, 0x1D7EC, 0x1D7F6, 0x1E140, 0x1E2F0, 0x1E950, 0x1FBF0]

/-- The value of a decimal digit of any script. -/
def digit? (point : CodePoint) : Option Nat :=
  (zeroDigits.find? fun first => first ≤ point.code && point.code ≤ first + 9).map (point.code - ·)

def isDigit (point : CodePoint) : Bool :=
  (digit? point).isSome

/-- One of the plain digits 0 to 9. -/
def isFigure (point : CodePoint) : Bool :=
  0x30 ≤ point.code && point.code ≤ 0x39

theorem digit?_le_nine {point : CodePoint} {value : Nat} (h : digit? point = some value) :
    value ≤ 9 := by
  obtain ⟨first, hz, rfl⟩ := Option.map_eq_some_iff.1 h
  have := List.find?_some hz
  simp only [Bool.and_eq_true, decide_eq_true_eq] at this
  omega

end TileWalk.Text
