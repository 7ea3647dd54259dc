import TileWalk.Proofs.Text.Scanning

/-!
# Digits of all scripts

A code point is a digit of one script at most, and it has one value. Every digit is a word
character, so a numeral can stand wherever a word can.
-/

namespace TileWalk.Text

variable {point : CodePoint} {value : Nat}

/-- In some script the code point is the digit with this value. -/
def DigitOf (point : CodePoint) (value : Nat) : Prop :=
  value ≤ 9 ∧ ∃ start ∈ zeroDigits, point.code = start + value

/-- The digits of a script end before those of the next one. -/
theorem zeroDigits_apart : zeroDigits.Pairwise fun start next => start + 9 < next := by
  decide

theorem digit?_eq_some_iff : digit? point = some value ↔ DigitOf point value := by
  constructor
  · intro found
    refine ⟨digit?_le_nine found, ?_⟩
    rcases Option.map_eq_some_iff.mp found with ⟨start, first, rfl⟩
    have range := List.find?_some first
    rw [Bool.and_eq_true, decide_eq_true_eq, decide_eq_true_eq] at range
    exact ⟨start, List.mem_of_find?_eq_some first, by omega⟩
  · rintro ⟨small, start, known, code⟩
    -- No script whose zero comes before this one reaches the code point.
    rcases List.append_of_mem known with ⟨before, after, split⟩
    have apart := zeroDigits_apart
    rw [split, List.pairwise_append] at apart
    have first : (zeroDigits.find? fun other =>
        other ≤ point.code && point.code ≤ other + 9) = some start := by
      rw [split, List.find?_append, List.find?_eq_none.mpr]
      · simp [code, small]
      · intro other earlier
        have far := apart.2.2 other earlier start (List.mem_cons_self ..)
        rw [Bool.and_eq_true, decide_eq_true_eq, decide_eq_true_eq]
        omega
    rw [digit?, first, Option.map_some, code, Nat.add_sub_cancel_left]

theorem isDigit_iff : isDigit point = true ↔ ∃ value, DigitOf point value := by
  simp only [isDigit, Option.isSome_iff_exists, digit?_eq_some_iff]

/-! ## Digits in words -/

theorem zeroDigits_alphanumeric : ∀ start ∈ zeroDigits,
    ∃ range ∈ alphanumericRanges, range.1 ≤ start ∧ start + 9 ≤ range.2 := by
  -- Put as one truth value, the search through both tables is quick to compute.
  have found : (zeroDigits.all fun start => alphanumericRanges.any fun range =>
      Nat.ble range.1 start && Nat.ble (start + 9) range.2) = true := by decide +kernel
  simpa only [List.all_eq_true, List.any_eq_true, Bool.and_eq_true, Nat.ble_eq] using found

theorem isWord_of_isDigit (digit : isDigit point = true) : isWord point = true := by
  rcases isDigit_iff.mp digit with ⟨value, small, start, known, code⟩
  rcases zeroDigits_alphanumeric start known with ⟨range, inside, low, high⟩
  have letter : isAlphanumeric point = true :=
    Ranges.covers_iff.mpr ⟨range, inside, by omega, by omega⟩
  rw [isWord, letter, Bool.or_true]

/-! ## Plain figures -/

theorem zeroDigits_least : ∀ start ∈ zeroDigits, start = 0x30 ∨ 0x39 < start := by
  decide

theorem isFigure_iff : isFigure point = true ↔ 0x30 ≤ point.code ∧ point.code ≤ 0x39 := by
  rw [isFigure, Bool.and_eq_true, decide_eq_true_eq, decide_eq_true_eq]

theorem DigitOf.of_isFigure (figure : isFigure point = true) :
    DigitOf point (point.code - 0x30) := by
  rcases isFigure_iff.mp figure with ⟨low, high⟩
  exact ⟨by omega, 0x30, List.mem_cons_self .., by omega⟩

/-- A figure lies as far behind the figure zero as its value says. -/
theorem DigitOf.code_of_isFigure (digit : DigitOf point value) (figure : isFigure point = true) :
    point.code = 0x30 + value := by
  rcases digit with ⟨-, start, known, code⟩
  rcases isFigure_iff.mp figure with ⟨-, high⟩
  rcases zeroDigits_least start known with rfl | far
  · exact code
  · omega

end TileWalk.Text
