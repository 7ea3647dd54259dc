import Mathlib.Data.List.Forall2
import Mathlib.Data.Nat.Digits.Defs
import TileWalk.Proofs.Json.Number
import TileWalk.Proofs.Json.Text
import TileWalk.Proofs.Text.Digit

/-!
# The numbers that numerals spell

Digits of any scripts, mixed and with zeros in front, spell one number in base ten. A numeral is
recognised exactly where such digits stand, with at most one line feed behind them. One spelling
of a number is canonical: plain figures without a zero in front of another figure. It is no longer
than any other spelling, and it is how the number is written.
-/

namespace TileWalk.Numeral

open TileWalk.Text

variable {digits figures text : Text} {number : Nat} {values : List Nat}

/-- Digits of any scripts, at least one, that spell a number in base ten. -/
structure Spells (digits : Text) (number : Nat) : Prop where
  filled : digits ≠ []
  places : ∃ values, List.Forall₂ DigitOf digits values ∧
    number = Nat.ofDigits 10 values.reverse

/-- Plain figures that spell a number, with no zero in front of another figure. -/
structure Canonical (figures : Text) (number : Nat) : Prop where
  spells : Spells figures number
  plain : Within isFigure figures
  leading : figures.head? = some (.char '0') → figures = [.char '0']

/-! ## The value of digits -/

theorem valueOf_places (places : List.Forall₂ DigitOf digits values) :
    valueOf digits = Nat.ofDigits 10 values.reverse := by
  rw [valueOf, Nat.ofDigits_eq_foldr, List.foldr_reverse]
  generalize 0 = start
  induction places generalizing start with
  | nil => rfl
  | cons digit places ih =>
      simp only [List.foldl_cons, digit?_eq_some_iff.mpr digit]
      rw [ih, Nat.add_comm]
      rfl

theorem places_within (places : List.Forall₂ DigitOf digits values) : Within isDigit digits := by
  induction places with
  | nil => exact within_nil
  | cons digit places ih => exact within_cons.mpr ⟨isDigit_iff.mpr ⟨_, digit⟩, ih⟩

theorem places_small (places : List.Forall₂ DigitOf digits values) :
    ∀ value ∈ values.reverse, value < 10 := by
  intro value known
  rw [List.mem_reverse] at known
  induction places with
  | nil => cases known
  | cons digit places ih =>
      rcases List.mem_cons.mp known with rfl | known
      · exact Nat.lt_succ_of_le digit.1
      · exact ih known

theorem exists_places (within : Within isDigit digits) :
    ∃ values, List.Forall₂ DigitOf digits values := by
  induction digits with
  | nil => exact ⟨[], .nil⟩
  | cons point digits ih =>
      rcases within_cons.mp within with ⟨here, within⟩
      rcases isDigit_iff.mp here with ⟨value, digit⟩
      rcases ih within with ⟨values, places⟩
      exact ⟨value :: values, .cons digit places⟩

theorem Spells.within (spells : Spells digits number) : Within isDigit digits := by
  rcases spells.places with ⟨values, places, -⟩
  exact places_within places

theorem Spells.valueOf (spells : Spells digits number) : valueOf digits = number := by
  rcases spells.places with ⟨values, places, rfl⟩
  exact valueOf_places places

theorem spells_valueOf (filled : digits ≠ []) (within : Within isDigit digits) :
    Spells digits (Numeral.valueOf digits) := by
  rcases exists_places within with ⟨values, places⟩
  exact ⟨filled, values, places, valueOf_places places⟩

/-! ## Numerals -/

theorem isUnsigned_iff :
    isUnsigned text = true ↔
      ∃ digits number, Spells digits number ∧ (text = digits ∨ text = digits ++ [.char '\n']) := by
  have form : isUnsigned text = true ↔ ∃ digits rest, digits ≠ [] ∧ (rest = [] ∨ rest = "\n") ∧
      text.takeWhile isDigit = digits ∧ text.dropWhile isDigit = rest := by
    simp [isUnsigned]
  rw [form]
  constructor
  · rintro ⟨digits, rest, filled, ending, parts⟩
    rcases takeWhile_dropWhile_iff.mp parts with ⟨rfl, within, -⟩
    refine ⟨digits, _, spells_valueOf filled within, ?_⟩
    rcases ending with rfl | rfl
    · exact .inl (List.append_nil _)
    · exact .inr rfl
  · rintro ⟨digits, number, spells, rfl | rfl⟩
    · refine ⟨text, [], spells.filled, .inl rfl, takeWhile_dropWhile_iff.mpr ⟨?_, ?_, stops_nil⟩⟩
      · rw [List.append_nil]
      · exact spells.within
    · refine ⟨digits, "\n", spells.filled, .inr rfl, takeWhile_dropWhile_iff.mpr ⟨rfl, ?_, ?_⟩⟩
      · exact spells.within
      · exact stops_cons.mpr (by decide)

theorem Spells.isUnsigned (spells : Spells digits number) : isUnsigned digits = true :=
  isUnsigned_iff.mpr ⟨digits, number, spells, .inl rfl⟩

theorem Spells.takeWhile (spells : Spells digits number) : digits.takeWhile isDigit = digits :=
  (takeWhile_dropWhile_iff.mpr ⟨(List.append_nil _).symm, spells.within, stops_nil⟩).1

/-! ## Numerals that can be read

A numeral has a value unless it has too many digits. -/

/-- The text is a numeral with too many digits. -/
def Overlong (text : Text) : Prop :=
  isUnsigned text = true ∧ maxDigits < (text.takeWhile isDigit).length

instance (text : Text) : Decidable (Overlong text) :=
  inferInstanceAs (Decidable (_ ∧ _))

theorem unsigned_overlong (overlong : Overlong text) :
    unsigned text = .error ⟨(text.takeWhile isDigit).length⟩ := by
  simp [unsigned, convert, overlong.2]

theorem unsigned_readable (numeral : isUnsigned text = true)
    (readable : ¬ Overlong text) : unsigned text = .ok (valueOf (text.takeWhile isDigit)) := by
  have short : ¬ maxDigits < (text.takeWhile isDigit).length := by
    intro long
    exact readable ⟨numeral, long⟩
  simp [unsigned, convert, short]

/-! ## The canonical spelling -/

theorem code_injective : Function.Injective CodePoint.code :=
  Function.LeftInverse.injective Json.ofCode_code

theorem isFigure_char {char : Char} (figure : char.isDigit = true) :
    isFigure (.char char) = true := by
  have bounds : 0x30 ≤ char.toNat ∧ char.toNat ≤ 0x39 := by
    simpa [Char.isDigit, UInt32.le_iff_toNat_le] using figure
  exact isFigure_iff.mpr bounds

theorem within_isDigit (plain : Within isFigure figures) : Within isDigit figures :=
  fun point known => isDigit_iff.mpr ⟨_, .of_isFigure (plain point known)⟩

theorem eq_of_places {others : Text} (places : List.Forall₂ DigitOf figures values)
    (again : List.Forall₂ DigitOf others values) (plain : Within isFigure figures)
    (also : Within isFigure others) : others = figures := by
  induction places generalizing others with
  | nil =>
      cases again
      rfl
  | cons digit places ih =>
      cases again with
      | cons other again =>
          rw [within_cons] at plain also
          have code := digit.code_of_isFigure plain.1
          rw [← other.code_of_isFigure also.1] at code
          rw [code_injective code, ih again plain.2 also.2]

/-- A canonical spelling that begins with the value zero is the figure zero. -/
theorem Canonical.zero {point : CodePoint} {rest : Text}
    (canonical : Canonical (point :: rest) number) (digit : DigitOf point 0) :
    point :: rest = [.char '0'] := by
  have figure := (within_cons.mp canonical.plain).1
  have same : point = .char '0' := code_injective (digit.code_of_isFigure figure)
  exact canonical.leading (by rw [same]; rfl)

theorem Canonical.of_zero (canonical : Canonical figures 0) : figures = [.char '0'] := by
  rcases canonical.spells.places with ⟨values, places, total⟩
  cases places with
  | nil => exact absurd rfl canonical.spells.filled
  | @cons point value rest values digit places =>
      have zero : value = 0 :=
        Nat.digits_zero_of_eq_zero (by decide) total.symm value (by simp)
      exact canonical.zero (zero ▸ digit)

/-- The values of a canonical spelling are the digits of its number, the last one first. -/
theorem Canonical.places_digits (canonical : Canonical figures number) (positive : number ≠ 0) :
    List.Forall₂ DigitOf figures (Nat.digits 10 number).reverse := by
  rcases canonical.spells.places with ⟨values, places, total⟩
  have leading : ∀ filled : values.reverse ≠ [], values.reverse.getLast filled ≠ 0 := by
    intro filled zero
    cases places with
    | nil => exact filled rfl
    | @cons point value rest values digit places =>
        have zero : value = 0 := by simpa using zero
        subst zero
        -- Then the figure zero stands alone, and the number is zero.
        obtain ⟨-, rfl⟩ := List.cons.inj (canonical.zero digit)
        cases places
        exact positive total
  rw [total, Nat.digits_ofDigits 10 (by decide) _ (places_small places) leading,
    List.reverse_reverse]
  exact places

theorem Canonical.unique {others : Text} (canonical : Canonical figures number)
    (again : Canonical others number) : others = figures := by
  by_cases zero : number = 0
  · subst zero
    rw [again.of_zero, canonical.of_zero]
  · exact eq_of_places (canonical.places_digits zero) (again.places_digits zero) canonical.plain
      again.plain

theorem ofString_toString (number : Nat) :
    Text.ofString (toString number) = ofChars (Nat.toDigits 10 number) := by
  rw [Text.ofString, Nat.toString_eq_repr, Nat.toList_repr]

/-- A number is written in its canonical spelling. -/
theorem canonical_toString (number : Nat) : Canonical (toString number : String) number := by
  have plain : Within isFigure (Text.ofString (toString number)) := by
    rw [ofString_toString]
    intro point known
    rcases List.mem_map.mp known with ⟨char, inside, rfl⟩
    exact isFigure_char (Json.toDigits_within number char inside)
  have value : valueOf (Text.ofString (toString number)) = number := by
    rw [ofString_toString, Json.valueOf_ofChars (Json.toDigits_within number),
      Nat.ofDigitChars_toDigits (by decide) (by decide)]
  have filled : Text.ofString (toString number) ≠ [] := by
    rw [ofString_toString]
    simp [ofChars, Nat.toDigits_ne_nil]
  refine ⟨?_, plain, ?_⟩
  · have spells := spells_valueOf filled (within_isDigit plain)
    rwa [value] at spells
  · rcases Nat.eq_zero_or_pos number with rfl | positive
    · intro first
      rfl
    · rcases Json.toDigits_head positive with ⟨char, rest, figures, other⟩
      rw [ofString_toString, figures]
      simp [ofChars, other]

theorem canonical_iff : Canonical figures number ↔ figures = (toString number : String) := by
  constructor
  · intro canonical
    exact (canonical_toString number).unique canonical
  · rintro rfl
    exact canonical_toString number

/-- No spelling of a number is shorter than the canonical one. -/
theorem Canonical.length_le (canonical : Canonical figures number)
    (spells : Spells digits number) : figures.length ≤ digits.length := by
  have some : 0 < digits.length := List.length_pos_iff.mpr spells.filled
  rcases spells.places with ⟨values, places, total⟩
  have bound : number < 10 ^ digits.length := by
    rw [total, places.length_eq, ← List.length_reverse]
    exact Nat.ofDigits_lt_base_pow_length (by decide) (places_small places)
  rw [canonical_iff.mp canonical, ofString_toString, ofChars, List.length_map]
  exact (Nat.length_toDigits_le_iff (by decide) some).mpr bound

/-! ## Numbers that can be written -/

/-- A number is written in no more digits than a numeral may have. -/
def Writable (number : Int) : Prop :=
  (toString number).length ≤ maxDigits

instance (number : Int) : Decidable (Writable number) :=
  inferInstanceAs (Decidable (_ ≤ _))

/-- What a numeral is read as can be written. -/
theorem writable_of_unsigned (read : unsigned text = .ok number) : Writable number := by
  rw [unsigned, convert] at read
  split at read
  · cases read
  · next short =>
      cases read
      by_cases filled : text.takeWhile isDigit = []
      · rw [filled]
        decide
      · have spells := spells_valueOf filled (List.all_eq_true.mp List.all_takeWhile)
        have least := (canonical_toString _).length_le spells
        rw [Text.ofString, ofChars, List.length_map, String.length_toList] at least
        exact least.trans (Nat.le_of_not_lt short)

end TileWalk.Numeral
