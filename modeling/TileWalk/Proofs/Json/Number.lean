import TileWalk.Json.Reader
import TileWalk.Json.Writer
import TileWalk.Proofs.Text.Scanning

/-!
# Numbers in JSON

A number is read the same whatever follows it in a written text, and a whole number is read back
from its figures.
-/

namespace TileWalk.Json

open TileWalk.Text

variable {chars figures after rest : List Char}

/-- What may follow a value in an indented text: its end, a comma or a line break. -/
def Follows (after : List Char) : Prop :=
  ∀ char ∈ after.head?, char = ',' ∨ char = '\n'

@[simp] theorem follows_nil : Follows [] := by
  simp [Follows]

@[simp] theorem follows_cons {char : Char} : Follows (char :: rest) ↔ char = ',' ∨ char = '\n' := by
  simp [Follows]

theorem Follows.stops (follows : Follows after) : Stops Char.isDigit after := by
  intro char first
  rcases follows char first with rfl | rfl <;> decide

/-! ## What follows is left alone -/

theorem takeFigures_append (chars : List Char) (follows : Follows after) :
    takeFigures (chars ++ after) = ((takeFigures chars).1, (takeFigures chars).2 ++ after) := by
  rcases takeWhile_dropWhile_append chars follows.stops with ⟨taken, dropped⟩
  rw [takeFigures, taken, dropped]
  rfl

theorem takeWhole_append (chars : List Char) (follows : Follows after) :
    takeWhole (chars ++ after) = ((takeWhole chars).1, (takeWhole chars).2 ++ after) := by
  cases chars with
  | nil =>
      cases after with
      | nil => rfl
      | cons char after =>
          have other : char ≠ '0' := by
            rcases follows_cons.mp follows with rfl | rfl <;> decide
          simpa [takeWhole, other] using takeFigures_append [] follows
  | cons char chars =>
      by_cases zero : char = '0'
      · simp [takeWhole, zero]
      · simpa [takeWhole, zero] using takeFigures_append (char :: chars) follows

theorem takeFraction_append (chars : List Char) (follows : Follows after) :
    takeFraction (chars ++ after) =
      ((takeFraction chars).1, (takeFraction chars).2 ++ after) := by
  cases chars with
  | nil =>
      cases after with
      | nil => rfl
      | cons char after =>
          have other : char ≠ '.' := by
            rcases follows_cons.mp follows with rfl | rfl <;> decide
          simp [takeFraction, other]
  | cons char chars =>
      by_cases point : char = '.'
      · subst point
        simp only [List.cons_append, takeFraction, takeFigures_append chars follows]
        split <;> rfl
      · simp [takeFraction, point]

theorem takeSign_append (chars : List Char) (follows : Follows after) :
    takeSign (chars ++ after) = ((takeSign chars).1, (takeSign chars).2 ++ after) := by
  cases chars with
  | nil =>
      cases after with
      | nil => rfl
      | cons char after =>
          have minus : char ≠ '-' := by
            rcases follows_cons.mp follows with rfl | rfl <;> decide
          have plus : char ≠ '+' := by
            rcases follows_cons.mp follows with rfl | rfl <;> decide
          simp [takeSign, minus, plus]
  | cons char chars =>
      by_cases minus : char = '-'
      · simp [takeSign, minus]
      · by_cases plus : char = '+'
        · simp [takeSign, plus]
        · simp [takeSign, minus, plus]

theorem takePower_append (chars : List Char) (follows : Follows after) :
    takePower (chars ++ after) = ((takePower chars).1, (takePower chars).2 ++ after) := by
  cases chars with
  | nil =>
      cases after with
      | nil => rfl
      | cons char after =>
          have lower : char ≠ 'e' := by
            rcases follows_cons.mp follows with rfl | rfl <;> decide
          have upper : char ≠ 'E' := by
            rcases follows_cons.mp follows with rfl | rfl <;> decide
          simp [takePower, lower, upper]
  | cons char chars =>
      simp only [List.cons_append, takePower, takeSign_append chars follows,
        takeFigures_append _ follows]
      split <;> rfl

theorem readNumber_append (negative : Bool) (chars : List Char) (follows : Follows after) :
    readNumber negative (chars ++ after) =
      (readNumber negative chars).map fun found => (found.1, found.2 ++ after) := by
  simp only [readNumber, takeWhole_append chars follows, takeFraction_append _ follows,
    takePower_append _ follows]
  split
  · rfl
  · split
    · cases Numeral.convert (ofChars (takeWhole chars).1) <;> rfl
    · rfl

/-! ## Whole numbers -/

theorem digit?_figure {char : Char} (figure : char.isDigit = true) :
    digit? (.char char) = some (char.toNat - '0'.toNat) := by
  have bounds : 48 ≤ char.toNat ∧ char.toNat ≤ 57 := by
    simpa [Char.isDigit, UInt32.le_iff_toNat_le] using figure
  have found : (zeroDigits.find? fun first =>
      first ≤ (CodePoint.char char).code && (CodePoint.char char).code ≤ first + 9) = some 0x30 :=
    List.find?_cons_of_pos (by
      rw [Bool.and_eq_true, decide_eq_true_eq, decide_eq_true_eq]
      exact bounds)
  rw [digit?, found]
  rfl

/-- Figures spell the number that they are the figures of. -/
theorem valueOf_ofChars (within : Within Char.isDigit figures) :
    Numeral.valueOf (ofChars figures) = Nat.ofDigitChars 10 figures 0 := by
  have spelled (value : Nat) : (ofChars figures).foldl (fun value point =>
      (digit? point).elim value (10 * value + ·)) value = Nat.ofDigitChars 10 figures value := by
    induction figures generalizing value with
    | nil => rfl
    | cons char figures ih =>
        rw [within_cons] at within
        simp only [ofChars, List.map_cons, List.foldl_cons, digit?_figure within.1,
          Nat.ofDigitChars_cons] at ih ⊢
        exact ih within.2 _
  rw [← spelled 0, Numeral.valueOf]
  congr 1
  funext value point
  cases digit? point <;> rfl

theorem toDigits_within (size : Nat) : Within Char.isDigit (Nat.toDigits 10 size) :=
  fun _ membership => Nat.isDigit_of_mem_toDigits (by decide) (by decide) membership

/-- A number that has several figures does not begin with a zero. -/
theorem toDigits_head {size : Nat} (positive : 0 < size) :
    ∃ char rest, Nat.toDigits 10 size = char :: rest ∧ char ≠ '0' := by
  induction size using Nat.strongRecOn with
  | ind size ih =>
      by_cases small : size < 10
      · refine ⟨size.digitChar, [], Nat.toDigits_of_lt_base small, ?_⟩
        have other : ∀ figure < 10, 0 < figure → figure.digitChar ≠ '0' := by decide
        exact other size small positive
      · rcases ih (size / 10) (by omega) (by omega) with ⟨char, rest, figures, other⟩
        rw [Nat.toDigits_of_base_le (by decide) (by omega), figures]
        exact ⟨char, _, rfl, other⟩

theorem takeWhole_toDigits (size : Nat) :
    takeWhole (Nat.toDigits 10 size) = (Nat.toDigits 10 size, []) := by
  rcases Nat.eq_zero_or_pos size with rfl | positive
  · rfl
  · rcases toDigits_head positive with ⟨char, rest, figures, other⟩
    have split := takeWhile_dropWhile_iff.mpr
      ⟨(List.append_nil (Nat.toDigits 10 size)).symm, toDigits_within size, stops_nil⟩
    rw [figures] at split ⊢
    have run : takeFigures (char :: rest) = (char :: rest, []) := by
      rw [takeFigures, split.1, split.2]
    simpa [takeWhole, other] using run

/-- A whole number that is not too long is read from its figures. -/
theorem readNumber_toDigits (negative : Bool) (size : Nat)
    (short : (Nat.toDigits 10 size).length ≤ Numeral.maxDigits) (follows : Follows after) :
    readNumber negative (Nat.toDigits 10 size ++ after) =
      .ok (.integer (if negative then -(size : Int) else size), after) := by
  have value : Numeral.convert (ofChars (Nat.toDigits 10 size)) = .ok size := by
    have length : (ofChars (Nat.toDigits 10 size)).length = (Nat.toDigits 10 size).length := by
      simp [ofChars]
    rw [Numeral.convert, if_neg (by omega), valueOf_ofChars (toDigits_within size),
      Nat.ofDigitChars_toDigits (by decide) (by decide)]
  have some : Nat.toDigits 10 size ≠ [] := List.ne_nil_of_length_pos Nat.length_toDigits_pos
  rw [readNumber_append negative _ follows]
  simp [readNumber, takeWhole_toDigits, takeFraction, takePower, value, some, Except.map]

theorem ofDigitChars_lt {figures : List Char} (within : Within Char.isDigit figures) :
    Nat.ofDigitChars 10 figures 0 < Nat.pow 10 figures.length := by
  have bound (value : Nat) :
      Nat.ofDigitChars 10 figures value < (value + 1) * Nat.pow 10 figures.length := by
    induction figures generalizing value with
    | nil => simp
    | cons char figures ih =>
        rw [within_cons] at within
        have figure : char.toNat - '0'.toNat < 10 := by
          have bounds : 48 ≤ char.toNat ∧ char.toNat ≤ 57 := by
            simpa [Char.isDigit, UInt32.le_iff_toNat_le] using within.1
          have zero : '0'.toNat = 48 := rfl
          omega
        have longer : Nat.pow 10 (figures.length + 1) = 10 * Nat.pow 10 figures.length :=
          Nat.pow_succ'
        rw [Nat.ofDigitChars_cons, List.length_cons, longer, ← Nat.mul_assoc]
        exact Nat.lt_of_lt_of_le (ih within.2 _) (Nat.mul_le_mul_right _ (by omega))
  simpa using bound 0

theorem takeWhole_within (chars : List Char) : Within Char.isDigit (takeWhole chars).1 := by
  have run (chars : List Char) : Within Char.isDigit (takeFigures chars).1 :=
    (takeWhile_dropWhile_iff.mp ⟨rfl, rfl⟩).2.1
  rw [takeWhole.eq_def]
  split
  · exact within_cons.mpr ⟨by decide, within_nil⟩
  · exact run chars

/-- What is read as a number is a double or a whole number with no more figures than are
converted. -/
theorem readNumber_ok {negative : Bool} {value : Json}
    (reads : readNumber negative chars = .ok (value, rest)) :
    (∃ double, value = .float double) ∨
      ∃ number, value = .integer number ∧
        (Nat.toDigits 10 number.natAbs).length ≤ Numeral.maxDigits := by
  rw [readNumber] at reads
  dsimp only at reads
  split at reads
  · cases reads
  · next some =>
      split at reads
      · split at reads
        · next size converted =>
            cases reads
            refine .inr ⟨_, rfl, ?_⟩
            rw [Numeral.convert] at converted
            split at converted
            · cases converted
            · next short =>
                cases converted
                have bound := ofDigitChars_lt (takeWhole_within chars)
                rw [valueOf_ofChars (takeWhole_within chars)]
                rw [ofChars, List.length_map, Nat.not_lt] at short
                generalize Nat.ofDigitChars 10 (takeWhole chars).1 0 = size at bound ⊢
                have size_eq : (if negative then -(size : Int) else size).natAbs = size := by
                  split <;> simp
                rw [size_eq]
                have some := List.length_pos_iff.mpr some
                have few := (Nat.length_toDigits_le_iff (by decide) some).mpr bound
                exact Nat.le_trans few short
        · cases reads
      · cases reads
        exact .inl ⟨_, rfl⟩

end TileWalk.Json
