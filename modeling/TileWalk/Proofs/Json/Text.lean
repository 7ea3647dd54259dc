import TileWalk.Json.Reader
import TileWalk.Json.Writer

/-!
# Texts in JSON

A written text is read back, unless two halves of a surrogate pair stand side by side in it. What
has been read holds no such two halves.
-/

namespace TileWalk.Json

open TileWalk.Text

variable {text : Text} {rest : List Char}

/-! ## Escapes -/

theorem hexDigit?_hexFigure {value : Nat} (figure : value < 16) :
    hexDigit? (hexFigure value) = some value := by
  have all : ∀ value < 16, hexDigit? (hexFigure value) = some value := by decide
  exact all value figure

theorem readUnits_unicodeEscape {unit : Nat} (short : unit < 0x10000) (rest : List Char) :
    readUnits (unicodeEscape unit ++ rest) =
      (readUnits rest).map fun found => (CodePoint.ofCode unit :: found.1, found.2) := by
  have figures : hexFour? (hexFigure (unit / 4096 % 16)) (hexFigure (unit / 256 % 16))
      (hexFigure (unit / 16 % 16)) (hexFigure (unit % 16)) = some unit := by
    simp only [hexFour?, hexDigit?_hexFigure (Nat.mod_lt _ (by decide : 0 < 16)), bind,
      Option.bind, pure]
    congr 1
    omega
  rw [unicodeEscape, List.cons_append, List.cons_append, List.cons_append, List.cons_append,
    List.cons_append, List.cons_append, List.nil_append, readUnits, figures]
  cases readUnits rest <;> rfl

/-- The code units that a code point is written with. -/
def unitsOf (point : CodePoint) : Text :=
  if point.code < 0x10000 then [point]
  else [CodePoint.ofCode (0xD800 + (point.code - 0x10000) / 0x400),
    CodePoint.ofCode (0xDC00 + (point.code - 0x10000) % 0x400)]

theorem code_char_lt (char : Char) : char.toNat < 0xD800 ∨ 0xDFFF < char.toNat := by
  rcases char.valid with low | ⟨high, -⟩
  · exact .inl low
  · exact .inr high

theorem code_lt (point : CodePoint) : point.code < 0x110000 := by
  cases point with
  | char value =>
      rcases value.valid with low | ⟨-, bound⟩
      · exact Nat.lt_trans low (by decide)
      · exact bound
  | surrogate offset =>
      have := offset.isLt
      simp only [CodePoint.code, CodePoint.firstSurrogate]
      omega

theorem ofCode_code (point : CodePoint) : CodePoint.ofCode point.code = point := by
  cases point with
  | char value =>
      have outside : ¬ (CodePoint.firstSurrogate ≤ value.toNat ∧
          value.toNat < CodePoint.firstSurrogate + 0x800) := by
        have := code_char_lt value
        simp only [CodePoint.firstSurrogate]
        omega
      rw [CodePoint.ofCode, CodePoint.code, dif_neg outside, Char.ofNat_toNat]
  | surrogate offset =>
      have := offset.isLt
      have inside : CodePoint.firstSurrogate ≤ CodePoint.firstSurrogate + offset.val ∧
          CodePoint.firstSurrogate + offset.val < CodePoint.firstSurrogate + 0x800 := by
        omega
      rw [CodePoint.ofCode, CodePoint.code, dif_pos inside]
      simp

theorem readUnits_short {letter char : Char} (short : shortEscape? letter = some char)
    (rest : List Char) :
    readUnits ('\\' :: letter :: rest) =
      (readUnits rest).map fun found => (.char char :: found.1, found.2) := by
  have other : letter ≠ 'u' := by
    rintro rfl
    cases short
  rw [readUnits.eq_4]
  · rw [short]
    cases readUnits rest <;> rfl
  · intro _ _ _ _ _ same
    exact absurd same other

theorem readUnits_literal {char : Char} (quote : char ≠ '"') (escape : char ≠ '\\')
    (printable : ¬ char.toNat < 0x20) (rest : List Char) :
    readUnits (char :: rest) =
      (readUnits rest).map fun found => (.char char :: found.1, found.2) := by
  rw [readUnits.eq_5]
  · rw [if_neg printable]
    cases readUnits rest <;> rfl
  · exact quote
  · intro _ _ _ _ _ same
    exact absurd same escape
  · intro _ _ same
    exact absurd same escape

/-- A code point that takes more than one code unit is written as two escapes. -/
theorem writeCode_large {code : Nat} (large : ¬ code < 0x10000) :
    writeCode code = unicodeEscape (0xD800 + (code - 0x10000) / 0x400) ++
      unicodeEscape (0xDC00 + (code - 0x10000) % 0x400) := by
  have other {small : Nat} (bound : small < 0x10000) : code ≠ small := by
    rintro rfl
    exact large bound
  have above : ¬ (0x20 ≤ code ∧ code < 0x7F) := by
    omega
  simp only [writeCode, if_neg (other (show '"'.toNat < 0x10000 by decide)),
    if_neg (other (show '\\'.toNat < 0x10000 by decide)),
    if_neg (other (show 0x0A < 0x10000 by decide)), if_neg (other (show 0x0D < 0x10000 by decide)),
    if_neg (other (show 0x09 < 0x10000 by decide)), if_neg (other (show 0x08 < 0x10000 by decide)),
    if_neg (other (show 0x0C < 0x10000 by decide)), if_neg above, if_neg large]

theorem readUnits_writeCode (point : CodePoint) (rest : List Char) :
    readUnits (writeCode point.code ++ rest) =
      (readUnits rest).map fun found => (unitsOf point ++ found.1, found.2) := by
  by_cases small : point.code < 0x10000
  · have short {code : Nat} {letter char : Char} (same : point.code = code)
        (back : CodePoint.ofCode code = .char char) (escape : shortEscape? letter = some char) :
        readUnits (['\\', letter] ++ rest) =
          (readUnits rest).map fun found => ([point] ++ found.1, found.2) := by
      rw [← ofCode_code point, same, back]
      exact readUnits_short escape rest
    have escaped := readUnits_unicodeEscape small rest
    rw [ofCode_code] at escaped
    rw [unitsOf, if_pos small, writeCode]
    by_cases quote : point.code = '"'.toNat
    · rw [if_pos quote]
      exact short quote (by decide) rfl
    by_cases backslash : point.code = '\\'.toNat
    · rw [if_neg quote, if_pos backslash]
      exact short backslash (by decide) rfl
    rw [if_neg quote, if_neg backslash]
    split
    · next same => exact short same (by decide) rfl
    split
    · next same => exact short same (by decide) rfl
    split
    · next same => exact short same (by decide) rfl
    split
    · next same => exact short same (by decide) rfl
    split
    · next same => exact short same (by decide) rfl
    split
    · next printable =>
        cases point with
        | char value =>
            rw [CodePoint.code, Char.ofNat_toNat]
            apply readUnits_literal
            · rintro rfl
              exact quote rfl
            · rintro rfl
              exact backslash rfl
            · exact Nat.not_lt.mpr printable.1
        | surrogate offset =>
            simp only [CodePoint.code, CodePoint.firstSurrogate] at printable
            omega
    · exact escaped
  · have bound := code_lt point
    rw [unitsOf, if_neg small, writeCode_large small, List.append_assoc,
      readUnits_unicodeEscape (by omega), readUnits_unicodeEscape (by omega), Option.map_map]
    rfl

/-! ## Whole texts -/

theorem readUnits_written (text : Text) (rest : List Char) :
    readUnits (text.flatMap (fun point => writeCode point.code) ++ '"' :: rest) =
      some (text.flatMap unitsOf, rest) := by
  induction text with
  | nil => rfl
  | cons point text ih =>
      rw [List.flatMap_cons, List.append_assoc, readUnits_writeCode, ih]
      rfl

/-! ## Surrogate pairs -/

/-- Two code points that are the halves of a surrogate pair. -/
def Joins (first second : CodePoint) : Prop :=
  ∃ high low, first = .surrogate high ∧ second = .surrogate low ∧
    high.val < 0x400 ∧ 0x400 ≤ low.val

theorem joinPairs_pair {high low : Fin 0x800} (upper : high.val < 0x400) (lower : 0x400 ≤ low.val)
    (text : Text) :
    joinPairs (.surrogate high :: .surrogate low :: text) =
      .char (Char.ofNat (0x10000 + high.val * 0x400 + (low.val - 0x400))) :: joinPairs text := by
  rw [joinPairs, if_pos ⟨upper, lower⟩]

theorem joinPairs_cons {point : CodePoint} (apart : ∀ next ∈ text.head?, ¬ Joins point next) :
    joinPairs (point :: text) = point :: joinPairs text := by
  cases point with
  | char value => simp [joinPairs]
  | surrogate high =>
      cases text with
      | nil => simp [joinPairs]
      | cons next text =>
          cases next with
          | char value => simp [joinPairs]
          | surrogate low =>
              rw [joinPairs, if_neg]
              intro halves
              exact apart _ rfl ⟨high, low, rfl, rfl, halves⟩

/-- What the joined text begins with is what the text begins with, or a character. -/
theorem head?_joinPairs {first : CodePoint} (text : Text) :
    ∀ point ∈ (joinPairs (first :: text)).head?, point = first ∨ ∃ char, point = .char char := by
  by_cases apart : ∀ next ∈ text.head?, ¬ Joins first next
  · rw [joinPairs_cons apart]
    simp
  · cases text with
    | nil => simp at apart
    | cons next text =>
        simp only [List.head?_cons, Option.mem_def, Option.some.injEq, forall_eq',
          Classical.not_not] at apart
        rcases apart with ⟨high, low, rfl, rfl, upper, lower⟩
        rw [joinPairs_pair upper lower]
        simp

/-- Either the first two code points are joined, or the first one stays as it is. -/
theorem joinPairs_induction {property : Text → Prop} (nil : property [])
    (pair : ∀ (high low : Fin 0x800) text, high.val < 0x400 → 0x400 ≤ low.val → property text →
      property (.surrogate high :: .surrogate low :: text))
    (cons : ∀ point text, (∀ next ∈ text.head?, ¬ Joins point next) → property text →
      property (point :: text)) (text : Text) : property text := by
  fun_induction joinPairs text with
  | case1 high low text halves ih => exact pair high low text halves.1 halves.2 ih
  | case2 high low text whole ih =>
      apply cons _ _ _ ih
      rintro _ ⟨⟩ ⟨_, _, ⟨⟩, ⟨⟩, halves⟩
      exact whole halves
  | case3 point text other ih =>
      apply cons _ _ _ ih
      rintro next first ⟨high, low, rfl, rfl, -⟩
      rcases List.head?_eq_some_iff.mp first with ⟨rest, rfl⟩
      exact other high low rest rfl rfl
  | case4 => exact nil

theorem joinPairs_joinPairs (text : Text) : joinPairs (joinPairs text) = joinPairs text := by
  induction text using joinPairs_induction with
  | nil => rfl
  | pair high low text upper lower ih =>
      rw [joinPairs_pair upper lower, joinPairs_cons (by rintro _ _ ⟨_, _, ⟨⟩, _⟩), ih]
  | cons point text apart ih =>
      rw [joinPairs_cons apart, joinPairs_cons, ih]
      intro next first joins
      cases text with
      | nil => cases first
      | cons other text =>
          rcases head?_joinPairs text next first with rfl | ⟨char, rfl⟩
          · exact apart _ rfl joins
          · rcases joins with ⟨_, _, _, ⟨⟩, _⟩

theorem ofCode_surrogate {offset : Nat} (bound : offset < 0x800) :
    CodePoint.ofCode (0xD800 + offset) = .surrogate ⟨offset, bound⟩ := by
  rw [← ofCode_code (.surrogate ⟨offset, bound⟩)]
  rfl

theorem unitsOf_small {point : CodePoint} (small : point.code < 0x10000) :
    unitsOf point = [point] := by
  rw [unitsOf, if_pos small]

/-- The two units of a large code point are a surrogate pair that stands for it. -/
theorem unitsOf_large {point : CodePoint} (large : ¬ point.code < 0x10000) :
    ∃ high low : Fin 0x800, unitsOf point = [.surrogate high, .surrogate low] ∧
      high.val < 0x400 ∧ 0x400 ≤ low.val ∧
      point = .char (Char.ofNat (0x10000 + high.val * 0x400 + (low.val - 0x400))) := by
  have bound := code_lt point
  have lower : 0xDC00 + (point.code - 0x10000) % 0x400 =
      0xD800 + (0x400 + (point.code - 0x10000) % 0x400) := by
    omega
  refine ⟨⟨(point.code - 0x10000) / 0x400, by omega⟩,
    ⟨0x400 + (point.code - 0x10000) % 0x400, by omega⟩, ?_, by dsimp only; omega,
    by dsimp only; omega, ?_⟩
  · rw [unitsOf, if_neg large, lower, ofCode_surrogate, ofCode_surrogate]
  · have whole : 0x10000 + (point.code - 0x10000) / 0x400 * 0x400 +
        (0x400 + (point.code - 0x10000) % 0x400 - 0x400) = point.code := by
      omega
    cases point with
    | char value => rw [whole, CodePoint.code, Char.ofNat_toNat]
    | surrogate offset =>
        simp only [CodePoint.code, CodePoint.firstSurrogate] at large
        omega

theorem joinPairs_unitsOf (text : Text) : joinPairs (text.flatMap unitsOf) = joinPairs text := by
  induction text using joinPairs_induction with
  | nil => rfl
  | pair high low text upper lower ih =>
      have small (offset : Fin 0x800) : unitsOf (.surrogate offset) = [.surrogate offset] := by
        apply unitsOf_small
        simp only [CodePoint.code, CodePoint.firstSurrogate]
        omega
      rw [List.flatMap_cons, List.flatMap_cons, small, small]
      simp only [List.cons_append, List.nil_append, joinPairs_pair upper lower, ih]
  | cons point text apart ih =>
      rw [List.flatMap_cons, joinPairs_cons apart]
      by_cases small : point.code < 0x10000
      · rw [unitsOf_small small, List.singleton_append, joinPairs_cons, ih]
        rintro next first joins
        cases text with
        | nil => cases first
        | cons other text =>
            by_cases small : other.code < 0x10000
            · rw [List.flatMap_cons, unitsOf_small small] at first
              cases first
              exact apart _ rfl joins
            · rcases unitsOf_large small with ⟨high, low, units, upper, -⟩
              rw [List.flatMap_cons, units] at first
              cases first
              rcases joins with ⟨_, _, -, ⟨⟩, -, lower⟩
              omega
      · rcases unitsOf_large small with ⟨high, low, units, upper, lower, same⟩
        rw [units]
        simp only [List.cons_append, List.nil_append, joinPairs_pair upper lower, ih]
        rw [← same]

/-- A text without a surrogate pair in it is read back as it was written. -/
theorem readText_written {text : Text} (joined : joinPairs text = text) (after : List Char) :
    readText (text.flatMap (fun point => writeCode point.code) ++ '"' :: after) =
      .ok (text, after) := by
  rw [readText, readUnits_written]
  dsimp only
  rw [joinPairs_unitsOf, joined]

theorem readText_joined {chars rest : List Char} (reads : readText chars = .ok (text, rest)) :
    joinPairs text = text := by
  rw [readText] at reads
  split at reads
  · cases reads
    exact joinPairs_joinPairs _
  · cases reads

end TileWalk.Json
