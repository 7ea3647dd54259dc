import TileWalk.Proofs.Text.Scanning

/-!
# How a text falls into lines

A text falls in one way only into lines without line breaks and the separators between them. A
text that is cut behind a separator has the lines of its two parts, and a blank at its end adds at
most a blank line.
-/

namespace TileWalk.Text

variable {text rest line separator : Text} {lines : List Text} {point : CodePoint}

/-! ## Lines and separators -/

/-- What stands between two lines: a carriage return with a line feed, or a single line break. -/
inductive Separator : Text → Prop where
  | pair : Separator [.char '\r', .char '\n']
  | single {point : CodePoint} (breaks : isLineBreak point = true) : Separator [point]

/-- Nothing in the text breaks it. -/
abbrev Unbroken (text : Text) : Prop :=
  Within (fun point => !isLineBreak point) text

/-- No carriage return at the end of one text meets a line feed at the start of the other. -/
def Apart (text rest : Text) : Prop :=
  text.getLast? = some (.char '\r') → rest.head? ≠ some (.char '\n')

/-- A text falls into lines. A separator at the very end opens no further line. -/
inductive FallsInto : Text → List Text → Prop where
  | nothing : FallsInto [] []
  | last {line : Text} (filled : line ≠ []) (unbroken : Unbroken line) : FallsInto line [line]
  | more {line separator rest : Text} {lines : List Text} (unbroken : Unbroken line)
      (separates : Separator separator) (apart : Apart separator rest)
      (others : FallsInto rest lines) : FallsInto (line ++ separator ++ rest) (line :: lines)

theorem isBlank_of_isLineBreak (breaks : isLineBreak point = true) : isBlank point = true := by
  simp only [isLineBreak, Bool.or_eq_true, Bool.and_eq_true, decide_eq_true_eq, beq_iff_eq] at breaks
  simp only [isBlank, Bool.or_eq_true, Bool.and_eq_true, decide_eq_true_eq, beq_iff_eq]
  omega

theorem Apart.tail {first : CodePoint} (apart : Apart (first :: text) rest) : Apart text rest := by
  cases text with
  | nil => simp [Apart]
  | cons point text => simpa [Apart] using apart

/-! ## The first code point -/

theorem splitLines_unbroken (plain : isLineBreak point = false) :
    splitLines (point :: rest) = consFirst point (splitLines rest) := by
  rw [splitLines]
  · simp [plain]
  · rintro tail rfl -
    exact absurd plain (by decide)

theorem splitLines_break (breaks : isLineBreak point = true) (apart : Apart [point] rest) :
    splitLines (point :: rest) = [] :: splitLines rest := by
  rw [splitLines]
  · simp [breaks]
  · rintro tail rfl rfl
    exact apart rfl rfl

@[simp] theorem splitLines_nil : splitLines [] = [] := rfl

@[simp] theorem splitLines_pair :
    splitLines (.char '\r' :: .char '\n' :: rest) = [] :: splitLines rest := rfl

/-- A text begins with a separator or in the middle of a line. -/
theorem line_induction {motive : Text → Prop} (nil : motive [])
    (pair : ∀ rest, motive rest → motive (.char '\r' :: .char '\n' :: rest))
    (single : ∀ point rest, isLineBreak point = true → Apart [point] rest → motive rest →
      motive (point :: rest))
    (unbroken : ∀ point rest, isLineBreak point = false → motive rest → motive (point :: rest))
    (text : Text) : motive text := by
  fun_induction splitLines text with
  | case1 => exact nil
  | case2 rest ih => exact pair rest ih
  | case3 point rest whole breaks ih =>
      apply single point rest breaks _ ih
      intro ending starts
      cases rest with
      | nil => simp at starts
      | cons first tail => exact whole tail (by simpa using ending) (by simpa using starts)
  | case4 point rest whole plain ih => exact unbroken point rest (by simpa using plain) ih

theorem consFirst_ne_nil : consFirst point lines ≠ [] := by
  cases lines <;> simp [consFirst]

theorem consFirst_append {others : List Text} (filled : lines ≠ []) :
    consFirst point (lines ++ others) = consFirst point lines ++ others := by
  cases lines with
  | nil => exact absurd rfl filled
  | cons line lines => rfl

theorem splitLines_ne_nil (filled : text ≠ []) : splitLines text ≠ [] := by
  induction text using line_induction with
  | nil => exact absurd rfl filled
  | pair rest ih => simp
  | single point rest breaks apart ih => simp [splitLines_break breaks apart]
  | unbroken point rest plain ih =>
      rw [splitLines_unbroken plain]
      exact consFirst_ne_nil

/-! ## The lines of a text -/

theorem FallsInto.consFirst (plain : isLineBreak point = false) (falls : FallsInto rest lines) :
    FallsInto (point :: rest) (consFirst point lines) := by
  cases falls with
  | nothing => exact .last (by simp) (by simpa using plain)
  | last filled unbroken => exact .last (by simp) (within_cons.mpr ⟨by simpa using plain, unbroken⟩)
  | more unbroken separates apart others =>
      exact .more (within_cons.mpr ⟨by simpa using plain, unbroken⟩) separates apart others

theorem fallsInto_splitLines (text : Text) : FallsInto text (splitLines text) := by
  induction text using line_induction with
  | nil => exact .nothing
  | pair rest ih =>
      have apart : Apart [.char '\r', .char '\n'] rest := by simp [Apart]
      exact .more within_nil .pair apart ih
  | single point rest breaks apart ih =>
      rw [splitLines_break breaks apart]
      exact .more within_nil (.single breaks) apart ih
  | unbroken point rest plain ih =>
      rw [splitLines_unbroken plain]
      exact ih.consFirst plain

theorem splitLines_line (unbroken : Unbroken line) (separates : Separator separator)
    (apart : Apart separator rest) :
    splitLines (line ++ separator ++ rest) = line :: splitLines rest := by
  induction line with
  | nil =>
      cases separates with
      | pair => rfl
      | single breaks => exact splitLines_break breaks apart
  | cons point line ih =>
      rcases within_cons.mp unbroken with ⟨plain, unbroken⟩
      rw [List.cons_append, List.cons_append, splitLines_unbroken (by simpa using plain),
        ih unbroken]
      rfl

theorem splitLines_last (filled : line ≠ []) (unbroken : Unbroken line) :
    splitLines line = [line] := by
  induction line with
  | nil => exact absurd rfl filled
  | cons point line ih =>
      rcases within_cons.mp unbroken with ⟨plain, unbroken⟩
      rw [splitLines_unbroken (by simpa using plain)]
      cases line with
      | nil => rfl
      | cons next line =>
          rw [ih (by simp) unbroken]
          rfl

/-- A text falls into its lines and into no others. -/
theorem fallsInto_iff : FallsInto text lines ↔ splitLines text = lines := by
  constructor
  · intro falls
    induction falls with
    | nothing => rfl
    | last filled unbroken => exact splitLines_last filled unbroken
    | more unbroken separates apart others ih => rw [splitLines_line unbroken separates apart, ih]
  · rintro rfl
    exact fallsInto_splitLines text

theorem FallsInto.unbroken (falls : FallsInto text lines) : ∀ line ∈ lines, Unbroken line := by
  induction falls with
  | nothing => simp
  | last filled unbroken => simpa using unbroken
  | more unbroken separates apart others ih => simpa using ⟨unbroken, ih⟩

/-! ## Texts one after another -/

/-- A line ends between the two texts, and no separator is torn. -/
structure Parted (text rest : Text) : Prop where
  ends : ∀ point ∈ text.getLast?, isLineBreak point = true
  apart : Apart text rest

theorem Parted.tail (parted : Parted (point :: text) rest) : Parted text rest := by
  refine ⟨?_, parted.apart.tail⟩
  cases text with
  | nil => simp
  | cons next text => simpa using parted.ends

/-- The lines of two texts that are parted are those of the one and then those of the other. -/
theorem splitLines_append (parted : Parted text rest) :
    splitLines (text ++ rest) = splitLines text ++ splitLines rest := by
  induction text using line_induction with
  | nil => rfl
  | pair tail ih => simp [ih parted.tail.tail]
  | single point tail breaks apart ih =>
      have further : Apart [point] (tail ++ rest) := by
        cases tail with
        | nil => exact parted.apart
        | cons next tail => exact apart
      rw [List.cons_append, splitLines_break breaks apart, splitLines_break breaks further,
        ih parted.tail]
      rfl
  | unbroken point tail plain ih =>
      have filled : tail ≠ [] := by
        rintro rfl
        have breaks := parted.ends point rfl
        rw [plain] at breaks
        cases breaks
      rw [List.cons_append, splitLines_unbroken plain, splitLines_unbroken plain, ih parted.tail,
        consFirst_append (splitLines_ne_nil filled)]

/-! ## Blanks at the ends -/

theorem Trims.unbroken {part : Text} (trims : Trims text part) (unbroken : Unbroken text) :
    Unbroken part := by
  rcases trims.around with ⟨lead, trail, rfl, -, -⟩
  intro point known
  exact unbroken point (by simp [known])

theorem Trims.again {part : Text} (trims : Trims text part) : Trims part part :=
  ⟨⟨[], [], by simp, within_nil, within_nil⟩, trims.starts, trims.ends⟩

/-- Blanks around a text make no difference once it is trimmed. -/
theorem trim_around (text : Text) {lead trail : Text} (before : Within isBlank lead)
    (after : Within isBlank trail) : trim (lead ++ text ++ trail) = trim text := by
  have trims := trim_eq_iff.mp (rfl : trim text = trim text)
  generalize trim text = part at trims ⊢
  rcases trims with ⟨⟨inner, outer, rfl, innerBlank, outerBlank⟩, starts, ends⟩
  rw [trim_eq_iff]
  refine ⟨⟨lead ++ inner, outer ++ trail, by simp, ?_, ?_⟩, starts, ends⟩
  · simpa [Within, or_imp, forall_and] using And.intro before innerBlank
  · simpa [Within, or_imp, forall_and] using And.intro outerBlank after

theorem trim_eq_nil_iff : trim text = [] ↔ Within isBlank text := by
  constructor
  · intro empty
    rcases (trim_eq_iff.mp empty).around with ⟨lead, trail, rfl, before, after⟩
    simpa [Within, or_imp, forall_and] using And.intro before after
  · intro blank
    simpa using trim_around [] blank within_nil

/-- The lines of a text, trimmed, with one more blank at its end: they are the same, or a blank
line follows them. -/
theorem FallsInto.concat (falls : FallsInto text lines) (blank : isBlank point = true) :
    ∃ others, FallsInto (text ++ [point]) others ∧
      (others.map trim = lines.map trim ∨ others.map trim = lines.map trim ++ [[]]) := by
  have alone : Within isBlank [point] := by simpa using blank
  have single : ∃ line, FallsInto [point] [line] ∧ trim line = [] := by
    cases breaks : isLineBreak point with
    | true => exact ⟨[], .more within_nil (.single breaks) (by simp [Apart]) .nothing, rfl⟩
    | false =>
        have unbroken : Unbroken [point] := by simpa using breaks
        exact ⟨[point], .last (by simp) unbroken, trim_eq_nil_iff.mpr alone⟩
  induction falls with
  | nothing =>
      rcases single with ⟨line, falls, trimmed⟩
      exact ⟨[line], falls, .inr (by simp [trimmed])⟩
  | @last line filled unbroken =>
      cases breaks : isLineBreak point with
      | true =>
          have falls : FallsInto (line ++ [point] ++ []) [line] :=
            .more unbroken (.single breaks) (by simp [Apart]) .nothing
          exact ⟨[line], by simpa using falls, .inl rfl⟩
      | false =>
          have longer : Unbroken (line ++ [point]) := by
            simpa [Within, or_imp, forall_and, breaks] using unbroken
          refine ⟨[line ++ [point]], .last (by simp) longer, .inl ?_⟩
          simpa using trim_around line within_nil alone
  | @more line separator rest lines unbroken separates apart others ih =>
      by_cases torn : Apart separator (rest ++ [point])
      · rcases ih with ⟨later, falls, trimmed⟩
        refine ⟨line :: later, by simpa using FallsInto.more unbroken separates torn falls, ?_⟩
        simpa using trimmed
      · -- A carriage return ends the text, and the line feed belongs to its separator.
        simp only [Apart, Classical.not_imp, ne_eq, Classical.not_not] at torn
        rcases torn with ⟨ending, starts⟩
        have last : rest = [] := by
          cases rest with
          | nil => rfl
          | cons first rest => exact absurd starts (apart ending)
        subst last
        have none : [] = lines := fallsInto_iff.mp others
        subst none
        cases separates with
        | pair => simp at ending
        | single breaks =>
            obtain rfl : _ = CodePoint.char '\r' := by simpa using ending
            obtain rfl : point = .char '\n' := by simpa using starts
            have falls : FallsInto (line ++ [.char '\r', .char '\n'] ++ []) [line] :=
              .more unbroken .pair (by simp [Apart]) .nothing
            exact ⟨[line], by simpa using falls, .inl rfl⟩

/-- A blank at the end of a text adds at most a blank line. -/
theorem splitLines_concat (text : Text) (blank : isBlank point = true) :
    (splitLines (text ++ [point])).map trim = (splitLines text).map trim ∨
      (splitLines (text ++ [point])).map trim = (splitLines text).map trim ++ [[]] := by
  rcases (fallsInto_splitLines text).concat blank with ⟨others, falls, trimmed⟩
  rwa [fallsInto_iff.mp falls]

end TileWalk.Text
