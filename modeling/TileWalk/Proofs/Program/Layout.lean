import Mathlib.Logic.Relation
import TileWalk.Proofs.Program.Source

/-!
# The layout of a source

Blanks around the lines, blank lines and the choice of separators are the layout of a source. Two
sources that differ in nothing else hold the same statements, and only the numbers of their lines
may be others. A further line adds one statement and moves the lines behind it down by one.
-/

namespace TileWalk

open TileWalk.Text

variable {source other above below blanks separator line : Text} {lines : List Text}
  {point : CodePoint}

/-! ## Changes of the layout -/

/-- One change of the layout: more blanks where a line begins or ends, which may be whole lines of
blanks, or another separator. -/
inductive Relayout : Text → Text → Prop where
  | lead {above blanks : Text} (below : Text)
      (border : ∀ point ∈ above.getLast?, isLineBreak point = true) (blank : Within isBlank blanks) :
      Relayout (above ++ below) (above ++ blanks ++ below)
  | trail (above : Text) {blanks below : Text}
      (border : ∀ point ∈ below.head?, isLineBreak point = true) (blank : Within isBlank blanks) :
      Relayout (above ++ below) (above ++ blanks ++ below)
  | exchange (above : Text) {separator further : Text} (below : Text)
      (separates : Separator separator) (also : Separator further) :
      Relayout (above ++ separator ++ below) (above ++ further ++ below)

/-- The sources differ in their layout only. -/
abbrev Relaid : Text → Text → Prop :=
  Relation.EqvGen Relayout

/-! ## Statements do not depend on the layout -/

theorem statementTexts_append (parted : Parted above below) :
    statementTexts (above ++ below) = statementTexts above ++ statementTexts below := by
  simp [statementTexts, splitLines_append parted]

theorem statementTexts_concat (blank : isBlank point = true) :
    statementTexts (source ++ [point]) = statementTexts source := by
  rw [← SourceLine.ofSource_texts, SourceLine.ofSource_concat source blank, SourceLine.ofSource_texts]

theorem statementTexts_cons_break (breaks : isLineBreak point = true)
    (apart : Apart [point] source) : statementTexts (point :: source) = statementTexts source := by
  simp [statementTexts, splitLines_break breaks apart]

/-- A blank at the start of a source makes no difference. -/
theorem statementTexts_cons (blank : isBlank point = true) :
    statementTexts (point :: source) = statementTexts source := by
  cases breaks : isLineBreak point with
  | true =>
      by_cases apart : Apart [point] source
      · exact statementTexts_cons_break breaks apart
      · -- The line feed behind a carriage return belongs to its separator.
        simp only [Apart, Classical.not_imp, ne_eq, Classical.not_not] at apart
        rcases apart with ⟨ending, starts⟩
        obtain rfl : point = .char '\r' := by simpa using ending
        rcases List.head?_eq_some_iff.mp starts with ⟨rest, rfl⟩
        have feed : statementTexts (.char '\n' :: rest) = statementTexts rest :=
          statementTexts_cons_break (by decide) (by simp [Apart])
        rw [feed]
        simp [statementTexts]
  | false =>
      have alone : Within isBlank [point] := by simpa using blank
      rw [statementTexts, splitLines_unbroken breaks, statementTexts]
      cases splitLines source with
      | nil => simp [consFirst, trim_eq_nil_iff.mpr alone]
      | cons first others =>
          have same : trim (point :: first) = trim first := by
            simpa using trim_around first alone within_nil
          simp [consFirst, same]

theorem statementTexts_lead (blank : Within isBlank blanks) :
    statementTexts (blanks ++ source) = statementTexts source := by
  induction blanks with
  | nil => rfl
  | cons point blanks ih =>
      rcases within_cons.mp blank with ⟨first, others⟩
      rw [List.cons_append, statementTexts_cons first, ih others]

theorem statementTexts_trail (blank : Within isBlank blanks) :
    statementTexts (source ++ blanks) = statementTexts source := by
  induction blanks generalizing source with
  | nil => rw [List.append_nil]
  | cons point blanks ih =>
      rcases within_cons.mp blank with ⟨first, others⟩
      rw [List.append_cons, ih others, statementTexts_concat first]

/-- The statements around a line break are those above it and those below. -/
theorem statementTexts_break (breaks : isLineBreak point = true) :
    statementTexts (above ++ point :: below) = statementTexts above ++ statementTexts below := by
  have blank := isBlank_of_isLineBreak breaks
  by_cases apart : Apart [point] below
  · have parted : Parted (above ++ [point]) below := by
      refine ⟨by simpa using breaks, ?_⟩
      simpa [Apart] using apart
    rw [List.append_cons, statementTexts_append parted, statementTexts_concat blank]
  · simp only [Apart, Classical.not_imp, ne_eq, Classical.not_not] at apart
    rcases apart with ⟨-, starts⟩
    rcases List.head?_eq_some_iff.mp starts with ⟨rest, rfl⟩
    have parted : Parted (above ++ [point, .char '\n']) rest := by
      refine ⟨?_, by simp [Apart]⟩
      intro last ends
      obtain rfl : CodePoint.char '\n' = last := by simpa using ends
      decide
    have pair : Within isBlank [point, .char '\n'] := by
      simpa [SourceLine.isBlank_feed] using blank
    rw [show above ++ point :: .char '\n' :: rest = above ++ [point, .char '\n'] ++ rest by simp,
      statementTexts_append parted, statementTexts_trail pair,
      statementTexts_cons SourceLine.isBlank_feed]

theorem statementTexts_separator (separates : Separator separator) :
    statementTexts (above ++ separator ++ below) = statementTexts above ++ statementTexts below := by
  cases separates with
  | pair =>
      rw [List.append_assoc]
      exact (statementTexts_break (by decide)).trans
        (congrArg _ (statementTexts_cons SourceLine.isBlank_feed))
  | single breaks =>
      rw [List.append_assoc]
      exact statementTexts_break breaks

theorem Relayout.statementTexts (change : Relayout source other) :
    statementTexts other = statementTexts source := by
  cases change with
  | @lead above blanks below border blank =>
      rcases List.eq_nil_or_concat above with rfl | ⟨above, point, rfl⟩
      · exact statementTexts_lead blank
      · have breaks : isLineBreak point = true := border point (by simp)
        simp only [List.concat_eq_append, List.append_assoc, List.cons_append, List.nil_append]
        rw [statementTexts_break breaks, statementTexts_lead blank, statementTexts_break breaks]
  | @trail above blanks below border blank =>
      cases below with
      | nil =>
          rw [List.append_nil, List.append_nil]
          exact statementTexts_trail blank
      | cons point below =>
          have breaks : isLineBreak point = true := border point rfl
          rw [statementTexts_break breaks, statementTexts_trail blank, statementTexts_break breaks]
  | exchange above below separates also =>
      rw [statementTexts_separator separates, statementTexts_separator also]

theorem Relaid.statementTexts (relaid : Relaid source other) :
    statementTexts other = statementTexts source := by
  induction relaid with
  | rel source other change => exact change.statementTexts
  | refl source => rfl
  | symm source other relaid ih => exact ih.symm
  | trans source middle other relaid also ih first => exact first.trans ih

namespace SourceLine

/-! ## Statements that match -/

/-- The same statement, on a line with another number. -/
structure Renumbered (renumber : Nat → Nat) (line other : SourceLine) : Prop where
  text : other.text = line.text
  lineNumber : other.lineNumber = renumber line.lineNumber

theorem exists_eq_map {numbers others : List Nat} (distinct : numbers.Nodup)
    (length : others.length = numbers.length) : ∃ renumber, others = numbers.map renumber := by
  refine ⟨fun number => others[numbers.idxOf number]?.getD 0, ?_⟩
  apply List.ext_getElem (by simpa using length)
  intro index inside _
  simp [distinct.idxOf_getElem, inside]

/-- The statements of two sources that differ in their layout only match one by one. -/
theorem ofSource_relaid (relaid : Relaid source other) :
    ∃ renumber, List.Forall₂ (Renumbered renumber) (ofSource source) (ofSource other) := by
  have texts := relaid.statementTexts
  rw [← ofSource_texts, ← ofSource_texts] at texts
  have length : (ofSource other).length = (ofSource source).length := by
    simpa using congrArg List.length texts
  have distinct : ((ofSource source).map (·.lineNumber)).Nodup :=
    (ofSource_ascending source).imp fun less => less.ne
  have count : ((ofSource other).map (·.lineNumber)).length =
      ((ofSource source).map (·.lineNumber)).length := by simpa using length
  rcases exists_eq_map distinct count with ⟨renumber, numbers⟩
  refine ⟨renumber, List.forall₂_iff_get.mpr ⟨length.symm, ?_⟩⟩
  intro index inside also
  constructor
  · simpa [inside, also] using congrArg (·[index]?) texts
  · simpa [inside, also] using congrArg (·[index]?) numbers

/-! ## One line more -/

/-- The number of a line when one more line is put in at a number. -/
def past (number line : Nat) : Nat :=
  if line < number then line else line + 1

theorem ofLines_single (line : Text) :
    ofLines [line] = if trim line = [] then [] else [⟨0, 0, trim line⟩] := by
  by_cases blank : trim line = [] <;> simp [ofLines, numberedLines, blank]

theorem lineNumber_lt {line : SourceLine} (known : line ∈ ofLines lines) :
    line.lineNumber < lines.length := by
  rcases ofLines_trims known with ⟨-, raw, found, -⟩
  exact (List.getElem?_eq_some_iff.mp found).1

/-- The statements of a source around a place between two of its lines. -/
theorem ofSource_around {above below : List Text} (falls : FallsInto source (above ++ below)) :
    ofSource source = ofLines above ++
      (ofLines below).map (lowered (ofLines above).length above.length) ∧
      (ofSource source).filter (·.lineNumber < above.length) = ofLines above := by
  have whole := ofLines_falls falls
  rw [ofLines_append] at whole
  refine ⟨whole.symm, ?_⟩
  rw [← whole, List.filter_append, List.filter_eq_self.mpr, List.filter_eq_nil_iff.mpr,
    List.append_nil]
  · simp [lowered]
  · intro line known
    simpa using lineNumber_lt known

theorem renumbered_above (above : List Text) :
    List.Forall₂ (Renumbered (past above.length)) (ofLines above) (ofLines above) := by
  apply List.forall₂_same.mpr
  intro line known
  exact ⟨rfl, by simp [past, lineNumber_lt known]⟩

theorem renumbered_below (number statements more : Nat) (below : List SourceLine) :
    List.Forall₂ (Renumbered (past number)) (below.map (lowered statements number))
      (below.map (lowered (statements + more) (number + 1))) := by
  rw [List.forall₂_map_left_iff, List.forall₂_map_right_iff]
  apply List.forall₂_same.mpr
  intro line known
  refine ⟨rfl, ?_⟩
  simp [past, lowered]
  omega

/-- A blank line more changes the numbers only. -/
theorem ofSource_blank {above below : List Text} (falls : FallsInto source (above ++ below))
    (further : FallsInto other (above ++ line :: below)) (blank : trim line = []) :
    List.Forall₂ (Renumbered (past above.length)) (ofSource source) (ofSource other) := by
  have whole := ofLines_falls further
  rw [List.append_cons, ofLines_append, ofLines_append, ofLines_single, if_pos blank,
    List.map_nil, List.append_nil] at whole
  rw [(ofSource_around falls).1, ← whole]
  refine List.rel_append (renumbered_above above) ?_
  simpa using renumbered_below above.length (ofLines above).length 0 (ofLines below)

/-- A line more that is not blank is one more statement. -/
theorem ofSource_insert {above below : List Text} (falls : FallsInto source (above ++ below))
    (further : FallsInto other (above ++ line :: below)) (filled : trim line ≠ []) :
    ∃ early late moved, ofSource source = early ++ late ∧
      (ofSource source).filter (·.lineNumber < above.length) = early ∧
      ofSource other = early ++ ⟨early.length, above.length, trim line⟩ :: moved ∧
      List.Forall₂ (Renumbered (past above.length)) early early ∧
      List.Forall₂ (Renumbered (past above.length)) late moved := by
  rcases ofSource_around falls with ⟨whole, before⟩
  have longer := ofLines_falls further
  rw [List.append_cons, ofLines_append, ofLines_append, ofLines_single, if_neg filled] at longer
  refine ⟨_, _, _, whole, before, ?_, renumbered_above above,
    renumbered_below above.length (ofLines above).length 1 (ofLines below)⟩
  rw [← longer]
  simp [lowered]

end SourceLine

end TileWalk
