import TileWalk.Proofs.Run.Faults
import TileWalk.Proofs.Text.Lines

/-!
# Source lines and physical lines

The statement lines of a program are its physical lines that are not blank, each once, in order
and with its number. A program that is written below another one adds its statements to those of
the other, and the statements alone, one below the other, are a program without other lines.
-/

namespace TileWalk

open TileWalk.Text

namespace SourceLine

variable {source above below : Text} {lines : List Text} {point : CodePoint}

/-! ## The statement lines of physical lines -/

def numberedLines (lines : List Text) : List (Text × Nat) :=
  (lines.map trim).zipIdx.filter fun line => !line.1.isEmpty

/-- The statement lines of a source that has these physical lines. -/
def ofLines (lines : List Text) : List SourceLine :=
  (numberedLines lines).zipIdx.map fun ((text, lineNumber), index) => { index, lineNumber, text }

theorem ofLines_splitLines (source : Text) : ofLines (splitLines source) = ofSource source := rfl

theorem ofLines_falls (falls : FallsInto source lines) : ofLines lines = ofSource source := by
  rw [← fallsInto_iff.mp falls, ofLines_splitLines]

theorem mem_numberedLines {text : Text} {number : Nat} :
    (text, number) ∈ numberedLines lines ↔
      text ≠ [] ∧ ∃ line, lines[number]? = some line ∧ trim line = text := by
  simp [numberedLines, List.mem_filter, List.mem_zipIdx_iff_getElem?, and_comm]

theorem mem_ofLines {line : SourceLine} :
    line ∈ ofLines lines ↔
      (numberedLines lines)[line.index]? = some (line.text, line.lineNumber) := by
  rcases line with ⟨index, number, text⟩
  simp only [ofLines, List.mem_map, Prod.exists, mk.injEq, List.mem_zipIdx_iff_getElem?]
  constructor
  · rintro ⟨_, _, _, known, rfl, rfl, rfl⟩
    exact known
  · intro known
    exact ⟨text, number, index, known, rfl, rfl, rfl⟩

theorem ofLines_indices (lines : List Text) :
    (ofLines lines).map (·.index) = List.range (ofLines lines).length := by
  calc
    (ofLines lines).map (·.index) = (numberedLines lines).zipIdx.map Prod.snd := by
      simp only [ofLines, List.map_map]
      rfl
    _ = List.range (ofLines lines).length := by
      simp [List.zipIdx_map_snd, ofLines, List.range_eq_range']

/-- A statement line is the trimmed physical line with its number, and more than blanks. -/
theorem ofLines_trims {line : SourceLine} (known : line ∈ ofLines lines) :
    line.text ≠ [] ∧ ∃ raw, lines[line.lineNumber]? = some raw ∧ Trims raw line.text := by
  rcases mem_numberedLines.mp (List.mem_of_getElem? (mem_ofLines.mp known)) with
    ⟨filled, raw, found, trimmed⟩
  exact ⟨filled, raw, found, trim_eq_iff.mp trimmed⟩

/-- Every physical line that is not blank is a statement line. -/
theorem exists_mem_ofLines {number : Nat} {raw : Text} (found : lines[number]? = some raw)
    (filled : ¬ Within isBlank raw) :
    ∃ line ∈ ofLines lines, line.lineNumber = number ∧ Trims raw line.text := by
  have known : (trim raw, number) ∈ numberedLines lines :=
    mem_numberedLines.mpr ⟨mt trim_eq_nil_iff.mp filled, raw, found, rfl⟩
  rcases List.getElem?_of_mem known with ⟨index, place⟩
  exact ⟨⟨index, number, trim raw⟩, mem_ofLines.mpr place, rfl, trim_eq_iff.mp rfl⟩

/-! ## One program below another -/

/-- A line of a program that is written below another one with so many statements and physical
lines. -/
def lowered (statements lines : Nat) (line : SourceLine) : SourceLine :=
  { line with index := statements + line.index, lineNumber := lines + line.lineNumber }

theorem numberedLines_append (lines others : List Text) :
    numberedLines (lines ++ others) = numberedLines lines ++
      (numberedLines others).map fun (text, number) => (text, lines.length + number) := by
  simp only [numberedLines, List.map_append, List.zipIdx_append, List.filter_append,
    List.length_map, Nat.zero_add]
  rw [List.zipIdx_eq_map_add (i := lines.length), List.filter_map]
  rfl

theorem ofLines_append (lines others : List Text) :
    ofLines (lines ++ others) =
      ofLines lines ++ (ofLines others).map (lowered (ofLines lines).length lines.length) := by
  simp only [ofLines, numberedLines_append, List.zipIdx_append, List.map_append,
    List.length_map, List.length_zipIdx, Nat.zero_add]
  rw [List.zipIdx_eq_map_add (i := (numberedLines lines).length), List.zipIdx_map]
  simp only [List.map_map]
  rfl

theorem ofSource_append (parted : Parted above below) :
    ofSource (above ++ below) = ofSource above ++
      (ofSource below).map (lowered (ofSource above).length (splitLines above).length) := by
  rw [← ofLines_splitLines, splitLines_append parted, ofLines_append]
  rfl

/-- A blank at the end of a source makes no difference. -/
theorem ofSource_concat (source : Text) (blank : isBlank point = true) :
    ofSource (source ++ [point]) = ofSource source := by
  have same : numbered (source ++ [point]) = numbered source := by
    rcases splitLines_concat source blank with same | more
    · rw [numbered, same, numbered]
    · simp [numbered, more, List.zipIdx_append]
  rw [ofSource, same, ofSource]

theorem isBlank_feed : isBlank '\n' = true := by decide

theorem parted_feed (above below : Text) : Parted (above ++ [.char '\n']) below := by
  constructor
  · intro point last
    obtain rfl : CodePoint.char '\n' = point := by simpa using last
    decide
  · simp [Apart]

/-! ## The statements alone -/

/-- Lines that are joined by line feeds are the lines of the whole. -/
theorem fallsInto_join {texts : List Text} (filled : ∀ text ∈ texts, text ≠ [])
    (unbroken : ∀ text ∈ texts, Unbroken text) : FallsInto (join "\n" texts) texts := by
  induction texts with
  | nil => exact .nothing
  | cons text texts ih =>
      rcases List.forall_mem_cons.mp filled with ⟨first, filled⟩
      rcases List.forall_mem_cons.mp unbroken with ⟨plain, unbroken⟩
      cases texts with
      | nil => exact .last first plain
      | cons next texts =>
          have apart : Apart "\n" (join "\n" (next :: texts)) := fun ending => absurd ending (by decide)
          exact .more plain (.single (by decide)) apart (ih filled unbroken)

/-- Trimmed lines that are joined by line feeds are the statement lines of the whole. -/
theorem ofSource_join {texts : List Text} (filled : ∀ text ∈ texts, text ≠ [])
    (unbroken : ∀ text ∈ texts, Unbroken text) (trimmed : ∀ text ∈ texts, trim text = text) :
    ofSource (join "\n" texts) = texts.zipIdx.map fun (text, index) => ⟨index, index, text⟩ := by
  have same : texts.map trim = texts := (List.map_congr_left trimmed).trans (List.map_id texts)
  have all : numbered (join "\n" texts) = texts.zipIdx := by
    rw [numbered, fallsInto_iff.mp (fallsInto_join filled unbroken), same]
    apply List.filter_eq_self.mpr
    rintro ⟨text, index⟩ known
    simpa using filled text (List.fst_mem_of_mem_zipIdx known)
  rw [ofSource, all]
  apply List.ext_getElem?
  intro index
  simp only [List.getElem?_map, List.getElem?_zipIdx, Option.map_map, Nat.zero_add]
  rfl

/-! ## What is read from a source -/

/-- The statement lines are those of the physical lines that are not blank, each without the blanks
around it, in order and numbered through. -/
structure Lists (lines : List Text) (statements : List SourceLine) : Prop where
  indices : statements.map (·.index) = List.range statements.length
  ascending : (statements.map (·.lineNumber)).Pairwise (· < ·)
  filled : ∀ statement ∈ statements, statement.text ≠ []
  unbroken : ∀ statement ∈ statements, Unbroken statement.text
  trims : ∀ statement ∈ statements, ∃ line, lines[statement.lineNumber]? = some line ∧
    Trims line statement.text
  complete : ∀ number line, lines[number]? = some line → ¬ Within isBlank line →
    ∃ statement ∈ statements, statement.lineNumber = number ∧ Trims line statement.text

theorem ofSource_lists (falls : FallsInto source lines) : Lists lines (ofSource source) := by
  have ascending := ofSource_ascending source
  rw [← ofLines_falls falls] at ascending ⊢
  refine ⟨ofLines_indices lines, ascending, ?_, ?_, ?_, ?_⟩
  · intro statement known
    exact (ofLines_trims known).1
  · intro statement known
    rcases ofLines_trims known with ⟨-, line, found, trims⟩
    exact trims.unbroken (falls.unbroken line (List.mem_of_getElem? found))
  · intro statement known
    exact (ofLines_trims known).2
  · intro number line found filled
    exact exists_mem_ofLines found filled

/-- Nothing is lost from a source, nothing is added and nothing gets a wrong number. A program that
is written below another one adds its statements to those of the other. The texts of the statements
alone read as the same statements. -/
theorem ofSource_faithful (source above below : Text) :
    (∃! lines, FallsInto source lines) ∧
      (∀ lines, FallsInto source lines → Lists lines (ofSource source)) ∧
      (∀ lines, FallsInto (above ++ [.char '\n']) lines →
        ofSource (above ++ .char '\n' :: below) = ofSource above ++
          (ofSource below).map (lowered (ofSource above).length lines.length)) ∧
      ofSource (join "\n" ((ofSource source).map (·.text))) =
        ((ofSource source).map (·.text)).zipIdx.map fun (text, index) => ⟨index, index, text⟩ := by
  refine ⟨⟨_, fallsInto_splitLines source, fun _ falls => (fallsInto_iff.mp falls).symm⟩,
    fun _ => ofSource_lists, ?_, ?_⟩
  · intro lines falls
    rw [← fallsInto_iff.mp falls, ← ofSource_concat above isBlank_feed]
    simpa using ofSource_append (parted_feed above below)
  · have listed := ofSource_lists (fallsInto_splitLines source)
    apply ofSource_join
    · simpa using listed.filled
    · simpa using listed.unbroken
    · simp only [List.forall_mem_map]
      intro statement known
      rcases listed.trims statement known with ⟨line, -, trims⟩
      exact trim_eq_iff.mpr trims.again

/-- The separator of the two lines is one, and the vertical tab makes a line of its own. -/
theorem ofSource_faithful_pair :
    let source : Text := "x = 1\r\n\x0b  print(x)\t"
    let above : Text := "a\r"
    FallsInto source ["x = 1", "", "  print(x)\t"] ∧
      FallsInto (above ++ [.char '\n']) ["a"] ∧
      ofSource source = [⟨0, 0, "x = 1"⟩, ⟨1, 2, "print(x)"⟩] ∧
      Lists ["x = 1", "", "  print(x)\t"] (ofSource source) ∧
      ofSource (above ++ .char '\n' :: "b") = [⟨0, 0, "a"⟩, ⟨1, 1, "b"⟩] := by
  intro source above
  have lines : FallsInto source ["x = 1", "", "  print(x)\t"] := fallsInto_iff.mpr (by decide)
  have short : FallsInto (above ++ [.char '\n']) ["a"] := fallsInto_iff.mpr (by decide)
  rcases ofSource_faithful source above "b" with ⟨-, listed, added, -⟩
  refine ⟨lines, short, by decide, listed _ lines, ?_⟩
  rw [added _ short]
  decide

end SourceLine

end TileWalk
