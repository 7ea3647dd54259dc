import Mathlib.Logic.ExistsUnique
import Mathlib.Tactic.ByContra
import TileWalk.Proofs.Program.Grammar

/-!
# The form of a print

A line that starts as a print is meant to be one text between two equal quotes, or one word, in
brackets, with nothing behind them. The reader looks for a print anywhere in the line and takes
quotes of either kind for the end of a text. So it reads a line otherwise than it is meant in two
cases: the text has the quote of the other kind in it, or the line is not of the form at all but a
print stands somewhere in it.
-/

namespace TileWalk.Statement

open TileWalk.Text

variable {text body word : Text} {quote : CodePoint}

/-! ## What a print is meant to be -/

/-- The line is a print of a text between two equal quotes that do not occur in it. -/
structure Encloses (text : Text) (quote : CodePoint) (body : Text) : Prop where
  quotes : isQuote quote = true
  filled : body ≠ []
  inside : quote ∉ body
  spelled : text = printWord ++ quote :: body ++ [quote, .char ')']

/-- The line is a print of a word. -/
structure Names (text word : Text) : Prop where
  spells : Word word
  spelled : text = printWord ++ word ++ [.char ')']

/-- What a line that starts as a print is meant to read as. -/
inductive Intends (text : Text) : Except StatementError Statement → Prop where
  | quoted {quote : CodePoint} {body : Text} (encloses : Encloses text quote body) :
      Intends text (.ok (.print body true))
  | word {word : Text} (names : Names text word) : Intends text (.ok (.print word false))
  | invalid (unquoted : ∀ quote body, ¬ Encloses text quote body)
      (wordless : ∀ word, ¬ Names text word) : Intends text (.error .invalidPrint)

/-- The quote of the other kind occurs in the text that the line is a print of. -/
def Mixes (text : Text) : Prop :=
  ∃ quote body, Encloses text quote body ∧ ¬ Within (fun point => !isQuote point) body

/-- The line is not of the form of a print, but a print stands somewhere in it. -/
def Strays (text : Text) : Prop :=
  Intends text (.error .invalidPrint) ∧
    ∃ place token, QuotedAt text place token ∨ WordAt text place token

/-! ## One meaning for each line -/

theorem Encloses.unique {other : CodePoint} {content : Text} (encloses : Encloses text quote body)
    (again : Encloses text other content) : content = body := by
  have same := encloses.spelled.symm.trans again.spelled
  simp only [List.append_assoc, List.append_cancel_left_eq, List.cons_append,
    List.cons.injEq] at same
  rcases same with ⟨rfl, same⟩
  exact (List.append_cancel_right same).symm

theorem Names.unique {other : Text} (names : Names text word) (again : Names text other) :
    other = word := by
  have same := names.spelled.symm.trans again.spelled
  simp only [List.append_assoc, List.append_cancel_left_eq] at same
  exact (List.append_cancel_right same).symm

theorem isWord_of_isQuote (quotes : isQuote quote = true) : isWord quote = false := by
  simp only [isQuote, Bool.or_eq_true, beq_iff_eq] at quotes
  rcases quotes with rfl | rfl <;> decide +kernel

/-- No quote occurs in a print of a word. -/
theorem Names.unquoted (names : Names text word) :
    Within (fun point => !isQuote point) text := by
  rw [names.spelled]
  intro point known
  simp only [List.mem_append, List.mem_singleton] at known
  rcases known with (known | known) | rfl
  · have lead : Within (fun point => !isQuote point) printWord := by decide
    exact lead point known
  · have letter := names.spells.inside point known
    cases quotes : isQuote point with
    | false => simp [quotes]
    | true =>
        rw [isWord_of_isQuote quotes] at letter
        cases letter
  · decide

theorem Encloses.not_names (encloses : Encloses text quote body) : ¬ Names text word := by
  intro names
  have plain := names.unquoted quote (by simp [encloses.spelled])
  simp [encloses.quotes] at plain

theorem Names.not_quotedAt (names : Names text word) (place : Nat) : ¬ QuotedAt text place body := by
  rintro ⟨before, opening, closing, after, whole, -, quotes⟩
  have plain := names.unquoted opening (by simp [whole])
  simp [quotes.opens] at plain

/-- Every line is meant in one way. -/
theorem intends_unique (text : Text) : ∃! result, Intends text result := by
  by_cases quoted : ∃ quote body, Encloses text quote body
  · rcases quoted with ⟨quote, body, encloses⟩
    refine ⟨_, .quoted encloses, ?_⟩
    intro other meant
    cases meant with
    | quoted again => rw [encloses.unique again]
    | word names => exact absurd names encloses.not_names
    | invalid unquoted => exact absurd encloses (unquoted quote body)
  · have unquoted : ∀ quote body, ¬ Encloses text quote body := by simpa using quoted
    by_cases named : ∃ word, Names text word
    · rcases named with ⟨word, names⟩
      refine ⟨_, .word names, ?_⟩
      intro other meant
      cases meant with
      | quoted encloses => exact absurd encloses (unquoted _ _)
      | word again => rw [names.unique again]
      | invalid _ wordless => exact absurd names (wordless word)
    · have wordless : ∀ word, ¬ Names text word := by simpa using named
      refine ⟨_, .invalid unquoted wordless, ?_⟩
      intro other meant
      cases meant with
      | quoted encloses => exact absurd encloses (unquoted _ _)
      | word names => exact absurd names (wordless _)
      | invalid => rfl

/-! ## What is found at the start of a line -/

theorem Encloses.quotedAt (encloses : Encloses text quote body)
    (plain : Within (fun point => !isQuote point) body) : QuotedAt text 0 body :=
  ⟨[], quote, quote, [], by simp [encloses.spelled], rfl, encloses.quotes, encloses.filled, plain,
    encloses.quotes⟩

theorem Names.wordAt (names : Names text word) : WordAt text 0 word :=
  ⟨[], [], by simp [names.spelled], rfl, names.spells⟩

/-! ## The reader and the meaning -/

/-- Unless the quote of the other kind occurs in its text, a line of the form reads as it is
meant. -/
theorem Intends.reads (plain : ¬ Assignable text) (starts : printWord <+: text)
    (unmixed : ¬ Mixes text) {statement : Statement} (meant : Intends text (.ok statement)) :
    Reads text (.ok statement) := by
  cases meant with
  | @quoted quote body encloses =>
      have inside : Within (fun point => !isQuote point) body := by
        by_contra mixed
        exact unmixed ⟨quote, body, encloses, mixed⟩
      exact .quoted plain starts ⟨0, encloses.quotedAt inside, by simp⟩
  | word names =>
      exact .word plain starts (fun place _ => names.not_quotedAt place)
        ⟨0, names.wordAt, by simp⟩

/-- A line that is not of the form is refused, unless a print strays in it. -/
theorem Intends.reads_invalid (plain : ¬ Assignable text) (starts : printWord <+: text)
    (unstrayed : ¬ Strays text) {error : StatementError} (meant : Intends text (.error error)) :
    Reads text (.error error) := by
  obtain rfl : error = .invalidPrint := by
    cases meant
    rfl
  have nowhere (place : Nat) (token : Text) :
      ¬ (QuotedAt text place token ∨ WordAt text place token) := by
    intro stands
    exact unstrayed ⟨meant, place, token, stands⟩
  exact .invalid plain starts (fun place token found => nowhere place token (.inl found))
    fun place token found => nowhere place token (.inr found)

/-- A line that starts as a print is meant in one way. It reads that way exactly if the quote of
the other kind does not occur in its text and no print strays in it. -/
theorem print_reads_as_meant_iff (plain : ¬ Assignable text) (starts : printWord <+: text) :
    (∃! result, Intends text result) ∧
      ((∀ result, parse text = result ↔ Intends text result) ↔ ¬ Mixes text ∧ ¬ Strays text) := by
  refine ⟨intends_unique text, ?_, ?_⟩
  · intro agrees
    constructor
    · rintro ⟨quote, body, encloses, mixed⟩
      have reads := reads_parse text
      rw [(agrees _).mpr (.quoted encloses)] at reads
      cases reads with
      | quoted _ _ first =>
          rcases first with ⟨_, ⟨_, _, _, _, _, _, quotes⟩, _⟩
          exact mixed quotes.inside
    · rintro ⟨meant, place, token, stands⟩
      have reads := reads_parse text
      rw [(agrees _).mpr meant] at reads
      cases reads with
      | invalid _ _ unquoted wordless =>
          rcases stands with quoted | word
          · exact unquoted place token quoted
          · exact wordless place token word
  · rintro ⟨unmixed, unstrayed⟩
    rcases intends_unique text with ⟨result, meant, unique⟩
    have reads : Reads text result := by
      cases result with
      | ok statement => exact meant.reads plain starts unmixed
      | error error => exact meant.reads_invalid plain starts unstrayed
    intro other
    rw [reads.parse]
    constructor
    · rintro rfl
      exact meant
    · intro also
      exact (unique other also).symm

/-- What stands behind a print is passed over, though such a line is no print; and a text with an
apostrophe is refused, though it stands between two quotation marks. -/
theorem print_reads_as_meant_iff_failing :
    let trailing : Text := "print('a') + 1"
    let mixed : Text := "print(\"it's\")"
    (¬ Assignable trailing ∧ printWord <+: trailing ∧ Strays trailing ∧
      parse trailing = .ok (.print "a" true) ∧
      ¬ ∀ result, parse trailing = result ↔ Intends trailing result) ∧
    (¬ Assignable mixed ∧ printWord <+: mixed ∧ Mixes mixed ∧
      parse mixed = .error .invalidPrint ∧
      ¬ ∀ result, parse mixed = result ↔ Intends mixed result) := by
  intro trailing mixed
  have quotes : Quotes '\'' "a" '\'' := by
    constructor <;> decide
  have plain : ¬ Assignable trailing := by
    rintro ⟨marked, -⟩
    exact absurd marked (by decide)
  have alsoPlain : ¬ Assignable mixed := by
    rintro ⟨marked, -⟩
    exact absurd marked (by decide)
  have starts : printWord <+: trailing := ⟨"'a') + 1", by decide⟩
  have alsoStarts : printWord <+: mixed := ⟨"\"it's\")", by decide⟩
  have unclosed (before : Text) : trailing ≠ before ++ [.char ')'] := by
    intro same
    have last := congrArg List.getLast? same
    rw [List.getLast?_concat] at last
    exact absurd last (by decide)
  have found : QuotedAt trailing 0 "a" := ⟨[], '\'', '\'', " + 1", by decide, rfl, quotes⟩
  have strays : Strays trailing := by
    refine ⟨.invalid ?_ ?_, 0, "a", .inl found⟩
    · intro quote body encloses
      exact unclosed (printWord ++ quote :: body ++ [quote]) (by simp [encloses.spelled])
    · intro word names
      exact unclosed (printWord ++ word) names.spelled
  have encloses : Encloses mixed '"' "it's" := by
    constructor <;> decide
  have mixes : Mixes mixed := ⟨'"', "it's", encloses, by decide⟩
  have reads : Reads trailing _ := .quoted plain starts ⟨0, found, by simp⟩
  have alsoReads : Reads mixed (.error .invalidPrint) :=
    .invalid alsoPlain alsoStarts ((search?_nowhere quotedAt_iff).mp (by decide +kernel))
      ((search?_nowhere wordAt_iff).mp (by decide +kernel))
  refine ⟨⟨plain, starts, strays, reads.parse, ?_⟩, alsoPlain, alsoStarts, mixes,
    alsoReads.parse, ?_⟩
  · intro agrees
    exact ((print_reads_as_meant_iff plain starts).2.mp agrees).2 strays
  · intro agrees
    exact ((print_reads_as_meant_iff alsoPlain alsoStarts).2.mp agrees).1 mixes

end TileWalk.Statement
