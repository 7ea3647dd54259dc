import TileWalk.Program.Statement
import TileWalk.Proofs.Text.Scanning

/-!
# The grammar of a statement

What each form of a statement looks like as a text, and that the reader tells the forms apart
exactly that way.
-/

namespace TileWalk.Statement

open TileWalk.Text

variable {text name value body word : Text} {direction : Direction} {argument : Option Text}

/-! ## The forms -/

/-- The text has an equals sign, and nowhere two in a row. -/
def Assignable (text : Text) : Prop :=
  .char '=' ∈ text ∧ ¬ [.char '=', .char '='] <:+: text

/-- The parts on both sides of the first equals sign, without the blanks around them. -/
def Assigns (text name value : Text) : Prop :=
  ∃ left right, text = left ++ .char '=' :: right ∧ .char '=' ∉ left ∧
    Trims left name ∧ Trims right value

/-- A text between two quotes, which need not be the same. -/
structure Quotes (opening : CodePoint) (body : Text) (closing : CodePoint) : Prop where
  opens : isQuote opening = true
  filled : body ≠ []
  inside : Within (fun point => !isQuote point) body
  closes : isQuote closing = true

/-- A print of a quoted text starts at a place of the text. -/
def QuotedAt (text : Text) (place : Nat) (body : Text) : Prop :=
  ∃ before opening closing after,
    text = before ++ (printWord ++ opening :: body ++ [closing, .char ')']) ++ after ∧
    before.length = place ∧ Quotes opening body closing

/-- Word characters, at least one. -/
structure Word (word : Text) : Prop where
  filled : word ≠ []
  inside : Within isWord word

/-- A print of a word starts at a place of the text. -/
def WordAt (text : Text) (place : Nat) (word : Text) : Prop :=
  ∃ before after, text = before ++ (printWord ++ word ++ [.char ')']) ++ after ∧
    before.length = place ∧ Word word

/-- What stands at the first place where something does. -/
def First (stands : Nat → Text → Prop) (found : Text) : Prop :=
  ∃ place, stands place found ∧ ∀ other token, stands other token → place ≤ other

/-- An argument in brackets, or nothing in them. Blanks may stand before and behind the opening
bracket and before the closing one, and a line feed at the end. -/
structure Brackets (text : Text) (argument : Option Text) : Prop where
  spelled : ∃ outer lead trail ending, text = outer ++ .char '(' :: lead ++ argument.getD [] ++
      trail ++ .char ')' :: ending ∧
    Within isBlank outer ∧ Within isBlank lead ∧ Within isBlank trail ∧
    (ending = [] ∨ ending = [.char '\n'])
  words : ∀ word ∈ argument, Word word

/-- The keyword of a direction, and an argument in brackets. -/
def Moves (text : Text) (direction : Direction) (argument : Option Text) : Prop :=
  ∃ rest, text = Text.ofString direction.keyword ++ rest ∧ Brackets rest argument

/-- How a text reads. An assignment goes before a print, a print before a movement. -/
inductive Reads (text : Text) : Except StatementError Statement → Prop where
  | assign {name value : Text} (assignable : Assignable text) (parts : Assigns text name value) :
      Reads text (.ok (.assign name value))
  | quoted {body : Text} (plain : ¬ Assignable text) (starts : printWord <+: text)
      (first : First (QuotedAt text) body) : Reads text (.ok (.print body true))
  | word {word : Text} (plain : ¬ Assignable text) (starts : printWord <+: text)
      (unquoted : ∀ place body, ¬ QuotedAt text place body)
      (first : First (WordAt text) word) : Reads text (.ok (.print word false))
  | invalid (plain : ¬ Assignable text) (starts : printWord <+: text)
      (unquoted : ∀ place body, ¬ QuotedAt text place body)
      (wordless : ∀ place word, ¬ WordAt text place word) : Reads text (.error .invalidPrint)
  | move {direction : Direction} {argument : Option Text} (plain : ¬ Assignable text)
      (other : ¬ printWord <+: text) (moves : Moves text direction argument) :
      Reads text (.ok (.move direction argument))
  | remark (plain : ¬ Assignable text) (other : ¬ printWord <+: text)
      (still : ∀ direction argument, ¬ Moves text direction argument) :
      Reads text (.ok (.remark text))

/-! ## Assignments -/

theorem within_ne {point : CodePoint} : Within (· != point) text ↔ point ∉ text := by
  simp only [Within, bne_iff_ne, ne_eq]
  constructor
  · intro within membership
    exact within point membership rfl
  · rintro missing _ membership rfl
    exact missing membership

theorem assignment?_eq_none_iff : assignment? text = none ↔ ¬ Assignable text := by
  simp [assignment?, Assignable, ← hasDouble_iff]

/-- The parts of an assignable text, and no others. -/
theorem assigns_iff (marked : .char '=' ∈ text) :
    trim (text.takeWhile (· != .char '=')) = name ∧
        trim ((text.dropWhile (· != .char '=')).drop 1) = value ↔ Assigns text name value := by
  constructor
  · rintro ⟨leftPart, rightPart⟩
    rcases takeWhile_dropWhile_iff.mp ⟨rfl, rfl⟩ with ⟨whole, before, stops⟩
    cases found : text.dropWhile (· != .char '=') with
    | nil =>
        rw [found, List.append_nil] at whole
        exact absurd (whole ▸ marked) (within_ne.mp before)
    | cons point right =>
        rw [found] at whole stops rightPart
        have equals : point = .char '=' := by simpa using stops
        subst equals
        exact ⟨_, right, whole, within_ne.mp before, trim_eq_iff.mp leftPart,
          trim_eq_iff.mp rightPart⟩
  · rintro ⟨left, right, whole, before, leftPart, rightPart⟩
    rcases takeWhile_dropWhile_iff.mpr ⟨whole, within_ne.mpr before, by simp⟩ with ⟨taken, dropped⟩
    rw [taken, dropped]
    exact ⟨trim_eq_iff.mpr leftPart, trim_eq_iff.mpr rightPart⟩

theorem assignment?_eq_some_iff :
    assignment? text = some (name, value) ↔ Assignable text ∧ Assigns text name value := by
  by_cases assignable : Assignable text
  · have holds : (text.contains (.char '=') && !hasDouble '=' text) = true := by
      simpa [Assignable, ← hasDouble_iff] using assignable
    rw [assignment?, if_pos holds, Option.some.injEq, Prod.mk.injEq, assigns_iff assignable.1]
    simp [assignable]
  · rw [assignment?_eq_none_iff.mpr assignable]
    simp [assignable]

/-! ## Prints -/

theorem quotedPrint?_eq_some_iff :
    quotedPrint? text = some body ↔
      ∃ opening closing after,
        text = printWord ++ opening :: body ++ [closing, .char ')'] ++ after ∧
        Quotes opening body closing := by
  constructor
  · intro reads
    rw [quotedPrint?] at reads
    split at reads
    · next opening rest starts =>
        dsimp only at reads
        split at reads
        · next fits =>
            split at reads
            · next closing after ends =>
                rcases takeWhile_dropWhile_iff.mp ⟨rfl, ends⟩ with ⟨whole, inside, stops⟩
                simp only [Bool.and_eq_true, Bool.not_eq_true', List.isEmpty_eq_false_iff] at fits
                cases reads
                refine ⟨opening, closing, after, ?_, fits.1, fits.2, inside, by simpa using stops⟩
                rw [after?_eq_some_iff.mp starts]
                simpa using whole
            · cases reads
        · cases reads
    · cases reads
  · rintro ⟨opening, closing, after, rfl, quotes⟩
    rcases takeWhile_dropWhile_iff.mpr
      ⟨rfl, quotes.inside, show Stops _ (closing :: .char ')' :: after) by
        simp [quotes.closes]⟩ with ⟨taken, dropped⟩
    have starts : after? printWord
        (printWord ++ opening :: body ++ [closing, .char ')'] ++ after) =
          some (opening :: (body ++ closing :: .char ')' :: after)) := by
      rw [after?_eq_some_iff]
      simp
    rw [quotedPrint?, starts]
    simp [taken, dropped, quotes.opens, quotes.filled]

theorem wordPrint?_eq_some_iff :
    wordPrint? text = some word ↔
      ∃ after, text = printWord ++ word ++ [.char ')'] ++ after ∧ Word word := by
  constructor
  · intro reads
    rw [wordPrint?] at reads
    split at reads
    · next rest starts =>
        dsimp only at reads
        split at reads
        · next fits =>
            simp only [Bool.and_eq_true, Bool.not_eq_true', List.isEmpty_eq_false_iff,
              decide_eq_true_eq] at fits
            rcases List.head?_eq_some_iff.mp fits.2 with ⟨after, ends⟩
            rcases takeWhile_dropWhile_iff.mp ⟨rfl, ends⟩ with ⟨whole, inside, -⟩
            rw [Option.some.injEq] at reads
            subst reads
            refine ⟨after, ?_, fits.1, inside⟩
            rw [after?_eq_some_iff.mp starts]
            simpa using whole
        · cases reads
    · cases reads
  · rintro ⟨after, rfl, filled, inside⟩
    rcases takeWhile_dropWhile_iff.mpr
      ⟨rfl, inside, show Stops _ (.char ')' :: after) by
        rw [stops_cons]; decide +kernel⟩ with ⟨taken, dropped⟩
    have starts : after? printWord (printWord ++ word ++ [.char ')'] ++ after) =
        some (word ++ .char ')' :: after) := by
      rw [after?_eq_some_iff]
      simp
    rw [wordPrint?, starts]
    simp [taken, dropped, filled]

/-! ## Movements -/

/-- The argument that a run of word characters between the brackets stands for. -/
theorem word_of_run {run : Text} (inside : Within isWord run) :
    let argument := if run.isEmpty then none else some run
    run = argument.getD [] ∧ ∀ word ∈ argument, Word word := by
  cases run with
  | nil => simp
  | cons point rest => simpa using ⟨by simp, inside⟩

theorem run_of_word (words : ∀ word ∈ argument, Word word) :
    Within isWord (argument.getD []) ∧
      (if (argument.getD []).isEmpty then none else some (argument.getD [])) = argument := by
  cases argument with
  | none => simp
  | some word => simp [(words word rfl).inside, (words word rfl).filled]

theorem Word.stops {rest : Text} (word : Word text) : Stops isBlank (text ++ rest) := by
  rcases word with ⟨filled, inside⟩
  cases text with
  | nil => exact absurd rfl filled
  | cons point text =>
      rw [List.cons_append, stops_cons, ← Bool.not_eq_true]
      intro blank
      rw [within_cons, isWord_of_isBlank blank] at inside
      cases inside.1

theorem stops_bracket {trail : Text} (blank : Within isBlank trail) (ending : Text) :
    Stops isWord (trail ++ .char ')' :: ending) := by
  cases trail with
  | nil =>
      rw [List.nil_append, stops_cons]
      decide +kernel
  | cons point trail =>
      rw [List.cons_append, stops_cons]
      exact isWord_of_isBlank (within_cons.mp blank).1

/-- What stands between the brackets, without the blanks in front. Where there is no word, all
blanks are in front. -/
theorem trimStart_inside {lead trail : Text} (words : ∀ word ∈ argument, Word word)
    (leadBlank : Within isBlank lead) (trailBlank : Within isBlank trail) (ending : Text) :
    ∃ behind, Within isBlank behind ∧
      trimStart (lead ++ argument.getD [] ++ trail ++ .char ')' :: ending) =
        argument.getD [] ++ (behind ++ .char ')' :: ending) := by
  cases argument with
  | none =>
      refine ⟨[], within_nil, dropWhile_eq_iff.mpr ⟨lead ++ trail, by simp, ?_, ?_⟩⟩
      · simpa [Within, or_imp, forall_and] using And.intro leadBlank trailBlank
      · rw [Option.getD_none, List.nil_append, List.nil_append, stops_cons]
        decide
  | some word =>
      exact ⟨trail, trailBlank, dropWhile_eq_iff.mpr
        ⟨lead, by simp, leadBlank, (words word rfl).stops⟩⟩

theorem argument?_eq_some_iff : argument? text = some argument ↔ Brackets text argument := by
  constructor
  · intro reads
    rw [argument?] at reads
    split at reads
    · next rest opens =>
        dsimp only at reads
        split at reads
        · next ending closes =>
            split at reads
            · next last =>
                rcases dropWhile_eq_iff.mp opens with ⟨outer, whole, outerBlank, -⟩
                rcases dropWhile_eq_iff.mp closes with ⟨trail, behind, trailBlank, -⟩
                rcases takeWhile_dropWhile_iff.mp ⟨rfl, behind⟩ with ⟨middle, inside, -⟩
                rcases dropWhile_eq_iff.mp middle with ⟨lead, front, leadBlank, -⟩
                rcases word_of_run inside with ⟨same, words⟩
                rw [Option.some.injEq] at reads
                rw [reads] at same words
                refine ⟨⟨outer, lead, trail, ending, ?_, outerBlank, leadBlank, trailBlank, last⟩,
                  words⟩
                rw [whole, front, ← same]
                simp
            · cases reads
        · cases reads
    · cases reads
  · rintro ⟨⟨outer, lead, trail, ending, rfl, outerBlank, leadBlank, trailBlank, last⟩, words⟩
    have opens : trimStart (outer ++ .char '(' :: lead ++ argument.getD [] ++ trail ++
        .char ')' :: ending) =
          .char '(' :: (lead ++ argument.getD [] ++ trail ++ .char ')' :: ending) := by
      apply dropWhile_eq_iff.mpr
      refine ⟨outer, by simp, outerBlank, ?_⟩
      rw [stops_cons]
      decide
    rcases trimStart_inside words leadBlank trailBlank ending with ⟨behind, blank, inside⟩
    rcases run_of_word words with ⟨within, same⟩
    rcases takeWhile_dropWhile_iff.mpr ⟨rfl, within, stops_bracket blank ending⟩ with
      ⟨taken, dropped⟩
    have closes : trimStart (behind ++ .char ')' :: ending) = .char ')' :: ending := by
      apply dropWhile_eq_iff.mpr
      refine ⟨behind, rfl, blank, ?_⟩
      rw [stops_cons]
      decide
    have last : ending = [] ∨ ending = "\n" := last
    simp only [argument?, opens, inside, taken, dropped, closes, if_pos last, same]

theorem keyword_apart {one other : Direction} {rest tail : Text}
    (same : Text.ofString one.keyword ++ rest = Text.ofString other.keyword ++ tail) :
    one = other := by
  -- The sixth character of a keyword tells it from the others.
  have long (direction : Direction) : 6 ≤ (Text.ofString direction.keyword).length := by
    cases direction <;> decide
  have starts := congrArg (List.take 6) same
  rw [List.take_append_of_le_length (long one),
    List.take_append_of_le_length (long other)] at starts
  revert starts
  cases one <;> cases other <;> decide

theorem movement_along_iff (answer : Direction × Option Text) :
    (do
      let rest ← after? direction.keyword text
      let argument ← argument? rest
      return (direction, argument)) = some answer ↔
        answer.1 = direction ∧ Moves text direction answer.2 := by
  constructor
  · intro reads
    rcases Option.bind_eq_some_iff.mp reads with ⟨rest, starts, reads⟩
    rcases Option.bind_eq_some_iff.mp reads with ⟨argument, inside, reads⟩
    cases reads
    exact ⟨rfl, rest, after?_eq_some_iff.mp starts, argument?_eq_some_iff.mp inside⟩
  · cases answer
    rintro ⟨rfl, rest, whole, inside⟩
    simp [after?_eq_some_iff.mpr whole, argument?_eq_some_iff.mpr inside]

theorem movement?_eq_some_iff :
    movement? text = some (direction, argument) ↔ Moves text direction argument := by
  constructor
  · intro reads
    rcases List.exists_of_findSome?_eq_some reads with ⟨one, -, here⟩
    rcases (movement_along_iff _).mp here with ⟨same, moves⟩
    cases same
    exact moves
  · intro moves
    have here := (movement_along_iff (direction, argument)).mpr ⟨rfl, moves⟩
    have reads : (movement? text).isSome := by
      apply List.findSome?_isSome_iff.mpr
      refine ⟨direction, ?_, Option.isSome_iff_exists.mpr ⟨_, here⟩⟩
      cases direction <;> decide
    rcases Option.isSome_iff_exists.mp reads with ⟨answer, reads⟩
    rcases List.exists_of_findSome?_eq_some reads with ⟨other, -, there⟩
    rcases (movement_along_iff _).mp there with ⟨-, rest, spelled, -⟩
    rcases moves with ⟨tail, whole, -⟩
    have same : other = direction := keyword_apart (spelled.symm.trans whole)
    subst same
    rw [reads, ← here, ← there]

/-! ## The reader -/

theorem search?_first {pattern : Text → Option Text} {stands : Nat → Text → Prop}
    (fits : ∀ place token, stands place token ↔ ∃ before after, text = before ++ after ∧
      before.length = place ∧ pattern after = some token) {found : Text} :
    search? pattern text = some found ↔ First stands found := by
  rw [search?_eq_some_iff]
  constructor
  · rintro ⟨before, after, whole, reads, least⟩
    refine ⟨before.length, (fits _ _).mpr ⟨before, after, whole, rfl, reads⟩, ?_⟩
    intro place token there
    rcases (fits _ _).mp there with ⟨earlier, later, split, rfl, matches_⟩
    exact least earlier later split (Option.isSome_iff_exists.mpr ⟨token, matches_⟩)
  · rintro ⟨place, here, least⟩
    rcases (fits _ _).mp here with ⟨before, after, whole, rfl, reads⟩
    refine ⟨before, after, whole, reads, ?_⟩
    intro earlier later split found
    rcases Option.isSome_iff_exists.mp found with ⟨token, found⟩
    exact least _ token ((fits _ _).mpr ⟨earlier, later, split, rfl, found⟩)

theorem search?_nowhere {pattern : Text → Option Text} {stands : Nat → Text → Prop}
    (fits : ∀ place token, stands place token ↔ ∃ before after, text = before ++ after ∧
      before.length = place ∧ pattern after = some token) :
    search? pattern text = none ↔ ∀ place token, ¬ stands place token := by
  rw [search?_eq_none_iff]
  constructor
  · intro misses place token there
    rcases (fits _ _).mp there with ⟨before, after, whole, -, reads⟩
    rw [misses before after whole] at reads
    cases reads
  · intro nowhere before after whole
    cases reads : pattern after with
    | none => rfl
    | some token => exact (nowhere _ _ ((fits _ _).mpr ⟨before, after, whole, rfl, reads⟩)).elim

theorem quotedAt_iff (place : Nat) (token : Text) :
    QuotedAt text place token ↔ ∃ before after, text = before ++ after ∧
      before.length = place ∧ quotedPrint? after = some token := by
  simp only [quotedPrint?_eq_some_iff]
  constructor
  · rintro ⟨before, opening, closing, after, rfl, length, quotes⟩
    exact ⟨before, _, List.append_assoc .., length, opening, closing, after, rfl, quotes⟩
  · rintro ⟨before, _, rfl, length, opening, closing, after, rfl, quotes⟩
    exact ⟨before, opening, closing, after, (List.append_assoc ..).symm, length, quotes⟩

theorem wordAt_iff (place : Nat) (token : Text) :
    WordAt text place token ↔ ∃ before after, text = before ++ after ∧
      before.length = place ∧ wordPrint? after = some token := by
  simp only [wordPrint?_eq_some_iff]
  constructor
  · rintro ⟨before, after, rfl, length, word⟩
    exact ⟨before, _, List.append_assoc .., length, after, rfl, word⟩
  · rintro ⟨before, _, rfl, length, after, rfl, word⟩
    exact ⟨before, after, (List.append_assoc ..).symm, length, word⟩

theorem startsPrint_iff : (after? printWord text).isSome = true ↔ printWord <+: text := by
  rw [Option.isSome_iff_exists]
  constructor
  · rintro ⟨rest, starts⟩
    exact ⟨rest, (after?_eq_some_iff.mp starts).symm⟩
  · rintro ⟨rest, rfl⟩
    exact ⟨rest, after?_eq_some_iff.mpr rfl⟩

theorem reads_parse (text : Text) : Reads text (parse text) := by
  rw [parse]
  split
  · next name value assigns =>
      rcases assignment?_eq_some_iff.mp assigns with ⟨assignable, parts⟩
      exact .assign assignable parts
  · next plain =>
      have plain := assignment?_eq_none_iff.mp plain
      split
      · next starts =>
          have starts := startsPrint_iff.mp starts
          split
          · next body found => exact .quoted plain starts ((search?_first quotedAt_iff).mp found)
          · next unquoted =>
              have unquoted := (search?_nowhere quotedAt_iff).mp unquoted
              split
              · next word found =>
                  exact .word plain starts unquoted ((search?_first wordAt_iff).mp found)
              · next wordless =>
                  exact .invalid plain starts unquoted ((search?_nowhere wordAt_iff).mp wordless)
      · next other =>
          have other := mt startsPrint_iff.mpr other
          split
          · next direction argument found =>
              exact .move plain other (movement?_eq_some_iff.mp found)
          · next still =>
              apply Reads.remark plain other
              intro direction argument moves
              rw [movement?_eq_some_iff.mpr moves] at still
              cases still

theorem Reads.parse {result : Except StatementError Statement} (reads : Reads text result) :
    parse text = result := by
  cases reads with
  | assign assignable parts =>
      simp [Statement.parse, assignment?_eq_some_iff.mpr ⟨assignable, parts⟩]
  | quoted plain starts first =>
      simp [Statement.parse, assignment?_eq_none_iff.mpr plain, startsPrint_iff.mpr starts,
        (search?_first quotedAt_iff).mpr first]
  | word plain starts unquoted first =>
      simp [Statement.parse, assignment?_eq_none_iff.mpr plain, startsPrint_iff.mpr starts,
        (search?_nowhere quotedAt_iff).mpr unquoted, (search?_first wordAt_iff).mpr first]
  | invalid plain starts unquoted wordless =>
      simp [Statement.parse, assignment?_eq_none_iff.mpr plain, startsPrint_iff.mpr starts,
        (search?_nowhere quotedAt_iff).mpr unquoted, (search?_nowhere wordAt_iff).mpr wordless]
  | move plain other moves =>
      have other := mt startsPrint_iff.mp other
      simp [Statement.parse, assignment?_eq_none_iff.mpr plain, other,
        movement?_eq_some_iff.mpr moves]
  | remark plain other still =>
      have other := mt startsPrint_iff.mp other
      have still : movement? text = none := by
        cases found : movement? text with
        | none => rfl
        | some answer => exact (still _ _ (movement?_eq_some_iff.mp found)).elim
      simp [Statement.parse, assignment?_eq_none_iff.mpr plain, other, still]

/-! ## Writing a statement -/

theorem isWord_equals : isWord (.char '=') = false := by
  decide +kernel

theorem not_mem_of_within {kind : CodePoint → Bool} {point : CodePoint}
    (inside : Within kind text) (other : kind point = false) : point ∉ text := by
  intro membership
  rw [inside point membership] at other
  cases other

theorem Moves.plain (moves : Moves text direction argument) : ¬ Assignable text := by
  rintro ⟨marked, -⟩
  rcases moves with
    ⟨_, rfl, ⟨outer, lead, trail, ending, rfl, outerBlank, leadBlank, trailBlank, last⟩, words⟩
  have keyword : .char '=' ∉ Text.ofString direction.keyword := by
    cases direction <;> decide
  have word := not_mem_of_within (run_of_word words).1 isWord_equals
  have blank : isBlank (.char '=') = false := by decide
  have final : .char '=' ∉ ending := by
    rcases last with rfl | rfl <;> decide
  simp [keyword, word, final, not_mem_of_within outerBlank blank,
    not_mem_of_within leadBlank blank, not_mem_of_within trailBlank blank] at marked

theorem Moves.not_print (moves : Moves text direction argument) : ¬ printWord <+: text := by
  rintro ⟨tail, split⟩
  rcases moves with ⟨rest, whole, -⟩
  have long : 1 ≤ (Text.ofString direction.keyword).length := by
    cases direction <;> decide
  have starts := congrArg (List.take 1) (split.trans whole)
  rw [List.take_append_of_le_length (by decide), List.take_append_of_le_length long] at starts
  revert starts
  cases direction <;> decide

theorem Quotes.plain {opening closing : CodePoint} (quotes : Quotes opening body closing)
    (plain : ¬ Assignable body) :
    ¬ Assignable (printWord ++ opening :: body ++ [closing, .char ')']) := by
  rintro ⟨marked, single⟩
  have opened : .char '=' ≠ opening := by
    rintro rfl
    exact absurd quotes.opens (by decide)
  have closed : .char '=' ≠ closing := by
    rintro rfl
    exact absurd quotes.closes (by decide)
  have lead : .char '=' ∉ printWord := by decide
  apply plain
  constructor
  · simpa [opened, closed, lead] using marked
  · intro double
    exact single (double.trans ⟨printWord ++ [opening], [closing, .char ')'], by simp⟩)

/-- The reader answers to every text what the grammar says. A movement is read back however it is
written, and so is a quoted print unless what is quoted makes an assignment of it. -/
theorem parse_grammar :
    (∀ text result, parse text = result ↔ Reads text result) ∧
    (∀ text direction argument, Moves text direction argument →
      parse text = .ok (.move direction argument)) ∧
    ∀ opening body closing, Quotes opening body closing → ¬ Assignable body →
      parse (printWord ++ opening :: body ++ [closing, .char ')']) = .ok (.print body true) := by
  refine ⟨?_, ?_, ?_⟩
  · intro text result
    constructor
    · rintro rfl
      exact reads_parse text
    · exact Reads.parse
  · intro text direction argument moves
    exact (Reads.move moves.plain moves.not_print moves).parse
  · intro opening body closing quotes plain
    apply Reads.parse
    apply Reads.quoted (quotes.plain plain)
    · exact ⟨opening :: body ++ [closing, .char ')'], by simp⟩
    · exact ⟨0, ⟨[], opening, closing, [], by simp, rfl, quotes⟩, by simp⟩

theorem parse_grammar_spaced :
    Moves "move_up (\tn )\n" .up (some "n") ∧
      parse "move_up (\tn )\n" = .ok (.move .up (some "n")) ∧
      Quotes '"' "a == b" '\'' ∧ ¬ Assignable "a == b" ∧
      parse "print(\"a == b')" = .ok (.print "a == b" true) := by
  have word : Word "n" := ⟨by decide, by decide +kernel⟩
  have moves : Moves "move_up (\tn )\n" .up (some "n") := by
    refine ⟨" (\tn )\n", by decide, ⟨" ", "\t", " ", "\n", by decide⟩, ?_⟩
    simpa using word
  have quotes : Quotes '"' "a == b" '\'' := by
    constructor <;> decide
  have plain : ¬ Assignable "a == b" := by
    rintro ⟨-, single⟩
    exact single ⟨"a ", " b", by decide⟩
  rcases parse_grammar with ⟨-, movement, quoted⟩
  exact ⟨moves, movement _ _ _ moves, quotes, plain, quoted _ _ _ quotes plain⟩

end TileWalk.Statement
