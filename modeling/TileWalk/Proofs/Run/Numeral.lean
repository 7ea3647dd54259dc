import TileWalk.Proofs.Numeral.Spelling
import TileWalk.Proofs.Program.PrintForm
import TileWalk.Proofs.Run.Evaluation
import TileWalk.Proofs.Run.Operand
import TileWalk.Proofs.Text.Lines

/-!
# Numerals in programs

A numeral is recognised, converted and printed by three different rules. They agree on one number:
a variable that is bound to a numeral is printed in the canonical spelling of the number, that
spelling binds the same, and a movement goes as far for the numeral as for the variable.
-/

namespace TileWalk

open TileWalk.Text Exchange

/-! ## The lines -/

namespace Statement

/-- The line that prints what a word stands for. -/
def printText (word : Text) : Text :=
  printWord ++ word ++ [.char ')']

variable {name operand : Text}

theorem parse_printText (word : Word operand) :
    parse (printText operand) = .ok (.print operand false) := by
  have names : Names (printText operand) operand := ⟨word, rfl⟩
  have plain : ¬ Assignable (printText operand) := by
    rintro ⟨marked, -⟩
    have start : .char '=' ∉ printWord := by decide
    simp [printText, start, not_mem_of_within word.inside isWord_equals] at marked
  have starts : printWord <+: printText operand := ⟨operand ++ [.char ')'], by simp [printText]⟩
  exact (Reads.word plain starts (fun place _ => names.not_quotedAt place)
    ⟨0, names.wordAt, by simp⟩).parse

theorem Word.unbroken (word : Word operand) : Unbroken operand := by
  intro point known
  cases breaks : isLineBreak point with
  | false => simp [breaks]
  | true =>
      have letter := word.inside point known
      rw [isWord_of_isBlank (isBlank_of_isLineBreak breaks)] at letter
      cases letter

theorem trim_assignmentText (target : Word name) (word : Word operand) :
    trim (assignmentText name operand) = assignmentText name operand := by
  rw [trim_eq_iff]
  refine ⟨⟨[], [], by simp, within_nil, within_nil⟩, target.stops, ?_⟩
  rw [assignmentText, List.reverse_append, List.reverse_cons, List.reverse_cons,
    List.reverse_cons, List.append_assoc, List.append_assoc, List.append_assoc]
  exact word.reverse.stops

theorem trim_printText (word : Text) : trim (printText word) = printText word := by
  rw [trim_eq_iff]
  refine ⟨⟨[], [], by simp, within_nil, within_nil⟩, ?_, ?_⟩
  · intro point first
    obtain rfl : CodePoint.char 'p' = point := Option.some.inj first
    decide
  · rw [printText, List.reverse_append, List.reverse_singleton, List.singleton_append, stops_cons]
    decide

/-- An assignment and a print, one below the other, are a program of these two statements. -/
theorem statementTexts_pair (target : Word name) (word : Word operand) :
    statementTexts (assignmentText name operand ++ [.char '\n'] ++ printText name) =
      [assignmentText name operand, printText name] := by
  have above : Unbroken (assignmentText name operand) := by
    intro point known
    simp only [assignmentText, List.mem_append, List.mem_cons] at known
    rcases known with known | rfl | rfl | rfl | known
    · exact target.unbroken point known
    · decide
    · decide
    · decide
    · exact word.unbroken point known
  have below : Unbroken (printText name) := by
    have start : Unbroken printWord := by decide
    intro point known
    simp only [printText, List.mem_append, List.mem_singleton] at known
    rcases known with (known | known) | rfl
    · exact start point known
    · exact target.unbroken point known
    · decide
  have falls : FallsInto (assignmentText name operand ++ [.char '\n'] ++ printText name)
      [assignmentText name operand, printText name] :=
    .more above (.single (by decide)) (by simp [Apart]) (.last (by simp [printText]) below)
  rw [statementTexts, fallsInto_iff.mp falls, List.map_cons, List.map_cons, List.map_nil,
    trim_assignmentText target word, trim_printText]
  simp [assignmentText, printText]

end Statement

/-! ## What numerals stand for -/

namespace Numeral.Spells

variable {digits : Text} {number : Nat}

/-- Digits can stand wherever a word can. -/
theorem word (spells : Spells digits number) : Statement.Word digits :=
  ⟨spells.filled, fun point known => isWord_of_isDigit (spells.within point known)⟩

theorem reading (spells : Spells digits number) : Numeral.reading digits = number := by
  rw [Numeral.reading, spells.takeWhile, spells.valueOf]

theorem valueOf_eq (spells : Spells digits number) (short : digits.length ≤ maxDigits)
    (bindings : Bindings) (name : Text) :
    Interpreter.valueOf bindings name digits = .ok number := by
  rw [Interpreter.valueOf_eq bindings (not_overlong short), if_pos spells.isUnsigned,
    spells.reading]

theorem resolveSteps_eq (spells : Spells digits number) (short : digits.length ≤ maxDigits)
    {bindings : Bindings} (unnamed : bindings.get? digits = none) :
    Interpreter.resolveSteps bindings (some digits) = .ok (max number 1 : Nat) := by
  have readable : ∀ token ∈ some digits, ¬ Overlong token := by
    rintro token ⟨⟩
    exact not_overlong short
  rw [Interpreter.resolveSteps_eq bindings readable]
  simp [Bindings.steps, unnamed, spells.isUnsigned, spells.reading, Nat.max_comm]

end Numeral.Spells

theorem Interpreter.resolveSteps_bound {bindings : Bindings} {name : Text} {number : Nat}
    (bound : bindings.get? name = some (number : Int)) :
    resolveSteps bindings (some name) = .ok (max number 1 : Nat) := by
  simp only [resolveSteps, bound, atLeastOne_natural (Int.natCast_nonneg number)]
  congr 1
  split <;> omega

/-! ## What the lines come to -/

namespace Game

/-- The line, carried out now, leads to another game at once. -/
def Leads (game : Game) (text : Text) (later : Game) : Prop :=
  ∃ statement, Statement.parse text = .ok statement ∧
    Interpreter.execute statement game = .done (.ok true) later

/-- The game with a name bound to a number. -/
def bound (game : Game) (name : Text) (number : Int) : Game :=
  game.onSession fun session => { session with bindings := session.bindings.set name number }

theorem leads_bound {name operand : Text} {number : Int} (game : Game)
    (target : Statement.Word name) (word : Statement.Word operand)
    (bound : Interpreter.valueOf game.session.bindings name operand = .ok number) :
    game.Leads (Statement.assignmentText name operand) (game.bound name number) := by
  refine ⟨_, Statement.parse_assignmentText target word, ?_⟩
  simp only [Interpreter.execute, Process.bind_apply, Process.state_apply,
    Activity.andThen_done, bound]
  rfl

end Game

section Program

variable {digits name : Text} {number : Nat}

theorem evaluateLine_assignment (spells : Numeral.Spells digits number)
    (target : Statement.Word name) (world : World) (bindings : Bindings) :
    evaluateLine (Statement.assignmentText name digits) world bindings =
      { world, bindings := bindings.set name number } := by
  simp only [evaluateLine, Statement.parse_assignmentText target spells.word, bind, Except.bind,
    Statement.evaluate, spells.isUnsigned, spells.reading, if_true]

theorem evaluateLine_print (target : Statement.Word name) (world : World) {bindings : Bindings}
    {value : Int} (bound : bindings.get? name = some value) :
    evaluateLine (Statement.printText name) world bindings =
      { world, bindings, lines := [⟨(toString value : String), .info⟩] } := by
  simp only [evaluateLine, Statement.parse_printText target, bind, Except.bind,
    Statement.evaluate, bound, Bool.false_eq_true, if_false]

theorem evaluateProgram_pair (spells : Numeral.Spells digits number)
    (target : Statement.Word name) (world : World) :
    evaluateProgram [Statement.assignmentText name digits, Statement.printText name] world .empty =
      { world, bindings := Bindings.empty.set name number
        lines := [⟨(toString (number : Int) : String), .info⟩], waits := 1 } := by
  have bound : (Bindings.empty.set name number).get? name = some (number : Int) := by
    rw [Bindings.get?_set, if_pos rfl]
  simp [evaluateProgram, evaluateLine_assignment spells target,
    evaluateLine_print target world bound]

theorem legible_pair (spells : Numeral.Spells digits number)
    (short : digits.length ≤ Numeral.maxDigits) (target : Statement.Word name) :
    ∀ text ∈ [Statement.assignmentText name digits, Statement.printText name], Legible text := by
  simp only [List.forall_mem_cons, Legible, Statement.parse_assignmentText target spells.word,
    Statement.parse_printText target]
  exact ⟨Numeral.not_overlong short, trivial, by simp⟩

/-- There is no movement in the two lines. -/
theorem carries_pair (spells : Numeral.Spells digits number) (target : Statement.Word name)
    (world : World) :
    ∀ text ∈ [Statement.assignmentText name digits, Statement.printText name],
      world.Carries text := by
  simp [World.Carries, Statement.parse_assignmentText target spells.word,
    Statement.parse_printText target]

/-- A free game runs the two lines on any map. -/
theorem run_pair {environment : Environment Point Game Fault} (quiet : environment.Quiet)
    (spells : Numeral.Spells digits number) (short : digits.length ≤ Numeral.maxDigits)
    (target : Statement.Word name) {game : Game} (free : game.Free) :
    let ending := (Scheduler.run
      (Statement.assignmentText name digits ++ [.char '\n'] ++ Statement.printText name)
        game).under environment []
    ending.result = .ok true ∧
      outputs ending.exchanges = [⟨(toString (number : Int) : String), .info⟩] := by
  intro ending
  have texts := SourceLine.ofSource_texts
    (Statement.assignmentText name digits ++ [.char '\n'] ++ Statement.printText name)
  rw [Statement.statementTexts_pair target spells.word] at texts
  have filled : SourceLine.ofSource
      (Statement.assignmentText name digits ++ [.char '\n'] ++ Statement.printText name) ≠ [] := by
    intro blank
    rw [blank] at texts
    cases texts
  rcases execute_evaluates quiet
    (fun line known => legible_pair spells short target line.text
      (texts ▸ List.mem_map_of_mem known))
    (game.claimed game.current)
    (fun line known => carries_pair spells target _ line.text (texts ▸ List.mem_map_of_mem known))
    rfl with ⟨ends, seen⟩
  have lines := seen.lines
  rw [texts] at lines
  simp only [ending, Scheduler.run_under filled free]
  refine ⟨by rw [ends]; rfl, lines.trans ?_⟩
  exact congrArg Outcome.lines (evaluateProgram_pair spells target game.session.world)

end Program

/-! ## Numerals round-trip -/

/-- Digits of any scripts are a numeral, with or without a line feed behind them, and nothing else
is. A name that is bound to one is printed in the canonical spelling of its number; binding the
name to that spelling comes to the same game; and a movement asks for as many steps for the digits,
where they name no variable, as for the name, which is one step for zero. -/
theorem numerals_round_trip {digits name : Text} {number : Nat}
    (spells : Numeral.Spells digits number) (short : digits.length ≤ Numeral.maxDigits)
    (target : Statement.Word name) :
    (∃ figures, Numeral.Canonical figures number ∧
      (∀ other, Numeral.Canonical other number → other = figures) ∧
      (∀ (environment : Environment Point Game Fault) (game : Game), environment.Quiet →
        game.Free →
        let ending := (Scheduler.run
          (Statement.assignmentText name digits ++ [.char '\n'] ++ Statement.printText name)
            game).under environment []
        ending.result = .ok true ∧ outputs ending.exchanges = [⟨figures, .info⟩]) ∧
      ∀ game : Game, ∃ later,
        game.Leads (Statement.assignmentText name digits) later ∧
        game.Leads (Statement.assignmentText name figures) later ∧
        later.session.bindings.get? name = some (number : Int) ∧
        ∀ direction,
          later.Requests (Statement.movementText direction name) (max number 1 : Nat) ∧
          (game.session.bindings.get? digits = none →
            game.Requests (Statement.movementText direction digits) (max number 1 : Nat))) ∧
    Numeral.isUnsigned digits = true ∧
    ∀ text, Numeral.isUnsigned text = true ↔ ∃ digits number, Numeral.Spells digits number ∧
      (text = digits ∨ text = digits ++ [.char '\n']) := by
  refine ⟨?_, spells.isUnsigned, fun text => Numeral.isUnsigned_iff⟩
  have canonical := Numeral.canonical_toString number
  have few := Nat.le_trans (canonical.length_le spells) short
  refine ⟨_, canonical, fun other again => canonical.unique again, ?_, ?_⟩
  · intro environment game quiet free
    exact run_pair quiet spells short target free
  · intro game
    have same := spells.valueOf_eq short game.session.bindings name
    have alike := canonical.spells.valueOf_eq few game.session.bindings name
    have bound : (game.bound name number).session.bindings.get? name = some (number : Int) := by
      rw [Game.bound, Game.onSession, Bindings.get?_set, if_pos rfl]
    refine ⟨game.bound name number, game.leads_bound target spells.word same,
      game.leads_bound target canonical.spells.word alike, bound, ?_⟩
    intro direction
    constructor
    · rw [Game.requests_iff direction target]
      exact Interpreter.resolveSteps_bound bound
    · intro unnamed
      rw [Game.requests_iff direction spells.word]
      exact spells.resolveSteps_eq short unnamed

/-- Figures of three scripts with a zero in front spell 42. -/
theorem numerals_round_trip_mixed :
    let digits : Text := "0\u096a\uff12"
    let ending := (Scheduler.run
      (Statement.assignmentText "x" digits ++ [.char '\n'] ++ Statement.printText "x")
        (Game.onGrass 4)).under .silent []
    Numeral.Spells digits 42 ∧ digits.length ≤ Numeral.maxDigits ∧ Statement.Word "x" ∧
      ending.result = .ok true ∧ outputs ending.exchanges = [⟨"42", .info⟩] := by
  intro digits ending
  have spells : Numeral.Spells digits 42 := Numeral.spells_valueOf (by decide) (by decide)
  have short : digits.length ≤ Numeral.maxDigits := by decide
  have target : Statement.Word "x" := ⟨by decide, by decide +kernel⟩
  rcases numerals_round_trip spells short target with ⟨⟨figures, -, unique, prints, -⟩, -⟩
  have same : "42" = figures := unique "42" (Numeral.canonical_iff.mpr (by decide))
  subst same
  exact ⟨spells, short, target,
    prints .silent (Game.onGrass 4) Environment.silent_quiet (by decide)⟩

end TileWalk
