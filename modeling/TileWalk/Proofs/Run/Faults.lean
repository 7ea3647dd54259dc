import Mathlib.Data.List.Nodup
import TileWalk.Proofs.Program.Evaluation
import TileWalk.Proofs.Run.Operand

/-!
# What makes a run fail

A statement that cannot be carried out is told, and its run ends as it should. One
thing is no such error: a numeral with too many digits, which is only found out when
the numeral is read. On a square map, and if nobody who is told raises an error or
binds a variable, a run fails exactly when a highlighted line reads such a numeral.
-/

namespace TileWalk

open Exchange

/-! ## Lines in order -/

/-- The physical lines of the statements come one after the other. -/
theorem SourceLine.ofSource_ascending (source : Text) :
    ((ofSource source).map (·.lineNumber)).Pairwise (· < ·) := by
  have numbers : (ofSource source).map (·.lineNumber) = (numbered source).map (·.2) := by
    calc
      (ofSource source).map (·.lineNumber) =
          ((numbered source).zipIdx.map Prod.fst).map (·.2) := by
        simp only [ofSource, List.map_map]
        rfl
      _ = (numbered source).map (·.2) := by rw [List.zipIdx_map_fst]
  rw [numbers, numbered, List.pairwise_map]
  apply List.Pairwise.filter
  rw [← List.pairwise_map (R := (· < ·)) (f := Prod.snd), List.zipIdx_map_snd]
  exact List.pairwise_lt_range'

/-- A statement is known by its physical line. -/
theorem SourceLine.eq_of_lineNumber {source : Text} {line other : SourceLine}
    (known : line ∈ ofSource source) (also : other ∈ ofSource source)
    (same : line.lineNumber = other.lineNumber) : line = other := by
  have distinct : ((ofSource source).map (·.lineNumber)).Nodup :=
    (ofSource_ascending source).imp fun less => less.ne
  exact List.inj_on_of_nodup_map distinct known also same

/-! ## Faults of statements -/

def Numeral.fault? (text : Text) : Option Fault :=
  if Overlong text then some (.longNumeral ⟨(text.takeWhile Text.isDigit).length⟩) else none

/-- The fault that a statement ends with when it reads its numeral or variable. -/
def Statement.fault? (bindings : Bindings) : Statement → Option Fault
  | .assign name value =>
    if Numeral.isUnsigned value then Numeral.fault? value
    else if (bindings.get? value).isSome then none
    else some (.statement (.invalidAssignment name))
  | .move _ (some token) =>
    if (bindings.get? token).isSome then none else Numeral.fault? token
  | _ => none

/-- The fault that a line ends with before it has any effect. -/
def SourceLine.fault? (line : SourceLine) (bindings : Bindings) : Option Fault :=
  match Statement.parse line.text with
  | .ok statement => statement.fault? bindings
  | .error error => some (.statement error)

section Reading

variable (bindings : Bindings)

theorem Interpreter.valueOf_fault (name value : Text) {fault : Fault} :
    valueOf bindings name value = .error fault ↔
      (Statement.assign name value).fault? bindings = some fault := by
  simp only [valueOf, Statement.fault?, Numeral.fault?]
  split
  · next numeral =>
      by_cases long : Numeral.Overlong value
      · simp [long, Numeral.unsigned_overlong long]
      · simp [long, Numeral.unsigned_readable numeral long]
  · cases bindings.get? value <;> simp

theorem Interpreter.resolveSteps_fault (direction : Direction) (argument : Option Text)
    {fault : Fault} :
    (resolveSteps bindings argument).mapError .longNumeral = .error fault ↔
      (Statement.move direction argument).fault? bindings = some fault := by
  cases argument with
  | none => simp [resolveSteps, Statement.fault?, Except.mapError]
  | some token =>
      simp only [resolveSteps, Statement.fault?, Numeral.fault?]
      cases bindings.get? token with
      | some value => simp [Except.mapError]
      | none =>
          by_cases long : Numeral.Overlong token
          · simp [long, long.1, Numeral.unsigned_overlong long, Except.map, Except.mapError]
          · cases numeral : Numeral.isUnsigned token with
            | true =>
                simp [long, Numeral.unsigned_readable numeral long, Except.map, Except.mapError]
            | false => simp [long, Except.mapError]

/-- There are no faults but errors of a statement and numerals that are too long. -/
theorem SourceLine.fault_cases {line : SourceLine} {fault : Fault}
    (failed : line.fault? bindings = some fault) :
    (∃ error, fault = .statement error) ∨ ∃ cause, fault = .longNumeral cause := by
  have numeral {text : Text} (failed : Numeral.fault? text = some fault) :
      ∃ cause, fault = .longNumeral cause := by
    simp only [Numeral.fault?, Option.ite_none_right_eq_some, Option.some.injEq] at failed
    exact ⟨_, failed.2.symm⟩
  simp only [fault?, Statement.fault?] at failed
  split at failed
  · split at failed
    · split at failed
      · exact .inr (numeral failed)
      · split at failed <;> cases failed
        exact .inl ⟨_, rfl⟩
    · split at failed
      · cases failed
      · exact .inr (numeral failed)
    · cases failed
  · cases failed
    exact .inl ⟨_, rfl⟩

end Reading

/-! ## Observers that raise nothing -/

def Game.Square (game : Game) : Prop :=
  game.session.world.grid.WellFormed game.session.world.size

/-- Whoever is told raises no error and leaves a square map of the same size behind. -/
structure Exchange.Answered (exchange : Exchange Point Game Fault) : Prop where
  reply : exchange.reply = .ok ()
  square : exchange.before.Square → exchange.after.Square
  size : exchange.after.session.world.size = exchange.before.session.world.size

def Environment.Answers (environment : Environment Point Game Fault) : Prop :=
  ∀ past point game, (environment.exchange past point game).Answered

theorem Environment.Quiet.answers {environment : Environment Point Game Fault}
    (quiet : environment.Quiet) : environment.Answers := by
  intro past point game
  rcases quiet past point game with ⟨reply, undisturbed⟩
  refine ⟨reply, ?_, by rw [undisturbed.world]⟩
  rw [Game.Square, Game.Square, undisturbed.world]
  exact id

/-- Where a machine pauses and the answer is no error, it goes on. -/
theorem Machine.Plays.answered {π α : Type} {machine : Machine π Point Game Fault α}
    {point : π} {game : Game} {exchanges : List (Exchange Point Game Fault)}
    {result : Except Fault α} {final : Game}
    (plays : machine.Plays (.pause point game) exchanges result final)
    (answered : ∀ exchange ∈ exchanges, exchange.Answered) :
    ∃ exchange rest, exchanges = exchange :: rest ∧ exchange.signal = machine.signal point ∧
      exchange.before = game ∧
      machine.Plays (machine.next point (.ok ()) exchange.after) rest result final := by
  cases plays with
  | pause _ _ reply after onward =>
      obtain rfl : reply = .ok () := (answered _ List.mem_cons_self).reply
      exact ⟨_, _, rfl, rfl, rfl, onward⟩

/-- A run that closes clears the highlight and tells its end. -/
theorem RunTurn.close_answered {result ending : Except Fault Unit} {game final : Game}
    {exchanges : List (Exchange Point Game Fault)}
    (plays : runMachine.Plays (RunTurn.close result game) exchanges ending final)
    (answered : ∀ exchange ∈ exchanges, exchange.Answered) :
    ending = result ∧ ∃ closing ended, exchanges = [closing, ended] ∧
      closing.signal = .notice (.highlight none) ∧ ended.signal = .notice .ended ∧
      ended.before.session.state = .idle := by
  rcases plays.answered answered with ⟨closing, rest, rfl, cleared, -, plays⟩
  rcases plays.answered (List.forall_mem_cons.mp answered).2 with
    ⟨ended, rest, rfl, told, before, plays⟩
  cases plays
  exact ⟨rfl, closing, ended, rfl, cleared, told, by rw [before]; rfl⟩

/-! ## Plain pasts -/

theorem Exchange.output?_eq_some {exchange : Exchange Point Game Fault} {line : OutputLine} :
    exchange.output? = some line ↔ exchange.signal = .notice (.output line) := by
  simp only [output?]
  split
  · next told => simp [told]
  · next silent => simpa using silent line

/-- Nothing but information has been put out. -/
def Plain (past : List (Exchange Point Game Fault)) : Prop :=
  ∀ line ∈ outputs past, line.kind = .info

theorem Plain.later {past : List (Exchange Point Game Fault)} (plain : Plain past)
    {exchange : Exchange Point Game Fault}
    (told : ∀ line, exchange.signal = .notice (.output line) → line.kind = .info) :
    Plain (past ++ [exchange]) := by
  intro line shown
  simp only [outputs_append, outputs_cons, outputs_nil, List.append_nil, List.mem_append,
    Option.mem_toList, output?_eq_some] at shown
  exact shown.elim (plain line) (told line)

/-! ## Statements -/

section Statements

variable (past : List (Exchange Point Game Fault))

/-- The map is square, a step that is shown has not left it, and what is told next is
the first that is no information. -/
structure Moment.Safe (moment : Moment) (later : Game) : Prop where
  square : later.Square
  inside : ∀ walk, moment = .stepped walk →
    later.session.world.isOutOfBounds walk.place = false
  plain : moment ≠ .fallen → Plain past

/-- A statement is over without an error. -/
def Fine (result : Except Fault Bool) (later : Game) : Prop :=
  later.Square ∧ ∃ goesOn, result = .ok goesOn ∧ (goesOn = true → Plain past)

variable {past}

theorem StatementTurn.walk_safe {game : Game} (square : game.Square) (plain : Plain past)
    (direction : Direction) (total : Int) (left : Nat) :
    (walk direction total left game).Meets (Moment.Safe past) (Fine past) := by
  cases left with
  | zero =>
      simp only [walk]
      split
      · exact ⟨square, by simp, fun _ => plain⟩
      · exact ⟨square, true, rfl, fun _ => plain⟩
  | succ left =>
      simp only [walk]
      split
      · exact ⟨square, false, rfl, by simp⟩
      split
      · exact ⟨square, by simp, fun _ => plain⟩
      next inside =>
      have inside := Bool.eq_false_iff.mpr inside
      rcases World.cellAt_inside square inside with ⟨tile, found⟩
      rw [found]
      simp only
      split
      · exact ⟨square, by simp, fun _ => plain⟩
      · refine ⟨square, ?_, fun _ => plain⟩
        rintro walk ⟨⟩
        exact inside

theorem StatementTurn.begin_safe {game : Game} (square : game.Square) (plain : Plain past)
    {statement : Statement} (clear : statement.fault? game.session.bindings = none) :
    (begin game statement).Meets (Moment.Safe past) (Fine past) := by
  cases statement with
  | assign name value =>
      simp only [begin]
      split
      · next fault failed =>
          rw [(Interpreter.valueOf_fault _ name value).mp failed] at clear
          cases clear
      · exact ⟨square, true, rfl, fun _ => plain⟩
  | print token quoted => exact ⟨square, by simp, fun _ => plain⟩
  | move direction argument =>
      simp only [begin]
      split
      · next cause failed =>
          have failed : (Statement.move direction argument).fault? game.session.bindings =
              some (.longNumeral cause) :=
            (Interpreter.resolveSteps_fault _ direction argument).mp (by rw [failed]; rfl)
          rw [failed] at clear
          cases clear
      · exact walk_safe square plain direction _ _
  | remark text => exact ⟨square, true, rfl, fun _ => plain⟩

theorem StatementTurn.begin_fault {game : Game} {statement : Statement} {fault : Fault}
    (failed : statement.fault? game.session.bindings = some fault) :
    begin game statement = .finish (.error fault) game := by
  cases statement with
  | assign name value => simp [begin, (Interpreter.valueOf_fault _ name value).mpr failed]
  | move direction argument =>
      have failed := (Interpreter.resolveSteps_fault _ direction argument).mpr failed
      simp only [begin]
      cases resolved : Interpreter.resolveSteps game.session.bindings argument with
      | ok steps => simp [resolved, Except.mapError] at failed
      | error cause =>
          simp only [resolved, Except.mapError, Except.error.injEq] at failed
          cases failed
          rfl
  | _ => cases failed

/-- With each notice a statement stays safe, and it can no longer fail. -/
theorem Moment.next_safe {exchange : Exchange Point Game Fault} (answered : exchange.Answered)
    {moment : Moment} (told : exchange.signal = .notice moment.notice)
    (safe : moment.Safe past exchange.before) :
    (moment.next exchange.reply exchange.after).Meets (Moment.Safe (past ++ [exchange]))
      (Fine (past ++ [exchange])) := by
  rcases safe with ⟨square, inside, plain⟩
  have square := answered.square square
  rw [answered.reply]
  cases moment with
  | said text =>
      refine ⟨square, true, rfl, fun _ => (plain (by simp)).later ?_⟩
      simp [told, notice]
  | stepped walk =>
      have plain : Plain (past ++ [exchange]) := (plain (by simp)).later (by simp [told, notice])
      have inside : exchange.after.session.world.isOutOfBounds walk.place = false := by
        rw [World.isOutOfBounds, answered.size]
        exact inside walk rfl
      rcases World.cellAt_inside square inside with ⟨tile, found⟩
      simp only [next, World.isGoal_tile found]
      cases decide (tile = .goal) with
      | true => exact ⟨square, by simp, fun _ => plain⟩
      | false => exact ⟨square, by simp, fun _ => plain⟩
  | rested walk =>
      have plain : Plain (past ++ [exchange]) := (plain (by simp)).later (by simp [told, notice])
      simp only [next]
      split
      · exact ⟨square, false, rfl, by simp⟩
      · exact StatementTurn.walk_safe square plain _ _ _
  | obstructed message => exact ⟨square, by simp, by simp⟩
  | fallen => exact ⟨square, false, rfl, by simp⟩
  | won => exact ⟨square, false, rfl, by simp⟩

end Statements

/-! ## Runs -/

section Runs

variable (lines : List SourceLine) (past : List (Exchange Point Game Fault))

/-- A highlighted line reads a numeral that is too long. -/
def Overreads (cause : Numeral.TooLong) : Prop :=
  ∃ line ∈ lines, ∃ lit ∈ past, lit.signal = .notice (.highlight (some line.lineNumber)) ∧
    line.fault? lit.after.session.bindings = some (.longNumeral cause)

/-- A program has no fault but that of a numeral that is too long. -/
def Explained (result : Except Fault Unit) : Prop :=
  result = .ok () ∨ ∃ cause, result = .error (.longNumeral cause) ∧ Overreads lines past cause

/-- What is known at a notice of a run, of its map, the lines to come, and what has
been put out. -/
def Waypoint.Safe (waypoint : Waypoint) (later : Game) : Prop :=
  later.Square ∧ match waypoint with
    | .begun rest | .between rest => rest ⊆ lines ∧ Plain past
    | .highlighted line rest => line :: rest ⊆ lines ∧ Plain past
    | .within _ rest moment => rest ⊆ lines ∧ moment.Safe past later
    | .failed _ => Plain past
    | .closing result | .ended result => Explained lines past result

def RunTurn.Safe (turn : RunTurn) : Prop :=
  turn.Meets (Waypoint.Safe lines past) fun result _ => Explained lines past result

variable {lines past}

theorem Explained.result {result : Except Fault Unit} (explained : Explained lines past result) :
    result = .ok () ∨ ∃ cause, result = .error (.longNumeral cause) := by
  rcases explained with ends | ⟨cause, fails, -⟩
  · exact .inl ends
  · exact .inr ⟨cause, fails⟩

theorem Explained.later {result : Except Fault Unit} (explained : Explained lines past result)
    (exchange : Exchange Point Game Fault) : Explained lines (past ++ [exchange]) result := by
  rcases explained with ends | ⟨cause, fails, line, known, lit, before, facts⟩
  · exact .inl ends
  · exact .inr ⟨cause, fails, line, known, lit, List.mem_append_left _ before, facts⟩

section Turns

variable {game : Game} {line : SourceLine} {rest : List SourceLine}

theorem RunTurn.carryOut_fault {fault : Fault}
    (failed : line.fault? game.session.bindings = some fault) :
    carryOut line rest game = settle line rest (.error fault) game := by
  simp only [SourceLine.fault?] at failed
  simp only [carryOut]
  cases parsed : Statement.parse line.text with
  | error error =>
      rw [parsed] at failed
      cases failed
      rfl
  | ok statement =>
      rw [parsed] at failed
      exact congrArg (ofStatement line rest) (StatementTurn.begin_fault failed)

variable (known : rest ⊆ lines)

include known

theorem RunTurn.dispatch_safe (square : game.Square) (plain : Plain past) :
    (dispatch rest game).Safe lines past := by
  cases rest with
  | nil => exact ⟨square, .inl rfl⟩
  | cons line rest =>
      simp only [dispatch]
      split
      · exact ⟨square, .inl rfl⟩
      · exact ⟨square, known, plain⟩

theorem RunTurn.ofStatement_safe {turn : StatementTurn}
    (safe : turn.Meets (Moment.Safe past) (Fine past)) :
    (ofStatement line rest turn).Safe lines past := by
  refine Turn.Meets.carry (fun _ _ facts => ⟨facts.square, known, facts⟩) ?_ safe
  rintro _ later ⟨square, goesOn, rfl, plain⟩
  cases goesOn with
  | false => exact ⟨square, .inl rfl⟩
  | true =>
      simp only [settle]
      split
      · exact ⟨square, .inl rfl⟩
      · exact ⟨square, known, plain rfl⟩

theorem RunTurn.carryOut_safe (square : game.Square) (plain : Plain past)
    (overreads : ∀ cause, line.fault? game.session.bindings = some (.longNumeral cause) →
      Overreads lines past cause) : (carryOut line rest game).Safe lines past := by
  cases fault : line.fault? game.session.bindings with
  | some fault =>
      rw [carryOut_fault fault]
      rcases SourceLine.fault_cases _ fault with ⟨error, rfl⟩ | ⟨cause, rfl⟩
      · exact ⟨square, plain⟩
      · exact ⟨square, .inr ⟨cause, rfl, overreads cause fault⟩⟩
  | none =>
      simp only [SourceLine.fault?] at fault
      simp only [carryOut]
      cases parsed : Statement.parse line.text with
      | error error => simp [parsed] at fault
      | ok statement =>
          rw [parsed] at fault
          exact ofStatement_safe known (StatementTurn.begin_safe square plain fault)

end Turns

/-- With each notice a run stays safe. -/
theorem Waypoint.next_safe {exchange : Exchange Point Game Fault} (answered : exchange.Answered)
    {waypoint : Waypoint} (told : exchange.signal = .notice waypoint.notice)
    (safe : waypoint.Safe lines past exchange.before) :
    (waypoint.next exchange.reply exchange.after).Safe lines (past ++ [exchange]) := by
  rcases safe with ⟨square, facts⟩
  have square := answered.square square
  cases waypoint with
  | begun rest =>
      rw [answered.reply]
      exact RunTurn.dispatch_safe facts.1 square (facts.2.later (by simp [told, notice]))
  | highlighted line rest =>
      rcases facts with ⟨known, plain⟩
      rcases List.cons_subset.mp known with ⟨here, known⟩
      rw [answered.reply]
      refine RunTurn.carryOut_safe known square (plain.later (by simp [told, notice])) ?_
      exact fun cause failed => ⟨line, here, exchange, by simp, told, failed⟩
  | within line rest moment =>
      exact RunTurn.ofStatement_safe facts.1 (Moment.next_safe answered told facts.2)
  | failed error =>
      rw [answered.reply]
      exact ⟨square, .inl rfl⟩
  | between rest =>
      rw [answered.reply]
      exact RunTurn.dispatch_safe facts.1 square (facts.2.later (by simp [told, notice]))
  | closing result =>
      rw [answered.reply]
      exact ⟨square, facts.later exchange⟩
  | ended result =>
      rw [answered.reply]
      exact facts.later exchange

end Runs

/-- A highlight shows the line that is carried out next. -/
theorem Waypoint.lit {waypoint : Waypoint} {number : Nat}
    (told : waypoint.notice = .highlight (some number)) :
    ∃ line rest, waypoint = .highlighted line rest ∧ line.lineNumber = number := by
  cases waypoint with
  | highlighted line rest =>
      cases told
      exact ⟨line, rest, rfl, rfl⟩
  | within line rest moment => cases moment <;> cases told
  | _ => cases told

/-- Up to the last line that is put out, and to the last that is highlighted, all that
has been put out is information. -/
theorem Waypoint.Safe.plain {lines : List SourceLine}
    {past : List (Exchange Point Game Fault)} {waypoint : Waypoint} {later : Game}
    (safe : waypoint.Safe lines past later)
    (told : (∃ line, waypoint.notice = .output line) ∨
      ∃ number, waypoint.notice = .highlight (some number)) : Plain past := by
  cases waypoint with
  | within line rest moment =>
      refine safe.2.2.plain ?_
      rintro rfl
      simp [notice, Moment.notice] at told
  | failed error => exact safe.2
  | highlighted line rest => exact safe.2.2
  | _ => simp [notice] at told

/-! ## What makes a run fail -/

section Executed

variable {environment : Environment Point Game Fault} (answers : environment.Answers)
  (lines : List SourceLine) {game : Game} (square : game.Square)

include answers square

/-- At every notice of a run it is known what comes next, and its end is explained. -/
theorem execute_safe :
    let ending := (Scheduler.execute lines game).under environment []
    Explained lines ending.exchanges ending.result ∧
    ∀ first exchange rest, ending.exchanges = first ++ exchange :: rest →
      ∃ waypoint : Waypoint, .notice waypoint.notice = exchange.signal ∧
        waypoint.Safe lines first exchange.before ∧
        runMachine.Plays (waypoint.next (.ok ()) exchange.after) rest ending.result ending.final ∧
        ∀ other ∈ rest, other.Answered := by
  intro ending
  have plays := (run_follows lines game).plays environment []
  have given := (environment.gave_under (Scheduler.execute lines game) []).all answers
  have begins : RunTurn.Safe lines [] (.pause (.begun lines) (game.begun lines)) :=
    ⟨square, List.Subset.refl lines, by simp [Plain]⟩
  rcases plays.recall (Waypoint.Safe lines) (fun past result _ => Explained lines past result)
      (fun _ _ _ safe answered told => Waypoint.next_safe answered told.symm safe) begins given with
    ⟨explained, within⟩
  refine ⟨explained, fun first exchange rest split => ?_⟩
  rcases within first exchange rest split with ⟨waypoint, told, safe, onward⟩
  have others : ∀ other ∈ exchange :: rest, other.Answered := by
    intro other later
    exact given other (split ▸ List.mem_append_right _ later)
  rcases List.forall_mem_cons.mp others with ⟨here, others⟩
  rw [here.reply] at onward
  exact ⟨waypoint, told, safe, onward, others⟩

end Executed

/-- What a run does with a highlighted line that has a fault. -/
theorem execute_fault {environment : Environment Point Game Fault} (answers : environment.Answers)
    {source : Text} {game : Game} (square : game.Square) {line : SourceLine}
    (known : line ∈ SourceLine.ofSource source)
    {first rest : List (Exchange Point Game Fault)} {lit : Exchange Point Game Fault} :
    let lines := SourceLine.ofSource source
    let ending := (Scheduler.execute lines game).under environment []
    ending.exchanges = first ++ lit :: rest →
    lit.signal = .notice (.highlight (some line.lineNumber)) →
    Plain first ∧ ∃ others,
      runMachine.Plays (RunTurn.carryOut line others lit.after) rest ending.result ending.final ∧
      ∀ other ∈ rest, other.Answered := by
  intro lines ending split shown
  rcases (execute_safe answers lines square).2 first lit rest split with
    ⟨waypoint, told, safe, onward, others⟩
  have told : waypoint.notice = .highlight (some line.lineNumber) :=
    Point.notice.inj (told.trans shown)
  have plain := safe.plain (.inr ⟨_, told⟩)
  rcases waypoint.lit told with ⟨same, tail, rfl, number⟩
  obtain rfl : same = line :=
    SourceLine.eq_of_lineNumber (safe.2.1 List.mem_cons_self) known number
  exact ⟨plain, tail, onward, others⟩

/-- A run fails for a numeral that is too long just where it has highlighted a line that
reads one. -/
theorem execute_overreads {environment : Environment Point Game Fault}
    (answers : environment.Answers) {source : Text} {game : Game} (square : game.Square)
    {cause : Numeral.TooLong} :
    let lines := SourceLine.ofSource source
    let ending := (Scheduler.execute lines game).under environment []
    ending.result = .error (.longNumeral cause) ↔ Overreads lines ending.exchanges cause := by
  intro lines ending
  constructor
  · intro fails
    rcases (execute_safe answers lines square).1 with ends | ⟨other, same, overreads⟩
    · cases ends.symm.trans fails
    · cases same.symm.trans fails
      exact overreads
  · rintro ⟨line, known, lit, seen, shown, failed⟩
    rcases List.append_of_mem seen with ⟨first, rest, split⟩
    rcases execute_fault answers square known split shown with ⟨-, others, plays, answered⟩
    rw [RunTurn.carryOut_fault failed] at plays
    exact (RunTurn.close_answered plays answered).1

/-- Whatever line comes next, the numbers that it can put out can be written. -/
structure Game.Prints (game : Game) : Prop where
  values : game.session.bindings.Writable
  steps : ∀ argument steps, Interpreter.resolveSteps game.session.bindings argument = .ok steps →
    Numeral.Writable steps

theorem Game.Prints.of_writable {game : Game} (writable : game.session.bindings.Writable) :
    game.Prints :=
  ⟨writable, fun _ _ resolved => Interpreter.resolveSteps_writable writable resolved⟩

/-- However the program reads, a run on a square map, on whichever thread, ends without
an error if nobody who is told raises one or binds a variable, unless a line that it
highlights reads a numeral that is too long; then it fails for this. No number is too
long to be put out. A highlighted line that cannot be carried out for another reason is
told as the only error, and it ends the run. -/
theorem fails_iff_overreads {environment : Environment Point Game Fault}
    (answers : environment.Answers) (source : Text) {game : Game}
    (square : game.session.world.grid.WellFormed game.session.world.size) :
    let lines := SourceLine.ofSource source
    (∀ runner,
      let ending := (Scheduler.execute lines (game.claimed runner)).under environment []
      (∀ exchange ∈ ending.exchanges, exchange.Clearing) →
      (∀ exchange ∈ ending.exchanges, exchange.before.Prints ∧ exchange.after.Prints) ∧
      (ending.result = .ok () ∨ ∃ cause, ending.result = .error (.longNumeral cause)) ∧
      (∀ cause, ending.result = .error (.longNumeral cause) ↔
        Overreads lines ending.exchanges cause) ∧
      ∀ line ∈ lines, ∀ first lit rest, ending.exchanges = first ++ lit :: rest →
        lit.signal = .notice (.highlight (some line.lineNumber)) →
        ∀ error, line.fault? lit.after.session.bindings = some (.statement error) →
          Plain first ∧ ending.result = .ok () ∧ ∃ told closing ended,
            rest = [told, closing, ended] ∧
            told.signal = .notice (.output ⟨"Error: " ++ error.message, .error⟩) ∧
            closing.signal = .notice (.highlight none) ∧ ended.signal = .notice .ended) ∧
    ((Scheduler.run source game).under environment []).result =
      if lines = [] ∨ ¬ game.Free then .ok false
      else ((Scheduler.execute lines (game.claimed game.current)).under
        environment []).result.map fun _ => true := by
  intro lines
  refine ⟨fun runner => ?_, ?_⟩
  · intro ending clearing
    have claimed : (game.claimed runner).Square := square
    have written := execute_all Numeral.all_writable clearing
    refine ⟨fun exchange met => ⟨?_, ?_⟩, (execute_safe answers lines claimed).1.result,
      fun cause => execute_overreads answers claimed, ?_⟩
    · exact .of_writable (written exchange met exchange.before (.inl rfl))
    · exact .of_writable (written exchange met exchange.after (.inr rfl))
    · intro line known first lit rest split shown error failed
      rcases execute_fault answers claimed known split shown with ⟨plain, others, plays, answered⟩
      rw [RunTurn.carryOut_fault failed] at plays
      rcases plays.answered answered with ⟨told, tail, rfl, output, -, plays⟩
      rcases RunTurn.close_answered plays (List.forall_mem_cons.mp answered).2 with
        ⟨ends, closing, ended, rfl, cleared, late, -⟩
      exact ⟨plain, ends, told, closing, ended, rfl, output, cleared, late⟩
  · split
    · next refused =>
        by_cases blank : lines = []
        · rw [Scheduler.run_blank blank]
          rfl
        · rw [Scheduler.run_busy blank (refused.resolve_left blank)]
          rfl
    · next accepted =>
        rcases not_or.mp accepted with ⟨filled, free⟩
        rw [Scheduler.run_under filled (not_not.mp free)]

/-- A variable without a value is told as the only error of its run. -/
theorem fails_iff_overreads_unbound :
    let source : Text := "x = 1\ny = z"
    let ending := (Scheduler.execute (SourceLine.ofSource source)
      ((Game.onGrass 1).claimed .worker)).under .silent []
    Environment.silent.Answers ∧ (∀ exchange ∈ ending.exchanges, exchange.Clearing) ∧
      (Grid.empty 1).WellFormed 1 ∧ ending.result = .ok () ∧
      (∀ cause, ¬ Overreads (SourceLine.ofSource source) ending.exchanges cause) ∧
      ∃ first lit told closing ended, ending.exchanges = first ++ [lit, told, closing, ended] ∧
        Plain first ∧ lit.signal = .notice (.highlight (some 1)) ∧
        told.signal = .notice (.output ⟨"Error: Invalid value for y", .error⟩) := by
  intro source ending
  have answers := Environment.silent_quiet.answers
  have square : (Game.onGrass 1).Square := Grid.empty_square 1
  have known : ⟨1, 1, "y = z"⟩ ∈ SourceLine.ofSource source := by decide +kernel
  rcases Option.isSome_iff_exists.mp
    (by decide +kernel : (ending.exchanges[3]?).isSome = true) with ⟨lit, found⟩
  have shown : lit.signal = .notice (.highlight (some 1)) := Option.some.inj <|
    (congrArg (Option.map Exchange.signal) found).symm.trans (by decide +kernel)
  have failed : SourceLine.fault? ⟨1, 1, "y = z"⟩ lit.after.session.bindings =
      some (.statement (.invalidAssignment "y")) := Option.some.inj <|
    (congrArg (Option.map fun lit : Exchange Point Game Fault =>
      SourceLine.fault? ⟨1, 1, "y = z"⟩ lit.after.session.bindings) found).symm.trans
        (by decide +kernel)
  rcases List.append_of_mem (List.mem_of_getElem? found) with ⟨first, rest, split⟩
  have clearing : ∀ exchange ∈ ending.exchanges, exchange.Clearing :=
    (Environment.gave_under .silent _ []).all Environment.silent_clearing
  rcases (fails_iff_overreads answers source square).1 .worker clearing with
    ⟨-, -, overreads, statements⟩
  rcases statements _ known first lit rest split shown _ failed with
    ⟨plain, ends, told, closing, ended, rfl, output, -, -⟩
  refine ⟨answers, clearing, square, ends, fun cause reads => ?_, first, lit, told, closing, ended,
    split, plain, shown, output.trans (by decide +kernel)⟩
  have raised := (overreads cause).mpr reads
  cases ends.symm.trans raised

end TileWalk
