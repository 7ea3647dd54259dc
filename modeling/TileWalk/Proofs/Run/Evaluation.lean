import TileWalk.Proofs.Program.Evaluation
import TileWalk.Proofs.Run.Control

/-!
# Runs evaluate their programs

A run that nobody disturbs puts out what the evaluation of its program puts out,
waits as often, and leaves the same world and the same variables behind. This is
shown for movements by induction on the steps, which make up the jump, and for
programs by induction on the lines.
-/

namespace TileWalk

open Exchange

/-- A notice that is neither a line nor a wait. -/
def Notice.Aside : Notice → Prop
  | .output _ | .wait => False
  | _ => True

/-- What is seen of an activity that starts in a session is what a statement or a
program comes to. -/
structure Outcome.Seen (outcome : Outcome) (session : Session)
    (exchanges : List (Exchange Point Game Fault)) (final : Game) : Prop where
  lines : outputs exchanges = outcome.lines
  waits : Exchange.waits exchanges = outcome.waits
  session : final.session =
    { session with world := outcome.world, bindings := outcome.bindings }

namespace Outcome.Seen

variable {outcome : Outcome} {session : Session} {exchange : Exchange Point Game Fault}
  {exchanges : List (Exchange Point Game Fault)} {final : Game}

theorem nil {world : World} {bindings : Bindings} (goesOn : Bool)
    (same : final.session = { session with world, bindings }) :
    Seen { world, bindings, goesOn } session [] final :=
  ⟨rfl, rfl, same⟩

theorem told {line : OutputLine} (signal : exchange.signal = .notice (.output line))
    (seen : outcome.Seen session exchanges final) :
    Seen { outcome with lines := line :: outcome.lines } session (exchange :: exchanges)
      final where
  lines := by simp [outputs_cons, output?, signal, seen.lines]
  waits := by simp [waits_cons, isWait, signal, seen.waits]
  session := seen.session

theorem aside {notice : Notice} (signal : exchange.signal = .notice notice)
    (aside : notice.Aside) (seen : outcome.Seen session exchanges final) :
    outcome.Seen session (exchange :: exchanges) final where
  lines := by
    rw [outputs_cons, seen.lines]
    cases notice <;> first | exact aside.elim | simp [output?, signal]
  waits := by
    rw [waits_cons, seen.waits]
    cases notice <;> first | exact aside.elim | simp [isWait, signal]
  session := seen.session

theorem waited (signal : exchange.signal = .notice .wait)
    (seen : outcome.Seen session exchanges final) :
    Seen { outcome with waits := outcome.waits + 1 } session (exchange :: exchanges) final where
  lines := by simp [outputs_cons, output?, signal, seen.lines]
  waits := by simp [waits_cons, isWait, signal, seen.waits, Nat.add_comm]
  session := seen.session

variable {other : Outcome} {early late : List (Exchange Point Game Fault)} {middle : Game}

theorem append {ending : Session} (first : outcome.Seen session early middle)
    (second : other.Seen ending late final) :
    Seen { other with
      lines := outcome.lines ++ other.lines
      waits := outcome.waits + other.waits } ending (early ++ late) final where
  lines := by rw [outputs_append, first.lines, second.lines]
  waits := by rw [waits_append, first.waits, second.waits]
  session := second.session

/-- A run that closes shows nothing more. -/
theorem close {result ending : Except Fault Unit} (seen : outcome.Seen session early middle)
    (quiet : ∀ exchange ∈ late, exchange.Quiet)
    (plays : runMachine.Plays (RunTurn.close result middle) late ending final) :
    ending = result ∧ outcome.Seen { session with state := .idle } (early ++ late) final := by
  rcases RunTurn.close_quiet plays quiet with
    ⟨same, closing, ended, rfl, cleared, told, -, -, remains⟩
  refine ⟨same, ?_, ?_, ?_⟩
  · simp [outputs_cons, output?, cleared, told, seen.lines]
  · simp [waits_cons, isWait, cleared, told, seen.waits]
  · rw [remains, seen.session]

end Outcome.Seen

/-! ## Movements -/

section Movements

variable {game final : Game} {exchanges : List (Exchange Point Game Fault)}
  {result : Except Fault Bool} (quiet : ∀ exchange ∈ exchanges, exchange.Quiet)

include quiet

/-- An agent that dies is dead where it stands. -/
theorem obstructed_seen {message : String}
    (plays : statementMachine.Plays (.pause (.obstructed message) (game.onWorld (·.setDead true)))
      exchanges result final) :
    result = .ok false ∧
      Outcome.Seen
        { world := game.session.world.setDead true, bindings := game.session.bindings
          lines := [⟨message, .error⟩], goesOn := false }
        game.session exchanges final := by
  rcases plays.quietly quiet with ⟨told, rest, rfl, signal, -, same, plays, quiet⟩
  rcases plays.quietly quiet with ⟨shown, rest, rfl, redraw, -, still, plays, quiet⟩
  cases plays
  exact ⟨rfl, ((Outcome.Seen.nil false (still.trans same)).aside redraw trivial).told signal⟩

theorem completed_seen {direction : Direction} {total : Nat}
    (plays : statementMachine.Plays (StatementTurn.walk direction total 0 game) exchanges result
      final) :
    result = .ok true ∧
      Outcome.Seen
        { world := game.session.world, bindings := game.session.bindings
          lines := completion total }
        game.session exchanges final := by
  simp only [StatementTurn.walk] at plays
  simp only [completion]
  by_cases several : 1 < total
  · rw [if_pos (by omega)] at plays
    rcases plays.quietly quiet with ⟨told, rest, rfl, signal, -, same, plays, quiet⟩
    cases plays
    rw [if_pos several]
    exact ⟨rfl, (Outcome.Seen.nil true same).told signal⟩
  · rw [if_neg (by omega)] at plays
    cases plays
    rw [if_neg several]
    exact ⟨rfl, Outcome.Seen.nil true rfl⟩

/-- A step onto the goal is shown, and it ends the program. -/
theorem victory_seen {walk : Walk}
    (plays : statementMachine.Plays (.pause (.stepped walk) game) exchanges result final)
    (goal : game.session.world.isGoal walk.place = .ok true) :
    result = .ok false ∧
      Outcome.Seen
        { world := game.session.world, bindings := game.session.bindings
          lines := [Landmark.goal.line], goesOn := false }
        game.session exchanges final := by
  rcases plays.quietly quiet with ⟨shown, rest, rfl, redraw, -, same, plays, quiet⟩
  simp only [statementMachine_next, Moment.next, same, goal] at plays
  rcases plays.quietly quiet with ⟨told, rest, rfl, victory, -, still, plays, quiet⟩
  cases plays
  have seen := (Outcome.Seen.nil false (still.trans same)).told victory
  exact ⟨rfl, seen.aside redraw trivial⟩

/-- Any other step is shown, and the movement goes on after a wait. -/
theorem stepped_seen {walk : Walk}
    (plays : statementMachine.Plays (.pause (.stepped walk) game) exchanges result final)
    (grass : game.session.world.isGoal walk.place = .ok false)
    (clear : game.session.stopRequested = false) :
    ∃ shown waited rest later, exchanges = shown :: waited :: rest ∧
      shown.signal = .notice .redraw ∧ waited.signal = .notice .wait ∧
      later.session = game.session ∧
      statementMachine.Plays (StatementTurn.walk walk.direction walk.total walk.left later) rest
        result final ∧
      ∀ exchange ∈ rest, exchange.Quiet := by
  rcases plays.quietly quiet with ⟨shown, rest, rfl, redraw, -, same, plays, quiet⟩
  simp only [statementMachine_next, Moment.next, same, grass] at plays
  rcases plays.quietly quiet with ⟨waited, rest, rfl, wait, -, still, plays, quiet⟩
  have here := still.trans same
  simp only [statementMachine_next, Moment.next, here, clear, Bool.false_eq_true, if_false]
    at plays
  exact ⟨shown, waited, rest, waited.after, rfl, redraw, wait, here, plays, quiet⟩

/-- A movement that starts where the agent lives is a jump. -/
theorem walk_seen {direction : Direction} {total left : Nat}
    (square : game.session.world.grid.WellFormed game.session.world.size)
    (clear : game.session.stopRequested = false) (alive : game.session.world.agent.dead = false)
    (plays : statementMachine.Plays (StatementTurn.walk direction total left game) exchanges result
      final) :
    let outcome := game.session.world.jump game.session.bindings direction left (completion total)
    result = .ok outcome.goesOn ∧ outcome.Seen game.session exchanges final := by
  induction left generalizing game exchanges with
  | zero => exact completed_seen quiet plays
  | succ left ih =>
      simp only [StatementTurn.walk, clear, alive, Bool.or_self, Bool.false_eq_true, if_false]
        at plays
      rw [World.jump_succ]
      cases outside : game.session.world.isOutOfBounds
          (game.session.world.agent.position.shift direction.delta) with
      | true =>
          simp only [outside, if_true] at plays
          rw [World.landmark?_outside outside]
          exact obstructed_seen quiet plays
      | false =>
          rcases World.cellAt_inside square outside with ⟨tile, found⟩
          simp only [outside, Bool.false_eq_true, if_false, found] at plays
          rw [World.landmark?_inside outside found]
          cases tile with
          | wall => exact obstructed_seen quiet plays
          | water => exact obstructed_seen quiet plays
          | goal =>
              rcases victory_seen quiet plays (World.isGoal_tile found) with ⟨ends, seen⟩
              exact ⟨ends, seen.lines, seen.waits, seen.session⟩
          | grass =>
              rcases stepped_seen quiet plays (World.isGoal_tile found) clear with
                ⟨shown, waited, rest, later, rfl, redraw, wait, here, plays, quiet⟩
              have others := ih quiet (by rw [here]; exact square) (by rw [here]; exact clear)
                (by rw [here]; exact alive) plays
              rw [here] at others
              rcases others with ⟨ends, lines, waits, session⟩
              have seen : Outcome.Seen _ game.session rest final := ⟨lines, waits, session⟩
              exact ⟨ends, (seen.waited wait).aside redraw trivial⟩

end Movements

/-! ## Statements and lines -/

/-- A line can be carried out in this world: only a movement needs a square map. -/
def World.Carries (world : World) (text : Text) : Prop :=
  ∀ direction argument, Statement.parse text = .ok (.move direction argument) →
    world.grid.WellFormed world.size

theorem World.SameMap.carries {world other : World} {text : Text} (same : world.SameMap other)
    (carries : world.Carries text) : other.Carries text :=
  fun direction argument moves => same.square (carries direction argument moves)

theorem begin_seen {statement : Statement} (readable : statement.Readable) {game final : Game}
    (square : ∀ direction argument, statement = .move direction argument →
      game.session.world.grid.WellFormed game.session.world.size)
    (clear : game.session.stopRequested = false) {exchanges : List (Exchange Point Game Fault)}
    (quiet : ∀ exchange ∈ exchanges, exchange.Quiet) {result : Except Fault Bool}
    (plays : statementMachine.Plays (StatementTurn.begin game statement) exchanges result final) :
    match statement.evaluate game.session.world game.session.bindings with
    | .ok outcome => result = .ok outcome.goesOn ∧ outcome.Seen game.session exchanges final
    | .error error => result = .error (.statement error) ∧ exchanges = [] ∧ final = game := by
  cases statement with
  | assign name value =>
      simp only [StatementTurn.begin, Interpreter.valueOf_eq _ readable] at plays
      simp only [Statement.evaluate]
      cases numeral : Numeral.isUnsigned value with
      | true =>
          simp only [numeral, if_true] at plays
          cases plays
          exact ⟨rfl, rfl, rfl, rfl⟩
      | false =>
          simp only [numeral, Bool.false_eq_true, if_false] at plays
          cases known : game.session.bindings.get? value with
          | some number =>
              simp only [known] at plays
              cases plays
              exact ⟨rfl, rfl, rfl, rfl⟩
          | none =>
              simp only [known] at plays
              cases plays
              exact ⟨rfl, rfl, rfl⟩
  | print token quoted =>
      rcases plays.quietly quiet with ⟨told, rest, rfl, signal, -, same, plays, quiet⟩
      cases plays
      exact ⟨rfl, (Outcome.Seen.nil true same).told signal⟩
  | move direction argument =>
      have resolved : Interpreter.resolveSteps game.session.bindings argument = _ :=
        Interpreter.resolveSteps_eq _ fun token is => by
          rw [Option.mem_def.mp is] at readable
          exact readable
      simp only [StatementTurn.begin, resolved, Int.toNat_natCast] at plays
      simp only [Statement.evaluate]
      cases alive : game.session.world.agent.dead with
      | true =>
          obtain ⟨left, count⟩ : ∃ left, game.session.bindings.steps argument = left + 1 :=
            Nat.exists_eq_succ_of_ne_zero (by have := Interpreter.resolveSteps_pos resolved; omega)
          simp only [count, StatementTurn.walk, alive, Bool.or_true, if_true] at plays
          cases plays
          exact ⟨rfl, rfl, rfl, rfl⟩
      | false => exact walk_seen quiet (square direction argument rfl) clear alive plays
  | remark text =>
      cases plays
      exact ⟨rfl, rfl, rfl, rfl⟩

section Lines

variable {line : SourceLine} {rest : List SourceLine} {game final : Game}
  {exchanges : List (Exchange Point Game Fault)} {result : Except Fault Unit}

/-- How a run goes on after a line that comes to an outcome. -/
def Outcome.goOn (outcome : Outcome) (line : SourceLine) (rest : List SourceLine) (game : Game) :
    RunTurn :=
  if outcome.goesOn then RunTurn.settle line rest (.ok true) game else RunTurn.close (.ok ()) game

/-- A statement that cannot be carried out is told, and the program ends. -/
theorem failed_seen {error : StatementError} (quiet : ∀ exchange ∈ exchanges, exchange.Quiet)
    (plays : runMachine.Plays (RunTurn.settle line rest (.error (.statement error)) game) exchanges
      result final) :
    let outcome : Outcome :=
      { world := game.session.world, bindings := game.session.bindings
        lines := [⟨"Error: " ++ error.message, .error⟩], goesOn := false }
    ∃ first others middle, exchanges = first ++ others ∧ outcome.Seen game.session first middle ∧
      runMachine.Plays (outcome.goOn line rest middle) others result final := by
  rcases plays.quietly quiet with ⟨told, others, rfl, signal, -, same, plays, quiet⟩
  exact ⟨[told], others, told.after, rfl, (Outcome.Seen.nil false same).told signal, plays⟩

/-- A line that can be read comes to what its evaluation says. -/
theorem carryOut_seen
    (legible : Legible line.text) (carries : game.session.world.Carries line.text)
    (clear : game.session.stopRequested = false) (quiet : ∀ exchange ∈ exchanges, exchange.Quiet)
    (plays : runMachine.Plays (RunTurn.carryOut line rest game) exchanges result final) :
    let outcome := evaluateLine line.text game.session.world game.session.bindings
    ∃ first others middle, exchanges = first ++ others ∧ outcome.Seen game.session first middle ∧
      runMachine.Plays (outcome.goOn line rest middle) others result final := by
  simp only [RunTurn.carryOut] at plays
  simp only [Legible] at legible
  simp only [evaluateLine]
  cases parsed : Statement.parse line.text with
  | error error =>
      simp only [parsed] at plays
      exact failed_seen quiet plays
  | ok statement =>
      simp only [parsed] at plays legible
      rcases RunTurn.ofStatement_plays plays with
        ⟨first, others, middle, state, rfl, inside, outside⟩
      rcases List.forall_mem_append.mp quiet with ⟨early, late⟩
      have square (direction : Direction) (argument : Option Text)
          (same : statement = .move direction argument) :
          game.session.world.grid.WellFormed game.session.world.size :=
        carries direction argument (by rw [parsed, same])
      have seen := begin_seen legible square clear early inside
      simp only [bind, Except.bind]
      cases evaluated : statement.evaluate game.session.world game.session.bindings with
      | error error =>
          simp only [evaluated] at seen
          rcases seen with ⟨rfl, rfl, rfl⟩
          exact failed_seen late outside
      | ok outcome =>
          simp only [evaluated] at seen
          rcases seen with ⟨rfl, seen⟩
          refine ⟨first, others, state, rfl, seen, ?_⟩
          simp only [Outcome.goOn]
          cases on : outcome.goesOn with
          | true => simpa [on] using outside
          | false =>
              rw [on] at outside
              exact outside

end Lines

/-! ## Programs -/

theorem dispatch_seen {lines : List SourceLine}
    (legible : ∀ line ∈ lines, Legible line.text) {game final : Game}
    (carries : ∀ line ∈ lines, game.session.world.Carries line.text)
    (clear : game.session.stopRequested = false) {exchanges : List (Exchange Point Game Fault)}
    {result : Except Fault Unit} (quiet : ∀ exchange ∈ exchanges, exchange.Quiet)
    (plays : runMachine.Plays (RunTurn.dispatch lines game) exchanges result final) :
    let outcome := evaluateProgram (lines.map (·.text)) game.session.world game.session.bindings
    result = .ok () ∧ outcome.Seen { game.session with state := .idle } exchanges final := by
  induction lines generalizing game exchanges with
  | nil =>
      have nothing : Outcome.Seen _ game.session [] game := .nil true rfl
      exact nothing.close quiet plays
  | cons line rest ih =>
      simp only [RunTurn.dispatch, clear, Bool.false_eq_true, if_false] at plays
      rcases plays.quietly quiet with ⟨highlighted, others, rfl, signal, -, same, plays, quiet⟩
      rcases carryOut_seen (legible line (List.mem_cons_self ..))
        (by rw [same]; exact carries line (List.mem_cons_self ..)) (by rw [same]; exact clear)
        quiet plays with ⟨first, others, middle, rfl, seen, plays⟩
      rw [same] at seen plays
      have map := evaluateLine_map line.text game.session.world game.session.bindings
      simp only [List.map_cons, evaluateProgram]
      generalize evaluateLine line.text game.session.world game.session.bindings = one at *
      rcases List.forall_mem_append.mp quiet with ⟨-, late⟩
      -- Where the program ends, the rest of the run only closes.
      have ends (close : runMachine.Plays (RunTurn.close (.ok ()) middle) others result final) :
          result = .ok () ∧ one.Seen { game.session with state := .idle }
            (highlighted :: (first ++ others)) final := by
        rcases seen.close late close with ⟨ends, closed⟩
        exact ⟨ends, closed.aside signal trivial⟩
      cases on : one.goesOn with
      | false => exact ends (by simpa [Outcome.goOn, on] using plays)
      | true =>
          simp only [Outcome.goOn, on, if_true, RunTurn.settle] at plays
          cases rest with
          | nil => exact ends plays
          | cons next rest =>
              rcases plays.quietly late with ⟨between, tail, rfl, wait, -, still, plays, quiet⟩
              have here := still.trans seen.session
              have onward : ∀ line ∈ next :: rest,
                  between.after.session.world.Carries line.text := by
                intro line member
                rw [here]
                exact map.carries (carries line (List.mem_cons_of_mem _ member))
              have others := ih (fun line member => legible line (List.mem_cons_of_mem _ member))
                onward (by rw [here]; exact clear) quiet plays
              rw [here] at others
              rcases others with ⟨result, lines, waits, session⟩
              have more : Outcome.Seen _ { game.session with state := .idle } tail final :=
                ⟨lines, waits, session⟩
              have shown := (seen.append (more.waited wait)).aside signal trivial
              refine ⟨result, shown.lines, ?_, shown.session⟩
              rw [shown.waits]
              simp [Nat.add_assoc, Nat.add_comm 1]

/-- The lines of a claimed game come to what their evaluation says. -/
theorem execute_evaluates {environment : Environment Point Game Fault} (quiet : environment.Quiet)
    {lines : List SourceLine} (legible : ∀ line ∈ lines, Legible line.text) (game : Game)
    (carries : ∀ line ∈ lines, game.session.world.Carries line.text)
    (clear : game.session.stopRequested = false) :
    let ending := (Scheduler.execute lines game).under environment []
    let outcome := evaluateProgram (lines.map (·.text)) game.session.world game.session.bindings
    ending.result = .ok () ∧
      outcome.Seen { game.session with state := .idle } ending.exchanges ending.final := by
  intro ending
  have plays := (run_follows lines game).plays environment []
  have watched := (environment.gave_under (Scheduler.execute lines game) []).all quiet
  rcases plays.quietly watched with ⟨started, rest, exchanges, signal, -, still, plays, calm⟩
  have same : started.after.session = game.session := still
  rcases dispatch_seen legible (by rw [same]; exact carries)
    (by rw [same]; exact clear) calm plays with ⟨ends, seen⟩
  rw [same] at seen
  have shown := seen.aside signal trivial
  rw [← exchanges] at shown
  exact ⟨ends, shown⟩

/-- Any lines can be carried out on a square map. -/
theorem execute_seen {environment : Environment Point Game Fault} (quiet : environment.Quiet)
    {lines : List SourceLine}
    (legible : ∀ line ∈ lines, Legible line.text) (game : Game)
    (square : game.session.world.grid.WellFormed game.session.world.size)
    (clear : game.session.stopRequested = false) :
    let ending := (Scheduler.execute lines game).under environment []
    let outcome := evaluateProgram (lines.map (·.text)) game.session.world game.session.bindings
    ending.result = .ok () ∧
      outcome.Seen { game.session with state := .idle } ending.exchanges ending.final :=
  execute_evaluates quiet legible game (fun _ _ _ _ _ => square) clear

/-- A run on a free session comes to what the evaluation of its program says,
starting without variables. A program without statements is refused and changes
nothing. -/
theorem run_evaluates {environment : Environment Point Game Fault} (quiet : environment.Quiet)
    {source : Text} {game : Game} (free : game.Free)
    (square : game.session.world.grid.WellFormed game.session.world.size)
    (legible : ∀ text ∈ statementTexts source, Legible text) :
    let ending := (Scheduler.run source game).under environment []
    let outcome := evaluateProgram (statementTexts source) game.session.world .empty
    if statementTexts source = [] then ending = ⟨[], .ok false, game⟩
    else
      ending.result = .ok true ∧ outputs ending.exchanges = outcome.lines ∧
        waits ending.exchanges = outcome.waits ∧
        ending.final.session = { game.session with
          world := outcome.world
          bindings := outcome.bindings
          state := .idle
          stopRequested := false } := by
  intro ending outcome
  have texts := SourceLine.ofSource_texts source
  split
  · next blank =>
      rw [blank, List.map_eq_nil_iff] at texts
      simp [ending, Scheduler.run_blank texts]
  · next filled =>
      have filled : SourceLine.ofSource source ≠ [] := by
        intro blank
        apply filled
        simp [← texts, blank]
      have legible : ∀ line ∈ SourceLine.ofSource source, Legible line.text := by
        intro line membership
        apply legible
        rw [← texts]
        exact List.mem_map_of_mem membership
      rcases execute_seen quiet legible (game.claimed game.current) square rfl with
        ⟨ends, seen⟩
      rw [texts] at seen
      simp only [ending, Scheduler.run_under filled free]
      exact ⟨by rw [ends]; rfl, seen.lines, seen.waits, seen.session⟩

/-- A run of three lines waits four times, and its variable is printed and stays. -/
theorem run_evaluates_walk :
    let ending := (Scheduler.run "x = 2\nmove_right(x)\nprint(x)" (Game.onGrass 4)).under .silent []
    ending.result = .ok true ∧
      outputs ending.exchanges = [⟨"Completed 2 step movement.", .info⟩, ⟨"2", .info⟩] ∧
      waits ending.exchanges = 4 ∧ ending.final.session.world.agent.position = ⟨2, 0⟩ ∧
      ending.final.session.bindings = { entries := [("x", 2)] } := by
  have legible : ∀ text ∈ statementTexts "x = 2\nmove_right(x)\nprint(x)", Legible text := by
    decide +kernel
  have free : (Game.onGrass 4).Free := by decide
  have seen := run_evaluates Environment.silent_quiet free (Grid.empty_square 4) legible
  rw [if_neg (by decide)] at seen
  rcases seen with ⟨result, lines, waited, session⟩
  refine ⟨result, lines.trans (by decide +kernel), waited.trans (by decide +kernel), ?_, ?_⟩
  · exact (congrArg (fun session => session.world.agent.position) session).trans
      (by decide +kernel : _ = (⟨2, 0⟩ : Position))
  · exact (congrArg Session.bindings session).trans (by decide +kernel)

/-- A program without statements does not even forget the variables. -/
theorem blank_run_keeps_bindings :
    let game := (Game.onGrass 4).onSession fun session =>
      { session with bindings := session.bindings.set "x" 1 }
    game.Free ∧ game.session.world.grid.WellFormed game.session.world.size ∧
      ((Scheduler.run "" game).under .silent []).final.session.bindings ≠
        (evaluateProgram (statementTexts "") game.session.world .empty).bindings :=
  ⟨by decide, Grid.empty_square 4, by decide +kernel⟩

end TileWalk
