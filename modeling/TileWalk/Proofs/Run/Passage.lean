import TileWalk.Proofs.Run.Faults
import TileWalk.Proofs.Run.Trail

/-!
# The shape of a run

A run tells its start, passes lines of its program one by one, clears the highlight
and tells its end. Each line that it passes is highlighted, and after that at most
one line is put out. What is put out is information, but for an error or a victory,
which is the last that is put out, and no other line is highlighted after it. The
lines that are passed are the first ones of the program, and they are all of them
unless something ended the run early.
-/

namespace TileWalk

open Exchange

/-! ## Orderly observers -/

/-- Whoever is told raises no error, leaves a square map of the same size behind, lets
the agent live or be dead as it was, and binds no variable. The run may be asked to
stop. -/
structure Exchange.Orderly (exchange : Exchange Point Game Fault) : Prop extends
    exchange.Answered where
  dead : exchange.after.session.world.agent.dead = exchange.before.session.world.agent.dead
  clearing : exchange.Clearing

def Environment.Orderly (environment : Environment Point Game Fault) : Prop :=
  ∀ past point game, (environment.exchange past point game).Orderly

theorem Environment.Orderly.answers {environment : Environment Point Game Fault}
    (orderly : environment.Orderly) : environment.Answers :=
  fun past point game => (orderly past point game).toAnswered

theorem Exchange.Orderly.answered {exchanges : List (Exchange Point Game Fault)}
    (orderly : ∀ exchange ∈ exchanges, exchange.Orderly) :
    ∀ exchange ∈ exchanges, exchange.Answered :=
  fun exchange known => (orderly exchange known).toAnswered

/-- Whoever at most asks a run to stop is orderly. -/
theorem Environment.Mild.orderly {environment : Environment Point Game Fault}
    (mild : environment.Mild) : environment.Orderly := by
  intro past point game
  have here := mild past point game
  refine ⟨⟨here.reply, ?_, by rw [here.world]⟩, by rw [here.world], .inl ?_⟩
  · rw [Game.Square, Game.Square, here.world]
    exact id
  · rcases here.session with same | stopped
    · rw [same]
    · rw [stopped, Game.stopped_bindings]

/-! ## Passages -/

/-- A notice in the course of a statement, or the wait after it. -/
def Exchange.Amid (exchange : Exchange Point Game Fault) : Prop :=
  match exchange.signal with
  | .notice (.output _) | .notice .redraw | .notice .wait => True
  | _ => False

/-- A line is highlighted; until the next one is, at most one line is put out. -/
structure Passage (line : SourceLine) (exchanges : List (Exchange Point Game Fault)) : Prop where
  course : ∃ lit rest, exchanges = lit :: rest ∧
    lit.signal = .notice (.highlight (some line.lineNumber)) ∧ ∀ exchange ∈ rest, exchange.Amid
  single : (outputs exchanges).length ≤ 1

theorem Exchange.Amid.unlit {exchange : Exchange Point Game Fault} (amid : exchange.Amid) :
    exchange.highlighted? = none := by
  simp only [Amid, highlighted?] at amid ⊢
  split
  · next told => simp [told] at amid
  · rfl

theorem Passage.highlights {line : SourceLine} {exchanges : List (Exchange Point Game Fault)}
    (passage : Passage line exchanges) : highlights exchanges = [line.lineNumber] := by
  rcases passage.course with ⟨lit, rest, rfl, told, amid⟩
  have unlit : Exchange.highlights rest = [] :=
    List.filterMap_eq_nil_iff.mpr fun exchange known => (amid exchange known).unlit
  simp [highlights_cons, highlighted?, told, unlit]

theorem Passage.highlights_flatten {lines : List SourceLine}
    {passages : List (List (Exchange Point Game Fault))}
    (pass : List.Forall₂ Passage lines passages) :
    Exchange.highlights passages.flatten = lines.map (·.lineNumber) := by
  induction pass with
  | nil => rfl
  | cons passage _ ih => simp [passage.highlights, ih]

/-! ## Statements -/

/-- What can end a program that begins in a game before its last line: a request to
stop, a dead agent, and an error or a victory. -/
def Ended (begin : Game) (exchanges : List (Exchange Point Game Fault)) : Prop :=
  begin.session.stopRequested = true ∨ begin.session.world.agent.dead = true ∨
    (∃ exchange ∈ exchanges, exchange.after.session.stopRequested = true) ∨ ¬ Plain exchanges

section Statements

variable (begin : Game) (past : List (Exchange Point Game Fault))

/-- An agent that was alive when a statement began still is. -/
def Game.Survives (begin later : Game) : Prop :=
  begin.session.world.agent.dead = false → later.session.world.agent.dead = false

/-- What is known at a notice of a statement that began in a game. -/
structure Moment.Within (moment : Moment) (later : Game) : Prop where
  amid : ∀ exchange ∈ past, exchange.Amid
  told : match moment with
    | .fallen => ∃ line, outputs past = [line] ∧ line.kind ≠ .info
    | .obstructed _ => outputs past = []
    | _ => outputs past = [] ∧ begin.Survives later

/-- What is known of a statement that is over. -/
structure Performed (result : Except Fault Bool) (later : Game) : Prop where
  amid : ∀ exchange ∈ past, exchange.Amid
  manner : match result with
    | .ok true => (outputs past).length ≤ 1 ∧ begin.Survives later
    | .ok false => (outputs past).length ≤ 1 ∧ Ended begin past
    | .error _ => outputs past = []

variable {begin past}

/-- A statement is over with an error or a victory as its only line. -/
theorem Performed.ended {later : Game} (amid : ∀ exchange ∈ past, exchange.Amid)
    {line : OutputLine} (last : outputs past = [line]) (serious : line.kind ≠ .info) :
    Performed begin past (.ok false) later := by
  refine ⟨amid, by simp [last], .inr (.inr (.inr fun plain => ?_))⟩
  exact serious (plain line (by simp [last]))

theorem StatementTurn.walk_performed {game : Game} (amid : ∀ exchange ∈ past, exchange.Amid)
    (silent : outputs past = []) (survives : begin.Survives game)
    (stopped : game.session.stopRequested = true → Ended begin past)
    (direction : Direction) (total : Int) (left : Nat) :
    (walk direction total left game).Meets (Moment.Within begin past) (Performed begin past) := by
  cases left with
  | zero =>
      simp only [walk]
      split
      · exact ⟨amid, silent, survives⟩
      · exact ⟨amid, by simp [silent], survives⟩
  | succ left =>
      simp only [walk]
      split
      · next halted =>
          refine ⟨amid, by simp [silent], ?_⟩
          rcases Bool.or_eq_true_iff.mp halted with stop | dead
          · exact stopped stop
          · right; left
            by_contra living
            rw [survives (by simpa using living)] at dead
            cases dead
      split
      · exact ⟨amid, silent⟩
      split
      · exact ⟨amid, silent⟩
      split
      · exact ⟨amid, silent⟩
      · exact ⟨amid, silent, survives⟩

theorem StatementTurn.begin_performed (begin : Game) (statement : Statement) :
    (StatementTurn.begin begin statement).Meets (Moment.Within begin []) (Performed begin []) := by
  cases statement with
  | assign name value =>
      simp only [StatementTurn.begin]
      split
      · exact ⟨by simp, rfl⟩
      · exact ⟨by simp, by simp, id⟩
  | print token quoted => exact ⟨by simp, rfl, id⟩
  | move direction argument =>
      simp only [StatementTurn.begin]
      split
      · exact ⟨by simp, rfl⟩
      · exact walk_performed (by simp) rfl id .inl direction _ _
  | remark text => exact ⟨by simp, by simp, id⟩

/-- What is known at a notice of a statement carries over to the next one. -/
theorem Moment.next_performed {exchange : Exchange Point Game Fault} (orderly : exchange.Orderly)
    {moment : Moment} (told : exchange.signal = .notice moment.notice)
    (within : moment.Within begin past exchange.before) :
    (moment.next exchange.reply exchange.after).Meets (Moment.Within begin (past ++ [exchange]))
      (Performed begin (past ++ [exchange])) := by
  have amid : ∀ other ∈ past ++ [exchange], other.Amid := by
    have here : exchange.Amid := by
      rw [Exchange.Amid, told]
      cases moment <;> trivial
    simpa [or_imp, forall_and, here] using within.amid
  have facts := within.told
  have survives (survives : begin.Survives exchange.before) : begin.Survives exchange.after := by
    rwa [Game.Survives, orderly.dead]
  rw [orderly.reply]
  cases moment with
  | said text =>
      refine ⟨amid, ?_, survives facts.2⟩
      simp [outputs_cons, output?, told, facts.1, notice]
  | stepped walk =>
      have silent : outputs (past ++ [exchange]) = [] := by
        simp [outputs_cons, output?, told, facts.1, notice]
      simp only [next]
      split
      · exact ⟨amid, silent⟩
      · exact ⟨amid, silent, survives facts.2⟩
      · exact ⟨amid, silent, survives facts.2⟩
  | rested walk =>
      have silent : outputs (past ++ [exchange]) = [] := by
        simp [outputs_cons, output?, told, facts.1, notice]
      have stopped (stop : exchange.after.session.stopRequested = true) :
          Ended begin (past ++ [exchange]) := .inr (.inr (.inl ⟨exchange, by simp, stop⟩))
      simp only [next]
      split
      · next stop => exact ⟨amid, by simp [silent], stopped stop⟩
      · exact StatementTurn.walk_performed amid silent (survives facts.2) stopped _ _ _
  | obstructed message =>
      have last : outputs (past ++ [exchange]) = [⟨message, .error⟩] := by
        have silent : outputs past = [] := facts
        simp [outputs_cons, output?, told, silent, notice]
      exact ⟨amid, _, last, by simp⟩
  | fallen =>
      rcases facts with ⟨line, last, serious⟩
      have last : outputs (past ++ [exchange]) = [line] := by
        simp [outputs_cons, output?, told, last, notice]
      exact .ended amid last serious
  | won =>
      have last : outputs (past ++ [exchange]) = [⟨Obstacle.victory, .success⟩] := by
        simp [outputs_cons, output?, told, facts.1, notice]
      exact .ended amid last (by simp)

theorem begin_plays {statement : Statement} {exchanges : List (Exchange Point Game Fault)}
    {result : Except Fault Bool} {final : Game}
    (plays : statementMachine.Plays (StatementTurn.begin begin statement) exchanges result final)
    (orderly : ∀ exchange ∈ exchanges, exchange.Orderly) :
    Performed begin exchanges result final :=
  (plays.recall (Moment.Within begin) (Performed begin)
    (fun _ _ _ within orderly told => Moment.next_performed orderly told.symm within)
    (StatementTurn.begin_performed begin statement) orderly).1

end Statements

/-! ## Runs -/

section Runs

variable {begin : Game} {exchanges others : List (Exchange Point Game Fault)}

theorem Ended.append (ended : Ended begin exchanges) : Ended begin (exchanges ++ others) := by
  rcases ended with stop | dead | ⟨exchange, known, stop⟩ | serious
  · exact .inl stop
  · exact .inr (.inl dead)
  · exact .inr (.inr (.inl ⟨exchange, by simp [known], stop⟩))
  · refine .inr (.inr (.inr fun plain => serious fun line shown => ?_))
    exact plain line (by simp [shown])

/-- What ends a program that goes on after an exchange ends the whole, unless the
agent has died on the way. -/
theorem Ended.later (exchanges : List (Exchange Point Game Fault))
    {exchange : Exchange Point Game Fault} (survives : begin.Survives exchange.after)
    (ended : Ended exchange.after others) : Ended begin (exchanges ++ exchange :: others) := by
  rcases ended with stop | dead | ⟨later, known, stop⟩ | serious
  · exact .inr (.inr (.inl ⟨exchange, by simp, stop⟩))
  · right; left
    by_contra living
    rw [survives (by simpa using living)] at dead
    cases dead
  · exact .inr (.inr (.inl ⟨later, by simp [known], stop⟩))
  · refine .inr (.inr (.inr fun plain => serious fun line shown => ?_))
    exact plain line (by simp [outputs_cons, shown])

/-- From a game in which lines of a program are left, a run passes some of them and
closes. -/
def Passes (lines : List SourceLine) (begin : Game)
    (exchanges : List (Exchange Point Game Fault)) (result : Except Fault Unit) : Prop :=
  ∃ passed passages closing ended, exchanges = passages.flatten ++ [closing, ended] ∧
    passed <+: lines ∧ List.Forall₂ Passage passed passages ∧
    closing.signal = .notice (.highlight none) ∧ ended.signal = .notice .ended ∧
    ended.before.session.state = .idle ∧
    (passed = [] → lines = [] ∨ begin.session.stopRequested = true) ∧
    (result = .ok () → passed = lines ∨ Ended begin exchanges)

section Dispatch

variable {line : SourceLine} {rest : List SourceLine} {result ending : Except Fault Unit}
  {game final : Game}

/-- A run that closes passes no more lines. -/
theorem Passes.close
    (plays : runMachine.Plays (RunTurn.close (.ok ()) begin) exchanges result final)
    (orderly : ∀ exchange ∈ exchanges, exchange.Orderly) {lines : List SourceLine}
    (reason : lines = [] ∨ begin.session.stopRequested = true) :
    Passes lines begin exchanges result := by
  rcases RunTurn.close_answered plays (Orderly.answered orderly) with
    ⟨-, closing, ended, rfl, cleared, told, idle⟩
  exact ⟨[], [], closing, ended, rfl, List.nil_prefix, .nil, cleared, told, idle,
    fun _ => reason, fun _ => reason.imp Eq.symm .inl⟩

/-- A run that closes after a line has passed this line. -/
theorem Passes.last {passage tail : List (Exchange Point Game Fault)}
    (passes : Passage line passage)
    (plays : runMachine.Plays (RunTurn.close ending game) tail result final)
    (orderly : ∀ exchange ∈ tail, exchange.Orderly)
    (reason : ending = .ok () → rest = [] ∨ Ended begin passage) :
    Passes (line :: rest) begin (passage ++ tail) result := by
  rcases RunTurn.close_answered plays (Orderly.answered orderly) with
    ⟨rfl, closing, ended, rfl, cleared, told, idle⟩
  exact ⟨[line], [passage], closing, ended, by simp, by simp, .cons passes .nil, cleared, told,
    idle, by simp, fun ends => (reason ends).imp (by simp) .append⟩

/-- A run that goes on after a line passes this line and others. -/
theorem Passes.cons {first : List (Exchange Point Game Fault)} {wait : Exchange Point Game Fault}
    (passes : Passage line (first ++ [wait])) (survives : begin.Survives wait.after)
    (later : Passes rest wait.after others result) :
    Passes (line :: rest) begin (first ++ wait :: others) result := by
  rcases later with ⟨passed, passages, closing, ended, rfl, known, pass, cleared, told, idle, -,
    full⟩
  refine ⟨line :: passed, (first ++ [wait]) :: passages, closing, ended, by simp,
    List.cons_prefix_cons.mpr ⟨rfl, known⟩, .cons passes pass, cleared, told, idle, by simp, ?_⟩
  exact fun ends => (full ends).imp (by simp) fun early => early.later first survives

/-- A statement is over after its line was highlighted; if there are more lines, the
run passes some of these. -/
theorem RunTurn.settle_passes {lit : Exchange Point Game Fault}
    {first tail : List (Exchange Point Game Fault)} {middle : Except Fault Bool}
    (shown : lit.signal = .notice (.highlight (some line.lineNumber)))
    (survives : begin.Survives lit.after)
    (performed : Performed lit.after first middle game)
    (plays : runMachine.Plays (settle line rest middle game) tail result final)
    (orderly : ∀ exchange ∈ tail, exchange.Orderly)
    (onward : ∀ {later : Game} {others : List (Exchange Point Game Fault)},
      runMachine.Plays (dispatch rest later) others result final →
      (∀ exchange ∈ others, exchange.Orderly) → Passes rest later others result) :
    Passes (line :: rest) begin (lit :: first ++ tail) result := by
  have outer (others : List (Exchange Point Game Fault)) :
      outputs (lit :: others) = outputs others := by simp [outputs_cons, output?, shown]
  have passage {others : List (Exchange Point Game Fault)}
      (amid : ∀ exchange ∈ others, exchange.Amid) (single : (outputs others).length ≤ 1) :
      Passage line (lit :: others) := ⟨⟨lit, others, rfl, shown, amid⟩, by rwa [outer]⟩
  have manner := performed.manner
  cases middle with
  | ok onwards =>
      cases onwards with
      | false =>
          rcases manner with ⟨single, ended⟩
          refine .last (passage performed.amid single) plays orderly fun _ => .inr ?_
          exact ended.later [] survives
      | true =>
          rcases manner with ⟨single, alive⟩
          simp only [settle] at plays
          split at plays
          · next empty =>
              refine .last (passage performed.amid single) plays orderly fun _ => .inl ?_
              exact List.isEmpty_iff.mp empty
          rcases plays.answered (Orderly.answered orderly) with
            ⟨wait, others, rfl, told, before, plays⟩
          rcases List.forall_mem_cons.mp orderly with ⟨calm, orderly⟩
          have amid : ∀ exchange ∈ first ++ [wait], exchange.Amid := by
            simpa [or_imp, forall_and, Exchange.Amid, told, Waypoint.notice] using performed.amid
          have silent : outputs (first ++ [wait]) = outputs first := by
            simp [outputs_cons, output?, told, Waypoint.notice]
          rw [← silent] at single
          refine .cons (passage amid single) ?_ (onward plays orderly)
          intro living
          rw [calm.dead, before]
          exact alive (survives living)
  | error fault =>
      have silent : outputs first = [] := manner
      cases fault with
      | statement error =>
          rcases plays.answered (Orderly.answered orderly) with
            ⟨failure, others, rfl, told, -, plays⟩
          have amid : ∀ exchange ∈ first ++ [failure], exchange.Amid := by
            simpa [or_imp, forall_and, Exchange.Amid, told, Waypoint.notice] using performed.amid
          have last : outputs (first ++ [failure]) = [⟨"Error: " ++ error.message, .error⟩] := by
            simp [outputs_cons, output?, told, silent, Waypoint.notice]
          have serious : ¬ Plain (lit :: (first ++ [failure])) := by
            intro plain
            have info := plain ⟨"Error: " ++ error.message, .error⟩ (by simp [outer, last])
            cases info
          have passes :
              Passes (line :: rest) begin (lit :: (first ++ [failure]) ++ others) result :=
            .last (passage amid (by simp [last])) plays (List.forall_mem_cons.mp orderly).2
              fun _ => .inr (.inr (.inr (.inr serious)))
          simpa using passes
      | _ => exact .last (passage performed.amid (by simp [silent])) plays orderly (by simp)

/-- From where a statement can begin, a run passes lines and closes. -/
theorem RunTurn.dispatch_passes {lines : List SourceLine}
    (plays : runMachine.Plays (dispatch lines begin) exchanges result final)
    (orderly : ∀ exchange ∈ exchanges, exchange.Orderly) :
    Passes lines begin exchanges result := by
  induction lines generalizing begin exchanges with
  | nil => exact .close plays orderly (.inl rfl)
  | cons line rest ih =>
      cases stop : begin.session.stopRequested with
      | true =>
          rw [dispatch_stopped _ stop] at plays
          exact .close plays orderly (.inr stop)
      | false =>
          simp only [dispatch, stop, Bool.false_eq_true, if_false] at plays
          rcases plays.answered (Orderly.answered orderly) with
            ⟨lit, tail, rfl, told, before, plays⟩
          rcases List.forall_mem_cons.mp orderly with ⟨calm, orderly⟩
          have survives : begin.Survives lit.after := by
            rw [Game.Survives, calm.dead, before]
            exact id
          simp only [runMachine_next, Waypoint.next, carryOut] at plays
          cases parsed : Statement.parse line.text with
          | error error =>
              rw [parsed] at plays
              have performed : Performed lit.after [] (.error (.statement error)) lit.after :=
                ⟨by simp, rfl⟩
              exact settle_passes told survives performed plays orderly ih
          | ok statement =>
              rw [parsed] at plays
              rcases ofStatement_plays plays with
                ⟨first, others, middle, state, rfl, inside, plays⟩
              rcases List.forall_mem_append.mp orderly with ⟨early, late⟩
              exact settle_passes told survives (begin_plays inside early) plays late ih

end Dispatch

end Runs

/-! ## The shape of a run -/

/-- What is put out in a run: information, an error or a victory. -/
def OutputKind.Told (kind : OutputKind) : Prop :=
  kind = .info ∨ kind = .error ∨ kind = .success

theorem Moment.told (moment : Moment) {line : OutputLine}
    (put : moment.notice = .output line) : line.kind.Told := by
  cases moment <;> cases put <;> simp [OutputKind.Told]

theorem Waypoint.told (waypoint : Waypoint) {line : OutputLine}
    (put : waypoint.notice = .output line) : line.kind.Told := by
  cases waypoint with
  | within _ _ moment => exact moment.told put
  | failed error =>
      cases put
      exact .inr (.inl rfl)
  | _ => cases put

/-- Whatever is put out that is no information is an error or a victory. It is put out
last, and no line is highlighted after it. -/
def LastWord (exchanges : List (Exchange Point Game Fault)) : Prop :=
  ∀ first exchange rest line, exchanges = first ++ exchange :: rest →
    exchange.signal = .notice (.output line) → line.kind ≠ .info →
    (line.kind = .error ∨ line.kind = .success) ∧ outputs rest = [] ∧ highlights rest = []

theorem execute_lastWord {environment : Environment Point Game Fault}
    (answers : environment.Answers) (lines : List SourceLine) {game : Game}
    (square : game.Square) :
    LastWord ((Scheduler.execute lines game).under environment []).exchanges := by
  intro first exchange rest line split told serious
  rcases (execute_safe answers lines square).2 first exchange rest split with ⟨place, notice, -⟩
  have kind := place.told (Point.notice.inj (notice.trans told))
  have unshown {later : Exchange Point Game Fault} (seen : later ∈ rest)
      (shown : (∃ line, later.signal = .notice (.output line)) ∨
        ∃ number, later.signal = .notice (.highlight (some number))) : False := by
    rcases List.append_of_mem seen with ⟨middle, tail, rfl⟩
    rcases (execute_safe answers lines square).2 (first ++ exchange :: middle) later tail
      (by simp [split]) with ⟨waypoint, same, safe, -⟩
    rw [← same] at shown
    have plain := safe.plain (by simpa using shown)
    exact serious (plain line (by simp [outputs_cons, output?, told]))
  refine ⟨kind.resolve_left serious, ?_, ?_⟩
  · refine List.filterMap_eq_nil_iff.mpr fun later seen => ?_
    cases output : later.output? with
    | none => rfl
    | some line => exact (unshown seen (.inl ⟨line, output?_eq_some.mp output⟩)).elim
  · refine List.filterMap_eq_nil_iff.mpr fun later seen => ?_
    simp only [highlighted?]
    split
    · next number told =>
        cases number with
        | none => rfl
        | some number => exact (unshown seen (.inr ⟨number, told⟩)).elim
    · rfl

/-- A run that was accepted, on whichever thread, tells its start, passes a beginning
of its program, clears the highlight once, and tells its end in the idle state. All
that it puts out is information, but for one error or victory at the very end. No
line is passed only if the run was asked to stop as it began; all are passed unless
it was asked to stop, the agent was dead, an error or a victory was put out, or a
numeral was too long. -/
theorem run_passes_lines {environment : Environment Point Game Fault}
    (orderly : environment.Orderly) {source : Text} (filled : SourceLine.ofSource source ≠ [])
    {game : Game} (free : game.Free) (runner : Thread)
    (square : game.session.world.grid.WellFormed game.session.world.size) :
    Scheduler.claim runner game = .done (.ok true) (game.claimed runner) ∧
    let lines := SourceLine.ofSource source
    let ending := (Scheduler.execute lines (game.claimed runner)).under environment []
    ∃ started passed passages closing ended,
      ending.exchanges = started :: (passages.flatten ++ [closing, ended]) ∧
      started.signal = .notice .started ∧
      passed <+: lines ∧ List.Forall₂ Passage passed passages ∧
      closing.signal = .notice (.highlight none) ∧
      ended.signal = .notice .ended ∧ ended.before.session.state = .idle ∧
      highlights ending.exchanges = passed.map (·.lineNumber) ∧
      (highlights ending.exchanges).Pairwise (· < ·) ∧
      LastWord ending.exchanges ∧
      (passed = [] → started.after.session.stopRequested = true) ∧
      (ending.result = .ok () ∨ ∃ cause, ending.result = .error (.longNumeral cause)) ∧
      (ending.result = .ok () →
        (∀ exchange ∈ ending.exchanges, exchange.after.session.stopRequested = false) →
        (∀ line ∈ outputs ending.exchanges, line.kind = .info) →
        game.session.world.agent.dead = false → passed = lines) := by
  refine ⟨Scheduler.claim_free free, ?_⟩
  intro lines ending
  have claimed : (game.claimed runner).Square := square
  have plays := (run_follows lines (game.claimed runner)).plays environment []
  have given := (environment.gave_under (Scheduler.execute lines (game.claimed runner)) []).all
    orderly
  rcases plays.answered (Orderly.answered given) with
    ⟨started, rest, exchanges, begun, before, plays⟩
  rw [exchanges] at given
  rcases List.forall_mem_cons.mp given with ⟨calm, later⟩
  rcases RunTurn.dispatch_passes plays later with
    ⟨passed, passages, closing, ended, rfl, known, pass, cleared, told, idle, none, all⟩
  have lit : highlights ending.exchanges = passed.map (·.lineNumber) := by
    rw [show ending.exchanges = _ from exchanges, ← Passage.highlights_flatten pass]
    simp [highlights_cons, highlighted?, begun, cleared, told, Waypoint.notice]
  have ascending : (passed.map (·.lineNumber)).Pairwise (· < ·) :=
    (SourceLine.ofSource_ascending source).sublist (known.sublist.map _)
  refine ⟨started, passed, passages, closing, ended, exchanges, begun, known, pass, cleared, told,
    idle, lit, lit ▸ ascending, execute_lastWord orderly.answers lines claimed,
    fun empty => (none empty).resolve_left filled,
    (execute_safe orderly.answers lines claimed).1.result, ?_⟩
  intro ends unstopped plain alive
  refine (all ends).resolve_right ?_
  rw [show ending.exchanges = _ from exchanges] at unstopped plain
  rcases List.forall_mem_cons.mp unstopped with ⟨first, unstopped⟩
  rintro (stop | dead | ⟨exchange, seen, stop⟩ | serious)
  · rw [first] at stop
    cases stop
  · rw [calm.dead, before] at dead
    exact absurd dead (by simp [Game.begun, Game.push, Game.claimed, alive])
  · rw [unstopped exchange seen] at stop
    cases stop
  · exact serious fun line shown => plain line (by
      rw [outputs_cons]
      exact List.mem_append_right _ shown)

/-- Of three lines, with a blank one between them, the last is not highlighted when the
run is asked to stop in the second. -/
theorem run_passes_lines_cut_short :
    let environment := Environment.silent.calling 5 Scheduler.stop
    let lines := SourceLine.ofSource "print('a')\n\nmove_right(2)\nprint('b')"
    let ending := (Scheduler.execute lines ((Game.onGrass 4).claimed .worker)).under environment []
    environment.Orderly ∧ lines.map (·.lineNumber) = [0, 2, 3] ∧ (Game.onGrass 4).Free ∧
      (Grid.empty 4).WellFormed 4 ∧ outputs ending.exchanges = [⟨"a", .info⟩] ∧
      ∃ started passed passages closing ended,
        ending.exchanges = started :: (passages.flatten ++ [closing, ended]) ∧
        List.Forall₂ Passage passed passages ∧ passed.map (·.lineNumber) = [0, 2] ∧
        ended.before.session.state = .idle ∧ LastWord ending.exchanges := by
  intro environment lines ending
  have orderly : environment.Orderly :=
    (Environment.Mild.stopping Environment.silent_quiet 5).orderly
  have numbers : lines.map (·.lineNumber) = [0, 2, 3] := by decide +kernel
  have filled : lines ≠ [] := by
    intro empty
    simp [empty] at numbers
  have free : (Game.onGrass 4).Free := by decide
  have square : (Grid.empty 4).WellFormed 4 := Grid.empty_square 4
  rcases (run_passes_lines orderly filled free .worker square).2 with
    ⟨started, passed, passages, closing, ended, exchanges, -, -, pass, -, -, idle, lit, -, word, -⟩
  have shown : highlights ending.exchanges = [0, 2] := by decide +kernel
  exact ⟨orderly, numbers, free, square, by decide +kernel, started, passed, passages, closing,
    ended, exchanges, pass, lit.symm.trans shown, idle, word⟩

end TileWalk
