import TileWalk.Proofs.Numeral.Spelling
import TileWalk.Proofs.Program.Grammar
import TileWalk.Proofs.Run.Control
import TileWalk.Proofs.Run.Scene

/-!
# What an operand stands for

An assignment and a movement look up their operands each in its own order: a numeral
comes before a variable in the one, and after it in the other. The variables that a
program can make hold no negative numbers, and no statement binds anything else. So
both orders come to the same number, unless the program has taken a numeral for a
name.
-/

namespace TileWalk

open Process Course TileWalk.Text

/-! ## The two lines -/

namespace Statement

/-- The line that binds a name to what an operand stands for. -/
def assignmentText (name operand : Text) : Text :=
  name ++ .char ' ' :: .char '=' :: .char ' ' :: operand

/-- The line of a movement with an operand. -/
def movementText (direction : Direction) (operand : Text) : Text :=
  Text.ofString direction.keyword ++ .char '(' :: operand ++ [.char ')']

variable {name operand : Text}

theorem Word.reverse (word : Word operand) : Word operand.reverse :=
  ⟨by simpa using word.filled, within_reverse.mpr word.inside⟩

/-- A word has no blanks at its ends, whatever blanks stand around it. -/
theorem Word.trims (word : Word operand) (lead trail : Text) (before : Within isBlank lead)
    (behind : Within isBlank trail) : Trims (lead ++ operand ++ trail) operand := by
  have starts : Stops isBlank (operand ++ []) := word.stops
  have ends : Stops isBlank (operand.reverse ++ []) := word.reverse.stops
  rw [List.append_nil] at starts ends
  exact ⟨⟨lead, trail, rfl, before, behind⟩, starts, ends⟩

theorem parse_assignmentText (target : Word name) (word : Word operand) :
    parse (assignmentText name operand) = .ok (.assign name operand) := by
  have plainName := not_mem_of_within target.inside isWord_equals
  have plainOperand := not_mem_of_within word.inside isWord_equals
  apply Reads.parse
  apply Reads.assign
  · refine ⟨by simp [assignmentText], ?_⟩
    intro double
    have twice := double.sublist.count_le (.char '=')
    simp [assignmentText, List.count_append, List.count_eq_zero.mpr plainName,
      List.count_eq_zero.mpr plainOperand] at twice
  · refine ⟨name ++ [.char ' '], .char ' ' :: operand, by simp [assignmentText], ?_, ?_, ?_⟩
    · simpa using plainName
    · exact target.trims [] [.char ' '] within_nil (by decide)
    · simpa using word.trims [.char ' '] [] (by decide) within_nil

theorem parse_movementText (direction : Direction) (word : Word operand) :
    parse (movementText direction operand) = .ok (.move direction (some operand)) := by
  have moves : Moves (movementText direction operand) direction (some operand) := by
    refine ⟨.char '(' :: operand ++ [.char ')'], by simp [movementText], ?_, ?_⟩
    · exact ⟨[], [], [], [], by simp, within_nil, within_nil, within_nil, .inl rfl⟩
    · intro other found
      cases found
      exact word
  exact (Reads.move moves.plain moves.not_print moves).parse

end Statement

/-! ## What the lines ask for -/

namespace Game

variable (game : Game)

/-- An assignment would bind the name to a number now. -/
def Binds (text name : Text) (number : Int) : Prop :=
  ∃ statement last, Statement.parse text = .ok statement ∧
    Interpreter.execute statement game = .done (.ok true) last ∧
    last.session.bindings.get? name = some number

/-- A movement would ask for so many steps now. -/
def Requests (text : Text) (steps : Int) : Prop :=
  ∃ direction argument, Statement.parse text = .ok (.move direction argument) ∧
    Interpreter.resolveSteps game.session.bindings argument = .ok steps

/-- A numeral has been taken for the name of a variable with this value. -/
def Shadows (operand : Text) (value : Int) : Prop :=
  Numeral.isUnsigned operand = true ∧ game.session.bindings.get? operand = some value

variable {game} {name operand : Text} {number : Int}

theorem binds_iff (target : Statement.Word name) (word : Statement.Word operand) :
    game.Binds (Statement.assignmentText name operand) name number ↔
      Interpreter.valueOf game.session.bindings name operand = .ok number := by
  simp only [Binds, Statement.parse_assignmentText target word, Except.ok.injEq,
    exists_and_left, exists_eq_left', Interpreter.execute, Process.bind_apply,
    Process.state_apply, Activity.andThen_done]
  cases Interpreter.valueOf game.session.bindings name operand with
  | error fault => simp
  | ok value => simp [onSession, Bindings.get?_set]

theorem requests_iff (direction : Direction) (word : Statement.Word operand) {steps : Int} :
    game.Requests (Statement.movementText direction operand) steps ↔
      Interpreter.resolveSteps game.session.bindings (some operand) = .ok steps := by
  simp only [Requests, Statement.parse_movementText direction word, Except.ok.injEq,
    Statement.move.injEq]
  constructor
  · rintro ⟨_, _, ⟨rfl, rfl⟩, resolved⟩
    exact resolved
  · intro resolved
    exact ⟨direction, some operand, ⟨rfl, rfl⟩, resolved⟩

end Game

/-! ## Variables without a sign -/

namespace Bindings

/-- What variables stand for is of one kind. -/
def All (kind : Int → Prop) (bindings : Bindings) : Prop :=
  ∀ name value, bindings.get? name = some value → kind value

/-- No variable is negative. -/
def Natural : Bindings → Prop :=
  All (0 ≤ ·)

/-- What variables stand for can be written. -/
def Writable : Bindings → Prop :=
  All Numeral.Writable

/-- What a statement makes of the variables: it leaves them alone, or binds one of them
to what an operand stands for. -/
inductive Becomes (bindings : Bindings) : Bindings → Prop
  | same : Becomes bindings bindings
  | bound {name operand : Text} {number : Int} :
    Interpreter.valueOf bindings name operand = .ok number →
    Becomes bindings (bindings.set name number)

/-- The variables are left alone or cleared. -/
def AtMostCleared (bindings after : Bindings) : Prop :=
  after = bindings ∨ after = .empty

variable {bindings after last : Bindings}

theorem all_empty (kind : Int → Prop) : All kind .empty := by
  intro name value found
  cases found

theorem AtMostCleared.trans (first : bindings.AtMostCleared after)
    (second : after.AtMostCleared last) : bindings.AtMostCleared last := by
  rcases second with rfl | rfl
  · exact first
  · exact .inr rfl

theorem AtMostCleared.all {kind : Int → Prop} (cleared : bindings.AtMostCleared after)
    (all : bindings.All kind) : after.All kind := by
  rcases cleared with rfl | rfl
  · exact all
  · exact all_empty kind

end Bindings

/-- What numerals are read as is of one kind. -/
def Numeral.All (kind : Int → Prop) : Prop :=
  ∀ text (number : Nat), unsigned text = .ok number → kind number

theorem Numeral.all_natural : All (0 ≤ ·) :=
  fun _ number _ => Int.natCast_nonneg number

theorem Numeral.all_writable : All Writable :=
  fun _ _ read => writable_of_unsigned read

namespace Interpreter

variable {bindings : Bindings} {name operand : Text} {number : Int}

/-- An assignment binds what its numeral spells, or else the value of a variable. -/
theorem valueOf_cases (bound : valueOf bindings name operand = .ok number) :
    (Numeral.isUnsigned operand = true ∧
      ∃ spelled : Nat, Numeral.unsigned operand = .ok spelled ∧ number = spelled) ∨
    (Numeral.isUnsigned operand = false ∧ bindings.get? operand = some number) := by
  cases numeral : Numeral.isUnsigned operand with
  | true =>
      left
      cases read : Numeral.unsigned operand with
      | error cause => simp [valueOf, numeral, read] at bound
      | ok spelled =>
          simp only [valueOf, numeral, read, if_true, Except.ok.injEq] at bound
          exact ⟨rfl, spelled, rfl, bound.symm⟩
  | false =>
      right
      cases known : bindings.get? operand with
      | none => simp [valueOf, numeral, known] at bound
      | some value =>
          simp only [valueOf, numeral, known, Bool.false_eq_true, if_false,
            Except.ok.injEq] at bound
          exact ⟨rfl, congrArg some bound⟩

theorem valueOf_all {kind : Int → Prop} (spelled : Numeral.All kind) (all : bindings.All kind)
    (bound : valueOf bindings name operand = .ok number) : kind number := by
  rcases valueOf_cases bound with ⟨-, value, read, rfl⟩ | ⟨-, known⟩
  · exact spelled operand value read
  · exact all _ _ known

theorem valueOf_natural (natural : bindings.Natural)
    (bound : valueOf bindings name operand = .ok number) : 0 ≤ number :=
  valueOf_all Numeral.all_natural natural bound

/-- What a movement asks for can be written. -/
theorem resolveSteps_writable (writable : bindings.Writable) {argument : Option Text}
    (resolved : resolveSteps bindings argument = .ok number) : Numeral.Writable number := by
  have atLeast {value : Int} (can : Numeral.Writable value) :
      Numeral.Writable (resolveSteps.atLeastOne value) := by
    rw [resolveSteps.atLeastOne]
    split
    · decide
    · exact can
  rw [resolveSteps.eq_def] at resolved
  split at resolved
  · cases resolved
    decide
  · next token =>
      split at resolved
      · next value known =>
          cases resolved
          exact atLeast (writable token value known)
      · split at resolved
        · cases read : Numeral.unsigned token with
          | error cause =>
              rw [read] at resolved
              cases resolved
          | ok value =>
              rw [read] at resolved
              cases resolved
              exact atLeast (Numeral.writable_of_unsigned read)
        · cases resolved
          decide

theorem atLeastOne_natural (natural : 0 ≤ number) :
    resolveSteps.atLeastOne number = if number = 0 then 1 else number := by
  simp only [resolveSteps.atLeastOne]
  split <;> split <;> omega

/-- A movement asks for what an assignment would bind, and for one step in the place of
none. A numeral that is a name of a variable is left out. -/
theorem resolveSteps_of_valueOf (natural : bindings.Natural)
    (bound : valueOf bindings name operand = .ok number)
    (plain : Numeral.isUnsigned operand = true → bindings.get? operand = none) :
    resolveSteps bindings (some operand) = .ok (if number = 0 then 1 else number) := by
  rw [← atLeastOne_natural (valueOf_natural natural bound)]
  rcases valueOf_cases bound with ⟨numeral, spelled, read, rfl⟩ | ⟨-, known⟩
  · simp only [resolveSteps, plain numeral, numeral, read, if_true]
    rfl
  · simp only [resolveSteps, known]

end Interpreter

theorem Bindings.Becomes.all {bindings after : Bindings} {kind : Int → Prop}
    (spelled : Numeral.All kind) (becomes : bindings.Becomes after) (all : bindings.All kind) :
    after.All kind := by
  cases becomes with
  | same => exact all
  | @bound name operand number bound =>
      intro other value found
      rw [get?_set] at found
      split at found
      · cases found
        exact Interpreter.valueOf_all spelled all bound
      · exact all other value found

/-! ## What a run makes of the variables -/

/-- A statement that comes from a game has made this of the variables. -/
def StatementTurn.Binds (game : Game) (turn : StatementTurn) : Prop :=
  turn.Meets (fun _ later => game.session.bindings.Becomes later.session.bindings)
    (fun _ later => game.session.bindings.Becomes later.session.bindings)

/-- A run that comes from a game has made this of the variables. -/
def RunTurn.Binds (game : Game) (turn : RunTurn) : Prop :=
  turn.Meets (fun _ later => game.session.bindings.Becomes later.session.bindings)
    (fun _ later => game.session.bindings.Becomes later.session.bindings)

theorem StatementTurn.walk_binds (direction : Direction) (total : Int) (left : Nat)
    (game : Game) : (walk direction total left game).Binds game := by
  cases left with
  | zero =>
      simp only [walk]
      split <;> exact .same
  | succ left =>
      simp only [walk]
      split
      · exact .same
      split
      · exact .same
      split
      · exact .same
      split <;> exact .same

theorem StatementTurn.begin_binds (game : Game) (statement : Statement) :
    (begin game statement).Binds game := by
  cases statement with
  | assign name value =>
      simp only [begin]
      split
      · exact .same
      · next bound => exact .bound bound
  | print token quoted => exact .same
  | move direction argument =>
      simp only [begin]
      split
      · exact .same
      · exact walk_binds ..
  | remark text => exact .same

theorem Moment.next_binds (moment : Moment) (reply : Except Fault Unit) (game : Game) :
    (moment.next reply game).Binds game := by
  cases reply with
  | error fault => cases moment <;> exact .same
  | ok =>
      cases moment with
      | stepped walk =>
          simp only [next]
          split <;> exact .same
      | rested walk =>
          simp only [next]
          split
          · exact .same
          · exact StatementTurn.walk_binds ..
      | _ => exact .same

namespace RunTurn

theorem dispatch_binds (lines : List SourceLine) (game : Game) :
    (dispatch lines game).Binds game := by
  cases lines with
  | nil => exact .same
  | cons line rest =>
      simp only [dispatch]
      split <;> exact .same

theorem ofStatement_binds {turn : StatementTurn} {game : Game} (binds : turn.Binds game)
    (line : SourceLine) (rest : List SourceLine) : (ofStatement line rest turn).Binds game := by
  refine Turn.Meets.carry (fun _ _ becomes => becomes) ?_ binds
  intro result last becomes
  simp only [settle]
  split
  · split <;> exact becomes
  all_goals exact becomes

theorem carryOut_binds (line : SourceLine) (rest : List SourceLine) (game : Game) :
    (carryOut line rest game).Binds game := by
  simp only [carryOut]
  split
  · exact ofStatement_binds (StatementTurn.begin_binds game _) line rest
  · exact .same

end RunTurn

/-- Between two of its notices a run binds one variable at most. -/
theorem Waypoint.next_binds (waypoint : Waypoint) (reply : Except Fault Unit) (game : Game) :
    (waypoint.next reply game).Binds game := by
  cases waypoint with
  | within line rest moment =>
      exact RunTurn.ofStatement_binds (Moment.next_binds moment reply game) line rest
  | begun lines =>
      cases reply with
      | error fault => exact .same
      | ok => exact RunTurn.dispatch_binds lines game
  | highlighted line rest =>
      cases reply with
      | error fault => exact .same
      | ok => exact RunTurn.carryOut_binds line rest game
  | between rest =>
      cases reply with
      | error fault => exact .same
      | ok => exact RunTurn.dispatch_binds rest game
  | _ => cases reply <;> exact .same

/-- Whoever is told binds no variable. -/
def Exchange.Clearing (exchange : Exchange Point Game Fault) : Prop :=
  exchange.before.session.bindings.AtMostCleared exchange.after.session.bindings

def Environment.Clearing (environment : Environment Point Game Fault) : Prop :=
  ∀ past point game, (environment.exchange past point game).Clearing

/-- What variables stand for as a run starts and what its numerals are read as is all that they
ever stand for. -/
theorem Machine.Plays.all {kind : Int → Prop} (spelled : Numeral.All kind) {turn : RunTurn}
    {exchanges : List (Exchange Point Game Fault)} {result : Except Fault Unit} {final : Game}
    (plays : runMachine.Plays turn exchanges result final)
    (start : turn.Meets (fun _ game => game.session.bindings.All kind)
      (fun _ game => game.session.bindings.All kind))
    (clearing : ∀ exchange ∈ exchanges, exchange.Clearing) :
    ∀ exchange ∈ exchanges,
      exchange.before.session.bindings.All kind ∧ exchange.after.session.bindings.All kind := by
  induction plays with
  | finish result state => simp
  | pause waypoint before reply after onward ih =>
      rcases List.forall_mem_cons.mp clearing with ⟨here, later⟩
      have all : after.session.bindings.All kind := here.all start
      have next := (waypoint.next_binds reply after).imp
        (fun _ _ becomes => becomes.all spelled all) (fun _ _ becomes => becomes.all spelled all)
      exact List.forall_mem_cons.mpr ⟨⟨start, all⟩, ih next later⟩

/-- At every notice of a run variables stand for what its numerals can be read as. -/
theorem execute_all {kind : Int → Prop} (spelled : Numeral.All kind) {lines : List SourceLine}
    {game : Game} {runner : Thread} {environment : Environment Point Game Fault}
    (clearing : ∀ exchange ∈ ((Scheduler.execute lines (game.claimed runner)).under
      environment []).exchanges, exchange.Clearing) :
    ∀ exchange ∈ ((Scheduler.execute lines (game.claimed runner)).under environment []).exchanges,
      ∀ present, present = exchange.before ∨ present = exchange.after →
        present.session.bindings.All kind := by
  intro exchange met present here
  have plays := (run_follows lines (game.claimed runner)).plays environment []
  have stores := plays.all spelled (Bindings.all_empty kind) clearing exchange met
  rcases here with rfl | rfl
  · exact stores.1
  · exact stores.2

/-! ## Calls bind nothing -/

/-- Whatever happens at its pauses, as long as nothing is bound there, the activity at
most clears the variables. -/
def Activity.Clearing {α : Type} (bindings : Bindings) : Activity Point Game Fault α → Prop
  | .done _ game => bindings.AtMostCleared game.session.bindings
  | .paused _ game resume => bindings.AtMostCleared game.session.bindings ∧
    ∀ reply next, bindings.AtMostCleared next.session.bindings →
      (resume reply next).Clearing bindings

def Course.Clearing {α : Type} (course : Course α) : Prop :=
  ∀ bindings game, bindings.AtMostCleared game.session.bindings →
    (course game).Clearing bindings

section Clearing

variable {α β : Type} {bindings : Bindings}

theorem Activity.Clearing.andThen {activity : Activity Point Game Fault α}
    {next : Except Fault α → Game → Activity Point Game Fault β}
    (first : activity.Clearing bindings)
    (second : ∀ result game, bindings.AtMostCleared game.session.bindings →
      (next result game).Clearing bindings) : (activity.andThen next).Clearing bindings := by
  induction activity with
  | done result game => exact second result game first
  | paused point game resume ih =>
      exact ⟨first.1, fun reply later cleared => ih reply later (first.2 reply later cleared)⟩

theorem Activity.Clearing.under {activity : Activity Point Game Fault α}
    (clears : activity.Clearing bindings) {environment : Environment Point Game Fault}
    (clearing : environment.Clearing) (past : List (Exchange Point Game Fault)) :
    bindings.AtMostCleared (activity.under environment past).final.session.bindings := by
  induction activity generalizing past with
  | done result game => exact clears
  | paused point game resume ih =>
      exact ih _ _ (clears.2 _ _ (clears.1.trans (clearing past point game))) _

theorem Course.Clearing.bind {course : Course α} {next : α → Course β}
    (first : course.Clearing) (second : ∀ value, Course.Clearing (next value)) :
    Course.Clearing (course >>= next) := by
  intro bindings game cleared
  refine (first bindings game cleared).andThen ?_
  intro result later still
  cases result with
  | ok value => exact second value bindings later still
  | error fault => exact still

theorem Course.clearing_pause (point : Point) : Course.Clearing (Process.pause point) :=
  fun _ _ cleared => ⟨cleared, fun _ _ still => still⟩

theorem Course.clearing_update {change : Game → Game}
    (clears : ∀ game : Game,
      game.session.bindings.AtMostCleared (change game).session.bindings) :
    Course.Clearing (update change) :=
  fun _ game cleared => cleared.trans (clears game)

/-- What ends at once is judged by the game that it leaves. -/
theorem Course.clearing_done {course : Course α}
    (ends : ∀ game, ∃ result last, course game = .done result last ∧
      game.session.bindings.AtMostCleared last.session.bindings) : course.Clearing := by
  intro bindings game cleared
  rcases ends game with ⟨result, last, same, clears⟩
  rw [same]
  exact cleared.trans clears

end Clearing

theorem Game.stopped_bindings (game : Game) :
    game.stopped.session.bindings = game.session.bindings := by
  simp only [stopped]
  split <;> rfl

namespace Scheduler

theorem stop_clearing : Course.Clearing stop :=
  Course.clearing_done fun game => ⟨_, _, stop_apply, .inl game.stopped_bindings⟩

theorem join_clearing : Course.Clearing join := by
  intro bindings game cleared
  simp only [join, bind_apply, state_apply, Activity.andThen_done]
  split
  · exact cleared
  split
  · exact cleared
  refine ⟨cleared, fun reply next still => ?_⟩
  cases reply with
  | error fault => exact still
  | ok =>
      simp only [isIdle, Activity.andThen_done, bind_apply, state_apply, pure_apply]
      split <;> exact still

theorem announce_clearing : Course.Clearing announce :=
  (Course.clearing_pause _).bind fun _ => Course.clearing_pause _

theorem resetPosition_clearing : Course.Clearing resetPosition :=
  stop_clearing.bind fun _ => join_clearing.bind fun _ =>
    (Course.clearing_update fun _ => .inr rfl).bind fun _ => announce_clearing

theorem resetSession_clearing (grid : Option Grid) (useLibrary : Bool)
    (draws : Option Random.Draws) : Course.Clearing (resetSession grid useLibrary draws) := by
  apply Course.clearing_done
  intro game
  rcases resetSession_ends grid useLibrary draws game with
    ⟨result, last, same, -, ⟨fresh, session⟩ | ⟨session, -⟩⟩
  · exact ⟨result, last, same, .inr (by rw [session]; rfl)⟩
  · exact ⟨result, last, same, .inl (by rw [session])⟩

theorem fullReset_clearing (grid : Option Grid) (draws : Option Random.Draws) :
    Course.Clearing (fullReset grid draws) :=
  stop_clearing.bind fun _ => join_clearing.bind fun _ =>
    Course.Clearing.bind (fun _ _ cleared => cleared) fun _ =>
      (resetSession_clearing grid _ draws).bind fun _ => announce_clearing

end Scheduler

/-- A call at most clears the variables, unless it is the one that starts a run. -/
theorem Call.clearing (call : Call) (game : Game)
    (busy : call.asksForRun = true → ¬ game.Free) :
    (call.course game).Clearing game.session.bindings := by
  have still : game.session.bindings.AtMostCleared game.session.bindings := .inl rfl
  cases call with
  | run source =>
      rcases Scheduler.run_refused source (busy rfl) with ⟨last, refused, session, -⟩
      simp only [course, bind_apply, refused, Activity.andThen_done]
      exact .inl (congrArg Session.bindings session)
  | runAsync source =>
      rcases Scheduler.runAsync_refused source (busy rfl) with ⟨last, refused, session, -⟩
      simp only [course, bind_apply, refused, Activity.andThen_done]
      exact .inl (congrArg Session.bindings session)
  | stop => exact Scheduler.stop_clearing _ _ still
  | join => exact Scheduler.join_clearing _ _ still
  | poll => exact still
  | resetPosition => exact Scheduler.resetPosition_clearing _ _ still
  | fullReset grid draws => exact Scheduler.fullReset_clearing grid draws _ _ still
  | loadMap grid => exact ⟨still, fun _ _ later => later⟩

/-- Observers that make a call bind nothing as long as the call does not start a run. -/
theorem Environment.Clearing.calling {environment : Environment Point Game Fault}
    (clearing : environment.Clearing) (index : Nat) {call : Call}
    (modest : call.asksForRun = false) : (environment.calling index call.course).Clearing := by
  intro past point game
  by_cases here : past.length = index
  · have made := (call.clearing (environment past point game).2 (by simp [modest])).under
      clearing past
    simpa [Exchange.Clearing, Environment.exchange, Environment.calling, here] using
      (clearing past point game).trans made
  · simpa [Exchange.Clearing, Environment.exchange, Environment.calling, here] using
      clearing past point game

theorem Environment.silent_clearing : Environment.silent.Clearing :=
  fun _ _ _ => .inl rfl

/-! ## One number for an operand -/

theorem Numeral.not_overlong {operand : Text} (short : operand.length ≤ maxDigits) :
    ¬ Overlong operand := by
  rintro ⟨-, long⟩
  have := (List.takeWhile_sublist isDigit (l := operand)).length_le
  omega

/-- At every pause of a run of any program, on either thread, a movement asks for the number that
an assignment would bind, and for one step where that is 0. Only where a numeral is the name of a
variable do they part: the assignment binds the number, and the movement asks for the variable. -/
theorem operand_means_one_number (source : Text) (game : Game) (runner : Thread)
    (environment : Environment Point Game Fault)
    (clearing : ∀ exchange ∈ ((Scheduler.execute (SourceLine.ofSource source)
      (game.claimed runner)).under environment []).exchanges, exchange.Clearing) :
    ∀ exchange ∈ ((Scheduler.execute (SourceLine.ofSource source)
      (game.claimed runner)).under environment []).exchanges,
    ∀ present, present = exchange.before ∨ present = exchange.after →
    ∀ name operand direction, Statement.Word name → Statement.Word operand →
      operand.length ≤ Numeral.maxDigits →
      ((∀ value, ¬ present.Shadows operand value) →
        ∀ number, present.Binds (Statement.assignmentText name operand) name number →
          0 ≤ number ∧ present.Requests (Statement.movementText direction operand)
            (if number = 0 then 1 else number)) ∧
      ∀ value, present.Shadows operand value →
        (∃ number : Nat, Numeral.unsigned operand = .ok number ∧
          present.Binds (Statement.assignmentText name operand) name number) ∧
        0 ≤ value ∧ present.Requests (Statement.movementText direction operand)
          (if value = 0 then 1 else value) := by
  intro exchange met present here name operand direction target word short
  have natural : present.session.bindings.Natural :=
    execute_all Numeral.all_natural clearing exchange met present here
  constructor
  · intro unnamed number bound
    rw [Game.binds_iff target word] at bound
    refine ⟨Interpreter.valueOf_natural natural bound, (Game.requests_iff direction word).mpr ?_⟩
    apply Interpreter.resolveSteps_of_valueOf natural bound
    intro numeral
    exact Option.eq_none_iff_forall_ne_some.mpr fun value known => unnamed value ⟨numeral, known⟩
  · rintro value ⟨numeral, known⟩
    have least := natural operand value known
    have read := Numeral.unsigned_readable numeral (Numeral.not_overlong short)
    refine ⟨⟨_, read, (Game.binds_iff target word).mpr ?_⟩, least,
      (Game.requests_iff direction word).mpr ?_⟩
    · simp only [Interpreter.valueOf, numeral, read, if_true]
    · simp only [Interpreter.resolveSteps, known, Interpreter.atLeastOne_natural least]

/-- The agent is put back as the run starts; a line later the variable stands for 7 in both. -/
theorem operand_means_one_number_variable :
    let environment := Environment.silent.calling 0 Call.resetPosition.course
    let ending := (Scheduler.execute (SourceLine.ofSource "x = 7\nprint('x')")
      ((Game.onGrass 4).claimed .controller)).under environment []
    ∃ exchange, ending.exchanges[2]? = some exchange ∧
      exchange.before.Binds (Statement.assignmentText "y" "x") "y" 7 ∧
      exchange.before.Requests (Statement.movementText .right "x") 7 := by
  intro environment ending
  have clearing : environment.Clearing := Environment.silent_clearing.calling 0 rfl
  have target : Statement.Word "y" := ⟨by decide, by decide +kernel⟩
  have word : Statement.Word "x" := ⟨by decide, by decide +kernel⟩
  have stored : ending.exchanges[2]?.map (·.before.session.bindings) = some ⟨[("x", 7)]⟩ := by
    decide +kernel
  rcases Option.map_eq_some_iff.mp stored with ⟨exchange, found, bindings⟩
  have bound : exchange.before.Binds (Statement.assignmentText "y" "x") "y" 7 := by
    rw [Game.binds_iff target word, bindings]
    rfl
  have unnamed : ∀ value, ¬ exchange.before.Shadows "x" value := by
    rintro value ⟨numeral, -⟩
    exact absurd numeral (by decide +kernel)
  refine ⟨exchange, found, bound, ?_⟩
  exact ((operand_means_one_number "x = 7\nprint('x')" (Game.onGrass 4) .controller environment
    (fun other _ => (Environment.gave_under environment _ []).all clearing other ‹_›)
    exchange (List.mem_of_getElem? found) exchange.before (.inl rfl) "y" "x" .right target word
    (by decide)).1 unnamed 7 bound).2

/-- With a variable of the name 5, an assignment binds 5 and a movement asks for 3 steps. -/
theorem numeral_name_parts_operands :
    let ending := (Scheduler.execute (SourceLine.ofSource "5 = 3\nprint('a')")
      ((Game.onGrass 12).claimed .controller)).under .silent []
    Statement.Word "5" ∧ ∃ exchange ∈ ending.exchanges,
      exchange.before.Binds (Statement.assignmentText "y" "5") "y" 5 ∧
      exchange.before.Requests (Statement.movementText .right "5") 3 ∧
      ¬ exchange.before.Requests (Statement.movementText .right "5") 5 := by
  intro ending
  have target : Statement.Word "y" := ⟨by decide, by decide +kernel⟩
  have word : Statement.Word "5" := ⟨by decide, by decide +kernel⟩
  have stored : ending.exchanges[2]?.map (·.before.session.bindings) = some ⟨[("5", 3)]⟩ := by
    decide +kernel
  rcases Option.map_eq_some_iff.mp stored with ⟨exchange, found, bindings⟩
  refine ⟨word, exchange, List.mem_of_getElem? found, ?_⟩
  rw [Game.binds_iff target word, Game.requests_iff .right word, Game.requests_iff .right word,
    bindings]
  have asked : Interpreter.resolveSteps ⟨[("5", 3)]⟩ (some "5") = .ok 3 := rfl
  exact ⟨rfl, asked, by simp [asked]⟩

end TileWalk
