import TileWalk.Proofs.Activity.Machine
import TileWalk.Run.Scheduler

/-!
# The waypoints of a run

A run gives its notices at a few kinds of places in the program. Here these
places are data, with all that the run still has to remember there, and each has
one equation that says where the run goes on. A statement has its own machine,
which the machine of a run contains; both are followed by the definitions that
carry out statements and runs.
-/

namespace TileWalk

open Process Course

/-! ## Statements -/

/-- A movement after one of its steps. -/
structure Walk where
  direction : Direction
  total : Int
  left : Nat
  place : Position

/-- The places at which a statement gives a notice. -/
inductive Moment where
  /-- The statement is complete but for this line. -/
  | said (text : Text)
  /-- A step has been made and is shown. -/
  | stepped (walk : Walk)
  /-- The tick after a step. -/
  | rested (walk : Walk)
  /-- It is said why the agent has died. -/
  | obstructed (message : String)
  | fallen
  /-- It is said that the goal has been reached. -/
  | won

def Moment.notice : Moment → Notice
  | .said text => .output { text, kind := .info }
  | .stepped _ => .redraw
  | .rested _ => .wait
  | .obstructed message => .output { text := message, kind := .error }
  | .fallen => .redraw
  | .won => .output { text := Obstacle.victory, kind := .success }

/-- Where a statement stands; in the end it tells whether the run is to go on. -/
abbrev StatementTurn := Turn Moment Game Fault Bool

namespace StatementTurn

/-- The next step of a movement, or its end. -/
def walk (direction : Direction) (total : Int) : Nat → Game → StatementTurn
  | 0, game =>
    if total > 1 then .pause (.said s!"Completed {total} step movement.") game
    else .finish (.ok true) game
  | left + 1, game =>
    let world := game.session.world
    let place := world.agent.position.shift direction.delta
    if game.session.stopRequested || world.agent.dead then .finish (.ok false) game
    else if world.isOutOfBounds place then
      .pause (.obstructed Obstacle.outOfBounds) (game.onWorld (·.setDead true))
    else
      match world.cellAt place with
      | .error error => .finish (.error (.grid error)) game
      | .ok cell =>
        if cell.isBlocking then
          .pause (.obstructed (Obstacle.ofCell cell)) (game.onWorld (·.setDead true))
        else .pause (.stepped { direction, total, left, place }) (game.onWorld (·.place place))

def begin (game : Game) : Statement → StatementTurn
  | .assign name value =>
    match Interpreter.valueOf game.session.bindings name value with
    | .error fault => .finish (.error fault) game
    | .ok number => .finish (.ok true) (game.onSession fun session =>
        { session with bindings := session.bindings.set name number })
  | .print token quoted =>
    .pause (.said (Interpreter.printed game.session.bindings token quoted)) game
  | .move direction argument =>
    match Interpreter.resolveSteps game.session.bindings argument with
    | .error cause => .finish (.error (.longNumeral cause)) game
    | .ok steps => walk direction steps steps.toNat game
  | .remark _ => .finish (.ok true) game

end StatementTurn

/-- Where a statement goes on after a notice. -/
def Moment.next : Moment → Except Fault Unit → Game → StatementTurn
  | _, .error fault, game => .finish (.error fault) game
  | .said _, .ok (), game => .finish (.ok true) game
  | .stepped walk, .ok (), game =>
    match game.session.world.isGoal walk.place with
    | .error error => .finish (.error (.grid error)) game
    | .ok true => .pause .won game
    | .ok false => .pause (.rested walk) game
  | .rested walk, .ok (), game =>
    if game.session.stopRequested then .finish (.ok false) game
    else StatementTurn.walk walk.direction walk.total walk.left game
  | .obstructed _, .ok (), game => .pause .fallen game
  | .fallen, .ok (), game => .finish (.ok false) game
  | .won, .ok (), game => .finish (.ok false) game

def statementMachine : Machine Moment Point Game Fault Bool where
  signal moment := .notice moment.notice
  next := Moment.next

@[simp] theorem statementMachine_signal (moment : Moment) :
    statementMachine.signal moment = .notice moment.notice := rfl

@[simp] theorem statementMachine_next (moment : Moment) :
    statementMachine.next moment = moment.next := rfl

/-! ## Runs -/

/-- The places at which a run gives a notice. -/
inductive Waypoint where
  | begun (lines : List SourceLine)
  /-- A line is highlighted and about to be carried out. -/
  | highlighted (line : SourceLine) (rest : List SourceLine)
  /-- In the course of the statement of a line. -/
  | within (line : SourceLine) (rest : List SourceLine) (moment : Moment)
  /-- It is said why a statement cannot be carried out. -/
  | failed (error : StatementError)
  /-- The tick before another line. -/
  | between (rest : List SourceLine)
  /-- The highlight is cleared; the program ended with a result. -/
  | closing (result : Except Fault Unit)
  /-- It is told that the run has ended. -/
  | ended (result : Except Fault Unit)

def Waypoint.notice : Waypoint → Notice
  | .begun _ => .started
  | .highlighted line _ => .highlight (some line.lineNumber)
  | .within _ _ moment => moment.notice
  | .failed error => .output { text := "Error: " ++ error.message, kind := .error }
  | .between _ => .wait
  | .closing _ => .highlight none
  | .ended _ => .ended

abbrev RunTurn := Turn Waypoint Game Fault Unit

namespace RunTurn

def close (result : Except Fault Unit) (game : Game) : RunTurn :=
  .pause (.closing result) game

/-- The next line, or the end. -/
def dispatch : List SourceLine → Game → RunTurn
  | [], game => close (.ok ()) game
  | line :: rest, game =>
    if game.session.stopRequested then close (.ok ()) game
    else .pause (.highlighted line rest) game

/-- What a run does when a statement is over. -/
def settle (line : SourceLine) (rest : List SourceLine) : Except Fault Bool → Game → RunTurn
  | .ok true, game => if rest.isEmpty then close (.ok ()) game else .pause (.between rest) game
  | .ok false, game => close (.ok ()) game
  | .error (.statement error), game =>
    .pause (.failed error) (game.push (.logged ⟨.info, .scheduler,
      s!"Line {line.lineNumber + 1} failed: " ++ error.message⟩))
  | .error fault, game => close (.error fault) game

/-- A turn of a statement as one of its run. -/
def ofStatement (line : SourceLine) (rest : List SourceLine) (turn : StatementTurn) : RunTurn :=
  turn.carry (.within line rest) (settle line rest)

def carryOut (line : SourceLine) (rest : List SourceLine) (game : Game) : RunTurn :=
  match Statement.parse line.text with
  | .ok statement => ofStatement line rest (StatementTurn.begin game statement)
  | .error error => settle line rest (.error (.statement error)) game

end RunTurn

/-- Where a run goes on after a notice. -/
def Waypoint.next : Waypoint → Except Fault Unit → Game → RunTurn
  | .within line rest moment, reply, game => RunTurn.ofStatement line rest (moment.next reply game)
  | .closing _, .error fault, game => .finish (.error fault) game
  | .closing result, .ok (), game =>
    .pause (.ended result)
      ((game.onSession fun session => { session with state := .idle }).push
        (.logged ⟨.info, .scheduler, "Run ended."⟩))
  | .ended result, reply, game =>
    .finish (match reply with
      | .ok () => result
      | .error fault => .error fault) { game with idle := true }
  | .begun _, .error fault, game => RunTurn.close (.error fault) game
  | .highlighted _ _, .error fault, game => RunTurn.close (.error fault) game
  | .failed _, .error fault, game => RunTurn.close (.error fault) game
  | .between _, .error fault, game => RunTurn.close (.error fault) game
  | .begun lines, .ok (), game => RunTurn.dispatch lines game
  | .highlighted line rest, .ok (), game => RunTurn.carryOut line rest game
  | .failed _, .ok (), game => RunTurn.close (.ok ()) game
  | .between rest, .ok (), game => RunTurn.dispatch rest game

def runMachine : Machine Waypoint Point Game Fault Unit where
  signal waypoint := .notice waypoint.notice
  next := Waypoint.next

@[simp] theorem runMachine_signal (waypoint : Waypoint) :
    runMachine.signal waypoint = .notice waypoint.notice := rfl

@[simp] theorem runMachine_next (waypoint : Waypoint) :
    runMachine.next waypoint = waypoint.next := rfl

/-- What a run does in a statement comes first in it. -/
theorem RunTurn.ofStatement_plays {line : SourceLine} {rest : List SourceLine}
    {turn : StatementTurn} {exchanges : List (Exchange Point Game Fault)}
    {result : Except Fault Unit} {final : Game}
    (plays : runMachine.Plays (ofStatement line rest turn) exchanges result final) :
    ∃ first others middle state, exchanges = first ++ others ∧
      statementMachine.Plays turn first middle state ∧
      runMachine.Plays (settle line rest middle state) others result final := by
  refine Machine.Plays.of_carry ?_ ?_ plays
  · intro moment
    rfl
  · intro moment reply state
    rfl

/-! ## The machines are followed -/

section Statements

variable {rest : Except Fault Bool → Game → Activity Point Game Fault Bool}

/-- An error that comes from a notice ends a statement at once. -/
theorem Moment.follows {resume : Except Fault Unit → Game → Activity Point Game Fault Bool}
    (moment : Moment) (game : Game)
    (failed : ∀ fault next,
      (resume (.error fault) next).Follows statementMachine (.finish (.error fault) next))
    (onward : ∀ next,
      (resume (.ok ()) next).Follows statementMachine (moment.next (.ok ()) next)) :
    (Activity.paused (.notice moment.notice) game resume).Follows statementMachine
      (.pause moment game) := by
  refine ⟨moment, rfl, rfl, ?_⟩
  intro reply next
  cases reply with
  | ok => exact onward next
  | error fault =>
      have same : statementMachine.next moment (.error fault) next =
          .finish (.error fault) next := by
        cases moment <;> rfl
      rw [same]
      exact failed fault next

theorem die_follows {message : String}
    {rest : Except Fault Unit → Game → Activity Point Game Fault Bool}
    (shown : ∀ game, (rest (.ok ()) game).Follows statementMachine (.finish (.ok false) game))
    (failed : ∀ fault game,
      (rest (.error fault) game).Follows statementMachine (.finish (.error fault) game))
    (game : Game) :
    ((Interpreter.die message game).andThen rest).Follows statementMachine
      (.pause (.obstructed message) (game.onWorld (·.setDead true))) := by
  refine Moment.follows (.obstructed message) _ failed ?_
  intro next
  exact Moment.follows .fallen next failed shown

theorem tick_follows (walk : Walk) {go : Course Bool}
    (onward : ∀ game, ((go game).andThen rest).Follows statementMachine
      (StatementTurn.walk walk.direction walk.total walk.left game))
    (halted : ∀ game, (rest (.ok false) game).Follows statementMachine (.finish (.ok false) game))
    (failed : ∀ fault game,
      (rest (.error fault) game).Follows statementMachine (.finish (.error fault) game))
    (game : Game) :
    (((Interpreter.tick >>= fun free => if free then go else pure false) game).andThen
      rest).Follows statementMachine (.pause (.rested walk) game) := by
  apply Moment.follows (.rested walk) game failed
  intro next
  cases stop : next.session.stopRequested with
  | true => simpa [stop, Moment.next] using halted next
  | false => simpa [stop, Moment.next] using onward next

theorem step_follows (walk : Walk) {go : Course Bool}
    (onward : ∀ game, ((go game).andThen rest).Follows statementMachine
      (StatementTurn.walk walk.direction walk.total walk.left game))
    (halted : ∀ game, (rest (.ok false) game).Follows statementMachine (.finish (.ok false) game))
    (failed : ∀ fault game,
      (rest (.error fault) game).Follows statementMachine (.finish (.error fault) game))
    (game : Game) :
    (((do
      notify .redraw
      if ← ofGrid ((← state).session.world.isGoal walk.place) then
        notify (.output { text := Obstacle.victory, kind := .success })
        return false
      if ← Interpreter.tick then go else return false : Course Bool) game).andThen
      rest).Follows statementMachine (.pause (.stepped walk) game) := by
  apply Moment.follows (.stepped walk) game failed
  intro next
  simp only [Moment.next, Activity.andThen_done, bind_apply, state_apply]
  cases next.session.world.isGoal walk.place with
  | error error => exact failed (.grid error) next
  | ok reached =>
      cases reached with
      | true => exact Moment.follows .won next failed halted
      | false => exact tick_follows walk onward halted failed next

/-- A walk goes by the machine when what comes after it does. -/
theorem walk_follows {direction : Direction} {total : Int}
    (made : ∀ game, (rest (.ok true) game).Follows statementMachine
      (StatementTurn.walk direction total 0 game))
    (halted : ∀ game, (rest (.ok false) game).Follows statementMachine (.finish (.ok false) game))
    (failed : ∀ fault game,
      (rest (.error fault) game).Follows statementMachine (.finish (.error fault) game))
    (steps : Nat) (game : Game) :
    ((Interpreter.walk direction steps game).andThen rest).Follows statementMachine
      (StatementTurn.walk direction total steps game) := by
  induction steps generalizing game with
  | zero => exact made game
  | succ left ih =>
      simp only [Interpreter.walk, bind_apply, state_apply,
        Activity.andThen_done, StatementTurn.walk]
      split
      · exact halted game
      split
      · rw [bind_apply, Activity.andThen_assoc]
        exact die_follows halted failed game
      cases game.session.world.cellAt
          (game.session.world.agent.position.shift direction.delta) with
      | error error => exact failed (.grid error) game
      | ok cell =>
          simp only [ofGrid, bind_apply, finish, Activity.andThen_done]
          split
          · rw [bind_apply, Activity.andThen_assoc]
            exact die_follows halted failed game
          · exact step_follows ⟨direction, total, left, _⟩ ih halted failed _

theorem execute_follows (statement : Statement) (game : Game) :
    (Interpreter.execute statement game).Follows statementMachine
      (StatementTurn.begin game statement) := by
  cases statement with
  | assign name value =>
      simp only [Interpreter.execute, StatementTurn.begin, bind_apply, state_apply,
        Activity.andThen_done]
      cases Interpreter.valueOf game.session.bindings name value <;> rfl
  | print token quoted =>
      exact Moment.follows (.said _) game (fun _ _ => rfl) fun _ => rfl
  | move direction argument =>
      simp only [Interpreter.execute, Interpreter.move, StatementTurn.begin, bind_apply,
        state_apply, Activity.andThen_done]
      cases Interpreter.resolveSteps game.session.bindings argument with
      | error cause => rfl
      | ok steps =>
          apply walk_follows
          · intro next
            by_cases several : steps > 1
            · simp only [several, ite_true, StatementTurn.walk]
              exact Moment.follows (.said _) next (fun _ _ => rfl) fun _ => rfl
            · simp only [several, ite_false, StatementTurn.walk]
              rfl
          · exact fun _ => rfl
          · exact fun _ _ => rfl
  | remark text => rfl

end Statements

section Runs

variable {rest : Except Fault Unit → Game → Activity Point Game Fault Unit}

/-- Nothing is dispatched once the run has been asked to stop. -/
theorem RunTurn.dispatch_stopped (lines : List SourceLine) {game : Game}
    (stop : game.session.stopRequested = true) :
    RunTurn.dispatch lines game = RunTurn.close (.ok ()) game := by
  cases lines <;> simp [RunTurn.dispatch, stop]

theorem executeLine_follows {line : SourceLine} {tail : List SourceLine}
    {next : Except Fault Bool → Game → Activity Point Game Fault Unit}
    (settles : ∀ result game, (next result game).Follows runMachine
      (RunTurn.settle line tail result game))
    (game : Game) :
    ((Scheduler.executeLine line game).andThen next).Follows runMachine
      (RunTurn.carryOut line tail game) := by
  simp only [Scheduler.executeLine, RunTurn.carryOut]
  cases Statement.parse line.text with
  | error error => exact settles (.error (.statement error)) game
  | ok statement =>
      exact (execute_follows statement game).andThen (fun _ => rfl) (fun _ _ _ => rfl) settles

/-- The lines of a program go by the machine when what comes after them does. -/
theorem dispatch_follows
    (closes : ∀ result game, (rest result game).Follows runMachine (RunTurn.close result game))
    (lines : List SourceLine) (game : Game) :
    ((Scheduler.dispatch lines game).andThen rest).Follows runMachine
      (RunTurn.dispatch lines game) := by
  induction lines generalizing game with
  | nil => exact closes (.ok ()) game
  | cons line tail ih =>
      simp only [Scheduler.dispatch, bind_apply, state_apply, Activity.andThen_done,
        RunTurn.dispatch]
      split
      · exact closes (.ok ()) game
      refine ⟨.highlighted line tail, rfl, rfl, ?_⟩
      intro reply next
      cases reply with
      | error fault => exact closes (.error fault) next
      | ok =>
          simp only [Activity.andThen_done, bind_apply, outcome_apply, Activity.andThen_assoc]
          refine executeLine_follows (fun result last => ?_) next
          match result with
          | .ok true =>
              simp only [RunTurn.settle]
              split
              · exact closes (.ok ()) last
              refine ⟨.between tail, rfl, rfl, ?_⟩
              intro reply resumed
              cases reply with
              | error fault => exact closes (.error fault) resumed
              | ok =>
                  cases stop : resumed.session.stopRequested with
                  | true =>
                      simpa [stop, runMachine, Waypoint.next, RunTurn.dispatch_stopped tail stop]
                        using closes (.ok ()) resumed
                  | false => simpa [stop, runMachine, Waypoint.next] using ih resumed
          | .ok false => exact closes (.ok ()) last
          | .error fault =>
              cases fault with
              | statement error =>
                  refine ⟨.failed error, rfl, rfl, ?_⟩
                  intro reply resumed
                  cases reply with
                  | error fault => exact closes (.error fault) resumed
                  | ok => exact closes (.ok ()) resumed
              | _ => exact closes _ last

theorem close_follows (result : Except Fault Unit) (game : Game) :
    (Scheduler.close result game).Follows runMachine (RunTurn.close result game) := by
  refine ⟨.closing result, rfl, rfl, ?_⟩
  intro reply next
  cases reply with
  | error fault => rfl
  | ok =>
      refine ⟨.ended result, rfl, rfl, ?_⟩
      intro reply last
      cases reply <;> simp <;> rfl

def Game.begun (game : Game) (lines : List SourceLine) : Game :=
  game.push (.logged ⟨.info, .scheduler, s!"Run started with {lines.length} statements."⟩)

theorem run_follows (lines : List SourceLine) (game : Game) :
    (Scheduler.execute lines game).Follows runMachine
      (.pause (.begun lines) (game.begun lines)) := by
  refine ⟨.begun lines, rfl, rfl, ?_⟩
  intro reply next
  cases reply with
  | error fault => exact close_follows (.error fault) next
  | ok =>
      simp only [Activity.andThen_done]
      rw [Activity.andThen_assoc]
      exact dispatch_follows close_follows lines next

end Runs

end TileWalk
