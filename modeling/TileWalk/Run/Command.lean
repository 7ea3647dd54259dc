import TileWalk.Run.Scheduler

/-!
# Commands

A command is anything that can be asked of a game from outside, also while a run is under way.
-/

namespace TileWalk

open TileWalk.Random

/-- Something to be done with a game. -/
inductive Command where
  | run (source : Text)
  | runAsync (source : Text) (holdIn : Option Nat)
  | resume (holdIn : Option Nat)
  | stop
  | join
  | resetPosition
  | fullReset (grid : Option Grid) (draws : Option Draws)
  | loadMap (grid : Grid)
  /-- Resets the session alone, whatever run is under way. -/
  | resetSession
  /-- Resets the session and its map alone, whatever run is under way. -/
  | resetSessionFully (grid : Option Grid) (draws : Option Draws) (useLibrary : Bool)
  | clampSpeed (wish : Float)
  | setSpeed (speed : Float)
  | setVariable (name : Text) (value : Int)
  | setPosition (position : Position)
  | setTarget (position : Position)
  | setDead (dead : Bool)
  | saveMap (name : Text) (grid : Json)
  | texts (kind : Option Text)
  | counts
  | resolveSteps (argument : Option Text)
  | execute (statement : Option Statement)
  | render
  /-- Gives up with a message. -/
  | raise (message : Text)
  /-- Holds the worker at this place until it is given another turn. -/
  | hold

namespace Command

def name : Command → String
  | .run _ => "run"
  | .runAsync _ _ => "run_async"
  | .resume _ => "resume"
  | .stop => "stop"
  | .join => "join"
  | .resetPosition => "reset_position"
  | .fullReset _ _ => "full_reset"
  | .loadMap _ => "load_map"
  | .resetSession => "session_reset"
  | .resetSessionFully _ _ _ => "session_full_reset"
  | .clampSpeed _ => "set_speed"
  | .setSpeed _ => "speed"
  | .setVariable _ _ => "set_var"
  | .setPosition _ => "set_position"
  | .setTarget _ => "set_target"
  | .setDead _ => "set_dead"
  | .saveMap _ _ => "save_map"
  | .texts _ => "texts"
  | .counts => "counts"
  | .resolveSteps _ => "resolve_steps"
  | .execute _ => "execute"
  | .render => "render"
  | .raise _ => "raise"
  | .hold => "hold"

end Command

namespace Event

/-- The lines among some events, which are given newest first. -/
def lines (trace : List Event) : List OutputLine :=
  trace.reverse.filterMap fun
    | .output line => some line
    | _ => none

/-- The highlights among some events, which are given newest first. -/
def highlights (trace : List Event) : List (Option Nat) :=
  trace.reverse.filterMap fun
    | .highlight line _ => some line
    | _ => none

/-- How many events give notices of a kind. -/
def count (trace : List Event) (kind : NoticeKind) : Nat :=
  trace.countP fun event => event.notice?.map Notice.kind = some kind

def tally (trace : List Event) : Tally where
  redraws := count trace .redraw
  started := count trace .started
  ended := count trace .ended
  lines := (lines trace).length

end Event

namespace Command

open Process Course

/-- Carries out a command that only changes the session. -/
def onSession (change : Session → Session) : Course Answer := do
  update (Game.onSession change)
  return .nothing

/-- The texts of the lines so far, of one kind or of all. -/
def textsOf (kind : Option Text) : Course Answer := do
  let lines := Event.lines (← state).trace
  match kind with
  | none => return .texts (lines.map (·.text))
  | some name =>
    match OutputKind.ofName? name with
    | none => fail (.unknownKind name)
    | some kind => return .texts ((lines.filter (·.kind = kind)).map (·.text))

/-- Hands a program to the worker, which is to be held at its wait of the given number. A refusal
leaves the number as it was. -/
def handOver (source : Text) (holdIn : Option Nat) : Course Answer := do
  let before := (← state).holdIn
  update fun game => { game with holdIn }
  let accepted ← Scheduler.runAsync source
  if !accepted then update fun game => { game with holdIn := before }
  return .flag accepted

/-- Gives the worker a turn. Nothing happens on the worker itself. -/
def giveTurn (holdIn : Option Nat) : Course Answer := do
  if (← state).current = .controller then
    update fun game => { game with holdIn }
    yield .release
  return .nothing

/-- Holds the worker, unless its run has been asked to stop. -/
def holdWorker : Course Answer := do
  let game ← state
  if game.current = .worker && !game.session.stopRequested then yield .held
  return .nothing

def perform : Command → Course Answer
  | .run source => return .flag (← Scheduler.run source)
  | .runAsync source holdIn => handOver source holdIn
  | .resume holdIn => giveTurn holdIn
  | .stop => do
    Scheduler.stop
    return .nothing
  | .join => return .flag (← Scheduler.isIdle)
  | .resetPosition => do
    Scheduler.resetPosition
    return .nothing
  | .fullReset grid draws => do
    Scheduler.fullReset grid draws
    return .nothing
  | .loadMap grid => do
    Scheduler.loadMap grid
    return .nothing
  | .resetSession => onSession Session.resetPosition
  | .resetSessionFully grid draws useLibrary => do
    Scheduler.resetSession grid useLibrary draws
    return .nothing
  | .clampSpeed wish => do
    update (Game.onSession (·.setSpeed wish))
    return .speed (← state).session.speed
  | .setSpeed speed => onSession fun session => { session with speed }
  | .setVariable name value =>
    onSession fun session => { session with bindings := session.bindings.set name value }
  | .setPosition position => onSession fun session => { session with world := session.world.place position }
  | .setTarget position => onSession fun session => { session with world := session.world.aim position }
  | .setDead dead => onSession fun session => { session with world := session.world.setDead dead }
  | .saveMap name grid => do
    let library := (← state).library
    let document ← withArchive (library.save (.text name) grid)
    return .name document.name
  | .texts kind => textsOf kind
  | .counts => return .tally (Event.tally (← state).trace)
  | .resolveSteps argument => do
    match Interpreter.resolveSteps (← state).session.bindings argument with
    | .ok steps => return .steps steps
    | .error cause => fail (.longNumeral cause)
  | .execute none => fail .noStatement
  | .execute (some statement) => return .flag (← Interpreter.execute statement)
  | .render => do
    let game ← state
    return .drawing (game.session.draw (Event.lines game.trace))
  | .raise message => fail (.raised message)
  | .hold => holdWorker

/-- Carries out commands in the course of an event. Each one's result is kept as an event of its own;
only a deliberate failure comes through. -/
def performAll : List Command → Course Unit
  | [] => pure ()
  | .raise message :: _ => fail (.raised message)
  | .hold :: rest => do
    let _ ← holdWorker
    performAll rest
  | command :: rest => do
    let result ← outcome command.perform
    update (·.push (.answered command.name result))
    performAll rest

end Command

end TileWalk
