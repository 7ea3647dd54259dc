import TileWalk.Drawing.Console
import TileWalk.Library
import TileWalk.Program.Source
import TileWalk.Program.Statement
import TileWalk.Run.Activity
import TileWalk.Session

/-!
# Games

A game is a session with all that its runs touch: who is running, what has happened so far, the
disk with the map library, and the source of random maps. Two threads of control take turns on it.
-/

namespace TileWalk

open TileWalk.Random TileWalk.Storage

/-- The two threads of control: the one that gives the orders, and the one that a run may be handed
to. -/
inductive Thread where
  | controller
  | worker
deriving DecidableEq, Repr

/-- Why a step of a game fails. -/
inductive Fault where
  | statement (error : StatementError)
  | longNumeral (cause : Numeral.TooLong)
  | grid (error : GridError)
  | library (error : LibraryError)
  | generation (error : GenerationError)
  /-- An observer gives up with a message of its own. -/
  | raised (message : Text)
  /-- A run that is waited for can never end. -/
  | deadlock
  /-- Nothing was given to be executed. -/
  | noStatement
  /-- A name stands for no kind of output. -/
  | unknownKind (name : Text)
deriving DecidableEq, Repr

def Fault.message : Fault → Text
  | .statement error => error.message
  | .longNumeral cause => cause.message
  | .grid error => error.message
  | .library error => error.message
  | .generation error => error.message
  | .raised message => message
  | .deadlock => "waiting for a run that never becomes idle"
  | .noStatement => "Unknown statement: None"
  | .unknownKind name => s!"{Text.quote name} is not a valid OutputKind"

/-- Whether a fault is about a value that is not as it should be. -/
def Fault.isBadValue : Fault → Bool
  | .longNumeral _ => true
  | .library error => error.isBadValue
  | .generation (.doesNotFit _) => true
  | .unknownKind _ => true
  | _ => false

/-- What the observer of a run is told, and the ticks between steps. -/
inductive Notice where
  | started
  | ended
  | highlight (line : Option Nat)
  | redraw
  | output (line : OutputLine)
  | wait
deriving DecidableEq, Repr

inductive NoticeKind where
  | started
  | ended
  | highlight
  | redraw
  | output
  | wait
deriving DecidableEq, Repr

namespace NoticeKind

def all : List NoticeKind := [.started, .ended, .highlight, .redraw, .output, .wait]

def name : NoticeKind → String
  | .started => "started"
  | .ended => "ended"
  | .highlight => "highlight"
  | .redraw => "redraw"
  | .output => "output"
  | .wait => "wait"

def ofName? (name : String) : Option NoticeKind :=
  all.find? fun kind => kind.name = name

end NoticeKind

def Notice.kind : Notice → NoticeKind
  | .started => .started
  | .ended => .ended
  | .highlight _ => .highlight
  | .redraw => .redraw
  | .output _ => .output
  | .wait => .wait

/-- How often an observer was told what. -/
structure Tally where
  redraws : Nat
  started : Nat
  ended : Nat
  lines : Nat
deriving DecidableEq, Repr

inductive Answer where
  | nothing
  | flag (value : Bool)
  | speed (value : Float)
  | name (text : Text)
  | texts (items : List Text)
  | steps (count : Int)
  | tally (value : Tally)
  | drawing (value : Drawing)

/-- Something that happened, with what could be seen of the session at that moment. -/
inductive Event where
  | started (state : RunState)
  | ended (state : RunState)
  | highlight (line : Option Nat) (state : RunState)
  | redraw (agent : Agent)
  | output (line : OutputLine)
  | wait (speed : Float)
  | logged (entry : LogEntry)
  /-- A command that was given during another event is over. -/
  | answered (command : String) (result : Except Fault Answer)
  /-- An error ended a worker. -/
  | workerFailed (fault : Fault)

structure Game where
  session : Session
  /-- No run is under way. -/
  idle : Bool := true
  /-- The thread that drives the latest run. -/
  runner : Option Thread := none
  /-- The thread whose turn it is. -/
  current : Thread := .controller
  /-- Whether an observer listens to the runs. -/
  attended : Bool := true
  /-- All events so far, the newest first. -/
  trace : List Event := []
  disk : Disk := {}
  /-- The library of the player. -/
  library : Library
  /-- Whether new maps are looked for in the library first. -/
  usesLibrary : Bool := false
  /-- Where the random maps come from. -/
  draws : Draws := .scripted []
  /-- How many more waits of a worker there are up to the one that holds it. -/
  holdIn : Option Nat := none

inductive Signal where
  /-- The worker waits for its next turn. -/
  | held
  /-- The controller hands the worker a program. -/
  | start (lines : List SourceLine)
  /-- The controller gives the worker a turn. -/
  | release
  /-- The controller waits for the end of the worker. -/
  | await
deriving DecidableEq, Repr

abbrev Play (α : Type) := Process Signal Game Fault α

/-- Where a course pauses: to give a notice, or with a signal. -/
inductive Point where
  | notice (notice : Notice)
  | signal (signal : Signal)
deriving DecidableEq, Repr

/-- A computation on a game that gives notices on the way. What is done about a notice is left
open: the course goes on in the game that it then finds, or with the error that was raised. -/
abbrev Course (α : Type) := Process Point Game Fault α

namespace Game

def push (game : Game) (event : Event) : Game :=
  { game with trace := event :: game.trace }

def onSession (change : Session → Session) (game : Game) : Game :=
  { game with session := change game.session }

def onWorld (change : World → World) (game : Game) : Game :=
  { game with session := { game.session with world := change game.session.world } }

/-- The event of a notice that is given now. -/
def eventOf (game : Game) : Notice → Event
  | .started => .started game.session.state
  | .ended => .ended game.session.state
  | .highlight line => .highlight line game.session.state
  | .redraw => .redraw game.session.world.agent
  | .output line => .output line
  | .wait => .wait game.session.speed

end Game

/-- The notice that led to an event. -/
def Event.notice? : Event → Option Notice
  | .started _ => some .started
  | .ended _ => some .ended
  | .highlight line _ => some (.highlight line)
  | .redraw _ => some .redraw
  | .output line => some (.output line)
  | .wait _ => some .wait
  | _ => none

namespace Course

def notify (notice : Notice) : Course Unit :=
  Process.pause (.notice notice)

def yield (signal : Signal) : Course Unit :=
  Process.pause (.signal signal)

def log (level : LogLevel) (message : Text) : Course Unit :=
  Process.update (·.push (.logged ⟨level, .scheduler, message⟩))

/-- Ends with an error of the map when there is one. -/
def ofGrid {α : Type} : Except GridError α → Course α
  | .ok value => Process.finish value
  | .error error => Process.fail (.grid error)

/-- Uses the library on the disk of the game. -/
def withArchive {α : Type} (use : Archive → Archived α) : Course α := fun game =>
  let (result, after) := use { disk := game.disk }
  let logged := { game with
    disk := after.disk
    trace := after.logged.map .logged ++ game.trace }
  match result with
  | .ok value => .done (.ok value) logged
  | .error error => .done (.error (.library error)) logged

@[simp] theorem notify_apply (notice : Notice) (game : Game) :
    notify notice game = .paused (.notice notice) game .done := rfl

@[simp] theorem yield_apply (signal : Signal) (game : Game) :
    yield signal game = .paused (.signal signal) game .done := rfl

@[simp] theorem log_apply (level : LogLevel) (message : Text) (game : Game) :
    log level message game = .done (.ok ()) (game.push (.logged ⟨level, .scheduler, message⟩)) := rfl

theorem withArchive_apply {α : Type} (use : Archive → Archived α) (game : Game) :
    withArchive use game = .done ((use { disk := game.disk }).1.mapError .library)
      { game with
        disk := (use { disk := game.disk }).2.disk
        trace := (use { disk := game.disk }).2.logged.map .logged ++ game.trace } := by
  rw [withArchive]
  rcases use { disk := game.disk } with ⟨result, after⟩
  cases result <;> rfl

end Course

/-- Someone who is told of the progress of runs, and who may do something about it. -/
abbrev Observer := Notice → Play Unit

/-- An activity whose notices are given to an observer. -/
def Activity.attend {α : Type} (observer : Observer) :
    Activity Point Game Fault α → Activity Signal Game Fault α
  | .done result game => .done result game
  | .paused (.notice notice) game resume =>
    (observer notice game).andThen fun reply game => (resume reply game).attend observer
  | .paused (.signal signal) game resume =>
    .paused signal game fun reply game => (resume reply game).attend observer

/-- The play of a course whose notices are given to an observer. -/
def Course.attend {α : Type} (course : Course α) (observer : Observer) : Play α := fun game =>
  (course game).attend observer

end TileWalk
