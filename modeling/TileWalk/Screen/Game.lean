import TileWalk.Run.Stage
import TileWalk.Screen.Widget

/-!
# The game screen

The screen shows a program, the world, a console and a status line, and has keys that run the
program, stop it and exchange the map. A run tells the screen of its progress by messages, which the
screen handles one after another when a key has been dealt with.
-/

namespace TileWalk

open TileWalk.Storage

inductive ScreenMessage where
  | runOutput (line : OutputLine)
  | lineHighlighted (line : Option Nat)
  | mapChanged
  | runStateChanged (running : Bool)
deriving DecidableEq, Repr

namespace ScreenMessage

/-- The name of the sort of a message. -/
def name : ScreenMessage → String
  | .runOutput _ => "RunOutput"
  | .lineHighlighted _ => "LineHighlighted"
  | .mapChanged => "MapChanged"
  | .runStateChanged _ => "RunStateChanged"

/-- The message that an event sends. Ticks, log entries and the like send none. -/
def ofEvent? : Event → Option ScreenMessage
  | .started _ => some (.runStateChanged true)
  | .ended _ => some (.runStateChanged false)
  | .highlight line _ => some (.lineHighlighted line)
  | .redraw _ => some .mapChanged
  | .output line => some (.runOutput line)
  | _ => none

end ScreenMessage

/-- The screen and the game that is played on it. -/
structure GameScreen where
  stage : Stage
  /-- The text in the code editor. -/
  source : Text
  /-- Whether the player may not change the text. -/
  readOnly : Bool := false
  /-- Whether the widgets are there. -/
  mounted : Bool := false
  /-- Whether the screen believes that a run is under way. -/
  running : Bool := false
  highlighted : Option Int := none
  /-- The place of the saved map that was loaded last. -/
  mapIndex : Option Nat := none
  /-- The calls to widgets so far, the newest first. -/
  calls : List WidgetCall := []
  /-- How many lines the code editor counts in a text. This is up to the widget; a plain one goes by
  the line feeds. -/
  lineCount : Text → Nat := fun text => text.count (.char '\n') + 1

/-- How a course is carried out from a screen. -/
abbrev Player :=
  (α : Type) → GameScreen → Course α → Except Fault α × GameScreen

namespace GameScreen

def title : String := "Codimoji"

def editorWidth : Nat := 40

/-- The program that is shown when none is given. -/
def sampleProgram : Text := "x = 2\nprint('Hello')\nmove_right(x)\nmove_down()\n"

/-- The screen for a game and a program. -/
def ofGame (game : Game) (source : Text) : GameScreen where
  stage := { game }
  source := if source = [] then sampleProgram else source

def session (screen : GameScreen) : Session :=
  screen.stage.game.session

def onGame (screen : GameScreen) (change : Game → Game) : GameScreen :=
  { screen with stage := { screen.stage with game := change screen.stage.game } }

/-! ## Showing -/

/-- Adds a call, once the widgets are there. -/
def call (screen : GameScreen) (request : WidgetCall) : GameScreen :=
  if screen.mounted then { screen with calls := request :: screen.calls } else screen

def statusText (screen : GameScreen) : Text :=
  let label := if screen.running then "running" else "idle"
  let line := match screen.highlighted with
    | none => "-"
    | some line => toString (line + 1)
  "F5=run | F6=stop | F7=restart | F8=new map | F4=saved maps | " ++
    s!"F2/F3=speed {Speed.render screen.session.speed} | line {line} | " ++
    "user=" ++ screen.stage.game.library.user ++ s!" | status={label}"

def refreshStatus (screen : GameScreen) : GameScreen :=
  screen.call (.update .statusBar
    (.panel (.styled (StyledText.ofText screen.statusText "")) none))

def refreshMap (screen : GameScreen) : GameScreen :=
  screen.call (.update .worldMap (drawWorldPanel screen.session.world))

def writeOutput (screen : GameScreen) (line : OutputLine) : GameScreen :=
  screen.call (.write .console line.draw)

/-- Marks a line of the program, if the code editor has it, or takes the mark away. -/
def highlightLine (screen : GameScreen) (line : Option Int) : GameScreen :=
  let marked := { screen with highlighted := line }
  let shown := match line with
    | none => marked.call (.moveCursor .codeEditor)
    | some number =>
      if number < marked.lineCount marked.source then
        marked.call (.selectLine .codeEditor number)
      else marked
  shown.refreshStatus

/-- Notes whether a run is under way. The text cannot be changed meanwhile. -/
def setRunning (screen : GameScreen) (running : Bool) : GameScreen :=
  let noted := { screen with running, readOnly := if screen.mounted then running else screen.readOnly }
  noted.refreshStatus

def handle (screen : GameScreen) : ScreenMessage → GameScreen
  | .runOutput line => screen.writeOutput line
  | .lineHighlighted line => screen.highlightLine (line.map Int.ofNat)
  | .mapChanged => screen.refreshMap
  | .runStateChanged running => screen.setRunning running

/-! ## Keys -/

/-- The observer that sends messages to the screen; it does nothing on its own. -/
def observer : Observer := Cue.observer []

/-- Carries out a course and gives its result with the screen afterwards. -/
def play {α : Type} (screen : GameScreen) (action : Course α) : Except Fault α × GameScreen :=
  let (result, stage) := screen.stage.perform observer action
  (result, { screen with stage })

/-- Writes what is wrong with the library. -/
def reportLibraryError (screen : GameScreen) (message : Text) : GameScreen :=
  screen.writeOutput { text := "Map library error: " ++ message, kind := .error }

def clearConsole (screen : GameScreen) : GameScreen :=
  screen.call (.clear .console)

def mount (screen : GameScreen) : GameScreen :=
  (({ screen with mounted := true }.call (.focus .codeEditor editorWidth)).refreshMap).refreshStatus

/-- Ends an action that failed. A value of the library that is not as it should be is told on the
console; any other fault comes through. -/
def refuse (screen : GameScreen) (fault : Fault) : Except Fault Unit × GameScreen :=
  if fault.isBadValue then (.ok (), screen.reportLibraryError fault.message)
  else (.error fault, screen)

/-- The next place in a list of `count` maps, which starts over after the last. -/
def nextIndex (count : Nat) : Option Nat → Nat
  | none => 0 % count
  | some index => (index + 1) % count

end GameScreen

namespace Player

variable (player : Player) (screen : GameScreen)

/-- Runs the program in the code editor. -/
def run (holdIn : Option Nat) : Except Fault Unit × GameScreen :=
  if screen.mounted then
    let (result, after) := player _ screen (Command.handOver screen.source holdIn)
    (result.map fun _ => (), after)
  else (.ok (), screen)

def stop : Except Fault Unit × GameScreen :=
  player _ screen Scheduler.stop

/-- Puts the agent back at the start. -/
def restart : Except Fault Unit × GameScreen :=
  match player _ screen Scheduler.resetPosition with
  | (.ok (), after) => (.ok (), after.clearConsole)
  | failed => failed

/-- Starts over on another map. What is wrong with the library is written to the console. -/
def newMap : Except Fault Unit × GameScreen :=
  match player _ screen (Scheduler.fullReset none none) with
  | (.ok (), after) => (.ok (), after.clearConsole)
  | (.error fault, after) => after.refuse fault

/-- Starts over on the next saved map. -/
def nextSavedMap : Except Fault Unit × GameScreen :=
  let library := screen.stage.game.library
  match player _ screen (Course.withArchive library.list) with
  | (.error fault, after) => after.refuse fault
  | (.ok names, after) =>
    if names.isEmpty then (.ok (), after.writeOutput { text := "No saved maps." })
    else
      let index := GameScreen.nextIndex names.length after.mapIndex
      let name := names[index]?.getD ""
      let chosen := { after with mapIndex := some index }
      match player _ chosen (Course.withArchive (library.load name)) with
      | (.error fault, failed) => failed.refuse fault
      | (.ok grid, loaded) =>
        match player _ loaded (Scheduler.fullReset (some grid) none) with
        | (.ok (), reset) => (.ok (), reset.writeOutput { text := s!"Loaded map {name}." })
        | failed => failed

end Player

namespace GameScreen

/-- The screen's own way to carry out courses. -/
def player : Player := fun _ screen action => screen.play action

@[simp] theorem player_apply {α : Type} (screen : GameScreen) (action : Course α) :
    player α screen action = screen.play action := rfl

def run (screen : GameScreen) (holdIn : Option Nat) : Except Fault Unit × GameScreen :=
  player.run screen holdIn

def stop (screen : GameScreen) : Except Fault Unit × GameScreen :=
  player.stop screen

def restart (screen : GameScreen) : Except Fault Unit × GameScreen :=
  player.restart screen

def newMap (screen : GameScreen) : Except Fault Unit × GameScreen :=
  player.newMap screen

def nextSavedMap (screen : GameScreen) : Except Fault Unit × GameScreen :=
  player.nextSavedMap screen

def changeSpeed (screen : GameScreen) (change : Float) : GameScreen :=
  (screen.onGame (Game.onSession fun session => session.setSpeed (session.speed + change))).refreshStatus

def quit (screen : GameScreen) : Except Fault Unit × GameScreen :=
  match screen.stop with
  | (.ok (), after) => (.ok (), { after with calls := .exit :: after.calls })
  | failed => failed

/-! ## Commands and their reports -/

/-- What can be asked of the screen. -/
inductive Request where
  | mount
  | unmount
  | edit (source : Text)
  | run (holdIn : Option Nat)
  | resume (holdIn : Option Nat)
  | stop
  | restart
  | newMap
  | nextSavedMap
  | slower
  | faster
  | quit
  | highlight (line : Option Int)
  | status
  | saveMap (name : Text) (grid : Json)
  /-- Writes a file of the disk anew, past the library. -/
  | writeFile (path : Path) (text : String)

inductive Reply where
  | nothing
  | text (value : Text)

/-- A course whose answer does not matter. -/
def playOnly {α : Type} (screen : GameScreen) (action : Course α) : Except Fault Reply × GameScreen :=
  let (result, after) := screen.play action
  (result.map fun _ => .nothing, after)

def silent (outcome : Except Fault Unit × GameScreen) : Except Fault Reply × GameScreen :=
  (outcome.1.map fun _ => .nothing, outcome.2)

/-- Carries out a request, without handling the messages that it leads to. -/
def perform (screen : GameScreen) : Request → Except Fault Reply × GameScreen
  | .mount => (.ok .nothing, screen.mount)
  | .unmount => silent screen.stop
  | .edit source => (.ok .nothing, { screen with source })
  | .run holdIn => silent (screen.run holdIn)
  | .resume holdIn => screen.playOnly (Command.giveTurn holdIn)
  | .stop => silent screen.stop
  | .restart => silent screen.restart
  | .newMap => silent screen.newMap
  | .nextSavedMap => silent screen.nextSavedMap
  | .slower => (.ok .nothing, screen.changeSpeed Speed.increment)
  | .faster => (.ok .nothing, screen.changeSpeed (-Speed.increment))
  | .quit => silent screen.quit
  | .highlight line => (.ok .nothing, screen.highlightLine line)
  | .status => (.ok (.text screen.statusText), screen)
  | .saveMap name grid =>
    let (result, after) := screen.play (Course.withArchive (screen.stage.game.library.save (.text name) grid))
    (result.map fun document => .text document.name, after)
  | .writeFile path text =>
    match screen.stage.game.disk.write path (Text.Utf8.encode text) with
    | .ok disk => (.ok .nothing, screen.onGame fun game => { game with disk })
    | .error error => (.error (.library (.disk error)), screen)

structure Response where
  result : Except Fault Reply
  /-- The calls to widgets before any message was handled. -/
  calls : List WidgetCall
  /-- The events meanwhile. -/
  events : List Event
  /-- The calls to widgets in handling the messages. -/
  handled : List WidgetCall
  screen : GameScreen

/-- The messages that a request led to. -/
def Response.posted (response : Response) : List ScreenMessage :=
  response.events.filterMap ScreenMessage.ofEvent?

/-- What was added to a list that grows at its front, in order. -/
def added {α : Type} (before after : List α) : List α :=
  (after.take (after.length - before.length)).reverse

/-- Carries out a request and handles the messages that it leads to. -/
def respond (screen : GameScreen) (request : Request) : Response :=
  let (result, acted) := screen.perform request
  let events := added screen.stage.game.trace acted.stage.game.trace
  let final := (events.filterMap ScreenMessage.ofEvent?).foldl handle acted
  { result, events
    calls := added screen.calls acted.calls
    handled := added acted.calls final.calls
    screen := final }

def respondAll : GameScreen → List Request → List Response
  | _, [] => []
  | screen, request :: rest =>
    let response := screen.respond request
    response :: response.screen.respondAll rest

end GameScreen

end TileWalk
