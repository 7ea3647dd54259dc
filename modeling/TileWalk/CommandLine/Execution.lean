import TileWalk.Application
import TileWalk.CommandLine.Arguments
import TileWalk.Screen.Editor
import TileWalk.Screen.Game
import TileWalk.Storage.TextFile

/-!
# Executing the command line

A command lists the saved maps, opens the editor or the game, or runs a program and shows its
output as it comes. It ends with a text for the player when something is missing or not as it should
be.
-/

namespace TileWalk.CommandLine

open TileWalk.Random TileWalk.Storage

/-- Something that is put before the player, or the time that passes in between. -/
inductive Item where
  /-- A text that the console takes as markup. -/
  | line (text : Text)
  | drawing (content : Drawing)
  | pause (seconds : Float)
  /-- The game screen opens. -/
  | game (screen : GameScreen)
  /-- The map editor opens. -/
  | editor (state : EditorState)

inductive Failure where
  | program (error : TextError)
  | game (fault : Fault)
  /-- A seed was given without a number. -/
  | emptySeed
  /-- A pace was given without a number. -/
  | emptySpeed
deriving DecidableEq, Repr

namespace Failure

def message : Failure → Text
  | .program error => error.message
  | .game fault => fault.message
  | .emptySeed =>
    "The only supported seed types are: None,\nint, float, str, bytes, and bytearray."
  | .emptySpeed => "'<' not supported between instances of 'list' and 'float'"

/-- Whether a failure is about a value that is not as it should be. -/
def isBadValue : Failure → Bool
  | .program (.undecodable _) => true
  | .program (.disk error) => error.isBadPath
  | .game fault => fault.isBadValue
  | _ => false

/-- The text with which a failure is told to the player. Failures without one are not expected. -/
def told? (failure : Failure) : Option Text :=
  match failure with
  | .game (.library (.unknownMap _ _)) => some failure.message
  | _ => if failure.isBadValue then some ("Error: " ++ failure.message) else none

end Failure

inductive Ending where
  | done
  /-- Help was asked for. -/
  | helped
  | misused (error : UsageError)
  /-- There is no program to run. -/
  | noProgram
  /-- The file of the program does not exist. -/
  | programMissing (path : Path)
  | failed (failure : Failure)
deriving DecidableEq, Repr

namespace Ending

/-- The last words of a command that ends for a reason the player can mend. -/
def told? : Ending → Option Text
  | .noProgram => some "No program given. Pass a program file or use --play."
  | .programMissing path => some ("Program file not found: " ++ path.toText)
  | .failed failure => failure.told?
  | _ => none

/-- What goes to the standard output in the end. -/
def output : Ending → String
  | .helped => helpText
  | _ => ""

def complaint : Ending → Text
  | .misused error => error.report
  | _ => []

/-- The status with which the command exits. -/
def status : Ending → Nat
  | .done => 0
  | .helped => 0
  | .misused _ => 2
  | _ => 1

end Ending

/-- What a command shows, and how it ends, on a console that accepts what is shown. -/
structure Outcome where
  items : List Item := []
  ending : Ending := .done

namespace Outcome

def listing (library : Library) (disk : Disk) : Outcome :=
  match (library.list { disk }).1 with
  | .error error => { ending := .failed (.game (.library error)) }
  | .ok [] => { items := [.line ("No saved maps for " ++ library.user ++ ".")] }
  | .ok names => { items := names.map fun (name : String) => .line name }

/-- The editor opens for a named map. -/
def editing (library : Library) (name : Text) (disk : Disk) : Outcome :=
  match (EditorState.ofLibrary library name { disk }).1 with
  | .error error => { ending := .failed (.game (.library error)) }
  | .ok state => { items := [.editor state] }

end Outcome

/-- Where a command is given: what the environment says, the disk, and a source of random maps for
when there is no seed. -/
structure Surroundings where
  settings : Settings := {}
  disk : Disk := {}
  draws : Draws := .scripted []

/-- The item that an event of a run leads to. -/
def Item.ofEvent? : Event → Option Item
  | .output written => some (.drawing (.styled written.draw))
  | .wait seconds => some (.pause seconds)
  | _ => none

namespace Arguments

def library (arguments : Arguments) (settings : Settings) : Library :=
  settings.library arguments.user arguments.mapFolder

/-- The text of the program; without a file it is empty. -/
def readProgram (path : Option Path) (disk : Disk) : Except Ending Text :=
  match path with
  | none => .ok ""
  | some path =>
    match disk.readText path with
    | .ok text => .ok text
    | .error (.disk (.trouble .missing _)) => .error (.programMissing path)
    | .error error => .error (.failed (.program error))

/-- What is to be run, unless the seed is missing. -/
def plan (arguments : Arguments) (source : Text) (place : Surroundings) : Except Failure RunPlan := do
  let draws ← match arguments.seed with
    | none => pure place.draws
    | some (.number seed) => pure (Draws.ofSeed seed)
    | some .empty => .error .emptySeed
  return {
    source
    library := arguments.library place.settings
    mapName := arguments.mapName
    speed := match arguments.speed with
      | some (.number speed) => some speed
      | _ => none
    draws
    settings := place.settings }

/-- The plan of a run and the game on the chosen map. The pace is looked at once there is a map. -/
def game (arguments : Arguments) (source : Text) (place : Surroundings) :
    Except Failure (RunPlan × Game) := do
  let plan ← arguments.plan source place
  match plan.game place.disk with
  | .error fault => .error (.game fault)
  | .ok game =>
    match arguments.speed with
    | some .empty => .error .emptySpeed
    | _ => .ok (plan, game)

def opening (arguments : Arguments) (source : Text) (place : Surroundings) : Outcome :=
  match arguments.game source place with
  | .error failure => { ending := .failed failure }
  | .ok (_, game) => { items := [.game (GameScreen.ofGame game source)] }

/-- Runs a program and shows the session in the end. -/
def running (arguments : Arguments) (source : Text) (place : Surroundings) : Outcome :=
  match arguments.game source place with
  | .error failure => { ending := .failed failure }
  | .ok (plan, game) =>
    let (result, after) := plan.run game
    let items := after.trace.reverse.filterMap Item.ofEvent?
    match result with
    | .error fault => { items, ending := .failed (.game fault) }
    | .ok _ => { items := items ++ [.drawing (after.session.draw (Event.lines after.trace))] }

/-- Does what the arguments ask for. Listing goes before editing, and both before the program. -/
def execute (arguments : Arguments) (place : Surroundings) : Outcome :=
  let library := arguments.library place.settings
  if arguments.listMaps then .listing library place.disk
  else
    match arguments.editMap.filter (· ≠ []) with
    | some name => .editing library name place.disk
    | none =>
      match readProgram arguments.program place.disk with
      | .error ending => { ending }
      | .ok source =>
        if arguments.play then arguments.opening source place
        else if source = [] then { ending := .noProgram }
        else arguments.running source place

end Arguments

/-- Executes the texts of a command line. -/
def execute (texts : List Text) (place : Surroundings) : Outcome :=
  match Arguments.ofTexts texts with
  | .error .help => { ending := .helped }
  | .error (.misuse error) => { ending := .misused error }
  | .ok arguments => arguments.execute place

end TileWalk.CommandLine
