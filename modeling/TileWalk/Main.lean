import TileWalk.CommandLine.Execution
import TileWalk.Drawing.Plain

/-!
# The program

The outer layer: it reads the environment and the files that a command needs, and prints what the
command comes to.
-/

namespace TileWalk.CommandLine

open TileWalk.Random TileWalk.Storage

/-- Copies what stands at a path onto a disk. Where nothing is, nothing is copied. -/
def copyFrom (path : Path) (disk : Disk) : IO Disk := do
  try
    return disk.install path.place (.file (← IO.FS.readBinFile path.toText.toStringLossy))
  catch
    | .noFileOrDirectory .. => return disk
    | .inappropriateType .. => return disk.install path.place .folder
    | error => throw error

def readSettings : IO Settings := do
  return {
    user := (← IO.getEnv "CODIMOJI_USER").map Text.ofString
    mapFolder := (← IO.getEnv "CODIMOJI_MAP_DIR").map Text.ofString
    speed := (← IO.getEnv "CODIMOJI_SPEED").map Text.ofString }

/-- The surroundings with the files that the arguments name. -/
def readSurroundings (texts : List Text) : IO Surroundings := do
  let settings ← readSettings
  let draws := Draws.ofSeed (← IO.rand 0 (Nat.pow 2 31))
  match Arguments.ofTexts texts with
  | .error _ => return { settings, draws }
  | .ok arguments =>
    let paths := (arguments.library settings).path :: arguments.program.toList
    let disk ← paths.foldlM (fun disk path => copyFrom path disk) {}
    return { settings, draws, disk }

def printLine (text : Text) : IO Unit :=
  IO.println text.toStringLossy

/-- Prints the plain lines of a drawing. -/
def printDrawing (content : Drawing) : IO Unit :=
  content.plainLines.forM printLine

/-- Prints one item, or lets time pass. -/
def Item.print : Item → IO Unit
  | .line text => printLine text
  | .drawing content => printDrawing content
  | .pause seconds => IO.sleep (seconds * 1000).toUInt32
  | .game screen => do
    IO.println GameScreen.title
    printDrawing (drawWorldPanel screen.session.world)
    IO.print screen.source.toStringLossy
  | .editor state => do
    IO.println EditorScreen.title
    state.lines.forM fun line => printLine line.text
    printDrawing state.table

/-- Executes the command line, prints what it comes to and gives its status. -/
def run (arguments : List String) : IO UInt32 := do
  let texts := arguments.map Text.ofString
  let outcome := execute texts (← readSurroundings texts)
  outcome.items.forM Item.print
  IO.print outcome.ending.output
  IO.eprint outcome.ending.complaint.toStringLossy
  match outcome.ending, outcome.ending.told? with
  | _, some text => IO.eprintln text.toStringLossy
  | .failed failure, none => IO.eprintln failure.message.toStringLossy
  | _, none => pure ()
  return outcome.ending.status.toUInt32

end TileWalk.CommandLine

def main (texts : List String) : IO UInt32 :=
  TileWalk.CommandLine.run texts
