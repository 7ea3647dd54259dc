import TileWalk.Run.Stage
import TileWalk.Settings

/-!
# Running programs

A program is run on a map that is chosen by name, or is the first saved one, or a random one.
-/

namespace TileWalk

open TileWalk.Random TileWalk.Storage

inductive MapError where
  | library (error : LibraryError)
  | generation (error : GenerationError)
deriving DecidableEq, Repr

/-- A map that was chosen, and the draws that are left. -/
structure ChosenMap where
  grid : Grid
  draws : Draws

namespace Library

/-- Chooses a map: the named one, unless the name is empty, then the first saved one, then a random
one. -/
def choose (library : Library) (name : Option Text) (draws : Draws) (archive : Archive) :
    Except MapError ChosenMap × Archive :=
  match name.filter (· ≠ []) with
  | some name =>
    match library.loadWithin 1 name archive with
    | (.ok grid, after) => (.ok { grid, draws }, after)
    | (.error error, after) => (.error (.library error), after)
  | none =>
    match library.firstWithin 1 archive with
    | (.error error, after) => (.error (.library error), after)
    | (.ok (some grid), after) => (.ok { grid, draws }, after)
    | (.ok none, after) =>
      match MapPlan.generate {} draws with
      | .error error => (.error (.generation error), after)
      | .ok made =>
        (.ok { grid := made.grid, draws := made.draws },
          after.log ⟨.debug, .mapGeneration, made.report⟩)

end Library

structure RunPlan where
  source : Text
  library : Library
  mapName : Option Text := none
  speed : Option Float := none
  draws : Draws := .scripted []
  settings : Settings := {}

namespace RunPlan

/-- The game on the chosen map, before anything is run. -/
def game (plan : RunPlan) (disk : Disk) : Except Fault Game :=
  match plan.library.choose plan.mapName plan.draws { disk } with
  | (.error (.library error), _) => .error (.library error)
  | (.error (.generation error), _) => .error (.generation error)
  | (.ok chosen, archive) =>
    .ok {
      session := { world := { grid := chosen.grid }, speed := (plan.settings.chooseSpeed plan.speed).1 }
      disk := archive.disk
      library := plan.library
      usesLibrary := true
      draws := chosen.draws }

/-- Runs the program in a game to its end. The game is what it became up to an error. -/
def run (plan : RunPlan) (game : Game) : Except Fault Bool × Game :=
  let (result, stage) := Stage.perform Observer.recording
    (Scheduler.run plan.source) { game }
  (result, stage.game)

end RunPlan

end TileWalk
