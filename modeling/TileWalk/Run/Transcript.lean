import TileWalk.Run.Stage

/-!
# Transcripts

A game is opened and takes commands one after another. The transcript tells for each command what
it answered, what happened meanwhile, and how the game stands afterwards.
-/

namespace TileWalk

open TileWalk.Random TileWalk.Storage

structure Opening where
  /-- The map; without one, a random map is made. -/
  grid : Option Grid := none
  size : Nat := Grid.standardSize
  speed : Float := Speed.standard
  draws : Draws := .scripted []
  disk : Disk := {}
  library : Library
  usesLibrary : Bool := false
  attended : Bool := true

namespace Opening

def gameOn (opening : Opening) (grid : Grid) : Game where
  session := { world := { grid, size := opening.size }, speed := opening.speed }
  attended := opening.attended
  disk := opening.disk
  library := opening.library
  usesLibrary := opening.usesLibrary
  draws := opening.draws

def game (opening : Opening) : Except GenerationError Game :=
  match opening.grid with
  | some grid => .ok (opening.gameOn grid)
  | none => do
    let made ← MapPlan.generate {} opening.draws
    let game := opening.gameOn made.grid
    return { game.push (.logged ⟨.debug, .mapGeneration, made.report⟩) with draws := made.draws }

end Opening

structure Report where
  /-- The answer of the command; there is none for the opening and the close of a game. -/
  result : Option (Except Fault Answer) := none
  /-- What happened, in order. -/
  events : List Event
  /-- How the game stands. -/
  game : Game

namespace Report

/-- The events of a game that are not among the first `seen` ones, in order. -/
def eventsSince (seen : Nat) (game : Game) : List Event :=
  (game.trace.take (game.trace.length - seen)).reverse

def ofCommands (observer : Observer) : List Command → Stage → List Report × Stage
  | [], stage => ([], stage)
  | command :: rest, stage =>
    let (result, after) := stage.perform observer command.perform
    let report : Report :=
      { result := some result
        events := eventsSince stage.game.trace.length after.game
        game := after.game }
    let (reports, final) := ofCommands observer rest after
    (report :: reports, final)

/-- The transcript of a game that has been opened. A worker that is still held at the end is let go
on, which makes for one report more. -/
def transcript (observer : Observer) (commands : List Command) (game : Game) : List Report :=
  let opened : Report := { events := eventsSince 0 game, game }
  let (reports, final) := ofCommands observer commands { game }
  let closing : List Report :=
    if final.held.isSome then
      let finished := final.finish
      [{ events := eventsSince final.game.trace.length finished.game, game := finished.game }]
    else []
  opened :: reports ++ closing

end Report

end TileWalk
