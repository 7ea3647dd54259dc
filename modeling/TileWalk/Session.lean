import TileWalk.Bindings
import TileWalk.World

/-!
# Sessions

A session is a world together with the variables of the program, the state of its run, the pace of
the game, and the flag that asks a run to stop.
-/

namespace TileWalk

inductive RunState where
  | idle
  | running
  | stopping
deriving DecidableEq, Repr

def RunState.name : RunState → String
  | .idle => "idle"
  | .running => "running"
  | .stopping => "stopping"

namespace Speed

/-- The seconds between two steps when nothing else is asked for. -/
def standard : Float := 0.5

/-- The least number of seconds between two steps. -/
def least : Float := 0.05

/-- The greatest number of seconds between two steps. -/
def greatest : Float := 5.0

/-- How much one key press changes the pace. -/
def increment : Float := 0.1

/-- The pace closest to a wish. What is no number counts as the greatest. -/
def clamp (wish : Float) : Float :=
  let capped := if wish < greatest then wish else greatest
  if capped > least then capped else least

end Speed

structure Session where
  world : World
  bindings : Bindings := .empty
  state : RunState := .idle
  speed : Float := Speed.standard
  stopRequested : Bool := false

namespace Session

/-- Forgets the variables and the state of the run, and puts a fresh agent at the start. -/
def resetPosition (session : Session) : Session :=
  { session with
    bindings := .empty
    state := .idle
    stopRequested := false
    world := session.world.resetAgent }

def load (session : Session) (grid : Grid) : Session :=
  { session with world := session.world.load grid }

/-- Sets the pace to the permitted one closest to a wish. -/
def setSpeed (session : Session) (wish : Float) : Session :=
  { session with speed := Speed.clamp wish }

end Session

end TileWalk
