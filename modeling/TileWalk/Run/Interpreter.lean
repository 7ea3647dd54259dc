import TileWalk.Run.Game

/-!
# Carrying out statements

Statements bind variables, put out lines and move the agent step by step. Every step of a movement
is shown and followed by a tick, in which the run may be asked to stop.
-/

namespace TileWalk

namespace Obstacle

/-- What is said of an agent that leaves the map. -/
def outOfBounds : String := "Status: Out of bounds! Character died."

/-- What is said of an agent that walks into a wall. -/
def wall : String := "Status: Hit a wall! Character died."

/-- What is said of an agent that falls into water. -/
def water : String := "Status: Fell in water! Character died."

/-- What is said of an agent that reaches the goal. -/
def victory : String := "Status: Reached the goal! Victory!"

/-- What is said of a blocking cell. -/
def ofCell (cell : Cell) : String :=
  if cell = .tile .wall then wall else water

end Obstacle

namespace Interpreter

open Process Course

/-- One tick: whether the run may go on after it. -/
def tick : Course Bool := do
  notify .wait
  return !(← state).session.stopRequested

/-- The number of steps that an argument asks for. A variable of that name comes first, then a
numeral; anything else, and any number below one, is a single step. -/
def resolveSteps (bindings : Bindings) (argument : Option Text) : Except Numeral.TooLong Int :=
  match argument with
  | none => .ok 1
  | some token =>
    match bindings.get? token with
    | some value => .ok (atLeastOne value)
    | none => if Numeral.isUnsigned token then (Numeral.unsigned token).map (atLeastOne ·) else .ok 1
where
  /-- A number, or one if it is smaller. -/
  atLeastOne (value : Int) : Int := if value ≤ 0 then 1 else value

/-- The value that an assignment binds. A numeral comes first, then a variable. -/
def valueOf (bindings : Bindings) (name value : Text) : Except Fault Int :=
  if Numeral.isUnsigned value then
    match Numeral.unsigned value with
    | .ok number => .ok number
    | .error cause => .error (.longNumeral cause)
  else
    match bindings.get? value with
    | some number => .ok number
    | none => .error (.statement (.invalidAssignment name))

/-- The text that a print puts out. A program binds no number that is too long to be written. -/
def printed (bindings : Bindings) (token : Text) (quoted : Bool) : Text :=
  if quoted then token
  else match bindings.get? token with
    | some value => toString value
    | none => token

/-- The agent dies: it is said why, and shown. -/
def die (message : String) : Course Unit := do
  update (Game.onWorld (·.setDead true))
  notify (.output { text := message, kind := .error })
  notify .redraw

/-- Walks up to so many steps. The answer is whether the agent is to go on. -/
def walk (direction : Direction) : Nat → Course Bool
  | 0 => pure true
  | steps + 1 => do
    let game ← state
    let world := game.session.world
    if game.session.stopRequested || world.agent.dead then return false
    let next := world.agent.position.shift direction.delta
    if world.isOutOfBounds next then
      die Obstacle.outOfBounds
      return false
    let cell ← ofGrid (world.cellAt next)
    if cell.isBlocking then
      die (Obstacle.ofCell cell)
      return false
    update (Game.onWorld (·.place next))
    notify .redraw
    if ← ofGrid ((← state).session.world.isGoal next) then
      notify (.output { text := Obstacle.victory, kind := .success })
      return false
    if ← tick then walk direction steps else return false

/-- Carries out a movement. When all of several steps are made, this is said. -/
def move (direction : Direction) (argument : Option Text) : Course Bool := do
  match resolveSteps (← state).session.bindings argument with
  | .error cause => fail (.longNumeral cause)
  | .ok steps =>
    if ← walk direction steps.toNat then
      if steps > 1 then
        notify (.output { text := s!"Completed {steps} step movement.", kind := .info })
      return true
    else
      return false

/-- Carries out a statement. The answer is whether the run is to go on. -/
def execute : Statement → Course Bool
  | .assign name value => do
    match valueOf (← state).session.bindings name value with
    | .error fault => fail fault
    | .ok number =>
      update (Game.onSession fun session =>
        { session with bindings := session.bindings.set name number })
      return true
  | .print token quoted => do
    let text := printed (← state).session.bindings token quoted
    notify (.output { text, kind := .info })
    return true
  | .move direction argument => move direction argument
  | .remark _ => return true

end Interpreter

end TileWalk
