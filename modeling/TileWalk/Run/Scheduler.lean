import TileWalk.Run.Interpreter

/-!
# Runs

At most one run is under way at a time; a second one is refused. A run can be driven by the thread
that asks for it or handed to the worker. Stopping is a request that the run takes notice of before
the next statement or step. Resets stop the run that is under way and wait for its end, except on
the very thread that drives it.
-/

namespace TileWalk

namespace Scheduler

open Process Course TileWalk.Random

/-- Takes the session for a run, if no run is under way. -/
def claim (runner : Thread) : Course Bool := do
  let game ← state
  if game.session.state ≠ .idle || !game.idle then
    log .debug "Run ignored; a program is already running."
    return false
  else
    update fun game => { game with
      session := { game.session with
        state := .running
        stopRequested := false
        bindings := .empty }
      runner := some runner
      idle := false }
    return true

/-- Reads a line and carries it out. -/
def executeLine (line : SourceLine) : Course Bool :=
  match Statement.parse line.text with
  | .ok statement => Interpreter.execute statement
  | .error error => fail (.statement error)

/-- Carries out the lines of a program, with a tick between two of them. An error in a statement is
told to the player and ends the run. -/
def dispatch : List SourceLine → Course Unit
  | [] => pure ()
  | line :: rest => do
    if (← state).session.stopRequested then return
    notify (.highlight (some line.lineNumber))
    match ← outcome (executeLine line) with
    | .ok true =>
      if rest.isEmpty then return
      if ← Interpreter.tick then dispatch rest else return
    | .ok false => return
    | .error (.statement error) =>
      log .info (s!"Line {line.lineNumber + 1} failed: " ++ error.message)
      notify (.output { text := "Error: " ++ error.message, kind := .error })
    | .error fault => fail fault

/-- The end of a run whose program ended with a result: the highlight is cleared and the session
becomes idle; the run is over after its observer has been told. -/
def close (result : Except Fault Unit) : Course Unit := do
  notify (.highlight none)
  update (Game.onSession fun session => { session with state := .idle })
  log .info "Run ended."
  let closing ← outcome (notify .ended)
  update fun game => { game with idle := true }
  ofOutcome closing
  ofOutcome result

/-- A whole run of a claimed session, which is closed however the program ends. -/
def execute (lines : List SourceLine) : Course Unit := do
  log .info s!"Run started with {lines.length} statements."
  let result ← outcome do
    notify .started
    dispatch lines
  close result

/-- Runs a program on the thread that asks for it. The answer is whether it was accepted. -/
def run (source : Text) : Course Bool := do
  let lines := SourceLine.ofSource source
  if lines.isEmpty then return false
  if ← claim (← state).current then
    execute lines
    return true
  else
    return false

/-- Hands a program to the worker. The answer is whether it was accepted. -/
def runAsync (source : Text) : Course Bool := do
  let lines := SourceLine.ofSource source
  if lines.isEmpty then return false
  if ← claim .worker then
    yield (.start lines)
    return true
  else
    return false

/-- Asks the run that is under way to stop. -/
def stop : Course Unit := do
  if (← state).session.state = .running then
    update (Game.onSession fun session => { session with state := .stopping, stopRequested := true })
    log .info "Stop requested."

def isIdle : Course Bool := do
  return (← state).idle

/-- Waits for the end of the run that is under way, except on the thread that drives it. -/
def join : Course Unit := do
  let game ← state
  if game.runner = some game.current then return
  if game.idle then return
  yield .await
  if !(← isIdle) then fail .deadlock

/-- Clears the highlight and shows the map again. -/
def announce : Course Unit := do
  notify (.highlight none)
  notify .redraw

/-- Ends the run that is under way and puts the agent back at the start. -/
def resetPosition : Course Unit := do
  stop
  join
  update (Game.onSession Session.resetPosition)
  announce

/-- A grid for a new map: the given one, or the first of the library where it is to be used. -/
def chooseGrid (grid : Option Grid) (useLibrary : Bool) : Course (Option Grid) := do
  match grid with
  | some grid => return some grid
  | none =>
    if useLibrary then
      let library := (← state).library
      withArchive library.first
    else
      return none

/-- A random map from the given draws, or else from those of the game, which are then used up. -/
def drawGrid (draws : Option Draws) : Course Grid := fun game =>
  match MapPlan.generate {} (draws.getD game.draws) with
  | .ok made =>
    let logged := game.push (.logged ⟨.debug, .mapGeneration, made.report⟩)
    .done (.ok made.grid) (if draws.isSome then logged else { logged with draws := made.draws })
  | .error error =>
    .done (.error (.generation error))
      (if draws.isSome then game else { game with draws := game.draws.drained })

/-- Puts the agent back at the start and exchanges the map. The library is read before anything is
changed; a random map is made after the agent was put back. -/
def resetSession (grid : Option Grid) (useLibrary : Bool) (draws : Option Draws) : Course Unit := do
  let chosen ← chooseGrid grid useLibrary
  update (Game.onSession Session.resetPosition)
  let fresh ← match chosen with
    | some grid => pure grid
    | none => drawGrid draws
  update (Game.onSession (·.load fresh))

/-- Ends the run that is under way and starts over on another map. -/
def fullReset (grid : Option Grid) (draws : Option Draws) : Course Unit := do
  stop
  join
  resetSession grid (← state).usesLibrary draws
  announce

def loadMap (grid : Grid) : Course Unit := do
  update (Game.onSession (·.load grid))
  notify .redraw

end Scheduler

end TileWalk
