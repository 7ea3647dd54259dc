import TileWalk.Run.Observer

/-!
# Turns of the two threads

The controller carries out one play after another. A worker that it starts runs at once until it is
held or ends; a worker that is held waits until the controller gives it a turn, waits for its end,
or has asked its run to stop.
-/

namespace TileWalk

/-- What a held worker will do at its next turn. -/
abbrev Held := Game → Activity Signal Game Fault Unit

/-- A game and the worker that is held, if there is one. -/
structure Stage where
  game : Game
  held : Option Held := none

namespace Stage

/-- The game after a worker has ended. -/
def afterWorker (result : Except Fault Unit) (game : Game) : Game :=
  let noted := match result with
    | .ok () => game
    | .error fault => game.push (.workerFailed fault)
  { noted with current := .controller }

/-- Lets the worker go on until it is held or ends. -/
def workerTurn : Activity Signal Game Fault Unit → Stage
  | .done result game => { game := afterWorker result game }
  | .paused .held game resume => { game := { game with current := .controller }, held := some (resume (.ok ())) }
  | .paused (.start _) game resume => workerTurn (resume (.ok ()) game)
  | .paused .release game resume => workerTurn (resume (.ok ()) game)
  | .paused .await game resume => workerTurn (resume (.ok ()) game)

/-- Lets the worker go on to its end. -/
def workerEnd : Activity Signal Game Fault Unit → Game
  | .done result game => afterWorker result game
  | .paused _ game resume => workerEnd (resume (.ok ()) game)

def handTo (game : Game) : Game :=
  { game with current := .worker }

/-- Carries on with an activity of the controller; `work` is what the worker does with a program. -/
def conduct {α : Type} (work : List SourceLine → Play Unit) :
    Activity Signal Game Fault α → Option Held → Except Fault α × Stage
  | .done result game, held => (result, { game, held })
  | .paused (.start lines) game resume, _ =>
    let stage := workerTurn (work lines (handTo game))
    conduct work (resume (.ok ()) stage.game) stage.held
  | .paused .release game resume, some held =>
    let stage := workerTurn (held (handTo game))
    conduct work (resume (.ok ()) stage.game) stage.held
  | .paused .await game resume, some held =>
    conduct work (resume (.ok ()) (workerEnd (held (handTo game)))) none
  | .paused .release game resume, none => conduct work (resume (.ok ()) game) none
  | .paused .await game resume, none => conduct work (resume (.ok ()) game) none
  | .paused .held game resume, held => conduct work (resume (.ok ()) game) held

/-- Lets a held worker notice that its run has been asked to stop. -/
def settle (stage : Stage) : Stage :=
  match stage.held with
  | some held =>
    if stage.game.session.stopRequested then workerTurn (held (handTo stage.game)) else stage
  | none => stage

/-- Carries out a course of the controller. An observer is told of it and of the worker's runs. -/
def perform {α : Type} (observer : Observer) (course : Course α) (stage : Stage) :
    Except Fault α × Stage :=
  let work := fun lines => (Scheduler.execute lines).attend observer
  let (result, after) := conduct work (course.attend observer stage.game) stage.held
  (result, after.settle)

/-- Lets a held worker go on to its end. -/
def finish (stage : Stage) : Stage :=
  match stage.held with
  | some held => { game := workerEnd (held (handTo stage.game)) }
  | none => stage

end Stage

end TileWalk
