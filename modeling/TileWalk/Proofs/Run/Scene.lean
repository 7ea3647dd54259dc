import TileWalk.Run.Scheduler

/-!
# Scenes

A scene is a game with all calls of the scheduler that are under way. Each of the
two threads has a stack of them, every one paused: at a notice, where whoever is
told may make another call, come back, or give up with an error; or waiting for
the end of a run; or about to hand a program to the worker. Between two pauses a
call runs undisturbed, and any thread that can go on may be the next.
-/

namespace TileWalk

open Process Course

/-- The calls of the scheduler. -/
inductive Call where
  | run (source : Text)
  | runAsync (source : Text)
  | stop
  | join
  /-- Asks whether the run has ended. -/
  | poll
  | resetPosition
  | fullReset (grid : Option Grid) (draws : Option Random.Draws)
  | loadMap (grid : Grid)

namespace Call

/-- What a call does, without its answer. -/
def course : Call → Course Unit
  | .run source => do
    let _ ← Scheduler.run source
    return
  | .runAsync source => do
    let _ ← Scheduler.runAsync source
    return
  | .stop => Scheduler.stop
  | .join => Scheduler.join
  | .poll => do
    let _ ← Scheduler.isIdle
    return
  | .resetPosition => Scheduler.resetPosition
  | .fullReset grid draws => Scheduler.fullReset grid draws
  | .loadMap grid => Scheduler.loadMap grid

def asksForRun : Call → Bool
  | .run _ | .runAsync _ => true
  | _ => false

end Call

/-- A call that is paused. -/
structure Frame where
  /-- The call asked for a run, and the run was accepted: a refused one does not
  pause. -/
  isRun : Bool
  point : Point
  resume : Except Fault Unit → Game → Activity Point Game Fault Unit

/-- A worker that has been handed a program and has not begun. -/
def Frame.ready (lines : List SourceLine) : Frame where
  isRun := true
  point := .signal .held
  resume := fun _ => Scheduler.execute lines

/-- A run becomes idle again with its last notice. One that ends at another notice
never does. -/
def Frame.strands (frame : Frame) : Bool :=
  match frame.point with
  | .notice notice => frame.isRun && notice ≠ .ended
  | .signal _ => false

/-- A game, the calls under way on each thread with the innermost first, and the
number of runs that have ended without becoming idle again. -/
structure Scene where
  game : Game
  controller : List Frame := []
  worker : List Frame := []
  stranded : Nat := 0

namespace Scene

def stack (scene : Scene) : Thread → List Frame
  | .controller => scene.controller
  | .worker => scene.worker

def frames (scene : Scene) : List Frame :=
  scene.controller ++ scene.worker

def withStack (scene : Scene) (frames : List Frame) : Thread → Scene
  | .controller => { scene with controller := frames }
  | .worker => { scene with worker := frames }

def turn (scene : Scene) (thread : Thread) : Game :=
  { scene.game with current := thread }

/-- The number of runs that have been accepted and have not become idle again. -/
def activeRuns (scene : Scene) : Nat :=
  scene.controller.countP (·.isRun) + scene.worker.countP (·.isRun) + scene.stranded

/-- A call is made on a thread, up to its first pause. -/
def make (scene : Scene) (thread : Thread) (call : Call) : Scene :=
  match call.course (scene.turn thread) with
  | .done _ game => { scene with game }
  | .paused point game resume =>
    { scene with game }.withStack
      ({ isRun := call.asksForRun, point, resume } :: scene.stack thread) thread

/-- The innermost call of a thread goes on, up to its next pause. -/
def resume (scene : Scene) (thread : Thread) (frame : Frame) (rest : List Frame)
    (reply : Except Fault Unit) : Scene :=
  match frame.resume reply (scene.turn thread) with
  | .done _ game =>
    { scene with game, stranded := scene.stranded + frame.strands.toNat }.withStack rest thread
  | .paused point game resume =>
    { scene with game }.withStack ({ frame with point, resume } :: rest) thread

/-- A thread can make calls: the controller when none of its own is under way, and
any thread that has been given a notice. -/
inductive Listens (scene : Scene) : Thread → Prop
  | controller : scene.controller = [] → Listens scene .controller
  | notified {thread : Thread} {frame : Frame} {rest : List Frame} {notice : Notice} :
    scene.stack thread = frame :: rest → frame.point = .notice notice → Listens scene thread

/-- What can happen next. -/
inductive Step (scene : Scene) : Scene → Prop
  | call {thread : Thread} (call : Call) :
    scene.Listens thread → Step scene (scene.make thread call)
  /-- Whoever was told comes back, or gives up with an error. -/
  | reply {thread : Thread} {frame : Frame} {rest : List Frame} {notice : Notice}
      (reply : Except Fault Unit) :
    scene.stack thread = frame :: rest → frame.point = .notice notice →
    Step scene (scene.resume thread frame rest reply)
  /-- A thread that waits for the end of the run goes on after it. -/
  | wake {thread : Thread} {frame : Frame} {rest : List Frame} :
    scene.stack thread = frame :: rest → frame.point = .signal .await → scene.game.idle = true →
    Step scene (scene.resume thread frame rest (.ok ()))
  /-- The worker is handed a program. -/
  | start {thread : Thread} {frame : Frame} {rest : List Frame} {lines : List SourceLine} :
    scene.stack thread = frame :: rest → frame.point = .signal (.start lines) →
    scene.worker = [] →
    Step scene ((scene.resume thread frame rest (.ok ())).withStack [Frame.ready lines] .worker)
  /-- The worker begins with its program. -/
  | begin {frame : Frame} {rest : List Frame} :
    scene.worker = frame :: rest → frame.point = .signal .held →
    Step scene (scene.resume .worker frame rest (.ok ()))
  /-- Something else changes, but nothing that governs runs. -/
  | outside {game : Game} :
    game.session.state = scene.game.session.state →
    game.session.stopRequested = scene.game.session.stopRequested →
    game.idle = scene.game.idle → game.runner = scene.game.runner →
    Step scene { scene with game }

/-- The scenes that can come about from a free game. -/
inductive Reachable : Scene → Prop
  | opened {game : Game} : game.session.state = .idle → game.idle = true → Reachable { game }
  | step {scene next : Scene} : Reachable scene → Step scene next → Reachable next

end Scene

end TileWalk
