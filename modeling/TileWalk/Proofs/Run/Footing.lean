import TileWalk.Proofs.Map.Board
import TileWalk.Proofs.Run.Likeness
import TileWalk.Proofs.Run.Scene

/-!
# The agent stays on the board

Nothing that looks up a map checks the place: a negative coordinate counts from the far
end, and one that is too large is an error. All the same the agent never leaves the
board and no place off it is looked up, although maps are exchanged and the agent is put
back while a step is under way.
-/

namespace TileWalk

open Process Course

/-- The agent stands on the board, where it is headed, and the board bounds its walk. -/
structure World.Footed (world : World) : Prop where
  size : world.size = Grid.standardSize
  position : world.agent.position.OnBoard
  target : world.agent.target = world.agent.position

theorem World.Footed.inside {world : World} (footed : world.Footed) {place : Position}
    (inside : world.isOutOfBounds place = false) : place.OnBoard := by
  simp only [World.isOutOfBounds, footed.size, Bool.or_eq_false_iff, decide_eq_false_iff_not]
    at inside
  constructor <;> omega

theorem World.footed_start {world : World} (size : world.size = Grid.standardSize)
    (start : world.agent = {}) : world.Footed where
  size := size
  position := by
    rw [start]
    constructor <;> decide
  target := by rw [start]

/-- Maps with the same board, looked up on the board alone. A lookup fails for nobody who
was not given that very error. -/
def Terrain.board (raised : Fault → Prop) : Terrain where
  maps := Grid.SameBoard
  stands := World.Footed
  seen := Position.OnBoard
  harmless fault := (∀ error, fault ≠ .grid error) ∨ raised fault
  look := by
    intro grid other place same onBoard
    rcases same place onBoard with ⟨tile, found, found'⟩
    rw [found, found']
    exact ⟨rfl, by simp⟩
  step := by
    intro world place footed inside
    exact ⟨footed.inside inside, footed.size, footed.inside inside, rfl⟩
  die footed := ⟨footed.size, footed.position, footed.target⟩
  start footed := World.footed_start footed.size rfl
  load grid footed := ⟨footed.size, footed.position, footed.target⟩
  mild := .inl
  square := Grid.WellFormed.sameBoard

/-- The games differ only in what their maps hold off the board, and in the thread that drove
a run which is over. -/
abbrev Game.BoardAlike (raised : Fault → Prop) : Game → Game → Prop :=
  Like (.board raised) [] []

/-- The agent has its footing, and there are tiles all over the board. -/
structure Game.OnBoard (game : Game) : Prop where
  footed : game.session.world.Footed
  tiled : game.session.world.grid.SameBoard game.session.world.grid

section Alike

variable {raised : Fault → Prop} {game other : Game}

theorem Game.OnBoard.like (onBoard : game.OnBoard) {grid : Grid}
    (same : game.session.world.grid.SameBoard grid) :
    game.BoardAlike raised (game.onWorld (·.load grid)) := by
  have like : game.BoardAlike raised _ :=
    .mk game.trace same onBoard.footed (.inr rfl) (List.append_nil _).symm
  rw [List.append_nil] at like
  exact like

theorem Game.OnBoard.alike (onBoard : game.OnBoard) : game.BoardAlike raised game :=
  onBoard.like onBoard.tiled

theorem Game.Like.onBoard (like : game.BoardAlike raised other) : game.OnBoard := by
  rcases like.session with ⟨grid, same, -⟩
  exact ⟨like.stands, Grid.SameBoard.left same⟩

end Alike

/-! ## What may happen -/

/-- The maps that a call is given have the usual size. -/
def Call.Fitting : Call → Prop
  | .fullReset (some grid) _ | .loadMap grid => grid.WellFormed Grid.standardSize
  | _ => True

/-- A paused call that goes on alike in games with the same board. -/
def Frame.Careful (raised : Fault → Prop) (frame : Frame) : Prop :=
  ∀ reply, Bears (Terrain.board raised).harmless reply →
    Course.Indifferent (.board raised) [] [] (frame.resume reply)

theorem Call.course_indifferent {raised : Fault → Prop} {call : Call} (fitting : call.Fitting) :
    Course.Indifferent (.board raised) [] [] call.course := by
  cases call with
  | run source => exact (Scheduler.run_indifferent source).bind fun _ => Process.Matches.pure ()
  | runAsync source =>
      exact (Scheduler.runAsync_indifferent source).bind fun _ => Process.Matches.pure ()
  | stop => exact Scheduler.stop_indifferent
  | join => exact Scheduler.join_indifferent
  | poll => exact Scheduler.isIdle_indifferent.bind fun _ => Process.Matches.pure ()
  | resetPosition => exact Scheduler.resetPosition_indifferent
  | fullReset grid draws =>
      apply Scheduler.fullReset_indifferent
      rintro given rfl
      exact Grid.WellFormed.sameBoard fitting
  | loadMap grid => exact Scheduler.loadMap_indifferent (Grid.WellFormed.sameBoard fitting)

namespace Scene

/-- What can happen next. A thread may go on or make a call at any time. -/
inductive Venture (raised : Fault → Prop) (scene : Scene) : Scene → Prop
  | call {call : Call} (thread : Thread) :
    call.Fitting → Venture raised scene (scene.make thread call)
  /-- The innermost call of a thread goes on, with an error that was raised or none. -/
  | resume {thread : Thread} {frame : Frame} {rest : List Frame} {reply : Except Fault Unit} :
    scene.stack thread = frame :: rest → Bears (Terrain.board raised).harmless reply →
    Venture raised scene (scene.resume thread frame rest reply)
  /-- The worker is handed a program. -/
  | start (lines : List SourceLine) :
    Venture raised scene (scene.withStack (Frame.ready lines :: scene.worker) .worker)
  /-- Something else changes, but not the world. -/
  | outside {game : Game} :
    game.session.world = scene.game.session.world → Venture raised scene { scene with game }

/-- The scenes that can come about from a new session on a map of the usual size. -/
inductive Ventured (raised : Fault → Prop) : Scene → Prop
  | opened {game : Game} {grid : Grid} :
    grid.WellFormed Grid.standardSize → game.session.world = { grid } → Ventured raised { game }
  | step {scene next : Scene} :
    Ventured raised scene → scene.Venture raised next → Ventured raised next

/-- What a thread can do next: make another call, or go on with its innermost one. -/
inductive Goes (raised : Fault → Prop) (scene : Scene) (thread : Thread) : Course Unit → Prop
  | call {call : Call} : call.Fitting → Goes raised scene thread call.course
  | resume {frame : Frame} {rest : List Frame} {reply : Except Fault Unit} :
    scene.stack thread = frame :: rest → Bears (Terrain.board raised).harmless reply →
    Goes raised scene thread (frame.resume reply)

/-- The agent is on the board, and so it stays when the calls under way go on. -/
structure OnBoard (raised : Fault → Prop) (scene : Scene) : Prop where
  game : scene.game.OnBoard
  frames : ∀ thread, ∀ frame ∈ scene.stack thread, frame.Careful raised

variable {raised : Fault → Prop} {scene : Scene} {thread : Thread}

theorem OnBoard.top (onBoard : scene.OnBoard raised) {frame : Frame} {rest : List Frame}
    (top : scene.stack thread = frame :: rest) : frame.Careful raised :=
  onBoard.frames thread frame (top ▸ List.mem_cons_self)

theorem OnBoard.below (onBoard : scene.OnBoard raised) {frame : Frame} {rest : List Frame}
    (top : scene.stack thread = frame :: rest) : ∀ frame ∈ rest, frame.Careful raised := by
  intro frame membership
  exact onBoard.frames thread frame (top ▸ List.mem_cons_of_mem _ membership)

theorem OnBoard.turn (onBoard : scene.OnBoard raised) (thread : Thread) :
    (scene.turn thread).OnBoard :=
  ⟨onBoard.game.footed, onBoard.game.tiled⟩

/-- The calls of one thread change. -/
theorem OnBoard.replace (onBoard : scene.OnBoard raised) {game : Game} (stranded : Nat)
    {frames : List Frame} (stands : game.OnBoard) (careful : ∀ frame ∈ frames, frame.Careful raised) :
    (Scene.withStack { scene with game, stranded } frames thread).OnBoard raised := by
  refine ⟨by cases thread <;> exact stands, ?_⟩
  intro other frame membership
  by_cases same : other = thread
  · subst same
    apply careful
    cases other <;> exact membership
  · apply onBoard.frames other
    cases thread <;> cases other <;> first | exact membership | exact absurd rfl same

/-- Whatever goes on next does so alike on the same board. -/
theorem OnBoard.indifferent (onBoard : scene.OnBoard raised) {course : Course Unit}
    (goes : scene.Goes raised thread course) : Course.Indifferent (.board raised) [] [] course := by
  cases goes with
  | call fitting => exact Call.course_indifferent fitting
  | resume top bears => exact onBoard.top top _ bears

theorem OnBoard.make (onBoard : scene.OnBoard raised) (thread : Thread) {call : Call}
    (fitting : call.Fitting) : (scene.make thread call).OnBoard raised := by
  have next : scene.Goes raised thread call.course := .call fitting
  have goes := onBoard.indifferent next _ _ (onBoard.turn thread).alike
  simp only [Scene.make]
  cases activity : call.course (scene.turn thread) with
  | done result game =>
      rw [activity] at goes
      exact ⟨goes.done_self.2.onBoard, onBoard.frames⟩
  | paused point game resume =>
      rw [activity] at goes
      apply onBoard.replace _ goes.paused_self.1.onBoard
      rw [List.forall_mem_cons]
      exact ⟨goes.paused_self.2, onBoard.frames thread⟩

theorem OnBoard.resume (onBoard : scene.OnBoard raised) {frame : Frame} {rest : List Frame}
    {reply : Except Fault Unit} (top : scene.stack thread = frame :: rest)
    (bears : Bears (Terrain.board raised).harmless reply) :
    (scene.resume thread frame rest reply).OnBoard raised := by
  have goes := onBoard.indifferent (.resume top bears) _ _ (onBoard.turn thread).alike
  simp only [Scene.resume]
  cases activity : frame.resume reply (scene.turn thread) with
  | done result game =>
      rw [activity] at goes
      exact onBoard.replace _ goes.done_self.2.onBoard (onBoard.below top)
  | paused point game resume =>
      rw [activity] at goes
      apply onBoard.replace _ goes.paused_self.1.onBoard
      rw [List.forall_mem_cons]
      exact ⟨goes.paused_self.2, onBoard.below top⟩

theorem Venture.onBoard {next : Scene} (venture : scene.Venture raised next)
    (onBoard : scene.OnBoard raised) : next.OnBoard raised := by
  cases venture with
  | call thread fitting => exact onBoard.make thread fitting
  | resume top bears => exact onBoard.resume top bears
  | start lines =>
      apply onBoard.replace scene.stranded onBoard.game
      rw [List.forall_mem_cons]
      exact ⟨fun _ _ => Scheduler.execute_indifferent lines, onBoard.frames .worker⟩
  | @outside game world =>
      have stands : game.OnBoard := ⟨world ▸ onBoard.game.footed, world ▸ onBoard.game.tiled⟩
      exact ⟨stands, onBoard.frames⟩

/-- The agent is on the board in every scene that comes about. -/
theorem Ventured.onBoard (ventured : scene.Ventured raised) : scene.OnBoard raised := by
  induction ventured with
  | @opened game grid square fresh =>
      have stands : game.OnBoard := by
        constructor
        · rw [fresh]
          exact World.footed_start rfl rfl
        · rw [fresh]
          exact square.sameBoard
      exact ⟨stands, fun thread frame membership => by cases thread <;> cases membership⟩
  | step _ venture ih => exact venture.onBoard ih

/-- The innermost call of a thread goes on undisturbed, if there is one. -/
def proceed (scene : Scene) (thread : Thread) : Scene :=
  match scene.stack thread with
  | [] => scene
  | frame :: rest => scene.resume thread frame rest (.ok ())

theorem Ventured.proceed (ventured : scene.Ventured raised) (thread : Thread) :
    (scene.proceed thread).Ventured raised := by
  simp only [Scene.proceed]
  split
  · exact ventured
  · next frame rest top => exact ventured.step (.resume top trivial)

end Scene

/-- However calls on both threads follow each other and lie within each other, from a new
session on a map of the usual size, the agent is on the board, where it is headed, and
there are tiles all over the board. Nothing that goes on next ends with the error of a
lookup, unless somebody who was told has raised that error. To its very end it does the
same on all maps with the same board, and these hold any cell at any place off it: no such
place is looked up. -/
theorem lookups_on_board {raised : Fault → Prop} {scene : Scene}
    (ventured : scene.Ventured raised) :
    let world := scene.game.session.world
    world.agent.position.OnBoard ∧ world.agent.target = world.agent.position ∧
    (∀ place : Position, place.OnBoard → ∃ tile, world.cellAt place = .ok (.tile tile)) ∧
    (∀ thread course, scene.Goes raised thread course →
      (∀ error last, course (scene.turn thread) = .done (.error (.grid error)) last →
        raised (.grid error)) ∧
      ∀ other, world.grid.SameBoard other →
        (course (scene.turn thread)).Matches (Game.BoardAlike raised)
          (Terrain.board raised).harmless
          (course ((scene.turn thread).onWorld (·.load other)))) ∧
    ∀ place : Position, ¬ place.OnBoard → ∀ cell,
      ∃ other, world.grid.SameBoard other ∧ other.cellAt place = .ok cell := by
  have onBoard := ventured.onBoard
  refine ⟨onBoard.game.footed.position, onBoard.game.footed.target, ?_, ?_, ?_⟩
  · intro place inside
    rcases onBoard.game.tiled place inside with ⟨tile, found, -⟩
    exact ⟨tile, found⟩
  · intro thread course goes
    have indifferent := onBoard.indifferent goes
    constructor
    · intro error last ends
      have matching := indifferent _ _ (onBoard.turn thread).alike
      rw [ends] at matching
      exact matching.done_self.1.resolve_left (fun other => other error rfl)
    · intro other same
      exact indifferent _ _ ((onBoard.turn thread).like same)
  · intro place off cell
    exact onBoard.game.tiled.exists_off off cell

/-- A map is loaded while a step is shown. -/
theorem lookups_on_board_exchanged :
    let started := Scene.make { game := Game.onGrass Grid.standardSize } .controller
      (.run "move_right()\nmove_up()")
    let scene := ((started.proceed .controller).proceed .controller).make .controller
      (.loadMap (Grid.empty Grid.standardSize))
    scene.Ventured (fun _ => False) ∧ scene.controller.length = 2 ∧
      scene.game.session.world.agent.position = ⟨1, 0⟩ ∧
      scene.game.session.world.agent.target = ⟨1, 0⟩ ∧
      ∀ course, scene.Goes (fun _ => False) .controller course →
        ∀ error last, course (scene.turn .controller) ≠ .done (.error (.grid error)) last := by
  intro started scene
  have square := Grid.empty_square Grid.standardSize
  have program : (Call.run "move_right()\nmove_up()").Fitting := trivial
  have exchange : (Call.loadMap (Grid.empty Grid.standardSize)).Fitting := square
  have opened : Scene.Ventured (fun _ => False) { game := Game.onGrass Grid.standardSize } :=
    .opened square rfl
  have running : started.Ventured _ := opened.step (.call .controller program)
  have shown := (running.proceed .controller).proceed .controller
  have ventured : scene.Ventured _ := shown.step (.call .controller exchange)
  have place : scene.game.session.world.agent.position = ⟨1, 0⟩ := by decide +kernel
  rcases lookups_on_board ventured with ⟨-, target, -, goes, -⟩
  refine ⟨ventured, by decide +kernel, place, target.trans place, ?_⟩
  intro course next error last ends
  exact (goes .controller course next).1 error last ends

end TileWalk
