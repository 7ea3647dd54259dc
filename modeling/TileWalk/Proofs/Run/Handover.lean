import TileWalk.Proofs.Run.Rest
import TileWalk.Proofs.Run.Scene

/-!
# Runs that are handed over

A run that is handed to the worker and waited for does what the same run does on
the thread that asks for it. Whoever is told of it may hold the worker at any
notice, and may make calls and have their results, give up, or come back; only
which thread is at work is not to be seen. A play that does the same on both
threads, as long as they drive the run, is neutral. The statements of a program
are neutral, so are the calls that can be made within a run, and so is whoever
makes them.
-/

namespace TileWalk

open Process Course

/-! ## Observers with a will of their own -/

namespace Game

/-- The game without the marks that say which thread is at work. -/
def anonymous (game : Game) : Game :=
  { game with current := .controller, runner := none }

/-- The game when a thread drives the run and has its turn. -/
def on (game : Game) (thread : Thread) : Game :=
  { game with current := thread, runner := some thread }

@[simp] theorem on_idle (game : Game) (thread : Thread) : (game.on thread).idle = game.idle := rfl

theorem claimed_on {game : Game} (turned : game.current = .controller) :
    (game.claimed .controller).on .controller = game.claimed .controller := by
  rw [on, ← turned]
  rfl

theorem on_stopped (game : Game) (thread : Thread) :
    (game.on thread).stopped = game.stopped.on thread := by
  by_cases running : game.session.state = .running <;>
    simp [stopped, on, onSession, push, running]

end Game

namespace Call

def name : Call → String
  | .run _ => "run"
  | .runAsync _ => "run_async"
  | .stop => "stop"
  | .join => "join"
  | .poll => "poll"
  | .resetPosition => "reset_position"
  | .fullReset _ _ => "full_reset"
  | .loadMap _ => "load_map"

/-- What a call does, with its answer. -/
def perform : Call → Course Answer
  | .run source => return .flag (← Scheduler.run source)
  | .runAsync source => return .flag (← Scheduler.runAsync source)
  | .stop => do
    Scheduler.stop
    return .nothing
  | .join => do
    Scheduler.join
    return .flag (← Scheduler.isIdle)
  | .poll => return .flag (← Scheduler.isIdle)
  | .resetPosition => do
    Scheduler.resetPosition
    return .nothing
  | .fullReset grid draws => do
    Scheduler.fullReset grid draws
    return .nothing
  | .loadMap grid => do
    Scheduler.loadMap grid
    return .nothing

end Call

/-- What someone does who has been told something. -/
inductive Behaviour where
  | comeBack
  | giveUp (fault : Fault)
  /-- Makes a call, and goes on by its result and what the game has become. -/
  | call (made : Call) (next : Except Fault Answer → Game → Behaviour)

/-- Carries out a behaviour. The result of each call is kept as an event. -/
def Behaviour.perform (observer : Observer) : Behaviour → Play Unit
  | .comeBack => pure ()
  | .giveUp fault => fail fault
  | .call made next => do
    let result ← outcome (made.perform.attend observer)
    update (·.push (.answered made.name result))
    let game ← state
    (next result game.anonymous).perform observer

/-- What is done about each notice, by all that can be seen of the game. -/
structure Habit where
  /-- Whether the worker is held when it has given a notice. -/
  holds : Game → Notice → Bool
  behaves : Game → Notice → Behaviour

namespace Habit

def tell (notice : Notice) : Play Unit :=
  update fun game => game.push (game.eventOf notice)

/-- Holds the worker where the habit wants it. -/
def hold (habit : Habit) (notice : Notice) : Play Unit := do
  let game ← state
  if game.current = .worker && habit.holds game.anonymous notice then Process.pause .held

/-- The observer that records each notice and follows a habit, with calls nested up to a
depth. -/
def observer (habit : Habit) : Nat → Observer
  | 0 => tell
  | depth + 1 => fun notice => do
    tell notice
    habit.hold notice
    let game ← state
    (habit.behaves game.anonymous notice).perform (habit.observer depth)

end Habit

/-! ## Plays that do the same on both threads -/

/-- On a thread, an activity comes to a result and a last game. The worker may be held on the
way. -/
inductive Activity.Comes {α : Type} (thread : Thread) (result : Except Fault α) (last : Game) :
    Activity Signal Game Fault α → Prop
  | done : Comes thread result last (.done result last)
  | held {game : Game} {resume : Except Fault Unit → Game → Activity Signal Game Fault α} :
    thread = .worker → game.on .worker = game → game.idle = false →
    Comes thread result last (resume (.ok ()) game) →
    Comes thread result last (.paused .held game resume)

namespace Activity.Comes

variable {α β : Type} {thread : Thread} {result : Except Fault α} {ending : Except Fault β}
  {middle last : Game} {activity : Activity Signal Game Fault α}
  {next : Except Fault α → Game → Activity Signal Game Fault β}

theorem andThen (first : activity.Comes thread result middle)
    (onward : (next result middle).Comes thread ending last) :
    (activity.andThen next).Comes thread ending last := by
  induction first with
  | done => exact onward
  | held worker own busy _ ih => exact .held worker own busy ih

theorem bind {play : Play α} {next : α → Play β} {value : α} {game : Game}
    (first : (play game).Comes thread (.ok value) middle)
    (onward : (next value middle).Comes thread ending last) :
    ((play >>= next) game).Comes thread ending last :=
  first.andThen onward

theorem outcome {play : Play α} {game : Game} (comes : (play game).Comes thread result last) :
    (Process.outcome play game).Comes thread (.ok result) last :=
  comes.andThen .done

/-- The controller is not held. -/
theorem on_controller (comes : activity.Comes .controller result last) :
    activity = .done result last := by
  cases comes with
  | done => rfl
  | held worker => cases worker

end Activity.Comes

/-- Whichever thread drives the run, the play comes to the same, and the run is not over. -/
def Play.Neutral {α : Type} (play : Play α) : Prop :=
  ∀ game : Game, game.idle = false → ∃ (result : Except Fault α) (last : Game),
    last.idle = false ∧ ∀ thread, (play (game.on thread)).Comes thread result (last.on thread)

/-- Whoever is told of a run does not mind which thread drives it. -/
def Observer.Neutral (observer : Observer) : Prop :=
  ∀ notice, Play.Neutral (observer notice)

namespace Play.Neutral

variable {α β : Type} {play : Play α} {next : α → Play β}

theorem of_done (ends : ∀ game : Game, ∃ (result : Except Fault α) (last : Game),
    last.idle = game.idle ∧ ∀ thread, play (game.on thread) = .done result (last.on thread)) :
    Neutral play := by
  intro game busy
  rcases ends game with ⟨result, last, idle, done⟩
  refine ⟨result, last, idle.trans busy, ?_⟩
  intro thread
  rw [done]
  exact .done

theorem pure (value : α) : Neutral (pure value) :=
  of_done fun game => ⟨.ok value, game, rfl, fun _ => rfl⟩

theorem fail (fault : Fault) : Neutral (fail fault : Play α) :=
  of_done fun game => ⟨.error fault, game, rfl, fun _ => rfl⟩

theorem update {change : Game → Game} (keeps : ∀ game, (change game).idle = game.idle)
    (blind : ∀ game thread, change (game.on thread) = (change game).on thread) :
    Neutral (update change) :=
  of_done fun game => ⟨.ok (), change game, keeps game, fun thread => by rw [← blind]; rfl⟩

theorem bind (first : Neutral play) (onward : ∀ value, Neutral (next value)) :
    Neutral (play >>= next) := by
  intro game busy
  rcases first game busy with ⟨result, middle, still, comes⟩
  cases result with
  | error fault => exact ⟨.error fault, middle, still, fun thread => (comes thread).andThen .done⟩
  | ok value =>
      rcases onward value middle still with ⟨ending, last, through, goes⟩
      exact ⟨ending, last, through, fun thread => (comes thread).bind (goes thread)⟩

/-- What reads the game is neutral when it does not look at the threads. -/
theorem state_bind {next : Game → Play α}
    (blind : ∀ game thread, next (Game.on game thread) = next game)
    (onward : ∀ game, Neutral (next game)) : Neutral (Process.state >>= next) := by
  intro game busy
  rcases onward game game busy with ⟨result, last, still, comes⟩
  refine ⟨result, last, still, ?_⟩
  intro thread
  have goes := comes thread
  rw [← blind game thread] at goes
  exact goes

theorem outcome (neutral : Neutral play) : Neutral (Process.outcome play) := by
  intro game busy
  rcases neutral game busy with ⟨result, last, still, comes⟩
  exact ⟨.ok result, last, still, fun thread => (comes thread).outcome⟩

end Play.Neutral

/-! ## Statements -/

namespace Course

variable {α : Type} (observer : Observer)

theorem attend_notify (notice : Notice) : (notify notice).attend observer = observer notice := by
  funext game
  exact Activity.andThen_finished _

theorem attend_outcome (course : Course α) :
    Course.attend (outcome course) observer = outcome (course.attend observer) := by
  funext game
  exact Activity.attend_andThen observer (course game) _

theorem attend_pure (value : α) : (pure value : Course α).attend observer = pure value := rfl

theorem attend_ofOutcome (result : Except Fault α) :
    Course.attend (ofOutcome result) observer = ofOutcome result := by
  cases result <;> rfl

/-- The two threads drive a course alike. -/
abbrev Neutral (course : Course α) : Prop :=
  Play.Neutral (course.attend observer)

variable {observer}

theorem Neutral.bind {β : Type} {course : Course α} {next : α → Course β}
    (first : course.Neutral observer) (onward : ∀ value, (next value).Neutral observer) :
    (course >>= next).Neutral observer := by
  rw [Neutral, attend_bind]
  exact Play.Neutral.bind first onward

theorem Neutral.state_bind {next : Game → Course α}
    (blind : ∀ game thread, next (Game.on game thread) = next game)
    (onward : ∀ game, (next game).Neutral observer) :
    Course.Neutral observer (state >>= next) := by
  rw [Neutral, attend_bind]
  exact Play.Neutral.state_bind (fun game thread => by rw [blind]) onward

theorem Neutral.outcome {course : Course α} (neutral : course.Neutral observer) :
    Course.Neutral observer (outcome course) := by
  rw [Neutral, attend_outcome]
  exact Play.Neutral.outcome neutral

theorem pure_neutral (value : α) : (pure value : Course α).Neutral observer :=
  Play.Neutral.pure value

theorem fail_neutral (fault : Fault) : Course.Neutral observer (fail fault : Course α) :=
  Play.Neutral.fail fault

theorem update_neutral {change : Game → Game} (keeps : ∀ game, (change game).idle = game.idle)
    (blind : ∀ game thread, change (game.on thread) = (change game).on thread) :
    Course.Neutral observer (update change) :=
  Play.Neutral.update keeps blind

theorem onSession_neutral (change : Session → Session) :
    Course.Neutral observer (update (Game.onSession change)) :=
  update_neutral (fun _ => rfl) fun _ _ => rfl

theorem onWorld_neutral (change : World → World) :
    Course.Neutral observer (update (Game.onWorld change)) :=
  update_neutral (fun _ => rfl) fun _ _ => rfl

theorem log_neutral (level : LogLevel) (message : Text) : (log level message).Neutral observer :=
  update_neutral (fun _ => rfl) fun _ _ => rfl

theorem ofGrid_neutral (found : Except GridError α) : (ofGrid found).Neutral observer := by
  cases found with
  | ok value => exact pure_neutral value
  | error error => exact fail_neutral (.grid error)

theorem notify_neutral (told : observer.Neutral) (notice : Notice) :
    (notify notice).Neutral observer := by
  rw [Neutral, attend_notify]
  exact told notice

end Course

namespace Interpreter

variable {observer : Observer}

theorem tick_neutral (told : observer.Neutral) : tick.Neutral observer := by
  apply (notify_neutral told _).bind
  intro _
  exact .state_bind (fun _ _ => rfl) fun _ => pure_neutral _

theorem die_neutral (told : observer.Neutral) (message : String) : (die message).Neutral observer := by
  apply (onWorld_neutral _).bind
  intro _
  apply (notify_neutral told _).bind
  intro _
  exact notify_neutral told _

theorem walk_neutral (told : observer.Neutral) (direction : Direction) (steps : Nat) :
    (walk direction steps).Neutral observer := by
  induction steps with
  | zero => exact pure_neutral true
  | succ left ih =>
      refine Neutral.state_bind (fun _ _ => rfl) ?_
      intro game
      dsimp only
      split
      · exact pure_neutral false
      split
      · exact (die_neutral told _).bind fun _ => pure_neutral false
      apply (ofGrid_neutral _).bind
      intro cell
      split
      · exact (die_neutral told _).bind fun _ => pure_neutral false
      apply (onWorld_neutral _).bind
      intro _
      apply (notify_neutral told _).bind
      intro _
      refine Neutral.state_bind (fun _ _ => rfl) ?_
      intro moved
      apply (ofGrid_neutral _).bind
      intro reached
      split
      · exact (notify_neutral told _).bind fun _ => pure_neutral false
      apply (tick_neutral told).bind
      intro free
      split
      · exact ih
      · exact pure_neutral false

theorem move_neutral (told : observer.Neutral) (direction : Direction) (argument : Option Text) :
    (move direction argument).Neutral observer := by
  refine Neutral.state_bind (fun _ _ => rfl) ?_
  intro game
  split
  · exact fail_neutral _
  apply (walk_neutral told direction _).bind
  intro made
  split
  · split
    · exact (notify_neutral told _).bind fun _ => pure_neutral true
    · exact pure_neutral true
  · exact pure_neutral false

theorem execute_neutral (told : observer.Neutral) (statement : Statement) :
    (execute statement).Neutral observer := by
  cases statement with
  | assign name value =>
      refine Neutral.state_bind (fun _ _ => rfl) ?_
      intro game
      split
      · exact fail_neutral _
      · exact (onSession_neutral _).bind fun _ => pure_neutral true
  | print token quoted =>
      refine Neutral.state_bind (fun _ _ => rfl) ?_
      intro game
      exact (notify_neutral told _).bind fun _ => pure_neutral true
  | move direction argument => exact move_neutral told direction argument
  | remark text => exact pure_neutral true

end Interpreter

/-! ## Programs and calls within a run -/

namespace Scheduler

variable {observer : Observer}

theorem executeLine_neutral (told : observer.Neutral) (line : SourceLine) :
    (executeLine line).Neutral observer := by
  simp only [executeLine]
  split
  · exact Interpreter.execute_neutral told _
  · exact fail_neutral _

theorem dispatch_neutral (told : observer.Neutral) (lines : List SourceLine) :
    (dispatch lines).Neutral observer := by
  induction lines with
  | nil => exact pure_neutral ()
  | cons line rest ih =>
      refine Neutral.state_bind (fun _ _ => rfl) ?_
      intro game
      split
      · exact pure_neutral ()
      apply (notify_neutral told _).bind
      intro _
      apply (executeLine_neutral told line).outcome.bind
      intro result
      split
      · split
        · exact pure_neutral ()
        apply (Interpreter.tick_neutral told).bind
        intro free
        split
        · exact ih
        · exact pure_neutral ()
      · exact pure_neutral ()
      · exact (log_neutral _ _).bind fun _ => notify_neutral told _
      · exact fail_neutral _

/-- What a run does for its program before it closes. -/
def program (lines : List SourceLine) : Course Unit := do
  notify .started
  dispatch lines

theorem program_neutral (told : observer.Neutral) (lines : List SourceLine) :
    (program lines).Neutral observer :=
  (notify_neutral told _).bind fun _ => dispatch_neutral told lines

section Calls

variable {source : Text}

theorem runAsync_blank (blank : SourceLine.ofSource source = []) (game : Game) :
    runAsync source game = .done (.ok false) game := by
  simp [runAsync, blank]

theorem runAsync_busy (filled : SourceLine.ofSource source ≠ []) {game : Game}
    (busy : ¬ game.Free) : runAsync source game = .done (.ok false) game.refused := by
  simp [runAsync, filled, claim_busy busy]

/-- A second run is refused, whichever thread asks for it. -/
theorem refused_neutral {start : Course Bool}
    (blank : SourceLine.ofSource source = [] → ∀ game, start game = .done (.ok false) game)
    (refused : SourceLine.ofSource source ≠ [] → ∀ game : Game, ¬ game.Free →
      start game = .done (.ok false) game.refused) : start.Neutral observer := by
  intro game busy
  by_cases empty : SourceLine.ofSource source = []
  · refine ⟨.ok false, game, busy, fun thread => ?_⟩
    rw [Course.attend, blank empty]
    exact .done
  · refine ⟨.ok false, game.refused, busy, fun thread => ?_⟩
    rw [Course.attend, refused empty _ fun free => by simpa [busy] using free.idle]
    exact .done

theorem run_neutral (source : Text) : (run source).Neutral observer :=
  refused_neutral (fun blank _ => run_blank blank) fun filled _ => run_busy filled

theorem runAsync_neutral (source : Text) : (runAsync source).Neutral observer :=
  refused_neutral runAsync_blank fun filled _ => runAsync_busy filled

theorem stop_neutral : stop.Neutral observer :=
  Play.Neutral.of_done fun game =>
    ⟨.ok (), game.stopped, game.stopped_threads.idle, fun thread => by
      rw [Course.attend, stop_apply, Game.on_stopped]
      rfl⟩

/-- Nobody waits for the end of a run on the thread that drives it. -/
theorem join_neutral : join.Neutral observer :=
  Play.Neutral.of_done fun game => ⟨.ok (), game, rfl, fun thread => by
    rw [Course.attend, join_own rfl]
    rfl⟩

theorem isIdle_neutral : isIdle.Neutral observer :=
  .state_bind (fun _ _ => rfl) fun _ => pure_neutral _

theorem announce_neutral (told : observer.Neutral) : announce.Neutral observer :=
  (notify_neutral told _).bind fun _ => notify_neutral told .redraw

theorem resetPosition_neutral (told : observer.Neutral) : resetPosition.Neutral observer := by
  apply stop_neutral.bind
  intro _
  apply join_neutral.bind
  intro _
  exact (onSession_neutral _).bind fun _ => announce_neutral told

theorem withArchive_neutral {α : Type} (use : Archive → Archived α) :
    (withArchive use).Neutral observer := by
  apply Play.Neutral.of_done
  intro game
  let used := use { disk := game.disk }
  refine ⟨used.1.mapError .library, { game with
    disk := used.2.disk, trace := used.2.logged.map .logged ++ game.trace }, rfl, ?_⟩
  intro thread
  rw [Course.attend, withArchive_apply]
  rfl

theorem chooseGrid_neutral (grid : Option Grid) (useLibrary : Bool) :
    (chooseGrid grid useLibrary).Neutral observer := by
  simp only [chooseGrid]
  split
  · exact pure_neutral _
  split
  · exact .state_bind (fun _ _ => rfl) fun _ => withArchive_neutral _
  · exact pure_neutral none

theorem drawGrid_neutral (draws : Option Random.Draws) : (drawGrid draws).Neutral observer := by
  apply Play.Neutral.of_done
  intro game
  cases drawn : MapPlan.generate {} (draws.getD game.draws) with
  | ok made =>
      let logged := game.push (.logged ⟨.debug, .mapGeneration, made.report⟩)
      refine ⟨.ok made.grid, if draws.isSome then logged else { logged with draws := made.draws },
        by split <;> rfl, ?_⟩
      intro thread
      have same : (game.on thread).draws = game.draws := rfl
      rw [Course.attend, drawGrid, same, drawn]
      cases draws <;> rfl
  | error error =>
      refine ⟨.error (.generation error),
        if draws.isSome then game else { game with draws := game.draws.drained },
        by split <;> rfl, ?_⟩
      intro thread
      have same : (game.on thread).draws = game.draws := rfl
      rw [Course.attend, drawGrid, same, drawn]
      cases draws <;> rfl

theorem resetSession_neutral (grid : Option Grid) (useLibrary : Bool)
    (draws : Option Random.Draws) : (resetSession grid useLibrary draws).Neutral observer := by
  apply (chooseGrid_neutral grid useLibrary).bind
  intro chosen
  apply (onSession_neutral _).bind
  intro _
  split
  · exact (pure_neutral _).bind fun _ => onSession_neutral _
  · exact (drawGrid_neutral draws).bind fun _ => onSession_neutral _

theorem fullReset_neutral (told : observer.Neutral) (grid : Option Grid)
    (draws : Option Random.Draws) : (fullReset grid draws).Neutral observer := by
  apply stop_neutral.bind
  intro _
  apply join_neutral.bind
  intro _
  refine .state_bind (fun _ _ => rfl) ?_
  intro game
  exact (resetSession_neutral grid _ draws).bind fun _ => announce_neutral told

theorem loadMap_neutral (told : observer.Neutral) (grid : Grid) : (loadMap grid).Neutral observer :=
  (onSession_neutral _).bind fun _ => notify_neutral told .redraw

end Calls

end Scheduler

theorem Call.perform_neutral {observer : Observer} (told : observer.Neutral) (call : Call) :
    call.perform.Neutral observer := by
  cases call with
  | run source => exact (Scheduler.run_neutral source).bind fun _ => pure_neutral _
  | runAsync source => exact (Scheduler.runAsync_neutral source).bind fun _ => pure_neutral _
  | stop => exact Scheduler.stop_neutral.bind fun _ => pure_neutral _
  | join =>
      apply Scheduler.join_neutral.bind
      intro _
      exact Scheduler.isIdle_neutral.bind fun _ => pure_neutral _
  | poll => exact Scheduler.isIdle_neutral.bind fun _ => pure_neutral _
  | resetPosition => exact (Scheduler.resetPosition_neutral told).bind fun _ => pure_neutral _
  | fullReset grid draws =>
      exact (Scheduler.fullReset_neutral told grid draws).bind fun _ => pure_neutral _
  | loadMap grid => exact (Scheduler.loadMap_neutral told grid).bind fun _ => pure_neutral _

/-! ## Whoever is told -/

theorem Behaviour.perform_neutral {observer : Observer} (told : observer.Neutral)
    (behaviour : Behaviour) : Play.Neutral (behaviour.perform observer) := by
  induction behaviour with
  | comeBack => exact .pure ()
  | giveUp fault => exact .fail fault
  | call made next ih =>
      apply (Play.Neutral.outcome (Call.perform_neutral told made)).bind
      intro result
      refine Play.Neutral.bind (Play.Neutral.update (fun _ => rfl) fun _ _ => rfl) ?_
      intro _
      exact .state_bind (fun _ _ => rfl) fun game => ih result game.anonymous

namespace Habit

variable (habit : Habit)

theorem tell_neutral (notice : Notice) : Play.Neutral (tell notice) := by
  apply Play.Neutral.update
  · intro game
    rfl
  · intro game thread
    cases notice <;> rfl

/-- A worker that is held goes on in the game that it left. -/
theorem hold_neutral (notice : Notice) : Play.Neutral (habit.hold notice) := by
  intro game busy
  refine ⟨.ok (), game, busy, ?_⟩
  intro thread
  simp only [hold, bind_apply, state_apply, Activity.andThen_done]
  split
  · next held =>
      have worker : thread = .worker := of_decide_eq_true (Bool.and_eq_true_iff.mp held).1
      subst worker
      exact .held rfl rfl busy .done
  · exact .done

theorem observer_neutral (depth : Nat) : (habit.observer depth).Neutral := by
  induction depth with
  | zero => exact tell_neutral
  | succ depth ih =>
      intro notice
      apply (tell_neutral notice).bind
      intro _
      apply (habit.hold_neutral notice).bind
      intro _
      exact .state_bind (fun _ _ => rfl) fun game => Behaviour.perform_neutral ih _

end Habit

/-! ## A run on either thread -/

/-- Where the program of a run has ended, the notice that clears the highlight comes back. -/
def Observer.LetsClose (observer : Observer) (lines : List SourceLine) (game : Game) : Prop :=
  ∀ result ended, (Scheduler.program lines).attend observer (game.begun lines) = .done result ended →
    ∃ after, observer (.highlight none) ended = .done (.ok ()) after

namespace Scheduler

variable {observer : Observer}

/-- The session when the highlight has been cleared. -/
def rested (game : Game) : Game :=
  (game.onSession fun session => { session with state := .idle }).push
    (.logged ⟨.info, .scheduler, "Run ended."⟩)

theorem close_attend (observer : Observer) (result : Except Fault Unit) :
    (close result).attend observer = (do
      observer (.highlight none)
      update rested
      let closing ← outcome (observer .ended)
      update fun game => { game with idle := true }
      ofOutcome closing
      ofOutcome result) := by
  simp only [close, attend_bind, attend_notify, attend_outcome, attend_ofOutcome]
  rfl

theorem execute_eq (lines : List SourceLine) :
    execute lines = (do
      log .info s!"Run started with {lines.length} statements."
      let result ← outcome (program lines)
      close result) := rfl

/-- A run comes to its end on the worker as it does on the controller, and is over. -/
theorem execute_comes (told : observer.Neutral) {game : Game} (busy : game.idle = false)
    {lines : List SourceLine} (closes : observer.LetsClose lines (game.on .controller)) :
    ∃ (result : Except Fault Unit) (last : Game), last.idle = true ∧ ∀ thread,
      ((execute lines).attend observer (game.on thread)).Comes thread result (last.on thread) := by
  rcases program_neutral told lines (game.begun lines) busy with ⟨result, ended, still, comes⟩
  rcases told (.highlight none) ended still with ⟨cleared, middle, going, clears⟩
  rcases closes result _ (comes .controller).on_controller with ⟨after, back⟩
  obtain rfl : cleared = .ok () := by
    have same := (clears .controller).on_controller.symm.trans back
    exact (Activity.done.inj same).1
  rcases told .ended (rested middle) going with ⟨closing, last, -, tells⟩
  refine ⟨closing.bind fun _ => result, { last with idle := true }, rfl, ?_⟩
  intro thread
  have closed : ((close result).attend observer (ended.on thread)).Comes thread
      (closing.bind fun _ => result) (Game.on { last with idle := true } thread) := by
    rw [close_attend]
    refine (clears thread).bind ?_
    refine Activity.Comes.bind .done ?_
    refine (tells thread).outcome.bind ?_
    refine Activity.Comes.bind .done ?_
    cases closing with
    | error fault => exact .done
    | ok =>
        refine Activity.Comes.bind .done ?_
        rw [ofOutcome_apply]
        exact .done
  simp only [execute_eq, attend_bind, attend_outcome]
  refine Activity.Comes.bind .done ?_
  refine (comes thread).outcome.bind ?_
  exact closed

end Scheduler

/-! ## Handing a run over and waiting for it -/

namespace Stage

/-- A worker that is given no other turn comes to its end when it is waited for. -/
theorem workerEnd_comes {activity : Activity Signal Game Fault Unit} {result : Except Fault Unit}
    {last : Game} (comes : activity.Comes .worker result last) :
    workerEnd activity = afterWorker result last := by
  induction comes with
  | done => rfl
  | held _ _ _ _ ih => exact ih

/-- The worker has ended, or it is held in its run and will end in the same game. -/
inductive Awaits (final : Game) : Stage → Prop
  | ended : Awaits final { game := final }
  | held {game : Game} {held : Held} :
    game.current = .controller → game.runner = some .worker → game.idle = false →
    workerEnd (held (handTo game)) = final → Awaits final { game, held := some held }

theorem workerTurn_awaits {activity : Activity Signal Game Fault Unit}
    {result : Except Fault Unit} {last : Game} (comes : activity.Comes .worker result last) :
    (workerTurn activity).Awaits (afterWorker result last) := by
  cases comes with
  | done => exact .ended
  | @held game resume _ own busy onward =>
      have runner : game.runner = some .worker := by rw [← own]; rfl
      have turned : handTo { game with current := .controller } = game := by
        rw [← own]
        rfl
      refine .held rfl runner busy ?_
      rw [turned]
      exact workerEnd_comes onward

/-- Waiting for the worker succeeds once its run is over. -/
theorem Awaits.join {final : Game} {stage : Stage} (awaits : stage.Awaits final)
    (observer : Observer) (work : List SourceLine → Play Unit) (ended : final.idle = true) :
    conduct work (Scheduler.join.attend observer stage.game) stage.held =
      (.ok (), { game := final }) := by
  cases awaits with
  | ended => simp [Course.attend, Scheduler.join_idle ended, Activity.attend, conduct]
  | @held game held turned runner busy ends =>
      have foreign : game.runner ≠ some game.current := by
        rw [turned, runner]
        simp
      simp only [Course.attend, Scheduler.join_busy busy foreign, bind_apply,
        Course.yield_apply, Activity.andThen_paused, Activity.attend, conduct, ends]
      simp [Scheduler.isIdle, ended, Activity.attend, conduct]

end Stage

namespace Scheduler

/-- Hands a program to the worker and waits for the end of its run. -/
def handOver (source : Text) : Course Bool := do
  let accepted ← runAsync source
  join
  return accepted

/-- A program is handed over before its starter waits. -/
theorem handOver_free {source : Text} (filled : SourceLine.ofSource source ≠ []) {game : Game}
    (free : game.Free) (observer : Observer) :
    ∃ resume, (handOver source).attend observer game =
        .paused (.start (SourceLine.ofSource source)) (game.claimed .worker) resume ∧
      ∀ later, resume (.ok ()) later = (join.attend observer >>= fun _ => pure true) later := by
  refine ⟨_, by simp only [handOver, Course.attend, bind_apply, runAsync_free filled free,
    yield_apply, Activity.andThen_paused, Activity.andThen_done, Activity.attend]; rfl, ?_⟩
  intro later
  rw [← attend_pure, ← attend_bind]
  rfl

end Scheduler

namespace Stage

variable {observer : Observer} {game : Game} {source : Text}

theorem perform_run (filled : SourceLine.ofSource source ≠ []) (free : game.Free)
    (turned : game.current = .controller) {result : Except Fault Unit} {last : Game}
    (comes : ((Scheduler.execute (SourceLine.ofSource source)).attend observer
      ((game.claimed .controller).on .controller)).Comes .controller result last) :
    perform observer (Scheduler.run source) { game } =
      (result.map fun _ => true, { game := last }) := by
  have ends := comes.on_controller
  rw [Game.claimed_on turned, Course.attend] at ends
  simp only [perform, Course.attend, Scheduler.run_free filled free, turned,
    Activity.attend_andThen, ends, Activity.andThen_done, Activity.attend, conduct, settle]

theorem perform_handOver (filled : SourceLine.ofSource source ≠ []) (free : game.Free)
    {result : Except Fault Unit} {last : Game} (ended : last.idle = true)
    (comes : ((Scheduler.execute (SourceLine.ofSource source)).attend observer
      (handTo (game.claimed .worker))).Comes .worker result last) :
    perform observer (Scheduler.handOver source) { game } =
      (.ok true, { game := afterWorker result last }) := by
  have idle : (afterWorker result last).idle = true := by
    cases result <;> exact ended
  have joined := (workerTurn_awaits comes).join observer
    (fun lines => (Scheduler.execute lines).attend observer) idle
  rcases Scheduler.handOver_free filled free observer with ⟨resume, pauses, onward⟩
  simp only [perform, pauses, conduct, onward, conduct_bind joined]
  rfl

end Stage

/-- A run that is handed to the worker and waited for is the run that its starter would have
made: the same is told, the same calls are made with the same results, and the game that is
left behind is the same. What the one answers is what the other answers; an error that the
one passes on has ended the worker in the other, after all else. -/
theorem handed_over_run_is_same (habit : Habit) (depth : Nat) (source : Text) {game : Game}
    (free : game.Free) (turned : game.current = .controller)
    (closes : SourceLine.ofSource source ≠ [] →
      (habit.observer depth).LetsClose (SourceLine.ofSource source) (game.claimed .controller)) :
    let blocking := Stage.perform (habit.observer depth) (Scheduler.run source) { game }
    let handed := Stage.perform (habit.observer depth) (Scheduler.handOver source) { game }
    blocking.2.held = none ∧ handed.2.held = none ∧
    (∀ accepted, blocking.1 = .ok accepted →
      handed.1 = .ok accepted ∧ handed.2.game.anonymous = blocking.2.game.anonymous) ∧
    ∀ fault, blocking.1 = .error fault →
      handed.1 = .ok true ∧
      handed.2.game.anonymous = (blocking.2.game.push (.workerFailed fault)).anonymous := by
  intro blocking handed
  by_cases blank : SourceLine.ofSource source = []
  · have declined : blocking = (.ok false, { game }) :=
      Stage.perform_done (Scheduler.run_blank blank)
    have refused : handed = (.ok false, { game }) := by
      apply Stage.perform_done
      simp [Scheduler.handOver, Scheduler.runAsync_blank blank, Scheduler.join_idle free.idle]
    rw [declined, refused]
    refine ⟨rfl, rfl, fun accepted answered => ⟨answered, rfl⟩, fun fault failed => ?_⟩
    cases failed
  · have begins := closes blank
    rw [← Game.claimed_on turned] at begins
    rcases Scheduler.execute_comes (habit.observer_neutral depth) rfl begins with
      ⟨result, last, ended, comes⟩
    have direct : blocking = _ := Stage.perform_run blank free turned (comes .controller)
    have idle : (last.on .worker).idle = true := ended
    have indirect : handed = _ := Stage.perform_handOver blank free idle (comes .worker)
    rw [direct, indirect]
    cases result with
    | ok =>
        refine ⟨rfl, rfl, fun accepted answered => ⟨answered, rfl⟩, fun fault failed => ?_⟩
        cases failed
    | error fault =>
        refine ⟨rfl, rfl, fun accepted answered => ?_, ?_⟩
        · cases answered
        · rintro _ ⟨⟩
          exact ⟨rfl, rfl⟩

/-- The observer asks for another run, holds the worker after a step, and at the first tick puts
the agent back and gives up. -/
theorem handed_over_run_is_same_disturbed :
    let habit : Habit := {
      holds := fun _ notice => notice = .redraw
      behaves := fun _ notice =>
        match notice with
        | .started => .call (.run "print('again')") fun _ _ => .comeBack
        | .wait => .call .resetPosition fun _ _ => .giveUp (.raised "Enough.")
        | _ => .comeBack }
    let game := Game.onGrass 3
    let blocking := Stage.perform (habit.observer 2) (Scheduler.run "move_right(2)") { game }
    let handed := Stage.perform (habit.observer 2) (Scheduler.handOver "move_right(2)") { game }
    game.Free ∧
    (habit.observer 2).LetsClose (SourceLine.ofSource "move_right(2)") (game.claimed .controller) ∧
    blocking.1 = .error (.raised "Enough.") ∧ handed.1 = .ok true ∧
    handed.2.game.anonymous = (blocking.2.game.push (.workerFailed (.raised "Enough."))).anonymous := by
  intro habit game
  have free : game.Free := ⟨rfl, rfl⟩
  have closes : (habit.observer 2).LetsClose (SourceLine.ofSource "move_right(2)")
      (game.claimed .controller) := by
    intro result ended _
    exact ⟨ended.push (ended.eventOf (.highlight none)), by
      simp [Habit.observer, Habit.hold, Habit.tell, Behaviour.perform, habit]⟩
  have failed : (Stage.perform (habit.observer 2) (Scheduler.run "move_right(2)") { game }).1 =
      .error (.raised "Enough.") := by decide +kernel
  have same := handed_over_run_is_same habit 2 "move_right(2)" free rfl fun _ => closes
  exact ⟨free, closes, failed, same.2.2.2 _ failed⟩

end TileWalk
