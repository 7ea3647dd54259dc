import TileWalk.Proofs.Run.Likeness
import TileWalk.Proofs.Run.OuterReset

/-!
# The stage between two orders

Between two orders no run is under way, or the worker is held in a run that has not been asked to
stop. An order leaves such a stage behind again, and a run leaves the library to itself.
-/

namespace TileWalk

open Process Course

/-! ## What a run does not touch -/

/-- A game has the library and the disk of another one. -/
structure Game.SameHolding (before after : Game) : Prop where
  library : after.library = before.library
  usesLibrary : after.usesLibrary = before.usesLibrary
  disk : after.disk = before.disk

namespace Game

theorem SameHolding.refl (game : Game) : game.SameHolding game :=
  ⟨rfl, rfl, rfl⟩

theorem SameHolding.trans {first second third : Game} (one : first.SameHolding second)
    (other : second.SameHolding third) : first.SameHolding third :=
  ⟨other.library.trans one.library, other.usesLibrary.trans one.usesLibrary,
    other.disk.trans one.disk⟩

theorem Edited.holding {game later : Game} (edited : game.Edited later) :
    game.SameHolding later := by
  induction edited with
  | same => exact .refl game
  | dead _ ih => exact ih.trans ⟨rfl, rfl, rfl⟩
  | placed place _ ih => exact ih.trans ⟨rfl, rfl, rfl⟩
  | bound bindings _ ih => exact ih.trans ⟨rfl, rfl, rfl⟩
  | logged entry _ ih => exact ih.trans ⟨rfl, rfl, rfl⟩

theorem record_holding (game : Game) (notice : Notice) : game.SameHolding (game.record notice) := by
  simp only [record]
  split
  · exact ⟨rfl, rfl, rfl⟩
  split <;> exact ⟨rfl, rfl, rfl⟩

theorem stopped_holding (game : Game) : game.SameHolding game.stopped := by
  simp only [stopped]
  split <;> exact ⟨rfl, rfl, rfl⟩

end Game

/-- From one notice to the next, a run leaves the library alone. -/
theorem Waypoint.next_holding (waypoint : Waypoint) (reply : Except Fault Unit) (game : Game) :
    (waypoint.next reply game).Meets (fun _ later => game.SameHolding later)
      fun _ later => game.SameHolding later := by
  by_cases going : waypoint.Open
  · exact (next_edits going reply game).imp (fun _ _ => Game.Edited.holding)
      fun _ _ => Game.Edited.holding
  · cases waypoint with
    | closing result => cases reply <;> exact ⟨rfl, rfl, rfl⟩
    | ended result => cases reply <;> exact ⟨rfl, rfl, rfl⟩
    | _ => exact absurd trivial going

/-- What a run holds is the same at each notice that it gives. -/
theorem Waypoint.record_next_holding {base game : Game} (waypoint : Waypoint)
    (same : base.SameHolding game) :
    (waypoint.next (.ok ()) (game.record waypoint.notice)).Meets
      (fun _ later => base.SameHolding later) fun _ later => base.SameHolding later := by
  have recorded := same.trans (game.record_holding waypoint.notice)
  exact (waypoint.next_holding (.ok ()) _).imp (fun _ _ => recorded.trans)
    fun _ _ => recorded.trans

namespace Stage

variable {observer : Observer} {base : Game} {activity : Activity Point Game Fault Unit}
  {turn : RunTurn}

theorem workerEnd_holding (watches : observer.Watches) (follows : activity.Follows runMachine turn)
    (kept : turn.Meets (fun _ later => base.SameHolding later)
      fun _ later => base.SameHolding later) :
    base.SameHolding (workerEnd (activity.attend observer)) := by
  rcases workerEnd_meets watches (fun waypoint _ => waypoint.record_next_holding) follows kept with
    ⟨result, final, same, ends⟩
  rw [ends]
  cases result <;> exact same.trans ⟨rfl, rfl, rfl⟩

theorem workerTurn_holding (watches : observer.Watches) (follows : activity.Follows runMachine turn)
    (kept : turn.Meets (fun _ later => base.SameHolding later)
      fun _ later => base.SameHolding later) :
    base.SameHolding (workerTurn (activity.attend observer)).game := by
  rcases workerTurn_meets watches (fun waypoint _ => waypoint.record_next_holding) follows kept with
    ⟨result, final, same, ends⟩ | ⟨waypoint, game, resume, same, -, stands⟩
  · rw [ends]
    cases result <;> exact same.trans ⟨rfl, rfl, rfl⟩
  · rw [stands]
    exact (same.trans (game.record_holding waypoint.notice)).trans ⟨rfl, rfl, rfl⟩

end Stage

/-! ## A stage between two orders -/

/-- No worker is held whose run has been asked to stop. -/
def Observer.Releases (observer : Observer) : Prop :=
  ∀ notice game, game.session.stopRequested = true →
    observer notice game = .done (.ok ()) (game.record notice)

theorem Observer.holding_releases (wish : Game → Notice → Bool) : (holding wish).Releases := by
  intro notice game asked
  have still : (game.record notice).session.stopRequested = true := by
    rw [(game.record_undisturbed notice).session, asked]
  simp only [holding, reacting, bind_apply, update_apply, state_apply, Activity.andThen_done]
  split
  · cases wish (game.record notice) notice with
    | false => rfl
    | true =>
        simp [Command.performAll, Command.holdWorker, Course.attend, still, Activity.attend]
  · rfl

/-- What a run that is under way goes by. -/
structure Game.SameRun (before after : Game) : Prop where
  state : after.session.state = before.session.state
  stopRequested : after.session.stopRequested = before.session.stopRequested
  threads : before.SameThreads after
  attended : after.attended = before.attended
  told : after.told = before.told

/-! ## Orders that give a signal -/

/-- An order gives one signal to the worker, and is carried out with it. -/
def Course.Signals {α : Type} (course : Course α) (observer : Observer) (game : Game)
    (signal : Signal) (after : Game) (answer : α) : Prop :=
  ∃ resume, course.attend observer game = .paused signal after resume ∧
    ∀ later, resume (.ok ()) later = .done (.ok answer) later

namespace Command

variable {game : Game} {source : Text}

theorem giveTurn_signals (observer : Observer) (turned : game.current = .controller)
    (holdIn : Option Nat) :
    (giveTurn holdIn).Signals observer game .release { game with holdIn } .nothing := by
  refine ⟨_, by simp only [Course.attend, giveTurn, bind_apply, state_apply, Activity.andThen_done,
    if_pos turned, update_apply, Course.yield_apply, Activity.andThen_paused, Activity.attend]; rfl,
    ?_⟩
  intro later
  rfl

theorem handOver_signals (observer : Observer) (filled : SourceLine.ofSource source ≠ [])
    (free : game.Free) (holdIn : Option Nat) :
    (handOver source holdIn).Signals observer game (.start (SourceLine.ofSource source))
      (({ game with holdIn } : Game).claimed .worker) (.flag true) := by
  have ready : ({ game with holdIn } : Game).Free := ⟨free.state, free.idle⟩
  have accepted := Scheduler.runAsync_free filled ready
  refine ⟨_, by simp only [Course.attend, handOver, bind_apply, state_apply, Activity.andThen_done,
    update_apply, accepted, Course.yield_apply, Activity.andThen_paused, Activity.attend]; rfl, ?_⟩
  intro later
  rfl

/-- A program that is not accepted leaves the run that is under way alone. -/
theorem handOver_refused (refused : ¬ (SourceLine.ofSource source ≠ [] ∧ game.Free))
    (holdIn : Option Nat) :
    ∃ last, handOver source holdIn game = .done (.ok (.flag false)) last ∧ game.SameRun last ∧
      game.SameHolding last := by
  by_cases blank : SourceLine.ofSource source = []
  · refine ⟨game, ?_, ⟨rfl, rfl, ⟨rfl, rfl, rfl⟩, rfl, rfl⟩, .refl game⟩
    simp [handOver, Scheduler.runAsync, blank]
  · have busy : ¬ ({ game with holdIn } : Game).Free := by
      rintro ⟨state, idle⟩
      exact refused ⟨blank, state, idle⟩
    refine ⟨game.refused, ?_, ⟨rfl, rfl, ⟨rfl, rfl, rfl⟩, rfl, rfl⟩, ⟨rfl, rfl, rfl⟩⟩
    simp [handOver, Scheduler.runAsync, blank, Scheduler.claim_busy busy, Game.refused, Game.push]

end Command

namespace Stage

variable {observer : Observer} {stage : Stage} {base game : Game} {held : Held} {asked : Bool}

/-- No run is under way, or the worker is held and its run has not been asked to stop. -/
structure Stands (observer : Observer) (stage : Stage) : Prop where
  free : stage.held = none → stage.game.Free
  halted : ∀ held, stage.held = some held → ∃ base, stage.Halted observer base false held

theorem stands_free {game : Game} (free : game.Free) : Stands observer { game } :=
  ⟨fun _ => free, nofun⟩

theorem Stands.settled (stands : stage.Stands observer) : stage.settle = stage := by
  cases waiting : stage.held with
  | none => simp [settle, waiting]
  | some held =>
      rcases stands.halted held waiting with ⟨base, halted⟩
      rcases halted.point with ⟨waypoint, resume, -, -, reached⟩
      simp [settle, waiting, reached.continued.asked]

/-- What does not concern the run may change. -/
theorem Stands.moved (stands : stage.Stands observer) (same : stage.game.SameRun game) :
    Stands observer { stage with game } := by
  constructor
  · intro none
    have free := stands.free none
    exact ⟨same.state.trans free.state, same.threads.idle.trans free.idle⟩
  · intro held waiting
    rcases stands.halted held waiting with
      ⟨base, ⟨waypoint, resume, goes, follows, reached⟩, current⟩
    rcases reached with ⟨⟨spared, asked, runner, busy⟩, resting, untold, told⟩
    have heard : stage.game.attended = base.attended := spared.attended
    -- The map and the pace may have changed, so that the run is taken to have begun with these.
    refine ⟨{ game with trace := base.trace }, ⟨waypoint, resume, goes, follows,
      ⟨⟨⟨⟨rfl, rfl⟩, rfl, rfl⟩, same.stopRequested.trans asked, same.threads.runner.trans runner,
        same.threads.idle.trans busy⟩, ?_, ?_, ?_⟩⟩, same.threads.current.trans current⟩
    · intro late
      exact same.state.trans (resting late)
    · intro attended early
      have before := untold (heard.symm.trans (same.attended.symm.trans attended)) early
      rw [Game.Untold] at before ⊢
      rw [same.told]
      exact before
    · intro attended late
      have before := told (heard.symm.trans (same.attended.symm.trans attended)) late
      rw [Game.ToldEnd] at before ⊢
      rw [same.told]
      exact before

/-! ## Turns of the worker -/

theorem workerTurn_none {activity : Activity Signal Game Fault Unit}
    (ended : (workerTurn activity).held = none) :
    workerTurn activity = { game := workerEnd activity } := by
  induction activity with
  | done result game => rfl
  | paused signal game resume ih =>
      cases signal with
      | held => cases ended
      | start lines => exact ih (.ok ()) game ended
      | release => exact ih (.ok ()) game ended
      | await => exact ih (.ok ()) game ended

section Worker

variable {activity : Activity Point Game Fault Unit} {turn : RunTurn}

/-- After its turn, a worker that was not asked to stop is held again, or its run is over. -/
theorem workerTurn_stands (watches : observer.Watches) (follows : activity.Follows runMachine turn)
    (afoot : turn.Meets (Waypoint.Afoot base false) fun _ final => base.Closed final) :
    (workerTurn (activity.attend observer)).Stands observer := by
  constructor
  · intro none
    rw [workerTurn_none none]
    exact (workerEnd_closes watches follows afoot).free
  · intro held waiting
    exact ⟨base, workerTurn_halts watches follows afoot held waiting⟩

/-- A worker that was asked to stop is not held any more. -/
theorem workerTurn_released (releases : observer.Releases)
    (follows : activity.Follows runMachine turn)
    (afoot : turn.Meets (Waypoint.Afoot base true) fun _ final => base.Closed final) :
    (workerTurn (activity.attend observer)).Stands observer := by
  induction activity generalizing turn with
  | done result state =>
      cases follows
      exact stands_free (Game.Closed.afterWorker afoot result).free
  | paused point game resume ih =>
      rcases follows with ⟨waypoint, rfl, rfl, onward⟩
      have ahead : waypoint.Afoot base true game := afoot
      have told := releases waypoint.notice game ahead.continued.asked
      simpa [Activity.attend, told] using
        ih (.ok ()) (game.record waypoint.notice) (onward (.ok ()) _) ahead.record.next

end Worker

/-! ## Orders -/

variable {α : Type}

/-- An order leaves a stage behind on which another one can be given. -/
def Keeps (observer : Observer) (course : Course α) : Prop :=
  ∀ stage : Stage, stage.Stands observer → (stage.perform observer course).2.Stands observer

/-- An order that is carried out at once. -/
theorem perform_done {course : Course α} {result : Except Fault α}
    (done : course stage.game = .done result game) :
    stage.perform observer course = (result, settle { stage with game }) := by
  simp only [perform, Course.attend, done, Activity.attend, conduct]

theorem Stands.perform_done (stands : stage.Stands observer) {course : Course α}
    {result : Except Fault α} (done : course stage.game = .done result game)
    (same : stage.game.SameRun game) : (stage.perform observer course).2.Stands observer := by
  rw [Stage.perform_done done, (stands.moved same).settled]
  exact stands.moved same

/-- What the worker does with a program. -/
def work (observer : Observer) (lines : List SourceLine) : Play Unit :=
  (Scheduler.execute lines).attend observer

theorem withArchive_keeps (use : Archive → Archived α) :
    Keeps observer (Course.withArchive use) := by
  intro stage stands
  exact stands.perform_done (Course.withArchive_apply use stage.game)
    ⟨rfl, rfl, ⟨rfl, rfl, rfl⟩, rfl, by simp [Game.told, Event.notice?]⟩

/-- A worker that is asked to stop ends its run at once. -/
theorem Halted.released (halted : Halted observer base false stage held)
    (releases : observer.Releases)
    (asked : stage.game.stopped.session.stopRequested = true) :
    (workerTurn (held (handTo stage.game.stopped))).Stands observer := by
  rcases halted.resumes (fun _ reached => reached.stopped.turned .worker _) with
    ⟨activity, turn, resumed, follows, afoot⟩
  rw [asked] at afoot
  have stands := workerTurn_released releases follows afoot
  rw [← resumed] at stands
  exact stands

theorem stop_keeps (releases : observer.Releases) : Keeps observer Scheduler.stop := by
  intro stage stands
  rw [Stage.perform_done Scheduler.stop_apply]
  by_cases running : stage.game.session.state = .running
  · cases waiting : stage.held with
    | none => simpa [running] using (stands.free waiting).state
    | some held =>
        rcases stands.halted held waiting with ⟨base, halted⟩
        have asked : stage.game.stopped.session.stopRequested = true := by
          rw [Game.stopped, if_pos running]
          rfl
        simp only [settle, asked, if_true]
        exact halted.released releases asked
  · have still : stage.game.stopped = stage.game := by
      rw [Game.stopped, if_neg running]
    rw [still, stands.settled]
    exact stands

section Signals

variable {course : Course α} {answer : α}

theorem perform_start {lines : List SourceLine}
    (signals : course.Signals observer stage.game (.start lines) game answer) :
    stage.perform observer course =
      (.ok answer, settle (workerTurn (work observer lines (handTo game)))) := by
  rcases signals with ⟨resume, pauses, onward⟩
  simp only [perform, pauses, conduct, onward]
  rfl

theorem perform_release (waiting : stage.held = some held)
    (signals : course.Signals observer stage.game .release game answer) :
    stage.perform observer course = (.ok answer, settle (workerTurn (held (handTo game)))) := by
  rcases signals with ⟨resume, pauses, onward⟩
  simp only [perform, pauses, waiting, conduct, onward]

theorem perform_release_none (waiting : stage.held = none)
    (signals : course.Signals observer stage.game .release game answer) :
    stage.perform observer course = (.ok answer, settle { stage with game }) := by
  rcases signals with ⟨resume, pauses, onward⟩
  simp only [perform, pauses, waiting, conduct, onward]

end Signals

theorem giveTurn_keeps (watches : observer.Watches) (holdIn : Option Nat) :
    Keeps observer (Command.giveTurn holdIn) := by
  intro stage stands
  by_cases turned : stage.game.current = .controller
  · have signals := Command.giveTurn_signals observer turned holdIn
    cases waiting : stage.held with
    | none =>
        have moved : Stands observer { stage with game := { stage.game with holdIn } } :=
          stands.moved ⟨rfl, rfl, ⟨rfl, rfl, rfl⟩, rfl, rfl⟩
        rw [perform_release_none waiting signals, moved.settled]
        exact moved
    | some held =>
        rcases stands.halted held waiting with ⟨base, halted⟩
        rcases halted.resumes (fun _ reached => reached.turned .worker holdIn) with
          ⟨activity, turn, resumed, follows, afoot⟩
        have moved := workerTurn_stands watches follows afoot
        rw [← resumed] at moved
        rw [perform_release waiting signals, handTo, moved.settled]
        exact moved
  · have idle : Command.giveTurn holdIn stage.game = .done (.ok .nothing) stage.game := by
      simp [Command.giveTurn, turned]
    exact stands.perform_done idle ⟨rfl, rfl, ⟨rfl, rfl, rfl⟩, rfl, rfl⟩

theorem handOver_keeps (watches : observer.Watches) (source : Text) (holdIn : Option Nat) :
    Keeps observer (Command.handOver source holdIn) := by
  intro stage stands
  by_cases accepted : SourceLine.ofSource source ≠ [] ∧ stage.game.Free
  · let lines := SourceLine.ofSource source
    let claimed := ({ stage.game with holdIn } : Game).claimed .worker
    have signals := Command.handOver_signals observer accepted.1 accepted.2 holdIn
    have afoot : (Waypoint.begun lines).Afoot { stage.game with holdIn } false
        ((handTo claimed).begun lines) :=
      ⟨⟨⟨⟨rfl, rfl⟩, rfl, rfl⟩, rfl, rfl, rfl⟩, fun late => absurd trivial late, fun _ => rfl⟩
    have moved := workerTurn_stands watches (run_follows lines (handTo claimed)) afoot
    rw [perform_start signals, work, Course.attend, moved.settled]
    exact moved
  · rcases Command.handOver_refused accepted holdIn with ⟨last, refused, same, -⟩
    exact stands.perform_done refused same

end Stage

/-! ## Orders in two parts -/

theorem Activity.attend_andThen {α β : Type} (observer : Observer)
    (activity : Activity Point Game Fault α)
    (next : Except Fault α → Game → Activity Point Game Fault β) :
    (activity.andThen next).attend observer =
      (activity.attend observer).andThen fun result game => (next result game).attend observer := by
  induction activity with
  | done result game => rfl
  | paused point game resume ih =>
      cases point with
      | notice notice => simp only [andThen_paused, attend, ih, andThen_assoc]
      | signal signal => simp only [andThen_paused, attend, ih]

/-- An observer attends to the parts of a course one after another. -/
theorem Course.attend_bind {α β : Type} (observer : Observer) (first : Course α)
    (next : α → Course β) :
    (first >>= next).attend observer =
      first.attend observer >>= fun value => (next value).attend observer := by
  funext game
  simp only [Course.attend, bind_apply, Activity.attend_andThen]
  congr 1
  funext result later
  cases result <;> rfl

namespace Scheduler

/-- Asks the run that is under way to stop and waits for its end. -/
def rest : Course Unit := do
  stop
  join

/-- What a full reset does once no run is under way. -/
def renew (grid : Option Grid) (draws : Option Random.Draws) : Course Unit := do
  resetSession grid (← state).usesLibrary draws
  announce

theorem fullReset_eq (grid : Option Grid) (draws : Option Random.Draws) :
    fullReset grid draws = rest >>= fun _ => renew grid draws := by
  funext game
  simp only [fullReset, rest, bind_apply, stop_apply, Activity.andThen_done]
  rfl

/-- Puts the agent back at the start of a given map: there is no library in it. -/
def renewWith (grid : Grid) : Course Unit := do
  update (Game.onSession fun session => session.resetPosition.load grid)
  announce

theorem fullReset_some (grid : Grid) (draws : Option Random.Draws) :
    fullReset (some grid) draws = rest >>= fun _ => renewWith grid := by
  rw [fullReset_eq]
  rfl

theorem resetPosition_eq :
    resetPosition =
      rest >>= fun _ => update (Game.onSession Session.resetPosition) >>= fun _ => announce := by
  funext game
  simp only [resetPosition, rest, bind_apply, stop_apply, Activity.andThen_done]

end Scheduler

namespace Stage

variable {observer : Observer} {stage : Stage} {α : Type}

/-- An order is carried out to its end before what comes after it. -/
theorem conduct_andThen {β : Type} (work : List SourceLine → Play Unit)
    (activity : Activity Signal Game Fault α)
    (next : Except Fault α → Game → Activity Signal Game Fault β) (held : Option Held) :
    conduct work (activity.andThen next) held =
      conduct work (next (conduct work activity held).1 (conduct work activity held).2.game)
        (conduct work activity held).2.held := by
  induction activity generalizing held with
  | done result game => rfl
  | paused signal game resume ih =>
      cases signal with
      | held => exact ih (.ok ()) game held
      | start lines =>
          simp only [Activity.andThen_paused, conduct]
          exact ih (.ok ()) _ _
      | release =>
          cases held with
          | none => exact ih (.ok ()) game none
          | some held =>
              simp only [Activity.andThen_paused, conduct]
              exact ih (.ok ()) _ _
      | await =>
          cases held with
          | none => exact ih (.ok ()) game none
          | some held => exact ih (.ok ()) _ none

theorem conduct_bind {β : Type} {work : List SourceLine → Play Unit} {first : Play α}
    {next : α → Play β} {game : Game} {held : Option Held} {value : α} {after : Stage}
    (done : conduct work (first game) held = (.ok value, after)) :
    conduct work ((first >>= next) game) held =
      conduct work (next value after.game) after.held := by
  rw [bind_apply, conduct_andThen, done]

/-- A run that is under way ends when it is asked to. -/
def Rests (observer : Observer) (stage : Stage) (ended : Game) : Prop :=
  conduct (work observer) (Scheduler.rest.attend observer stage.game) stage.held =
    (.ok (), { game := ended })

/-- No run is under way, or the worker is held at a notice of its run, which may have been asked to
stop. -/
structure Pauses (observer : Observer) (stage : Stage) : Prop where
  free : stage.held = none → stage.game.Free
  halted : ∀ held, stage.held = some held → ∃ base asked, stage.Halted observer base asked held

theorem Stands.pauses (stands : stage.Stands observer) : stage.Pauses observer := by
  refine ⟨stands.free, ?_⟩
  intro held waiting
  rcases stands.halted held waiting with ⟨base, halted⟩
  exact ⟨base, false, halted⟩

/-- The game in which the run that is under way has come to its end, once it was asked to stop. -/
def ended (stage : Stage) : Game :=
  ({ stage with game := stage.game.stopped } : Stage).finish.game

theorem ended_idle (free : stage.game.Free) (waiting : stage.held = none) :
    stage.ended = stage.game := by
  have still : stage.game.stopped = stage.game := by
    rw [Game.stopped, if_neg (by simp [free.state])]
  simp [ended, finish, waiting, still]

theorem ended_held {held : Held} (waiting : stage.held = some held) :
    stage.ended = workerEnd (held (handTo stage.game.stopped)) := by
  simp [ended, finish, waiting]

/-- A worker that is held ends its run, and leaves the library alone meanwhile. -/
theorem Halted.ends (watches : observer.Watches) {base : Game} {asked : Bool} {held : Held}
    (halted : Halted observer base asked stage held) (waiting : stage.held = some held) :
    base.Closed stage.ended ∧ stage.game.SameHolding stage.ended := by
  rcases halted.point with ⟨waypoint, resume, rfl, onward, reached⟩
  have handed : stage.game.SameHolding (handTo stage.game.stopped) :=
    stage.game.stopped_holding.trans ⟨rfl, rfl, rfl⟩
  rw [ended_held waiting]
  constructor
  · exact workerEnd_closes watches (onward (handTo stage.game.stopped))
      (reached.stopped.turned .worker stage.game.stopped.holdIn).next
  · exact workerEnd_holding watches (onward (handTo stage.game.stopped))
      ((waypoint.next_holding (.ok ()) _).imp (fun _ _ => handed.trans) fun _ _ => handed.trans)

theorem Halted.rests (watches : observer.Watches) {base : Game} {asked : Bool} {held : Held}
    (halted : Halted observer base asked stage held) (waiting : stage.held = some held) :
    stage.Rests observer stage.ended := by
  have idle := (halted.ends watches waiting).1.free.idle
  rcases halted.point with ⟨waypoint, -, -, -, reached⟩
  have threads := stage.game.stopped_threads
  have busy : stage.game.stopped.idle = false := threads.idle.trans reached.continued.busy
  have foreign : stage.game.stopped.runner ≠ some stage.game.stopped.current := by
    rw [threads.runner, threads.current, reached.continued.runner, halted.current]
    simp
  rw [ended_held waiting] at idle ⊢
  simp only [Rests, Scheduler.rest, Course.attend, bind_apply, Scheduler.stop_apply,
    Activity.andThen_done, Scheduler.join_busy busy foreign, Course.yield_apply,
    Activity.andThen_paused, Activity.attend, waiting, conduct]
  simp [Scheduler.isIdle, idle, Activity.attend, conduct]

/-- Waiting for the run that is under way succeeds, and the library is left alone meanwhile. -/
theorem Pauses.rests (watches : observer.Watches) (pauses : stage.Pauses observer) :
    stage.Rests observer stage.ended ∧ stage.ended.Free ∧ stage.game.SameHolding stage.ended := by
  cases waiting : stage.held with
  | none =>
      have free := pauses.free waiting
      have still : stage.game.stopped = stage.game := by
        rw [Game.stopped, if_neg (by simp [free.state])]
      rw [ended_idle free waiting]
      refine ⟨?_, free, .refl _⟩
      simp [Rests, Scheduler.rest, Course.attend, Scheduler.stop_apply, still,
        Scheduler.join_idle free.idle, waiting, Activity.attend, conduct]
  | some held =>
      rcases pauses.halted held waiting with ⟨base, asked, halted⟩
      rcases halted.ends watches waiting with ⟨closed, same⟩
      exact ⟨halted.rests watches waiting, closed.free, same⟩

theorem Stands.rests (watches : observer.Watches) (stands : stage.Stands observer) :
    ∃ ended, stage.Rests observer ended ∧ ended.Free ∧ stage.game.SameHolding ended :=
  ⟨stage.ended, stands.pauses.rests watches⟩

theorem Rests.perform {ended : Game} (rests : stage.Rests observer ended) (next : Course α) :
    stage.perform observer (Scheduler.rest >>= fun _ => next) =
      ((conduct (work observer) (next.attend observer ended) none).1,
        (conduct (work observer) (next.attend observer ended) none).2.settle) := by
  rw [Stage.perform, Course.attend_bind]
  change ((conduct (work observer) _ _).1, (conduct (work observer) _ _).2.settle) = _
  rw [conduct_bind rests]

theorem conduct_announce (watches : observer.Watches) (game : Game) :
    conduct (work observer) ((Scheduler.announce game).attend observer) none =
      (.ok (), { game := (game.record (.highlight none)).record .redraw }) := by
  simp only [Scheduler.announce, bind_apply, Course.notify_apply, Activity.andThen_paused,
    Activity.andThen_done, conduct_notice watches]
  rfl

theorem announced_free {game : Game} (free : game.Free) :
    ((game.record (.highlight none)).record .redraw).Free := by
  have cleared := game.record_undisturbed (.highlight none)
  have shown := (game.record (.highlight none)).record_undisturbed .redraw
  constructor
  · rw [shown.session, cleared.session, free.state]
  · rw [shown.idle, cleared.idle, free.idle]

theorem resetPosition_keeps (watches : observer.Watches) :
    Keeps observer Scheduler.resetPosition := by
  intro stage stands
  rcases stands.rests watches with ⟨ended, rests, free, -⟩
  have restarted : (ended.onSession Session.resetPosition).Free := ⟨rfl, free.idle⟩
  rw [Scheduler.resetPosition_eq, rests.perform]
  simp only [Course.attend, bind_apply, update_apply, Activity.andThen_done,
    conduct_announce watches]
  exact stands_free (announced_free restarted)

theorem fullReset_keeps (watches : observer.Watches) (grid : Option Grid)
    (draws : Option Random.Draws) : Keeps observer (Scheduler.fullReset grid draws) := by
  intro stage stands
  rcases stands.rests watches with ⟨ended, rests, free, -⟩
  rcases Scheduler.resetSession_ends grid ended.usesLibrary draws ended with
    ⟨result, last, reset, threads, session⟩
  have settled : last.Free := by
    refine ⟨?_, threads.idle.trans free.idle⟩
    rcases session with ⟨fresh, same⟩ | ⟨same, -⟩
    · rw [same]
      rfl
    · rw [same, free.state]
  rw [Scheduler.fullReset_eq, rests.perform]
  simp only [Scheduler.renew, Course.attend, bind_apply, state_apply, Activity.andThen_done, reset]
  cases result with
  | error fault => exact stands_free settled
  | ok =>
      simp only [conduct_announce watches]
      exact stands_free (announced_free settled)

end Stage

end TileWalk
