import TileWalk.Proofs.Run.InnerReset
import TileWalk.Proofs.Run.Recovery
import TileWalk.Run.Stage

/-!
# Resets from outside

A reset on another thread asks the run that is under way to stop and waits for its
end. Wherever the run is held, and however its statement may still end, the run
tells its end first; the reset then puts the agent back in a session that the run
does not touch any more.
-/

namespace TileWalk

open Process Course

/-! ## What a program changes -/

/-- What the program of a run makes of a game between two notices. -/
inductive Game.Edited (game : Game) : Game → Prop
  | same : Edited game game
  | dead {later : Game} : Edited game later → Edited game (later.onWorld (·.setDead true))
  | placed {later : Game} (place : Position) :
    Edited game later → Edited game (later.onWorld (·.place place))
  | bound {later : Game} (bindings : Bindings) :
    Edited game later → Edited game (later.onSession fun session => { session with bindings })
  | logged {later : Game} (entry : LogEntry) :
    Edited game later → Edited game (later.push (.logged entry))

namespace StatementTurn

variable (game : Game)

def Edits (turn : StatementTurn) : Prop :=
  turn.Meets (fun _ later => game.Edited later) fun _ later => game.Edited later

theorem walk_edits (direction : Direction) (total : Int) (left : Nat) :
    (walk direction total left game).Edits game := by
  cases left with
  | zero =>
      simp only [walk]
      split <;> exact .same
  | succ left =>
      simp only [walk]
      split
      · exact .same
      split
      · exact .dead .same
      split
      · exact .same
      split
      · exact .dead .same
      · exact .placed _ .same

theorem begin_edits (statement : Statement) : (begin game statement).Edits game := by
  cases statement with
  | assign name value =>
      simp only [begin]
      split
      · exact .same
      · exact .bound _ .same
  | print token quoted => exact .same
  | move direction argument =>
      simp only [begin]
      split
      · exact .same
      · exact walk_edits game ..
  | remark text => exact .same

end StatementTurn

theorem Moment.next_edits (moment : Moment) (reply : Except Fault Unit) (game : Game) :
    (moment.next reply game).Edits game := by
  cases reply with
  | error fault => cases moment <;> exact .same
  | ok =>
      cases moment with
      | stepped walk =>
          simp only [next]
          split <;> exact .same
      | rested walk =>
          simp only [next]
          split
          · exact .same
          · exact StatementTurn.walk_edits game ..
      | _ => exact .same

namespace RunTurn

variable (game : Game)

def Edits (turn : RunTurn) : Prop :=
  turn.Meets (fun _ later => game.Edited later) fun _ later => game.Edited later

theorem dispatch_edits (lines : List SourceLine) : (dispatch lines game).Edits game := by
  cases lines with
  | nil => exact .same
  | cons line rest =>
      simp only [dispatch]
      split <;> exact .same

theorem settle_edits {later : Game} (edited : game.Edited later) (line : SourceLine)
    (rest : List SourceLine) (result : Except Fault Bool) :
    (settle line rest result later).Edits game := by
  simp only [settle]
  split
  · split <;> exact edited
  · exact edited
  · exact edited.logged _
  · exact edited

theorem ofStatement_edits {turn : StatementTurn} (edits : turn.Edits game) (line : SourceLine)
    (rest : List SourceLine) : (ofStatement line rest turn).Edits game :=
  Turn.Meets.carry (fun _ _ => id) (fun result _ edited => settle_edits game edited line rest result)
    edits

theorem carryOut_edits (line : SourceLine) (rest : List SourceLine) :
    (carryOut line rest game).Edits game := by
  simp only [carryOut]
  split
  · exact ofStatement_edits game (StatementTurn.begin_edits game _) line rest
  · exact settle_edits game .same line rest _

end RunTurn

theorem Waypoint.next_edits {waypoint : Waypoint} (going : waypoint.Open)
    (reply : Except Fault Unit) (game : Game) : (waypoint.next reply game).Edits game := by
  cases waypoint with
  | within line rest moment =>
      exact RunTurn.ofStatement_edits game (Moment.next_edits moment reply game) line rest
  | closing result => exact going.elim
  | ended result => exact going.elim
  | begun lines =>
      cases reply with
      | error fault => exact .same
      | ok => exact RunTurn.dispatch_edits game lines
  | highlighted line rest =>
      cases reply with
      | error fault => exact .same
      | ok => exact RunTurn.carryOut_edits game line rest
  | failed error => cases reply <;> exact .same
  | between rest =>
      cases reply with
      | error fault => exact .same
      | ok => exact RunTurn.dispatch_edits game rest

/-! ## What a run leaves alone -/

namespace Game

/-- The notices so far, the newest first. -/
def told (game : Game) : List Event :=
  game.trace.filter (·.notice?.isSome)

/-- All that a run leaves alone but for what it tells. -/
structure Spared (before after : Game) : Prop where
  map : before.session.world.SameMap after.session.world
  speed : after.session.speed = before.session.speed
  attended : after.attended = before.attended

theorem Spared.refl (game : Game) : game.Spared game :=
  ⟨⟨rfl, rfl⟩, rfl, rfl⟩

theorem Spared.trans {first second third : Game} (one : first.Spared second)
    (other : second.Spared third) : first.Spared third :=
  ⟨⟨other.map.grid.trans one.map.grid, other.map.size.trans one.map.size⟩,
    other.speed.trans one.speed, other.attended.trans one.attended⟩

theorem Edited.spared {game later : Game} (edited : game.Edited later) : game.Spared later := by
  induction edited with
  | same => exact .refl game
  | dead _ ih => exact ih.trans ⟨⟨rfl, rfl⟩, rfl, rfl⟩
  | placed place _ ih => exact ih.trans ⟨⟨rfl, rfl⟩, rfl, rfl⟩
  | bound bindings _ ih => exact ih.trans ⟨⟨rfl, rfl⟩, rfl, rfl⟩
  | logged entry _ ih => exact ih.trans ⟨⟨rfl, rfl⟩, rfl, rfl⟩

theorem Edited.told {game later : Game} (edited : game.Edited later) : later.told = game.told := by
  induction edited with
  | same => rfl
  | dead _ ih => exact ih
  | placed place _ ih => exact ih
  | bound bindings _ ih => exact ih
  | logged entry _ ih => exact ih

/-- A reset makes the same of a session whatever a run has made of it. -/
theorem Spared.resetPosition {before after : Game} (spared : before.Spared after) :
    after.session.resetPosition = before.session.resetPosition := by
  simp only [Session.resetPosition, World.resetAgent, spared.map.grid, spared.map.size, spared.speed]

theorem record_undisturbed (game : Game) (notice : Notice) :
    game.Undisturbed (game.record notice) := by
  simp only [record]
  split
  · exact ⟨rfl, rfl, rfl, rfl⟩
  split <;> exact ⟨rfl, rfl, rfl, rfl⟩

@[simp] theorem record_attended (game : Game) (notice : Notice) :
    (game.record notice).attended = game.attended := by
  simp only [record]
  split
  · rfl
  split <;> rfl

theorem record_spared (game : Game) (notice : Notice) : game.Spared (game.record notice) := by
  have same := (game.record_undisturbed notice).session
  exact ⟨⟨by rw [same], by rw [same]⟩, by rw [same], game.record_attended notice⟩

theorem told_record {game : Game} (attended : game.attended = true) (notice : Notice) :
    (game.record notice).told = game.eventOf notice :: game.told := by
  simp only [record, attended, if_true]
  cases notice <;> rfl

end Game

/-! ## A worker at its pauses -/

/-- The worker carries on with a run that began in another game. -/
structure Game.Continued (base : Game) (asked : Bool) (game : Game) : Prop where
  spared : base.Spared game
  asked : game.session.stopRequested = asked
  runner : game.runner = some .worker
  busy : game.idle = false

/-- No end of a run has been told since another game. -/
def Game.Untold (base game : Game) : Prop :=
  Event.count game.told .ended = Event.count base.told .ended

/-- The last thing that has been told is the end of a run, for the first time since
another game. -/
def Game.ToldEnd (base game : Game) : Prop :=
  ∃ earlier, game.told = .ended .idle :: earlier ∧
    Event.count earlier .ended = Event.count base.told .ended

namespace Waypoint

/-- A run is about to give the notice of a waypoint. -/
structure Afoot (base : Game) (asked : Bool) (waypoint : Waypoint) (game : Game) : Prop where
  continued : base.Continued asked game
  resting : ¬ waypoint.BeforeEnd → game.session.state = .idle
  untold : base.attended = true → base.Untold game

/-- A run has given the notice of a waypoint. -/
structure Reached (base : Game) (asked : Bool) (waypoint : Waypoint) (game : Game) : Prop where
  continued : base.Continued asked game
  resting : ¬ waypoint.BeforeEnd → game.session.state = .idle
  untold : base.attended = true → waypoint.BeforeEnd → base.Untold game
  told : base.attended = true → ¬ waypoint.BeforeEnd → base.ToldEnd game

end Waypoint

/-- A run that began in another game is over. -/
structure Game.Closed (base game : Game) : Prop where
  spared : base.Spared game
  free : game.Free
  told : base.attended = true → base.ToldEnd game

namespace Waypoint

variable {base game : Game} {asked : Bool} {waypoint : Waypoint}

theorem BeforeEnd.notice (early : waypoint.BeforeEnd) : waypoint.notice ≠ .ended := by
  cases waypoint with
  | within line rest moment => cases moment <;> simp [Waypoint.notice, Moment.notice]
  | ended result => exact early.elim
  | _ => simp [Waypoint.notice]

theorem notice_of_end (late : ¬ waypoint.BeforeEnd) : waypoint.notice = .ended := by
  cases waypoint with
  | ended result => rfl
  | _ => exact absurd trivial late

theorem Afoot.record (afoot : waypoint.Afoot base asked game) :
    waypoint.Reached base asked (game.record waypoint.notice) := by
  have same := game.record_undisturbed waypoint.notice
  have continued := afoot.continued
  constructor
  · exact ⟨continued.spared.trans (game.record_spared _), by rw [same.session, continued.asked],
      same.runner.trans continued.runner, same.idle.trans continued.busy⟩
  · intro late
    rw [same.session]
    exact afoot.resting late
  · intro attended early
    have listening : game.attended = true := continued.spared.attended.trans attended
    rw [Game.Untold, Game.told_record listening, ← afoot.untold attended]
    have other := early.notice
    cases told : waypoint.notice with
    | ended => exact absurd told other
    | _ => rfl
  · intro attended late
    have listening : game.attended = true := continued.spared.attended.trans attended
    refine ⟨game.told, ?_, afoot.untold attended⟩
    rw [Game.told_record listening, notice_of_end late, Game.eventOf, afoot.resting late]

/-- From the notice that it has given, a run goes on to the next one or is over. -/
theorem Reached.next (reached : waypoint.Reached base asked game) :
    (waypoint.next (.ok ()) game).Meets (Afoot base asked) fun _ final => base.Closed final := by
  have continued := reached.continued
  by_cases going : waypoint.Open
  · have early : waypoint.BeforeEnd := by
      cases waypoint <;> trivial
    have keeps := next_keeps going (.ok ()) game
    have edits := next_edits going (.ok ()) game
    cases turn : waypoint.next (.ok ()) game with
    | finish result final =>
        rw [turn] at keeps
        exact keeps.elim
    | pause place later =>
        rw [turn] at keeps edits
        rcases keeps with ⟨ahead, same, -⟩
        have edited : game.Edited later := edits
        constructor
        · exact ⟨continued.spared.trans edited.spared, same.stopRequested.trans continued.asked,
            same.runner.trans continued.runner, same.idle.trans continued.busy⟩
        · intro late
          exact absurd ahead late
        · intro attended
          rw [Game.Untold, edited.told]
          exact reached.untold attended early
  · cases waypoint with
    | closing result =>
        refine ⟨⟨continued.spared.trans ⟨⟨rfl, rfl⟩, rfl, rfl⟩, continued.asked, continued.runner,
          continued.busy⟩, fun _ => rfl, fun attended => reached.untold attended trivial⟩
    | ended result =>
        exact ⟨continued.spared.trans ⟨⟨rfl, rfl⟩, rfl, rfl⟩, ⟨reached.resting id, rfl⟩,
          fun attended => reached.told attended id⟩
    | _ => exact absurd trivial going

end Waypoint

/-! ## Observers that only watch -/

/-- An observer records each notice and may hold the worker there, but does nothing else. -/
def Observer.Watches (observer : Observer) : Prop :=
  ∀ notice game, observer notice game = .done (.ok ()) (game.record notice) ∨
    ∃ resume, observer notice game = .paused .held (game.record notice) resume ∧
      ∀ later, resume (.ok ()) later = .done (.ok ()) later

/-- An observer that holds the worker wherever that is wished. -/
def Observer.holding (wish : Game → Notice → Bool) : Observer :=
  reacting (fun game notice => if wish game notice then [.hold] else []) 1

theorem Observer.holding_watches (wish : Game → Notice → Bool) : (holding wish).Watches := by
  intro notice game
  simp only [holding, reacting, bind_apply, update_apply, state_apply, Activity.andThen_done]
  split
  · cases wish (game.record notice) notice with
    | false => exact .inl rfl
    | true =>
        simp only [if_true, Command.performAll, Command.holdWorker, Course.attend, bind_apply,
          state_apply, Activity.andThen_done]
        split
        · exact .inr ⟨_, rfl, fun _ => rfl⟩
        · exact .inl rfl
  · exact .inl rfl

/-! ## The worker's turns -/

section Worker

variable {observer : Observer} {base : Game} {asked : Bool}
  {activity : Activity Point Game Fault Unit} {turn : RunTurn}

/-- A worker that is held goes on from a waypoint that its run has reached. -/
structure Stage.Halted (observer : Observer) (base : Game) (asked : Bool) (stage : Stage)
    (held : Held) : Prop where
  point : ∃ (waypoint : Waypoint) (resume : Except Fault Unit → Game → Activity Point Game Fault Unit),
    (held = fun later => (resume (.ok ()) later).attend observer) ∧
    (∀ later, (resume (.ok ()) later).Follows runMachine (waypoint.next (.ok ()) later)) ∧
    waypoint.Reached base asked stage.game
  current : stage.game.current = .controller

theorem Game.Closed.afterWorker {game : Game} (closed : base.Closed game)
    (result : Except Fault Unit) : base.Closed (Stage.afterWorker result game) := by
  rcases closed with ⟨⟨⟨grid, size⟩, speed, attended⟩, ⟨state, idle⟩, told⟩
  cases result <;> exact ⟨⟨⟨grid, size⟩, speed, attended⟩, ⟨state, idle⟩, told⟩

theorem Waypoint.Reached.turned {waypoint : Waypoint} {game : Game}
    (reached : waypoint.Reached base asked game) (current : Thread) (holdIn : Option Nat) :
    waypoint.Reached base asked { game with current, holdIn } := by
  rcases reached with ⟨⟨⟨⟨grid, size⟩, speed, attended⟩, asked, runner, busy⟩, resting, untold, told⟩
  exact ⟨⟨⟨⟨grid, size⟩, speed, attended⟩, asked, runner, busy⟩, resting, untold, told⟩

/-- Asking a run to stop changes nothing else of what it has reached. -/
theorem Waypoint.Reached.stopped {waypoint : Waypoint} {game : Game}
    (reached : waypoint.Reached base asked game) :
    waypoint.Reached base game.stopped.session.stopRequested game.stopped := by
  simp only [Game.stopped]
  split
  · next running =>
      rcases reached with ⟨⟨spared, -, runner, busy⟩, resting, untold, told⟩
      refine ⟨⟨spared.trans ⟨⟨rfl, rfl⟩, rfl, rfl⟩, rfl, runner, busy⟩, ?_, untold, told⟩
      intro late
      cases running.symm.trans (resting late)
  · rcases reached with ⟨⟨spared, -, runner, busy⟩, resting, untold, told⟩
    exact ⟨⟨spared, rfl, runner, busy⟩, resting, untold, told⟩

section Meets

variable {invariant : Waypoint → Game → Prop} {post : Except Fault Unit → Game → Prop}

/-- What a run keeps from one notice to the next holds where the worker ends. -/
theorem Stage.workerEnd_meets (watches : observer.Watches)
    (steps : ∀ waypoint game, invariant waypoint game →
      (waypoint.next (.ok ()) (game.record waypoint.notice)).Meets invariant post)
    (follows : activity.Follows runMachine turn) (meets : turn.Meets invariant post) :
    ∃ result final, post result final ∧
      workerEnd (activity.attend observer) = afterWorker result final := by
  induction activity generalizing turn with
  | done result state =>
      cases follows
      exact ⟨result, state, meets, rfl⟩
  | paused point game resume ih =>
      rcases follows with ⟨waypoint, rfl, rfl, onward⟩
      have later := ih (.ok ()) (game.record waypoint.notice) (onward (.ok ()) _)
        (steps waypoint game meets)
      rcases watches waypoint.notice game with told | ⟨after, told, resumed⟩
      · simpa [Activity.attend, told] using later
      · simpa [Activity.attend, told, workerEnd, resumed] using later

/-- What a run keeps from one notice to the next holds where the worker is held, or where it
ends. -/
theorem Stage.workerTurn_meets (watches : observer.Watches)
    (steps : ∀ waypoint game, invariant waypoint game →
      (waypoint.next (.ok ()) (game.record waypoint.notice)).Meets invariant post)
    (follows : activity.Follows runMachine turn) (meets : turn.Meets invariant post) :
    (∃ result final, post result final ∧
      workerTurn (activity.attend observer) = { game := afterWorker result final }) ∨
    ∃ (waypoint : Waypoint) (game : Game)
      (resume : Except Fault Unit → Game → Activity Point Game Fault Unit),
      invariant waypoint game ∧
      (∀ later, (resume (.ok ()) later).Follows runMachine (waypoint.next (.ok ()) later)) ∧
      workerTurn (activity.attend observer) =
        { game := { game.record waypoint.notice with current := .controller }
          held := some fun later => (resume (.ok ()) later).attend observer } := by
  induction activity generalizing turn with
  | done result state =>
      cases follows
      exact .inl ⟨result, state, meets, rfl⟩
  | paused point game resume ih =>
      rcases follows with ⟨waypoint, rfl, rfl, onward⟩
      have later := ih (.ok ()) (game.record waypoint.notice) (onward (.ok ()) _)
        (steps waypoint game meets)
      rcases watches waypoint.notice game with told | ⟨after, told, resumed⟩
      · simpa [Activity.attend, told] using later
      · refine .inr ⟨waypoint, game, resume, meets, onward (.ok ()), ?_⟩
        simp only [Activity.attend, runMachine_signal, told, Activity.andThen_paused, workerTurn]
        congr 2
        funext later
        simp [resumed]

end Meets

/-- Without being held any more, a run comes to its end. -/
theorem Stage.workerEnd_closes (watches : observer.Watches)
    (follows : activity.Follows runMachine turn)
    (afoot : turn.Meets (Waypoint.Afoot base asked) fun _ final => base.Closed final) :
    base.Closed (workerEnd (activity.attend observer)) := by
  rcases workerEnd_meets watches (fun _ _ afoot => afoot.record.next) follows afoot with
    ⟨result, final, closed, ends⟩
  rw [ends]
  exact closed.afterWorker result

/-- At its turn, a worker is held again or comes to its end. -/
theorem Stage.workerTurn_halts (watches : observer.Watches)
    (follows : activity.Follows runMachine turn)
    (afoot : turn.Meets (Waypoint.Afoot base asked) fun _ final => base.Closed final) :
    ∀ held, (workerTurn (activity.attend observer)).held = some held →
      Halted observer base asked (workerTurn (activity.attend observer)) held := by
  intro held
  rcases workerTurn_meets watches (fun _ _ afoot => afoot.record.next) follows afoot with
    ⟨result, final, -, ends⟩ | ⟨waypoint, game, resume, due, onward, stands⟩
  · rw [ends]
    nofun
  · rw [stands]
    rintro ⟨⟩
    exact ⟨⟨waypoint, resume, rfl, onward, due.record.turned .controller _⟩, rfl⟩

end Worker

/-! ## A run of the worker -/

namespace Stage

/-- Where the game stands when the worker has been given turns in a run. -/
def underway (observer : Observer) (game : Game) (source : Text) : List (Option Nat) → Stage
  | [] => (({ game } : Stage).perform observer (Scheduler.runAsync source)).2
  | holdIn :: earlier =>
    ((underway observer game source earlier).perform observer (Command.giveTurn holdIn)).2

variable {observer : Observer} {base : Game} {stage : Stage}

/-- Nothing is settled where a held worker has not been asked to stop. -/
theorem settle_unasked (halts : ∀ held, stage.held = some held → Halted observer base false stage held) :
    stage.settle = stage := by
  cases some : stage.held with
  | none => simp [settle, some]
  | some held =>
      rcases (halts held some).point with ⟨waypoint, resume, -, -, reached⟩
      simp [settle, some, reached.continued.asked]

/-- A worker goes on from where it is held. -/
theorem Halted.resumes {asked later : Bool} {held : Held} (halted : Halted observer base asked stage held)
    {game : Game} (kept : ∀ waypoint : Waypoint, waypoint.Reached base asked stage.game →
      waypoint.Reached base later game) :
    ∃ (activity : Activity Point Game Fault Unit) (turn : RunTurn),
      held game = activity.attend observer ∧ activity.Follows runMachine turn ∧
      turn.Meets (Waypoint.Afoot base later) fun _ final => base.Closed final := by
  rcases halted.point with ⟨waypoint, resume, rfl, onward, here⟩
  exact ⟨resume (.ok ()) game, _, rfl, onward game, (kept waypoint here).next⟩

theorem started_halts (watches : observer.Watches) (free : base.Free) (source : Text) :
    ∀ held, (underway observer base source []).held = some held →
      Halted observer base false (underway observer base source []) held := by
  by_cases blank : SourceLine.ofSource source = []
  · have refused : Scheduler.runAsync source base = .done (.ok false) base := by
      simp [Scheduler.runAsync, blank]
    simp [underway, perform, Course.attend, refused, Activity.attend, conduct, settle]
  · let lines := SourceLine.ofSource source
    let begun := handTo (base.claimed .worker)
    have afoot : (Waypoint.begun lines).Afoot base false (begun.begun lines) :=
      ⟨⟨⟨⟨rfl, rfl⟩, rfl, rfl⟩, rfl, rfl, rfl⟩, fun late => absurd trivial late, fun _ => rfl⟩
    have halts := workerTurn_halts watches (run_follows lines begun) afoot
    have same : underway observer base source [] =
        (workerTurn ((Scheduler.execute lines begun).attend observer)).settle := by
      simp only [underway, perform, Course.attend, Scheduler.runAsync_free blank free,
        Course.yield_apply, Activity.andThen_paused, Activity.andThen_done, Activity.attend, conduct]
      rfl
    rw [same, settle_unasked halts]
    exact halts

theorem underway_halts (watches : observer.Watches) (free : base.Free) (source : Text)
    (turns : List (Option Nat)) :
    ∀ held, (underway observer base source turns).held = some held →
      Halted observer base false (underway observer base source turns) held := by
  induction turns with
  | nil => exact started_halts watches free source
  | cons holdIn earlier ih =>
      simp only [underway]
      generalize underway observer base source earlier = stage at ih
      rcases stage with ⟨game, held⟩
      cases held with
      | none =>
          by_cases turned : game.current = .controller <;>
            simp [perform, Course.attend, Command.giveTurn, turned, Activity.attend, conduct, settle]
      | some held =>
          have halted := ih held rfl
          have turned : game.current = .controller := halted.current
          rcases halted.resumes (fun _ reached => reached.turned .worker holdIn) with
            ⟨activity, turn, resumed, follows, afoot⟩
          have halts := workerTurn_halts watches follows afoot
          have same : (perform observer (Command.giveTurn holdIn) { game, held := some held }).2 =
              (workerTurn (activity.attend observer)).settle := by
            simp only [perform, Course.attend, Command.giveTurn, bind_apply, state_apply,
              Activity.andThen_done, turned, if_true, update_apply, Course.yield_apply,
              Activity.andThen_paused, Activity.attend, conduct, pure_apply]
            rw [← resumed]
            rfl
          rw [same, settle_unasked halts]
          exact halts

end Stage

/-! ## Resets of another thread -/

/-- The resets that cannot fail, and what they make of a session. -/
inductive Scheduler.ResetsTo : Course Unit → (Session → Session) → Prop
  | position : ResetsTo resetPosition Session.resetPosition
  | full (grid : Grid) (draws : Option Random.Draws) :
    ResetsTo (fullReset (some grid) draws) fun session => session.resetPosition.load grid

namespace Scheduler.ResetsTo

variable {reset : Course Unit} {change : Session → Session}

/-- While another thread drives a run, a reset asks it to stop and waits for its end. -/
theorem awaits (resets : ResetsTo reset change) {game : Game} (busy : game.idle = false)
    (other : game.runner ≠ some game.current) :
    ∃ resume, reset game = .paused (.signal .await) game.stopped resume ∧
      ∀ later, later.idle = true → resume (.ok ()) later = announce (later.onSession change) := by
  have threads := game.stopped_threads
  have waiting : join game.stopped = (yield .await >>= fun _ => do
      if !(← isIdle) then fail .deadlock) game.stopped := by
    simp [join, threads.runner, threads.current, threads.idle, other, busy]
  cases resets with
  | position =>
      refine ⟨_, by simp only [resetPosition, bind_apply, stop_apply, waiting,
        Activity.andThen_done, yield_apply, Activity.andThen_paused]; rfl, ?_⟩
      intro later idle
      simp [isIdle, idle]
  | full grid draws =>
      refine ⟨_, by simp only [fullReset, bind_apply, stop_apply, waiting,
        Activity.andThen_done, yield_apply, Activity.andThen_paused]; rfl, ?_⟩
      intro later idle
      simp [isIdle, idle, resetSession, chooseGrid]
      rfl

theorem fresh (resets : ResetsTo reset change) (session : Session) : (change session).Fresh := by
  cases resets <;> exact ⟨rfl, rfl, rfl, rfl⟩

/-- What a run does is forgotten by a reset. -/
theorem forgets (resets : ResetsTo reset change) {before after : Game}
    (spared : before.Spared after) : change after.session = change before.session := by
  cases resets with
  | position => exact spared.resetPosition
  | full grid draws => exact congrArg (Session.load · grid) spared.resetPosition

end Scheduler.ResetsTo

/-- A notice of the controller is recorded, and no worker that is not there is held. -/
theorem Stage.conduct_notice {observer : Observer} (watches : observer.Watches) {α : Type}
    (work : List SourceLine → Play Unit) (notice : Notice) (game : Game)
    (resume : Except Fault Unit → Game → Activity Point Game Fault α) (held : Option Held) :
    conduct work ((Activity.paused (.notice notice) game resume).attend observer) held =
      conduct work ((resume (.ok ()) (game.record notice)).attend observer) held := by
  rcases watches notice game with told | ⟨after, told, resumed⟩
  · simp [Activity.attend, told]
  · simp [Activity.attend, told, conduct, resumed]

section Reset

variable {reset : Course Unit} {change : Session → Session}

/-- A reset waits for the end of the held worker, and then tells of the new session. -/
theorem Scheduler.ResetsTo.perform {observer : Observer} (watches : observer.Watches)
    (resets : ResetsTo reset change) {stage : Stage} {held : Held}
    (waiting : stage.held = some held) (busy : stage.game.idle = false)
    (foreign : stage.game.runner ≠ some stage.game.current) :
    let ended := Stage.workerEnd (held (Stage.handTo stage.game.stopped))
    ended.idle = true → stage.perform observer reset =
      (.ok (), { game := ((ended.onSession change).record (.highlight none)).record .redraw }) := by
  intro ended idle
  rcases resets.awaits busy foreign with ⟨resume, pauses, onward⟩
  have pause : reset.attend observer stage.game =
      .paused .await stage.game.stopped fun reply game => (resume reply game).attend observer := by
    rw [Course.attend, pauses]
    rfl
  simp only [Stage.perform, pause, waiting, Stage.conduct]
  rw [onward ended idle]
  simp only [announce, bind_apply, notify_apply, Activity.andThen_paused, Activity.andThen_done,
    Stage.conduct_notice watches]
  rfl

/-- What is told of a new session. -/
theorem Scheduler.ResetsTo.told (resets : ResetsTo reset change) {ended : Game}
    (attended : ended.attended = true) :
    (((ended.onSession change).record (.highlight none)).record .redraw).told =
      .redraw {} :: .highlight none .idle :: ended.told := by
  have fresh := resets.fresh ended.session
  have listening : (ended.onSession change).attended = true := attended
  have cleared : (ended.onSession change).eventOf (.highlight none) = .highlight none .idle := by
    rw [Game.eventOf, Game.onSession, fresh.state]
  have shown : ((ended.onSession change).record (.highlight none)).eventOf .redraw = .redraw {} := by
    rw [Game.eventOf, (Game.record_undisturbed _ _).session, Game.onSession, fresh.agent]
  rw [Game.told_record (by simpa using listening), shown, Game.told_record listening, cleared]
  rfl

end Reset

/-- Wherever a worker is held, a reset on the other thread succeeds. The run has told its
end by then, for the only time, and tells nothing more; the reset clears the highlight
and shows the agent alive at the start. The session is as it would be had the run made
nothing of it, and the next run is accepted. -/
theorem outer_reset_settles {observer : Observer} (watches : observer.Watches) {game : Game}
    (free : game.Free) (source : Text) (turns : List (Option Nat)) {held : Held}
    (waiting : (Stage.underway observer game source turns).held = some held)
    {reset : Course Unit} {change : Session → Session} (resets : Scheduler.ResetsTo reset change) :
    let stage := Stage.underway observer game source turns
    let ended := Stage.workerEnd (held (Stage.handTo stage.game.stopped))
    let final := ((ended.onSession change).record (.highlight none)).record .redraw
    stage.perform observer reset = (.ok (), { game := final }) ∧
    ended.Free ∧ final.Ready ∧ final.session = change stage.game.session ∧
    final.session.Fresh ∧
    (game.attended = true → ∃ earlier, ended.told = .ended .idle :: earlier ∧
      Event.count earlier .ended = Event.count game.told .ended ∧
      final.told = .redraw {} :: .highlight none .idle :: ended.told) := by
  intro stage ended final
  have halted : stage.Halted observer game false held :=
    Stage.underway_halts watches free source turns held waiting
  rcases halted.resumes (fun waypoint reached => reached.stopped.turned .worker _) with
    ⟨activity, turn, resumed, follows, afoot⟩
  have closed : game.Closed ended := by
    have closes := Stage.workerEnd_closes watches follows afoot
    rw [← resumed] at closes
    exact closes
  rcases halted.point with ⟨waypoint, -, -, -, reached⟩
  have foreign : stage.game.runner ≠ some stage.game.current := by
    rw [reached.continued.runner, halted.current]
    simp
  have performed : stage.perform observer reset = (.ok (), { game := final }) :=
    resets.perform watches waiting reached.continued.busy foreign closed.free.idle
  have session : final.session = change ended.session := by
    rw [(Game.record_undisturbed _ _).session, (Game.record_undisturbed _ _).session]
    rfl
  have idle : final.idle = true := by
    rw [(Game.record_undisturbed _ _).idle, (Game.record_undisturbed _ _).idle]
    exact closed.free.idle
  have fresh : final.session.Fresh := session ▸ resets.fresh ended.session
  refine ⟨performed, closed.free, Game.Free.ready ⟨fresh.state, idle⟩, ?_, fresh, ?_⟩
  · rw [session, resets.forgets closed.spared, resets.forgets reached.continued.spared]
  · intro attended
    rcases closed.told attended with ⟨earlier, told, once⟩
    exact ⟨earlier, told, once, resets.told (closed.spared.attended.trans attended)⟩

/-- A worker is held when it has highlighted a line that cannot be carried out. -/
theorem outer_reset_settles_failing :
    let observer := Observer.holding fun _ notice => notice = .highlight (some 0)
    let stage := Stage.underway observer (Game.onGrass 1) "x = y" []
    observer.Watches ∧ (Game.onGrass 1).Free ∧
    ∃ held final, stage.held = some held ∧
      stage.perform observer Scheduler.resetPosition = (.ok (), { game := final }) ∧
      final.Ready ∧ final.session.Fresh ∧
      ∃ earlier, final.told = .redraw {} :: .highlight none .idle :: .ended .idle :: earlier ∧
        Event.count earlier .ended = 0 := by
  intro observer stage
  have watches : observer.Watches := Observer.holding_watches _
  have free : (Game.onGrass 1).Free := by decide
  have waits : stage.held.isSome = true := by decide +kernel
  rcases Option.isSome_iff_exists.mp waits with ⟨held, waiting⟩
  rcases outer_reset_settles watches free "x = y" [] waiting .position with
    ⟨performed, -, ready, -, fresh, told⟩
  rcases told rfl with ⟨earlier, ended, once, shown⟩
  exact ⟨watches, free, held, _, waiting, performed, ready, fresh, earlier, by rw [shown, ended], once⟩

end TileWalk
