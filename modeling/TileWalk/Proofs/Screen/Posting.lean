import TileWalk.Proofs.Screen.Game

/-!
# What runs post to the screen

A run posts that it has begun and that it has ended, in turn, and in between which
line is highlighted. However it ends, the highlight is cleared before its end is
posted, and its end before it is over. A run that is refused posts nothing, and
what the player starts over with is posted when no run is under way.
-/

namespace TileWalk

open Process Course

/-! ## Messages -/

/-- Two values take turns, beginning with a given one. -/
def Alternates : Bool → List Bool → Prop
  | _, [] => True
  | first, value :: rest => value = first ∧ Alternates (!first) rest

theorem Alternates.concat {first value : Bool} {values : List Bool}
    (alternates : Alternates first values) (differs : value ≠ values.getLast?.getD (!first)) :
    Alternates first (values ++ [value]) := by
  induction values generalizing first with
  | nil => exact ⟨by simpa using differs, trivial⟩
  | cons head rest ih =>
      rcases alternates with ⟨rfl, alternates⟩
      refine ⟨rfl, ih alternates ?_⟩
      simpa [List.getLast?_cons] using differs

theorem Alternates.of_append {first : Bool} {values later : List Bool}
    (alternates : Alternates first (values ++ later)) : Alternates first values := by
  induction values generalizing first with
  | nil => trivial
  | cons head rest ih => exact ⟨alternates.1, ih alternates.2⟩

namespace ScreenMessage

def change? : ScreenMessage → Option Bool
  | .runStateChanged running => some running
  | _ => none

def line? : ScreenMessage → Option (Option Nat)
  | .lineHighlighted line => some line
  | _ => none

/-- Where a run is said to have begun or to have ended. -/
def changes (messages : List ScreenMessage) : List Bool :=
  messages.filterMap change?

/-- Whether the last that was said is that a run has begun. -/
def running (messages : List ScreenMessage) : Bool :=
  (changes messages).getLast?.getD false

/-- The line that was highlighted last. -/
def marked (messages : List ScreenMessage) : Option Nat :=
  (messages.filterMap line?).getLast?.getD none

variable (messages : List ScreenMessage) (message : ScreenMessage)

theorem changes_append (later : List ScreenMessage) :
    changes (messages ++ later) = changes messages ++ changes later :=
  List.filterMap_append

theorem running_concat :
    running (messages ++ [message]) = message.change?.getD (running messages) := by
  cases change : message.change? <;> simp [running, changes, change]

theorem marked_concat :
    marked (messages ++ [message]) = message.line?.getD (marked messages) := by
  cases line : message.line? <;> simp [marked, line]

end ScreenMessage

/-- The message that a notice is posted as. -/
def Notice.message? : Notice → Option ScreenMessage
  | .started => some (.runStateChanged true)
  | .ended => some (.runStateChanged false)
  | .highlight line => some (.lineHighlighted line)
  | .redraw => some .mapChanged
  | .output line => some (.runOutput line)
  | .wait => none

/-- What a notice says of the run is new. -/
theorem Notice.change_differs (notice : Notice) (change : Bool)
    (said : notice.message?.bind ScreenMessage.change? = some change) :
    change ≠ decide (notice ≠ .started) := by
  cases notice <;> simp_all [message?, ScreenMessage.change?]

theorem Notice.change_told (notice : Notice) :
    (notice.message?.bind ScreenMessage.change?).getD (decide (notice ≠ .started)) =
      decide (notice ≠ .ended) := by
  cases notice <;> rfl

namespace Game

/-- All messages so far, in order. -/
def posted (game : Game) : List ScreenMessage :=
  game.trace.reverse.filterMap ScreenMessage.ofEvent?

@[simp] theorem posted_push_logged (game : Game) (entry : LogEntry) :
    (game.push (.logged entry)).posted = game.posted := by
  simp [posted, push, ScreenMessage.ofEvent?]

theorem posted_of_told {game later : Game} (same : later.told = game.told) :
    later.posted = game.posted := by
  have noticed (game : Game) :
      game.posted = game.told.reverse.filterMap ScreenMessage.ofEvent? := by
    rw [posted, told, ← List.filter_reverse, List.filterMap_filter]
    congr 1
    funext event
    cases event <;> rfl
  rw [noticed, noticed, same]

theorem posted_record {game : Game} (attended : game.attended = true) (notice : Notice) :
    (game.record notice).posted = game.posted ++ notice.message?.toList := by
  cases notice <;> simp [posted, record, attended, push, eventOf, ScreenMessage.ofEvent?,
    Notice.message?]

theorem Edited.posted {game later : Game} (edited : game.Edited later) :
    later.posted = game.posted := by
  induction edited with
  | same => rfl
  | dead _ ih => exact ih
  | placed place _ ih => exact ih
  | bound bindings _ ih => exact ih
  | logged entry _ ih => rw [posted_push_logged, ih]

/-! ## What has been said of runs -/

/-- Since some messages, it has been said in turn that a run has begun and that it has ended. -/
structure Told (before : List ScreenMessage) (running : Bool) (game : Game) : Prop where
  onward : before <+: game.posted
  alternates : Alternates true (ScreenMessage.changes game.posted)
  running : ScreenMessage.running game.posted = running

/-- No run is under way, and this has been said. -/
structure Resting (before : List ScreenMessage) (game : Game) : Prop where
  idle : game.idle = true
  attended : game.attended = true
  told : game.Told before false
  cleared : ScreenMessage.marked game.posted = none

/-- The run of the worker is under way, and this is or is not said yet. Late in the run, no line is
highlighted any more. -/
structure Busy (before : List ScreenMessage) (running : Bool) (late : Prop) (game : Game) : Prop where
  busy : game.idle = false
  runner : game.runner = some .worker
  attended : game.attended = true
  told : game.Told before running
  cleared : late → ScreenMessage.marked game.posted = none

/-- What a notice says of the run, where it says anything. -/
theorem Told.record {before : List ScreenMessage} {running : Bool} {game : Game}
    (told : game.Told before running) (attended : game.attended = true) {notice : Notice}
    (differs : ∀ change, notice.message?.bind ScreenMessage.change? = some change →
      change ≠ running) :
    (game.record notice).Told before
      ((notice.message?.bind ScreenMessage.change?).getD running) := by
  rcases told with ⟨onward, alternates, rfl⟩
  have posted := game.posted_record attended notice
  constructor
  · rw [posted]
    exact onward.trans (List.prefix_append _ _)
  · rw [posted, ScreenMessage.changes_append]
    cases said : notice.message?.bind ScreenMessage.change? with
    | none =>
        have silent : ScreenMessage.changes notice.message?.toList = [] := by
          cases message : notice.message? <;> simp_all [ScreenMessage.changes]
        rw [silent, List.append_nil]
        exact alternates
    | some change =>
        have alone : ScreenMessage.changes notice.message?.toList = [change] := by
          cases message : notice.message? <;> simp_all [ScreenMessage.changes]
        rw [alone]
        exact alternates.concat (differs change said)
  · rw [posted]
    cases message : notice.message? with
    | none => simp
    | some message => simp [ScreenMessage.running_concat]

theorem marked_record {game : Game} (attended : game.attended = true) (notice : Notice) :
    ScreenMessage.marked (game.record notice).posted =
      (notice.message?.bind ScreenMessage.line?).getD (ScreenMessage.marked game.posted) := by
  rw [posted_record attended]
  cases message : notice.message? with
  | none => simp
  | some message => simp [ScreenMessage.marked_concat]

/-- Nothing has been posted, and no run has begun or ended. -/
structure SameTelling (game later : Game) : Prop where
  idle : later.idle = game.idle
  runner : later.runner = game.runner
  attended : later.attended = game.attended
  posted : later.posted = game.posted

theorem SameTelling.trans {first second third : Game} (one : first.SameTelling second)
    (other : second.SameTelling third) : first.SameTelling third :=
  ⟨other.idle.trans one.idle, other.runner.trans one.runner, other.attended.trans one.attended,
    other.posted.trans one.posted⟩

theorem Told.moved {before : List ScreenMessage} {running : Bool} {game later : Game}
    (told : game.Told before running) (same : later.posted = game.posted) :
    later.Told before running := by
  rcases told with ⟨onward, alternates, running⟩
  exact ⟨same ▸ onward, same ▸ alternates, same ▸ running⟩

theorem Told.since {before other : List ScreenMessage} {running : Bool} {game : Game}
    (told : game.Told before running) (onward : other <+: game.posted) : game.Told other running :=
  ⟨onward, told.alternates, told.running⟩

theorem Resting.moved {before : List ScreenMessage} {game later : Game}
    (resting : game.Resting before) (same : game.SameTelling later) : later.Resting before :=
  ⟨same.idle.trans resting.idle, same.attended.trans resting.attended,
    resting.told.moved same.posted, by rw [same.posted, resting.cleared]⟩

theorem Resting.since {before other : List ScreenMessage} {game : Game}
    (resting : game.Resting before) (onward : other <+: game.posted) : game.Resting other :=
  ⟨resting.idle, resting.attended, resting.told.since onward, resting.cleared⟩

theorem Busy.moved {before : List ScreenMessage} {running : Bool} {late : Prop} {game later : Game}
    (run : game.Busy before running late) (same : game.SameTelling later) :
    later.Busy before running late :=
  ⟨same.idle.trans run.busy, same.runner.trans run.runner, same.attended.trans run.attended,
    run.told.moved same.posted, fun reached => by rw [same.posted, run.cleared reached]⟩

theorem Busy.since {before other : List ScreenMessage} {running : Bool} {late : Prop} {game : Game}
    (run : game.Busy before running late) (onward : other <+: game.posted) :
    game.Busy other running late :=
  ⟨run.busy, run.runner, run.attended, run.told.since onward, run.cleared⟩

/-- At rest, something else is shown. -/
theorem Resting.record {before : List ScreenMessage} {game : Game} {notice : Notice}
    (resting : game.Resting before)
    (unchanged : notice.message?.bind ScreenMessage.change? = none)
    (unmarked : (notice.message?.bind ScreenMessage.line?).getD none = none) :
    (game.record notice).Resting before := by
  have silent (change : Bool)
      (said : notice.message?.bind ScreenMessage.change? = some change) : change ≠ false := by
    cases unchanged.symm.trans said
  have told := resting.told.record resting.attended silent
  rw [unchanged] at told
  refine ⟨(game.record_undisturbed notice).idle.trans resting.idle,
    (game.record_attended notice).trans resting.attended, told, ?_⟩
  rw [marked_record resting.attended, resting.cleared, unmarked]

theorem stopped_telling (game : Game) : game.SameTelling game.stopped := by
  simp only [stopped]
  split
  · exact ⟨rfl, rfl, rfl, by rw [posted_push_logged]; rfl⟩
  · exact ⟨rfl, rfl, rfl, rfl⟩

theorem afterWorker_telling (result : Except Fault Unit) (game : Game) :
    game.SameTelling (Stage.afterWorker result game) := by
  cases result with
  | ok => exact ⟨rfl, rfl, rfl, rfl⟩
  | error fault =>
      exact ⟨rfl, rfl, rfl, by simp [Stage.afterWorker, posted, push, ScreenMessage.ofEvent?]⟩

end Game

/-! ## The run of the worker -/

namespace RunTurn

/-- A run that goes on does not begin once more. -/
def Onward (turn : RunTurn) : Prop :=
  turn.Meets (fun waypoint _ => waypoint.notice ≠ .started) fun _ _ => True

theorem close_onward (result : Except Fault Unit) (game : Game) : (close result game).Onward :=
  nofun

theorem dispatch_onward (lines : List SourceLine) (game : Game) : (dispatch lines game).Onward := by
  cases lines with
  | nil => exact close_onward _ game
  | cons line rest =>
      simp only [dispatch]
      split
      · exact close_onward _ game
      · rintro ⟨⟩

theorem settle_onward (line : SourceLine) (rest : List SourceLine) (result : Except Fault Bool)
    (game : Game) : (settle line rest result game).Onward := by
  simp only [settle]
  split
  · split
    · exact close_onward _ game
    · rintro ⟨⟩
  · exact close_onward _ game
  · rintro ⟨⟩
  · exact close_onward _ game

theorem ofStatement_onward (line : SourceLine) (rest : List SourceLine) (turn : StatementTurn) :
    (ofStatement line rest turn).Onward := by
  cases turn with
  | pause moment game =>
      change moment.notice ≠ .started
      cases moment <;> nofun
  | finish result game => exact settle_onward line rest result game

theorem carryOut_onward (line : SourceLine) (rest : List SourceLine) (game : Game) :
    (carryOut line rest game).Onward := by
  simp only [carryOut]
  split
  · exact ofStatement_onward line rest _
  · exact settle_onward line rest _ game

end RunTurn

theorem Waypoint.next_onward (waypoint : Waypoint) (game : Game) :
    (waypoint.next (.ok ()) game).Onward := by
  cases waypoint with
  | begun lines => exact RunTurn.dispatch_onward lines game
  | highlighted line rest => exact RunTurn.carryOut_onward line rest game
  | within line rest moment => exact RunTurn.ofStatement_onward line rest _
  | failed error => exact RunTurn.close_onward _ game
  | between rest => exact RunTurn.dispatch_onward rest game
  | closing result => exact nofun
  | ended result => trivial

namespace Waypoint

/-- The run of the worker is about to give the notice of a waypoint. -/
abbrev Due (before : List ScreenMessage) (waypoint : Waypoint) (game : Game) : Prop :=
  game.Busy before (waypoint.notice ≠ .started) (¬ waypoint.BeforeEnd)

/-- The run of the worker has given the notice of a waypoint. -/
abbrev Given (before : List ScreenMessage) (waypoint : Waypoint) (game : Game) : Prop :=
  game.Busy before (waypoint.notice ≠ .ended) (¬ waypoint.Open)

variable {before : List ScreenMessage} {waypoint : Waypoint} {game : Game}

theorem Due.record (due : waypoint.Due before game) :
    waypoint.Given before (game.record waypoint.notice) := by
  have same := game.record_undisturbed waypoint.notice
  have told := due.told.record due.attended waypoint.notice.change_differs
  rw [waypoint.notice.change_told] at told
  refine ⟨same.idle.trans due.busy, same.runner.trans due.runner,
    (game.record_attended _).trans due.attended, told, ?_⟩
  intro late
  rw [Game.marked_record due.attended]
  cases waypoint with
  | closing result => rfl
  | ended result => exact due.cleared id
  | _ => exact absurd trivial late

/-- From a notice that it has given, a run goes on to another one, or it is over and this has been
said. -/
theorem Given.next (given : waypoint.Given before game) :
    (waypoint.next (.ok ()) game).Meets (Due before) fun _ final => final.Resting before := by
  by_cases going : waypoint.Open
  · have keeps := next_keeps going (.ok ()) game
    have edits := next_edits going (.ok ()) game
    have onward := waypoint.next_onward game
    have begun : waypoint.notice ≠ .ended :=
      BeforeEnd.notice (by cases waypoint <;> trivial)
    cases turn : waypoint.next (.ok ()) game with
    | finish result final =>
        rw [turn] at keeps
        exact keeps.elim
    | pause place later =>
        rw [turn] at keeps edits onward
        rcases keeps with ⟨ahead, same, -⟩
        have edited : game.Edited later := edits
        have further : place.notice ≠ .started := onward
        have told := given.told.moved edited.posted
        simp only [begun, ne_eq, not_false_eq_true, decide_true] at told
        refine ⟨same.idle.trans given.busy, same.runner.trans given.runner,
          edited.spared.attended.trans given.attended, ?_, fun late => absurd ahead late⟩
        simpa only [further, ne_eq, not_false_eq_true, decide_true] using told
  · cases waypoint with
    | closing result =>
        have cleared := given.cleared going
        exact ⟨given.busy, given.runner, given.attended,
          given.told.moved (Game.posted_push_logged _ _), fun _ => by
            rw [Game.posted_push_logged]
            exact cleared⟩
    | ended result => exact ⟨rfl, given.attended, given.told.moved rfl, given.cleared going⟩
    | _ => exact absurd trivial going

end Waypoint

/-! ## Orders while the worker stands still -/

/-- The observer that posts each notice to the screen. The worker stands still then. -/
def Observer.posting : Observer := fun notice => do
  update (·.record notice)
  if (← state).current = .worker then Process.pause .held

theorem Observer.posting_watches : posting.Watches := by
  intro notice game
  simp only [posting, bind_apply, update_apply, state_apply, Activity.andThen_done]
  split
  · exact .inr ⟨_, rfl, fun _ => rfl⟩
  · exact .inl rfl

namespace Stage

open Observer

/-- What the worker does with a program. It stands still before it begins. -/
def postingWork (lines : List SourceLine) : Play Unit := do
  Process.pause .held
  (Scheduler.execute lines).attend posting

/-- Carries out a course of the controller while the worker stands still, unless its end is waited
for. -/
def order {α : Type} (course : Course α) (stage : Stage) : Except Fault α × Stage :=
  conduct postingWork (course.attend posting stage.game) stage.held

/-- Lets the worker go on to its next notice, or to its end. -/
def goOn (stage : Stage) : Stage :=
  match stage.held with
  | some held => workerTurn (held (handTo stage.game))
  | none => stage

/-- A worker that stands still is about to begin, or it has given a notice. -/
inductive Underway (before : List ScreenMessage) (game : Game) : Held → Prop
  | begins (lines : List SourceLine) : (Waypoint.begun lines).Due before game →
    Underway before game fun later => (Scheduler.execute lines).attend posting later
  | stands (waypoint : Waypoint)
      (resume : Except Fault Unit → Game → Activity Point Game Fault Unit) :
    waypoint.Given before game →
    (∀ later, (resume (.ok ()) later).Follows runMachine (waypoint.next (.ok ()) later)) →
    Underway before game fun later => (resume (.ok ()) later).attend posting

/-- Between two orders the worker stands still, or no run is under way. All that has been posted
says so. -/
structure Posts (before : List ScreenMessage) (stage : Stage) : Prop where
  turned : stage.game.current = .controller
  resting : stage.held = none → stage.game.Resting before
  underway : ∀ held, stage.held = some held → Underway before stage.game held

section Worker

variable {before : List ScreenMessage} {game later : Game} {held : Held}

theorem Underway.run (underway : Underway before game held) :
    ∃ running late, game.Busy before running late := by
  cases underway with
  | begins lines due => exact ⟨_, _, due⟩
  | stands waypoint resume given => exact ⟨_, _, given⟩

theorem Underway.busy (underway : Underway before game held) : game.idle = false := by
  rcases underway.run with ⟨_, _, run⟩
  exact run.busy

theorem Underway.runner (underway : Underway before game held) : game.runner = some .worker := by
  rcases underway.run with ⟨_, _, run⟩
  exact run.runner

theorem Underway.told (underway : Underway before game held) : ∃ running, game.Told before running := by
  rcases underway.run with ⟨running, _, run⟩
  exact ⟨running, run.told⟩

theorem Underway.since {other : List ScreenMessage} (underway : Underway before game held)
    (onward : other <+: game.posted) : Underway other game held := by
  cases underway with
  | begins lines due => exact .begins lines (due.since onward)
  | stands waypoint resume given follows => exact .stands waypoint resume (given.since onward) follows

theorem Underway.moved (underway : Underway before game held) (same : game.SameTelling later) :
    Underway before later held := by
  cases underway with
  | begins lines due => exact .begins lines (due.moved same)
  | stands waypoint resume given follows => exact .stands waypoint resume (given.moved same) follows

/-- A worker that goes on gives the next notice of its run. -/
theorem Underway.resumes (underway : Underway before game held) :
    ∃ (activity : Activity Point Game Fault Unit) (turn : RunTurn),
      held game = activity.attend posting ∧ activity.Follows runMachine turn ∧
      turn.Meets (Waypoint.Due before) fun _ final => final.Resting before := by
  cases underway with
  | begins lines due =>
      exact ⟨_, _, rfl, run_follows lines game, due.moved
        ⟨rfl, rfl, rfl, Game.posted_push_logged _ _⟩⟩
  | stands waypoint resume given follows => exact ⟨_, _, rfl, follows game, given.next⟩

/-- Without standing still any more, the worker comes to its end. -/
theorem Underway.ends (underway : Underway before game held) :
    (workerEnd (held game)).Resting before ∧ (workerEnd (held game)).current = .controller := by
  rcases underway.resumes with ⟨activity, turn, resumed, follows, due⟩
  rcases workerEnd_meets posting_watches (fun _ _ due => due.record.next) follows due with
    ⟨result, final, resting, ends⟩
  rw [resumed, ends]
  exact ⟨resting.moved (Game.afterWorker_telling result final), by cases result <;> rfl⟩

theorem workerTurn_posts {activity : Activity Point Game Fault Unit} {turn : RunTurn}
    (follows : activity.Follows runMachine turn)
    (due : turn.Meets (Waypoint.Due before) fun _ final => final.Resting before) :
    (workerTurn (activity.attend posting)).Posts before := by
  rcases workerTurn_meets posting_watches (fun _ _ due => due.record.next) follows due with
    ⟨result, final, resting, ends⟩ | ⟨waypoint, game, resume, due, onward, stands⟩
  · rw [ends]
    have ended := resting.moved (Game.afterWorker_telling result final)
    exact ⟨by cases result <;> rfl, fun _ => ended, nofun⟩
  · rw [stands]
    have still : waypoint.Given before
        { game.record waypoint.notice with current := .controller } :=
      due.record.moved ⟨rfl, rfl, rfl, rfl⟩
    refine ⟨rfl, nofun, ?_⟩
    rintro held ⟨⟩
    exact .stands waypoint resume still onward

end Worker

section Posts

variable {stage : Stage} {before other : List ScreenMessage}

theorem Posts.told (posts : stage.Posts before) : ∃ running, stage.game.Told before running := by
  cases standing : stage.held with
  | none => exact ⟨false, (posts.resting standing).told⟩
  | some held => exact (posts.underway held standing).told

theorem Posts.onward (posts : stage.Posts before) : before <+: stage.game.posted := by
  rcases posts.told with ⟨_, told⟩
  exact told.onward

theorem Posts.alternates (posts : stage.Posts before) :
    Alternates true (ScreenMessage.changes stage.game.posted) := by
  rcases posts.told with ⟨_, told⟩
  exact told.alternates

/-- Where no run is under way, no worker stands still. -/
theorem Posts.at_rest (posts : stage.Posts before) (idle : stage.game.idle = true) :
    stage.held = none := by
  cases standing : stage.held with
  | none => rfl
  | some held => cases idle.symm.trans (posts.underway held standing).busy

/-- What has been posted agrees with the runs, from wherever it is read. -/
theorem Posts.since (posts : stage.Posts before) (onward : other <+: stage.game.posted) :
    stage.Posts other :=
  ⟨posts.turned, fun none => (posts.resting none).since onward,
    fun held standing => (posts.underway held standing).since onward⟩

theorem goOn_posts (posts : stage.Posts before) : stage.goOn.Posts stage.game.posted := by
  rcases posts.since List.prefix_rfl with ⟨turned, resting, underway⟩
  simp only [goOn]
  split
  · next held standing =>
      have handed : stage.game.SameTelling (handTo stage.game) := ⟨rfl, rfl, rfl, rfl⟩
      rcases ((underway held standing).moved handed).resumes with
        ⟨activity, turn, resumed, follows, due⟩
      rw [resumed]
      exact workerTurn_posts follows due
  · exact ⟨turned, resting, underway⟩

end Posts

end Stage

/-! ## Orders that tell nothing -/

/-- A course that is carried out at once and tells nothing. -/
def Course.Tacit {α : Type} (course : Course α) : Prop :=
  ∀ game, ∃ result last, course game = .done result last ∧ game.SameTelling last ∧
    last.current = game.current

namespace Course.Tacit

variable {α β : Type} {course : Course α}

theorem pure (value : α) : Tacit (Pure.pure value : Course α) :=
  fun game => ⟨_, game, rfl, ⟨rfl, rfl, rfl, rfl⟩, rfl⟩

theorem bind {next : α → Course β} (first : Tacit course) (onward : ∀ value, Tacit (next value)) :
    Tacit (course >>= next) := by
  intro game
  rcases first game with ⟨result, middle, done, same, current⟩
  rw [bind_apply, done, Activity.andThen_done]
  cases result with
  | error fault => exact ⟨_, middle, rfl, same, current⟩
  | ok value =>
      rcases onward value middle with ⟨ending, last, done, still, turned⟩
      exact ⟨ending, last, done, same.trans still, turned.trans current⟩

theorem state_bind {next : Game → Course β} (onward : ∀ game, Tacit (next game)) :
    Tacit (Process.state >>= next) :=
  fun present => onward present present

theorem onSession (change : Session → Session) : Tacit (Process.update (Game.onSession change)) :=
  fun _ => ⟨_, _, rfl, ⟨rfl, rfl, rfl, rfl⟩, rfl⟩

theorem withArchive (use : Archive → Archived α) : Tacit (Course.withArchive use) := by
  intro game
  have unposted (logged : List LogEntry) :
      (logged.map Event.logged).filterMap ScreenMessage.ofEvent? = [] := by
    simp [ScreenMessage.ofEvent?]
  exact ⟨_, _, Course.withArchive_apply use game,
    ⟨rfl, rfl, rfl, by simp [Game.posted, ← List.map_reverse, unposted]⟩, rfl⟩

end Course.Tacit

namespace Scheduler

open Course

theorem stop_tacit : Tacit stop :=
  fun game => ⟨_, _, stop_apply, game.stopped_telling, game.stopped_threads.current⟩

theorem chooseGrid_tacit (grid : Option Grid) (useLibrary : Bool) :
    Tacit (chooseGrid grid useLibrary) := by
  simp only [chooseGrid]
  split
  · exact .pure _
  split
  · exact .state_bind fun _ => .withArchive _
  · exact .pure none

theorem drawGrid_tacit (draws : Option Random.Draws) : Tacit (drawGrid draws) := by
  intro game
  simp only [drawGrid]
  split
  · refine ⟨_, _, rfl, ?_, by split <;> rfl⟩
    split <;> exact ⟨rfl, rfl, rfl, game.posted_push_logged _⟩
  · refine ⟨_, _, rfl, ?_, by split <;> rfl⟩
    split <;> exact ⟨rfl, rfl, rfl, rfl⟩

theorem resetSession_tacit (grid : Option Grid) (useLibrary : Bool)
    (draws : Option Random.Draws) : Tacit (resetSession grid useLibrary draws) := by
  apply (chooseGrid_tacit grid useLibrary).bind
  intro chosen
  apply (Tacit.onSession _).bind
  intro _
  split
  · exact (Tacit.pure _).bind fun _ => .onSession _
  · exact (drawGrid_tacit draws).bind fun _ => .onSession _

end Scheduler

/-! ## Orders of the screen -/

namespace Stage

open Observer

variable {α : Type} {stage : Stage} {before : List ScreenMessage}

/-- An order keeps what has been posted, and what it posts itself agrees with the runs. -/
def Respects (course : Course α) : Prop :=
  ∀ stage before, Posts before stage → (order course stage).2.Posts stage.game.posted

theorem Posts.moved (posts : stage.Posts before) {game : Game}
    (same : stage.game.SameTelling game) (turned : game.current = stage.game.current) :
    Posts before { stage with game } :=
  ⟨turned.trans posts.turned, fun none => (posts.resting none).moved same,
    fun held standing => (posts.underway held standing).moved same⟩

theorem posts_resting {game : Game} (resting : game.Resting before)
    (turned : game.current = .controller) : Posts before { game } :=
  ⟨turned, fun _ => resting, nofun⟩

theorem order_done {course : Course α} {result : Except Fault α} {game : Game}
    (done : course stage.game = .done result game) :
    order course stage = (result, { stage with game }) := by
  rw [order, Course.attend, done]
  rfl

theorem tacit_respects {course : Course α} (tacit : course.Tacit) : Respects course := by
  intro stage before posts
  rcases tacit stage.game with ⟨result, last, done, same, turned⟩
  rw [order_done done]
  exact (posts.since List.prefix_rfl).moved same turned

theorem handOver_respects (source : Text) (holdIn : Option Nat) :
    Respects (Command.handOver source holdIn) := by
  intro stage before posts
  by_cases accepted : SourceLine.ofSource source ≠ [] ∧ stage.game.Free
  · have resting := (posts.resting (posts.at_rest accepted.2.idle)).since List.prefix_rfl
    rcases Command.handOver_signals posting accepted.1 accepted.2 holdIn with
      ⟨resume, pauses, onward⟩
    have due : (Waypoint.begun (SourceLine.ofSource source)).Due stage.game.posted
        { ({ stage.game with holdIn } : Game).claimed .worker with current := .controller } :=
      ⟨rfl, rfl, resting.attended, resting.told.moved rfl, fun late => absurd trivial late⟩
    simp only [order, pauses, conduct, onward]
    refine ⟨rfl, ?_, ?_⟩
    · rintro ⟨⟩
    · rintro held ⟨⟩
      exact .begins _ due
  · rcases Command.handOver_refused accepted holdIn with ⟨last, refused, same, -⟩
    rw [order_done refused]
    exact (posts.since List.prefix_rfl).moved ⟨same.threads.idle, same.threads.runner, same.attended,
      Game.posted_of_told same.told⟩ same.threads.current

/-- The run that is under way ends when it is asked to. -/
theorem Posts.rests (posts : stage.Posts before) :
    conduct postingWork (Scheduler.rest.attend posting stage.game) stage.held =
        (.ok (), { game := stage.ended }) ∧
      stage.ended.Resting stage.game.posted ∧ stage.ended.current = .controller := by
  have threads := stage.game.stopped_threads
  have asked := stage.game.stopped_telling
  cases standing : stage.held with
  | none =>
      have resting := ((posts.resting standing).since List.prefix_rfl).moved asked
      have unmoved : stage.ended = stage.game.stopped := by
        simp [ended, finish, standing]
      rw [unmoved]
      refine ⟨?_, resting, threads.current.trans posts.turned⟩
      simp [Scheduler.rest, Course.attend, Scheduler.stop_apply, Scheduler.join_idle resting.idle,
        Activity.attend, conduct]
  | some held =>
      have underway := ((posts.underway held standing).since List.prefix_rfl).moved asked
      have foreign : stage.game.stopped.runner ≠ some stage.game.stopped.current := by
        rw [underway.runner, threads.current, posts.turned]
        simp
      have handed : stage.game.stopped.SameTelling (handTo stage.game.stopped) :=
        ⟨rfl, rfl, rfl, rfl⟩
      rcases (underway.moved handed).ends with ⟨resting, turned⟩
      rw [ended_held standing]
      refine ⟨?_, resting, turned⟩
      simp only [Scheduler.rest, Course.attend, bind_apply, Scheduler.stop_apply,
        Activity.andThen_done, Scheduler.join_busy underway.busy foreign, Course.yield_apply,
        Activity.andThen_paused, Activity.attend, conduct]
      simp [Scheduler.isIdle, resting.idle, Activity.attend, conduct]

theorem conduct_announced (game : Game) :
    conduct postingWork ((Scheduler.announce game).attend posting) none =
      (.ok (), { game := (game.record (.highlight none)).record .redraw }) := by
  simp only [Scheduler.announce, bind_apply, Course.notify_apply, Activity.andThen_paused,
    Activity.andThen_done, conduct_notice posting_watches]
  rfl

theorem announced_resting {game : Game} (resting : game.Resting before)
    (turned : game.current = .controller) :
    Posts before { game := (game.record (.highlight none)).record .redraw } := by
  have current := ((game.record (.highlight none)).record_undisturbed .redraw).current.trans
    (game.record_undisturbed (.highlight none)).current
  exact posts_resting ((resting.record rfl rfl).record rfl rfl) (current.trans turned)

theorem resetPosition_respects : Respects Scheduler.resetPosition := by
  intro stage before posts
  rcases posts.rests with ⟨rests, resting, turned⟩
  have restarted : (stage.ended.onSession Session.resetPosition).Resting stage.game.posted :=
    resting.moved ⟨rfl, rfl, rfl, rfl⟩
  rw [order, Scheduler.resetPosition_eq, attend_bind, conduct_bind rests]
  simp only [Course.attend, bind_apply, update_apply, Activity.andThen_done, conduct_announced]
  exact announced_resting restarted turned

theorem fullReset_respects (grid : Option Grid) (draws : Option Random.Draws) :
    Respects (Scheduler.fullReset grid draws) := by
  intro stage before posts
  rcases posts.rests with ⟨rests, resting, turned⟩
  rcases Scheduler.resetSession_tacit grid stage.ended.usesLibrary draws stage.ended with
    ⟨result, last, reset, same, current⟩
  rw [order, Scheduler.fullReset_eq, attend_bind, conduct_bind rests]
  simp only [Scheduler.renew, Course.attend, bind_apply, state_apply, Activity.andThen_done, reset]
  cases result with
  | error fault => exact posts_resting (resting.moved same) (current.trans turned)
  | ok =>
      simp only [conduct_announced]
      exact announced_resting (resting.moved same) (current.trans turned)

end Stage

end TileWalk
