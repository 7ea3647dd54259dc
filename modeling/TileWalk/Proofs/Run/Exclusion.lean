import TileWalk.Proofs.Run.Control
import TileWalk.Proofs.Run.Scene

/-!
# At most one run

Two marks say that a run is under way: the state of the session, which resets put
back in the middle of a run, and the mark that the game is idle, which only the run
itself takes away and gives back. Every call keeps the two coupled. So at most one
run is active, and while one is, every other run is refused.
-/

namespace TileWalk

open Process Course

/-- How the state of a session, its flag and the idle mark go together. -/
structure Game.Coupled (game : Game) : Prop where
  running : game.session.state = .running → game.session.stopRequested = false
  stopping : game.session.state = .stopping → game.session.stopRequested = true
  busy : game.session.state ≠ .idle → game.idle = false

/-- What may happen to a game besides the begin and the end of a run. -/
structure Game.Steady (before after : Game) : Prop where
  coupled : before.Coupled → after.Coupled
  idle : after.idle = before.idle
  resting : before.session.state = .idle → after.session.state = .idle

namespace Game.Steady

theorem trans {first second third : Game} (one : first.Steady second)
    (other : second.Steady third) : first.Steady third where
  coupled := other.coupled ∘ one.coupled
  idle := other.idle.trans one.idle
  resting := other.resting ∘ one.resting

theorem of_same {before after : Game} (state : after.session.state = before.session.state)
    (flag : after.session.stopRequested = before.session.stopRequested)
    (idle : after.idle = before.idle) : before.Steady after where
  coupled coupled := by
    constructor
    · rw [state, flag]
      exact coupled.running
    · rw [state, flag]
      exact coupled.stopping
    · rw [state, idle]
      exact coupled.busy
  idle := idle
  resting := by
    rw [state]
    exact id

theorem refl (game : Game) : game.Steady game :=
  .of_same rfl rfl rfl

theorem of_idle {before after : Game} (state : after.session.state = .idle)
    (idle : after.idle = before.idle) : before.Steady after where
  coupled _ := ⟨by simp [state], by simp [state], by simp [state]⟩
  idle := idle
  resting _ := state

end Game.Steady

theorem Game.claimed_coupled (game : Game) (runner : Thread) : (game.claimed runner).Coupled where
  running _ := rfl
  stopping stopping := by cases stopping
  busy _ := rfl

theorem Game.begun_steady (game : Game) (lines : List SourceLine) :
    game.Steady (game.begun lines) :=
  .of_same rfl rfl rfl

/-! ## Calls that are no runs -/

/-- Where a call that is no run can pause. -/
def Point.Guest : Point → Prop
  | .notice _ | .signal .await => True
  | _ => False

/-- Between its pauses an activity only does what may happen besides runs. -/
def Activity.Steady {α : Type} : Activity Point Game Fault α → Game → Prop
  | .done _ after, before => before.Steady after
  | .paused point after resume, before =>
    before.Steady after ∧ point.Guest ∧ ∀ reply later, (resume reply later).Steady later

/-- A course that only does what may happen besides runs. -/
def Course.Steady {α : Type} (course : Course α) : Prop :=
  ∀ game, (course game).Steady game

section Steady

variable {α β : Type}

theorem Activity.Steady.after {activity : Activity Point Game Fault α} {before middle : Game}
    (steady : activity.Steady middle) (earlier : before.Steady middle) :
    activity.Steady before := by
  cases activity with
  | done result after => exact earlier.trans steady
  | paused point after resume => exact ⟨earlier.trans steady.1, steady.2⟩

theorem Activity.Steady.andThen {activity : Activity Point Game Fault α}
    {next : Except Fault α → Game → Activity Point Game Fault β} {game : Game}
    (first : activity.Steady game) (second : ∀ result later, (next result later).Steady later) :
    (activity.andThen next).Steady game := by
  induction activity generalizing game with
  | done result after => exact (second result after).after first
  | paused point after resume ih =>
      exact ⟨first.1, first.2.1, fun reply later => ih reply later (first.2.2 reply later)⟩

theorem Course.Steady.bind {course : Course α} {next : α → Course β} (first : course.Steady)
    (second : ∀ value, (next value).Steady) : (course >>= next).Steady := by
  intro game
  apply (first game).andThen
  intro result later
  cases result with
  | ok value => exact second value later
  | error error => exact .refl later

theorem pure_steady (value : α) : Course.Steady (pure value) := Game.Steady.refl

theorem fail_steady (fault : Fault) : Course.Steady (fail fault : Course α) := Game.Steady.refl

theorem state_steady : Course.Steady state := Game.Steady.refl

theorem notify_steady (notice : Notice) : Course.Steady (notify notice) := by
  intro game
  exact ⟨.refl game, trivial, fun _ later => Game.Steady.refl later⟩

theorem await_steady : Course.Steady (yield .await) := by
  intro game
  exact ⟨.refl game, trivial, fun _ later => Game.Steady.refl later⟩

end Steady

namespace Scheduler

theorem stop_steady : Course.Steady stop := by
  intro game
  rw [stop_apply]
  show game.Steady game.stopped
  simp only [Game.stopped]
  split
  · next running =>
      exact ⟨fun coupled => ⟨by simp [Game.onSession, Game.push], fun _ => rfl,
        fun _ => coupled.busy (by simp [running])⟩, rfl, by simp [running]⟩
  · exact .refl game

theorem isIdle_steady : Course.Steady isIdle :=
  state_steady.bind fun _ => pure_steady _

theorem join_steady : Course.Steady join := by
  apply state_steady.bind
  intro game
  split
  · exact pure_steady ()
  split
  · exact pure_steady ()
  apply await_steady.bind
  intro _
  apply isIdle_steady.bind
  intro idle
  split
  · exact fail_steady _
  · exact pure_steady ()

theorem announce_steady : Course.Steady announce :=
  (notify_steady _).bind fun _ => notify_steady _

theorem resetPosition_steady : Course.Steady resetPosition := by
  have reset : Course.Steady (update (Game.onSession Session.resetPosition)) := by
    intro game
    exact Game.Steady.of_idle rfl rfl
  apply stop_steady.bind
  intro _
  apply join_steady.bind
  intro _
  exact reset.bind fun _ => announce_steady

theorem resetSession_steady (grid : Option Grid) (useLibrary : Bool)
    (draws : Option Random.Draws) : Course.Steady (resetSession grid useLibrary draws) := by
  intro game
  rcases resetSession_ends grid useLibrary draws game with ⟨result, last, ends, threads, session⟩
  rw [ends]
  rcases session with ⟨fresh, same⟩ | ⟨same, -⟩
  · exact Game.Steady.of_idle (by rw [same]; rfl) threads.idle
  · exact Game.Steady.of_same (by rw [same]) (by rw [same]) threads.idle

theorem fullReset_steady (grid : Option Grid) (draws : Option Random.Draws) :
    Course.Steady (fullReset grid draws) := by
  apply stop_steady.bind
  intro _
  apply join_steady.bind
  intro _
  apply state_steady.bind
  intro game
  exact (resetSession_steady grid game.usesLibrary draws).bind fun _ => announce_steady

theorem loadMap_steady (grid : Grid) : Course.Steady (loadMap grid) := by
  have load : Course.Steady (update (Game.onSession (·.load grid))) := by
    intro game
    exact Game.Steady.of_same rfl rfl rfl
  exact load.bind fun _ => notify_steady _

end Scheduler

theorem Call.course_steady {call : Call} (guest : call.asksForRun = false) :
    Course.Steady call.course := by
  cases call with
  | run source => cases guest
  | runAsync source => cases guest
  | stop => exact Scheduler.stop_steady
  | join => exact Scheduler.join_steady
  | poll => exact Scheduler.isIdle_steady.bind fun _ => pure_steady _
  | resetPosition => exact Scheduler.resetPosition_steady
  | fullReset grid draws => exact Scheduler.fullReset_steady grid draws
  | loadMap grid => exact Scheduler.loadMap_steady grid

/-! ## Runs -/

/-- An activity gives the notices of a run from where it stands, whatever it answers
in the end. -/
def Activity.Drives {α : Type} : Activity Point Game Fault α → RunTurn → Prop
  | .done _ game, turn => ∃ result, turn = .finish result game
  | .paused point game resume, turn =>
    ∃ waypoint : Waypoint, turn = .pause waypoint game ∧ point = .notice waypoint.notice ∧
      ∀ reply later, (resume reply later).Drives (waypoint.next reply later)

theorem Activity.Follows.drives {activity : Activity Point Game Fault Unit} {turn : RunTurn}
    (follows : activity.Follows runMachine turn) : activity.Drives turn := by
  induction activity generalizing turn with
  | done result game =>
      cases follows
      exact ⟨result, rfl⟩
  | paused point game resume ih =>
      rcases follows with ⟨waypoint, rfl, told, onward⟩
      exact ⟨waypoint, rfl, told.symm, fun reply later => ih reply later (onward reply later)⟩

theorem Activity.Drives.paused {α : Type} {activity : Activity Point Game Fault α}
    {waypoint : Waypoint} {game : Game} (drives : activity.Drives (.pause waypoint game)) :
    ∃ resume, activity = .paused (.notice waypoint.notice) game resume ∧
      ∀ reply later, (resume reply later).Drives (waypoint.next reply later) := by
  cases activity with
  | done result last =>
      rcases drives with ⟨answer, ends⟩
      cases ends
  | paused point last resume =>
      rcases drives with ⟨place, here, rfl, onward⟩
      cases here
      exact ⟨resume, rfl, onward⟩

theorem Activity.Drives.done {α : Type} {activity : Activity Point Game Fault α}
    {result : Except Fault Unit} {game : Game} (drives : activity.Drives (.finish result game)) :
    ∃ answer, activity = .done answer game := by
  cases activity with
  | done answer last =>
      rcases drives with ⟨same, ends⟩
      cases ends
      exact ⟨answer, rfl⟩
  | paused point last resume =>
      rcases drives with ⟨place, here, -⟩
      cases here

theorem Activity.Drives.andThen {α β : Type} {activity : Activity Point Game Fault α}
    {turn : RunTurn} {next : Except Fault α → Game → Activity Point Game Fault β}
    (drives : activity.Drives turn)
    (ends : ∀ result game, ∃ answer, next result game = .done answer game) :
    (activity.andThen next).Drives turn := by
  induction activity generalizing turn with
  | done result game =>
      rcases ends result game with ⟨answer, last⟩
      rw [andThen_done, last]
      exact drives
  | paused point game resume ih =>
      rcases drives with ⟨waypoint, here, told, onward⟩
      exact ⟨waypoint, here, told, fun reply later => ih reply later (onward reply later)⟩

/-- How a run goes on after a notice: to another one; or it is stranded because the
highlight could not be cleared; or it becomes idle after its last notice. -/
theorem Waypoint.next_cases (waypoint : Waypoint) (reply : Except Fault Unit) (game : Game) :
    (∃ place later, waypoint.next reply game = .pause place later ∧ game.Steady later ∧
      (place.BeforeEnd ∨ later.session.state = .idle)) ∨
    (∃ result, waypoint.next reply game = .finish result game ∧
      waypoint.notice = .highlight none) ∨
    (∃ result, waypoint.next reply game = .finish result { game with idle := true } ∧
      waypoint.notice = .ended ∧ ¬ waypoint.BeforeEnd) := by
  by_cases going : waypoint.Open
  · left
    have keeps := next_keeps going reply game
    cases turn : waypoint.next reply game with
    | finish result last =>
        rw [turn] at keeps
        exact keeps.elim
    | pause place later =>
        rw [turn] at keeps
        exact ⟨place, later, rfl, .of_same keeps.2.1.state keeps.2.1.stopRequested keeps.2.1.idle,
          .inl keeps.1⟩
  · cases waypoint with
    | closing result =>
        cases reply with
        | error fault => exact .inr (.inl ⟨_, rfl, rfl⟩)
        | ok => exact .inl ⟨_, _, rfl, .of_idle rfl rfl, .inr rfl⟩
    | ended result => exact .inr (.inr ⟨_, rfl, rfl, id⟩)
    | _ => exact absurd trivial going

theorem Call.run_drives {source : Text} {game : Game} (filled : SourceLine.ofSource source ≠ [])
    (free : game.Free) :
    ((Call.run source).course game).Drives (.pause (.begun (SourceLine.ofSource source))
      ((game.claimed game.current).begun (SourceLine.ofSource source))) := by
  simp only [course, bind_apply, Scheduler.run_free filled free, Activity.andThen_assoc,
    Activity.andThen_done]
  apply (run_follows _ _).drives.andThen
  intro result last
  cases result <;> exact ⟨_, rfl⟩

theorem Call.runAsync_hands {source : Text} {game : Game}
    (filled : SourceLine.ofSource source ≠ []) (free : game.Free) :
    ∃ resume, (Call.runAsync source).course game =
        .paused (.signal (.start (SourceLine.ofSource source))) (game.claimed .worker) resume ∧
      ∀ reply later, ∃ result, resume reply later = .done result later := by
  simp only [course, bind_apply, Scheduler.runAsync_free filled free, yield_apply,
    Activity.andThen_paused, Activity.andThen_done]
  refine ⟨_, rfl, ?_⟩
  intro reply later
  cases reply <;> exact ⟨_, rfl⟩

/-! ## Scenes -/

/-- A call that is under way is a call that is no run, or a run at one of its
notices, being handed over, or about to begin. -/
inductive Frame.Sound (game : Game) : Frame → Prop
  | guest {point : Point}
      {resume : Except Fault Unit → Game → Activity Point Game Fault Unit} :
    point.Guest → (∀ reply later, (resume reply later).Steady later) →
    Sound game ⟨false, point, resume⟩
  | run {waypoint : Waypoint}
      {resume : Except Fault Unit → Game → Activity Point Game Fault Unit} :
    waypoint.BeforeEnd ∨ game.session.state = .idle →
    (∀ reply later, (resume reply later).Drives (waypoint.next reply later)) →
    Sound game ⟨true, .notice waypoint.notice, resume⟩
  | handed {lines : List SourceLine}
      {resume : Except Fault Unit → Game → Activity Point Game Fault Unit} :
    (∀ reply later, ∃ result, resume reply later = .done result later) →
    Sound game ⟨true, .signal (.start lines), resume⟩
  | ready (lines : List SourceLine) : Sound game (Frame.ready lines)

theorem Frame.Sound.later {before after : Game} {frame : Frame} (sound : frame.Sound before)
    (resting : before.session.state = .idle → after.session.state = .idle) :
    frame.Sound after := by
  cases sound with
  | guest point steady => exact .guest point steady
  | run place drives => exact .run (place.imp id resting) drives
  | handed ends => exact .handed ends
  | ready lines => exact .ready lines

theorem Frame.Sound.of_guest {before after : Game} {frame : Frame} (sound : frame.Sound before)
    (guest : frame.isRun = false) : frame.Sound after := by
  cases sound with
  | guest point steady => exact .guest point steady
  | _ => cases guest

@[simp] theorem Frame.strands_guest (point : Point)
    (resume : Except Fault Unit → Game → Activity Point Game Fault Unit) :
    Frame.strands ⟨false, point, resume⟩ = false := by
  cases point <;> rfl

/-- A call that asks for a run is refused, or it is a run from then on. -/
theorem Call.course_cases {call : Call} (asks : call.asksForRun = true) (game : Game) :
    (∃ last, call.course game = .done (.ok ()) last ∧ game.Steady last) ∨
    (game.Free ∧ ∃ point later resume, call.course game = .paused point later resume ∧
      later.Coupled ∧ later.idle = false ∧ Frame.Sound later ⟨true, point, resume⟩) := by
  by_cases free : game.Free
  · cases call with
    | run source =>
        by_cases blank : SourceLine.ofSource source = []
        · exact .inl ⟨game, by simp [course, Scheduler.run_blank blank], .refl game⟩
        · rcases (Call.run_drives blank free).paused with ⟨resume, accepted, onward⟩
          have coupled := (Game.begun_steady _ (SourceLine.ofSource source)).coupled
            (game.claimed_coupled game.current)
          exact .inr ⟨free, _, _, _, accepted, coupled, rfl, .run (.inl trivial) onward⟩
    | runAsync source =>
        by_cases blank : SourceLine.ofSource source = []
        · exact .inl ⟨game, by simp [course, Scheduler.runAsync, blank], .refl game⟩
        · rcases Call.runAsync_hands blank free with ⟨resume, hands, ends⟩
          exact .inr ⟨free, _, _, _, hands, game.claimed_coupled .worker, rfl, .handed ends⟩
    | _ => cases asks
  · cases call with
    | run source =>
        rcases Scheduler.run_refused source free with ⟨last, refused, session, threads⟩
        exact .inl ⟨last, by simp [course, refused],
          .of_same (by rw [session]) (by rw [session]) threads.idle⟩
    | runAsync source =>
        rcases Scheduler.runAsync_refused source free with ⟨last, refused, session, threads⟩
        exact .inl ⟨last, by simp [course, refused],
          .of_same (by rw [session]) (by rw [session]) threads.idle⟩
    | _ => cases asks

namespace Scene

/-- The session and the idle mark are coupled, the calls under way are what they
should be, and the game is not idle exactly while there is one active run. -/
structure Sound (scene : Scene) : Prop where
  coupled : scene.game.Coupled
  frames : ∀ frame ∈ scene.frames, frame.Sound scene.game
  active : scene.activeRuns = (!scene.game.idle).toNat

variable {scene : Scene} {thread : Thread}

theorem stack_subset {frame : Frame} (membership : frame ∈ scene.stack thread) :
    frame ∈ scene.frames := by
  cases thread with
  | controller => exact List.mem_append_left _ membership
  | worker => exact List.mem_append_right _ membership

theorem turn_steady (scene : Scene) (thread : Thread) :
    scene.game.Steady (scene.turn thread) :=
  .of_same rfl rfl rfl

theorem Sound.guests (sound : scene.Sound) (idle : scene.game.idle = true) :
    ∀ frame ∈ scene.frames, frame.isRun = false := by
  have none : scene.frames.countP (·.isRun) = 0 := by
    have active := sound.active
    simp only [idle, Bool.not_true, Bool.toNat_false, activeRuns] at active
    rw [Scene.frames, List.countP_append]
    omega
  simpa using List.countP_eq_zero.mp none

theorem Sound.busy (sound : scene.Sound) {frame : Frame} (under : frame ∈ scene.frames)
    (run : frame.isRun = true) : scene.game.idle = false := by
  cases idle : scene.game.idle with
  | false => rfl
  | true => exact absurd run (by simp [sound.guests idle frame under])

theorem Sound.kept (sound : scene.Sound) {game : Game} (steady : scene.game.Steady game) :
    ∀ frame ∈ scene.frames, frame.Sound game := by
  intro frame membership
  exact (sound.frames frame membership).later steady.resting

/-- The calls of a thread change, and with them the number of active runs and the
idle mark. -/
theorem Sound.replace (sound : scene.Sound) {game : Game} {frames : List Frame} (ended : Nat)
    (coupled : game.Coupled) (kept : ∀ frame ∈ scene.frames, frame.Sound game)
    (fresh : ∀ frame ∈ frames, frame.Sound game)
    (count : frames.countP (·.isRun) + ended + (!scene.game.idle).toNat =
      (scene.stack thread).countP (·.isRun) + (!game.idle).toNat) :
    (Scene.withStack { scene with game, stranded := scene.stranded + ended }
      frames thread).Sound := by
  have active := sound.active
  cases thread with
  | controller =>
      refine ⟨coupled, ?_, ?_⟩
      · intro frame membership
        rcases List.mem_append.mp membership with here | other
        · exact fresh frame here
        · exact kept frame (List.mem_append_right _ other)
      · simp only [activeRuns, withStack, stack] at active count ⊢
        omega
  | worker =>
      refine ⟨coupled, ?_, ?_⟩
      · intro frame membership
        rcases List.mem_append.mp membership with other | here
        · exact kept frame (List.mem_append_left _ other)
        · exact fresh frame here
      · simp only [activeRuns, withStack, stack] at active count ⊢
        omega

theorem Sound.steady (sound : scene.Sound) {game : Game} (steady : scene.game.Steady game) :
    Scene.Sound { scene with game } where
  coupled := steady.coupled sound.coupled
  frames := sound.kept steady
  active := by
    rw [steady.idle]
    exact sound.active

theorem Sound.make (sound : scene.Sound) (thread : Thread) (call : Call) :
    (scene.make thread call).Sound := by
  have turned := scene.turn_steady thread
  simp only [Scene.make]
  cases asks : call.asksForRun with
  | false =>
      have steady := Call.course_steady asks (scene.turn thread)
      cases activity : call.course (scene.turn thread) with
      | done result game =>
          rw [activity] at steady
          exact sound.steady (turned.trans steady)
      | paused point game resume =>
          rw [activity] at steady
          have later := turned.trans steady.1
          have kept := sound.kept later
          apply sound.replace 0 (later.coupled sound.coupled) kept
          · rw [List.forall_mem_cons]
            constructor
            · exact .guest steady.2.1 steady.2.2
            · intro frame membership
              exact kept frame (stack_subset membership)
          · simp [later.idle]
  | true =>
      rcases Call.course_cases asks (scene.turn thread) with
        ⟨last, refused, steady⟩ | ⟨free, point, game, resume, accepted, coupled, busy, run⟩
      · simp only [refused]
        exact sound.steady (turned.trans steady)
      · simp only [accepted]
        have idle : scene.game.idle = true := free.idle
        have kept : ∀ frame ∈ scene.frames, frame.Sound game := by
          intro frame membership
          exact (sound.frames frame membership).of_guest (sound.guests idle frame membership)
        apply sound.replace 0 coupled kept
        · rw [List.forall_mem_cons]
          constructor
          · exact run
          · intro frame membership
            exact kept frame (stack_subset membership)
        · simp [idle, busy]

/-- What a call does after a notice or a wait keeps a scene sound. -/
theorem Sound.resume (sound : scene.Sound) {frame : Frame} {rest : List Frame}
    (top : scene.stack thread = frame :: rest)
    (elsewhere : ∀ lines, frame.point ≠ .signal (.start lines)) (reply : Except Fault Unit) :
    (scene.resume thread frame rest reply).Sound := by
  have turned := scene.turn_steady thread
  have below {game : Game} (kept : ∀ frame ∈ scene.frames, frame.Sound game) :
      ∀ frame ∈ rest, frame.Sound game := by
    intro frame membership
    apply kept
    apply stack_subset
    exact top ▸ List.mem_cons_of_mem _ membership
  have paused {game : Game} {point : Point}
      {resume : Except Fault Unit → Game → Activity Point Game Fault Unit}
      (steady : scene.game.Steady game) (run : Frame.Sound game { frame with point, resume }) :
      (Scene.withStack { scene with game }
        ({ frame with point, resume } :: rest) thread).Sound := by
    have kept := sound.kept steady
    refine sound.replace 0 (steady.coupled sound.coupled) kept
      (List.forall_mem_cons.mpr ⟨run, below kept⟩) ?_
    simp [top, steady.idle, List.countP_cons]
  simp only [Scene.resume]
  cases sound.frames frame (stack_subset (top ▸ List.mem_cons_self)) with
  | @guest point resume place steady =>
      have goes := steady reply (scene.turn thread)
      cases activity : resume reply (scene.turn thread) with
      | done result game =>
          rw [activity] at goes
          simp only [activity]
          have kept := sound.kept (turned.trans goes)
          apply sound.replace _ ((turned.trans goes).coupled sound.coupled) kept (below kept)
          simp [top, (turned.trans goes).idle]
      | paused point game resume =>
          rw [activity] at goes
          simp only [activity]
          exact paused (turned.trans goes.1) (.guest goes.2.1 goes.2.2)
  | @run waypoint resume place drives =>
      have busy := sound.busy (stack_subset (top ▸ List.mem_cons_self)) rfl
      have goes := drives reply (scene.turn thread)
      rcases waypoint.next_cases reply (scene.turn thread) with
        ⟨stop, later, next, steady, stands⟩ | ⟨result, next, told⟩ | ⟨result, next, told, last⟩
      · rw [next] at goes
        rcases goes.paused with ⟨resume, onward, drives⟩
        simp only [onward]
        exact paused (turned.trans steady) (.run stands drives)
      · rw [next] at goes
        rcases goes.done with ⟨answer, ends⟩
        simp only [ends]
        have kept := sound.kept turned
        apply sound.replace _ (turned.coupled sound.coupled) kept (below kept)
        simp [top, turned.idle, Frame.strands, told]
      · rw [next] at goes
        rcases goes.done with ⟨answer, ends⟩
        simp only [ends]
        have resting : (scene.turn thread).session.state = .idle := place.resolve_left last
        have kept : ∀ frame ∈ scene.frames,
            frame.Sound { scene.turn thread with idle := true } := by
          intro frame membership
          exact (sound.frames frame membership).later id
        refine sound.replace _ ?_ kept (below kept) ?_
        · constructor <;> simp [resting]
        · simp [top, busy, Frame.strands, told]
  | handed ends => exact absurd rfl (elsewhere _)
  | ready lines =>
      rcases (run_follows lines (scene.turn thread)).drives.paused with ⟨resume, onward, drives⟩
      simp only [Frame.ready, onward]
      exact paused (turned.trans (Game.begun_steady _ _)) (.run (.inl trivial) drives)

/-- A program that is handed over is a run that goes on, on the worker. -/
theorem Sound.start (sound : scene.Sound) {frame : Frame} {rest : List Frame}
    {lines : List SourceLine} (top : scene.stack thread = frame :: rest)
    (handing : frame.point = .signal (.start lines)) (asleep : scene.worker = []) :
    ((scene.resume thread frame rest (.ok ())).withStack [Frame.ready lines] .worker).Sound := by
  cases thread with
  | worker => cases asleep.symm.trans top
  | controller =>
      have turned := scene.turn_steady .controller
      have kept := sound.kept turned
      cases sound.frames frame (stack_subset (top ▸ List.mem_cons_self)) with
      | guest place =>
          cases handing
          exact place.elim
      | run => cases handing
      | ready => cases handing
      | handed ends =>
          rcases ends (.ok ()) (scene.turn .controller) with ⟨result, last⟩
          simp only [Scene.resume, last]
          refine ⟨turned.coupled sound.coupled, ?_, ?_⟩
          · intro frame membership
            rcases List.mem_append.mp membership with below | ready
            · exact kept frame (stack_subset (top ▸ List.mem_cons_of_mem _ below))
            · rcases List.mem_singleton.mp ready with rfl
              exact .ready lines
          · have active := sound.active
            simp only [stack] at top
            simp [activeRuns, withStack, top, asleep, Frame.strands, Frame.ready, turned.idle]
              at active ⊢
            omega

theorem Step.sound {next : Scene} (step : scene.Step next) (sound : scene.Sound) : next.Sound := by
  cases step with
  | call call listens => exact sound.make _ call
  | reply reply top place => exact sound.resume top (by simp [place]) reply
  | wake top place idle => exact sound.resume top (by simp [place]) _
  | start top place asleep => exact sound.start top place asleep
  | begin top place =>
      have top : scene.stack .worker = _ := top
      exact sound.resume top (by simp [place]) _
  | outside state flag idle runner => exact sound.steady (.of_same state flag idle)

/-- Every scene that can come about is sound. -/
theorem Reachable.sound (reachable : scene.Reachable) : scene.Sound := by
  induction reachable with
  | opened state idle =>
      constructor
      · constructor <;> simp [state]
      · simp [Scene.frames]
      · simp [activeRuns, idle]
  | step _ step ih => exact step.sound ih

theorem Sound.free (sound : scene.Sound) (none : scene.activeRuns = 0) (thread : Thread) :
    (scene.turn thread).Free := by
  have idle : scene.game.idle = true := by
    have active := sound.active
    cases idle : scene.game.idle with
    | true => rfl
    | false => simp [none, idle] at active
  constructor
  · apply Decidable.byContradiction
    intro busy
    have taken := sound.coupled.busy busy
    simp [idle] at taken
  · exact idle

/-- A call that is accepted while no run is active makes one active. -/
theorem Sound.begins (sound : scene.Sound) {call : Call} {point : Point} {later : Game}
    {resume : Except Fault Unit → Game → Activity Point Game Fault Unit}
    (accepted : call.course (scene.turn thread) = .paused point later resume)
    (busy : later.idle = false) : (scene.make thread call).activeRuns = 1 := by
  have same : (scene.make thread call).game = later := by
    simp only [Scene.make, accepted]
    cases thread <;> rfl
  rw [(sound.make thread call).active, same, busy]
  rfl

end Scene

/-- However the calls on both threads follow each other and lie within each other, at
most one run has been accepted and has not become idle again; the game is not idle
exactly while there is one; a session that runs has not been asked to stop, one that
stops has, and neither is idle. While a run is active, every other program is
refused at once on either thread: nobody is told, and the session stays as it is.
While none is, every program with statements becomes one. -/
theorem single_active_run {scene : Scene} (reachable : scene.Reachable) :
    scene.activeRuns ≤ 1 ∧ (scene.game.idle = false ↔ scene.activeRuns = 1) ∧
    (scene.game.session.state = .running →
      scene.game.session.stopRequested = false ∧ scene.game.idle = false) ∧
    (scene.game.session.state = .stopping →
      scene.game.session.stopRequested = true ∧ scene.game.idle = false) ∧
    (scene.activeRuns = 1 → ∀ thread source,
      (∃ last, Scheduler.run source (scene.turn thread) = .done (.ok false) last ∧
        last.session = scene.game.session) ∧
      ∃ last, Scheduler.runAsync source (scene.turn thread) = .done (.ok false) last ∧
        last.session = scene.game.session) ∧
    (scene.activeRuns = 0 → ∀ thread source, SourceLine.ofSource source ≠ [] →
      (scene.make thread (.run source)).activeRuns = 1 ∧
        (scene.make thread (.runAsync source)).activeRuns = 1) := by
  rcases reachable.sound with ⟨coupled, -, active⟩
  have count : scene.game.idle = false ↔ scene.activeRuns = 1 := by
    rw [active]
    cases scene.game.idle <;> simp
  refine ⟨active ▸ Bool.toNat_le _, count, ?_, ?_, ?_, ?_⟩
  · intro running
    exact ⟨coupled.running running, coupled.busy (by simp [running])⟩
  · intro stopping
    exact ⟨coupled.stopping stopping, coupled.busy (by simp [stopping])⟩
  · intro one thread source
    have busy : ¬ (scene.turn thread).Free := by
      intro free
      exact absurd free.idle (by simp [Scene.turn, count.mpr one])
    rcases Scheduler.run_refused source busy with ⟨last, refused, same, -⟩
    rcases Scheduler.runAsync_refused source busy with ⟨other, refusedToo, sameToo, -⟩
    exact ⟨⟨last, refused, same⟩, other, refusedToo, sameToo⟩
  · intro none thread source filled
    have free := reachable.sound.free none thread
    rcases (Call.run_drives filled free).paused with ⟨_, accepted, -⟩
    rcases Call.runAsync_hands filled free with ⟨_, handed, -⟩
    exact ⟨reachable.sound.begins accepted rfl, reachable.sound.begins handed rfl⟩

/-- A reset at the first notice of a run puts the session back to idle, and another
run is refused all the same. -/
theorem single_active_run_after_reset :
    let started := Scene.make { game := Game.onGrass 1 } .controller (.run "print('a')")
    let scene := started.make .controller .resetPosition
    scene.Reachable ∧ scene.game.session.state = .idle ∧ scene.activeRuns = 1 ∧
      ∃ last, Scheduler.run "print('b')" (scene.turn .controller) = .done (.ok false) last ∧
        last.session = scene.game.session := by
  have notified : (Scene.make { game := Game.onGrass 1 } .controller (.run "print('a')")).Listens
      .controller := by
    have top : ((Scene.make { game := Game.onGrass 1 } .controller
        (.run "print('a')")).controller.map (·.point)) = [.notice .started] := by decide +kernel
    rcases List.map_eq_cons_iff.mp top with ⟨frame, rest, top, point, -⟩
    have top : Scene.stack _ .controller = _ := top
    exact .notified top point
  have opened : Scene.Reachable { game := Game.onGrass 1 } := .opened rfl rfl
  have reachable := (opened.step (.call (.run "print('a')") (.controller rfl))).step
    (.call .resetPosition notified)
  have one : (Scene.make (Scene.make { game := Game.onGrass 1 } .controller
      (.run "print('a')")) .controller .resetPosition).activeRuns = 1 := by decide +kernel
  rcases single_active_run reachable with ⟨-, -, -, -, refused, -⟩
  exact ⟨reachable, by decide +kernel, one, (refused one .controller "print('b')").1⟩

end TileWalk
