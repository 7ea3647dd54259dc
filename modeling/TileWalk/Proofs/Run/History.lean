import TileWalk.Proofs.Run.InnerReset
import TileWalk.Proofs.Run.Likeness
import TileWalk.Run.Transcript

/-!
# Histories that are forgotten

A run that is over leaves variables, a request to stop and the mark of its thread behind.
Nothing of this is looked at before it is overwritten: what a game does does not depend
on what happened in it before, and after a reset it does what a new game would do.
-/

namespace TileWalk

open Process Course

/-! ## Games that differ in their pasts -/

/-- Every map is as good as itself only, and no error is excluded. -/
def Terrain.plain : Terrain where
  maps := Eq
  stands _ := True
  seen _ := True
  harmless _ := True
  look same _ := ⟨by rw [same], fun _ _ => trivial⟩
  step _ _ := ⟨trivial, trivial⟩
  die _ := trivial
  start _ := trivial
  load _ _ := trivial
  mild _ := trivial
  square _ := rfl

/-- The games differ only in what happened before a moment of the past, and in the thread
that drove a run which is over. -/
abbrev Game.Alike (past past' : List Event) : Game → Game → Prop :=
  Like .plain past past'

variable {past past' : List Event}

theorem Game.Alike.of {game : Game} {runner : Option Thread} (recent : List Event)
    (driver : game.idle = true ∨ runner = game.runner) (trace : game.trace = recent ++ past) :
    Alike past past' game { game with runner, trace := recent ++ past' } :=
  .mk recent (Eq.refl game.session.world.grid) trivial driver trace

theorem Game.Alike.elim {game other : Game} (alike : Alike past past' game other) :
    ∃ runner recent, other = { game with runner, trace := recent ++ past' } ∧
      (game.idle = true ∨ runner = game.runner) ∧ game.trace = recent ++ past := by
  cases alike with
  | mk recent maps stands driver trace =>
      cases maps
      exact ⟨_, recent, rfl, driver, trace⟩

/-- A change that looks neither at the past nor at the thread leaves games alike. -/
theorem Game.Alike.update {game other : Game} (alike : Alike past past' game other)
    (change : Game → Game) (apart : ∀ (game : Game) runner trace,
      change { game with runner, trace } = { change game with runner, trace })
    (idle : (change game).idle = game.idle) : Alike past past' (change game) (change other) := by
  have marks : change game = { change game with runner := game.runner, trace := game.trace } :=
    apart game game.runner game.trace
  have runner : (change game).runner = game.runner := by rw [marks]
  have same : (change game).trace = game.trace := by rw [marks]
  rcases alike.elim with ⟨other, recent, rfl, driver, trace⟩
  rw [apart game other (recent ++ past')]
  exact .of recent (by rwa [idle, runner]) (by rw [same, trace])

/-- A course does the same in games that differ in their pasts. -/
abbrev Course.Forgetful {α : Type} (past past' : List Event) (course : Course α) : Prop :=
  course.Indifferent .plain past past'

/-- An observer does the same in games that differ in their pasts. -/
def Observer.Forgetful (past past' : List Event) (observer : Observer) : Prop :=
  ∀ notice, Process.Matches (Game.Alike past past') Terrain.plain.harmless (observer notice)
    (observer notice)

/-! ## Commands -/

namespace Command

/-- A command that does not read the record of what happened. -/
def Forgetful : Command → Prop
  | .texts _ | .counts | .render => False
  | _ => True

theorem update_forgetful (change : Game → Game) (apart : ∀ (game : Game) runner trace,
      change { game with runner, trace } = { change game with runner, trace })
    (idle : ∀ game, (change game).idle = game.idle) :
    Course.Forgetful past past' (Process.update change) :=
  Process.Matches.update fun game _ alike => Game.Alike.update alike change apart (idle game)

theorem onSession_forgetful (change : Session → Session) :
    Course.Forgetful past past' (onSession change) :=
  (update_forgetful (Game.onSession change) (fun _ _ _ => rfl) fun _ => rfl).bind
    fun _ => Process.Matches.pure _

theorem holdIn_forgetful (holdIn : Option Nat) :
    Course.Forgetful past past' (Process.update fun game : Game => { game with holdIn }) :=
  update_forgetful (fun game => { game with holdIn }) (fun _ _ _ => rfl) fun _ => rfl

theorem handOver_forgetful (source : Text) (holdIn : Option Nat) :
    Course.Forgetful past past' (handOver source holdIn) := by
  apply Process.Matches.state_bind
  intro game other alike
  have same : other.holdIn = game.holdIn := by
    rcases Game.Alike.elim alike with ⟨_, _, rfl, -⟩
    rfl
  rw [same]
  apply (holdIn_forgetful holdIn).bind _ game other alike
  intro _
  apply (Scheduler.runAsync_indifferent source).bind
  intro accepted
  cases accepted with
  | true => exact Process.Matches.pure _
  | false => exact (holdIn_forgetful game.holdIn).bind fun _ => Process.Matches.pure _

theorem giveTurn_forgetful (holdIn : Option Nat) :
    Course.Forgetful past past' (giveTurn holdIn) := by
  apply Process.Matches.state_bind
  intro game other alike
  rw [alike.current]
  apply Activity.Matches.ite
  · intro _
    exact ((holdIn_forgetful holdIn).bind fun _ => (Process.Matches.pause _).bind
      fun _ => Process.Matches.pure _) game other alike
  · intro _
    exact Process.Matches.pure _ game other alike

theorem holdWorker_forgetful : Course.Forgetful past past' holdWorker := by
  apply Process.Matches.state_bind
  intro game other alike
  rcases alike.session with ⟨grid, -, session⟩
  rw [alike.current, session]
  apply Activity.Matches.ite
  · intro _
    exact ((Process.Matches.pause _).bind fun _ => Process.Matches.pure _) game other alike
  · intro _
    exact Process.Matches.pure _ game other alike

theorem perform_forgetful {command : Command} (forgetful : command.Forgetful) :
    Course.Forgetful past past' command.perform := by
  cases command with
  | run source => exact (Scheduler.run_indifferent source).bind fun _ => Process.Matches.pure _
  | runAsync source holdIn => exact handOver_forgetful source holdIn
  | resume holdIn => exact giveTurn_forgetful holdIn
  | stop => exact Scheduler.stop_indifferent.bind fun _ => Process.Matches.pure _
  | join => exact Scheduler.isIdle_indifferent.bind fun _ => Process.Matches.pure _
  | resetPosition =>
      exact Scheduler.resetPosition_indifferent.bind fun _ => Process.Matches.pure _
  | fullReset grid draws =>
      exact (Scheduler.fullReset_indifferent (fun _ _ => rfl) draws).bind
        fun _ => Process.Matches.pure _
  | loadMap grid => exact (Scheduler.loadMap_indifferent rfl).bind fun _ => Process.Matches.pure _
  | resetSession => exact onSession_forgetful _
  | resetSessionFully grid draws useLibrary =>
      exact (Scheduler.resetSession_indifferent (fun _ _ => rfl) useLibrary draws).bind
        fun _ => Process.Matches.pure _
  | clampSpeed wish =>
      apply (update_forgetful (Game.onSession (·.setSpeed wish)) (fun _ _ _ => rfl) fun _ => rfl).bind
      intro _
      apply Process.Matches.state_bind
      intro game other alike
      rcases alike.session with ⟨grid, -, session⟩
      rw [session]
      exact Process.Matches.pure _ game other alike
  | setSpeed speed => exact onSession_forgetful _
  | setVariable name value => exact onSession_forgetful _
  | setPosition position => exact onSession_forgetful _
  | setTarget position => exact onSession_forgetful _
  | setDead dead => exact onSession_forgetful _
  | saveMap name grid =>
      apply Process.Matches.state_bind
      intro game other alike
      have same : other.library = game.library := by
        rcases Game.Alike.elim alike with ⟨_, _, rfl, -⟩
        rfl
      rw [same]
      exact (Scheduler.withArchive_indifferent _).bind (fun _ => Process.Matches.pure _) game other
        alike
  | texts kind => exact forgetful.elim
  | counts => exact forgetful.elim
  | resolveSteps argument =>
      apply Process.Matches.state_bind
      intro game other alike
      rcases alike.session with ⟨grid, -, session⟩
      rw [session]
      cases Interpreter.resolveSteps game.session.bindings argument with
      | ok steps => exact Process.Matches.pure _ game other alike
      | error cause => exact Process.Matches.fail trivial game other alike
  | execute statement =>
      cases statement with
      | none => exact Process.Matches.fail trivial
      | some statement =>
          exact (Interpreter.execute_indifferent statement).bind fun _ => Process.Matches.pure _
  | render => exact forgetful.elim
  | raise message => exact Process.Matches.fail trivial
  | hold => exact holdWorker_forgetful

theorem performAll_forgetful {commands : List Command}
    (forgetful : ∀ command ∈ commands, command.Forgetful) :
    Course.Forgetful past past' (performAll commands) := by
  induction commands with
  | nil => exact Process.Matches.pure ()
  | cons command rest ih =>
      rcases List.forall_mem_cons.mp forgetful with ⟨first, others⟩
      have noted : Course.Forgetful past past' (do
          let result ← outcome command.perform
          update (·.push (.answered command.name result))
          performAll rest) := by
        apply (perform_forgetful first).outcome_bind
        intro result _
        exact (Process.Matches.update fun _ _ alike => alike.push _).bind fun _ => ih others
      cases command with
      | raise message => exact Process.Matches.fail trivial
      | hold => exact holdWorker_forgetful.bind fun _ => ih others
      | _ => exact noted

end Command

/-! ## Observers -/

/-- What is told and no wait goes into the record only. -/
theorem Game.record_aside (game : Game) {notice : Notice} (aside : notice ≠ .wait) :
    ∃ trace, game.record notice = { game with trace } := by
  simp only [record, aside, if_false]
  split <;> exact ⟨_, rfl⟩

theorem Game.Alike.record {game other : Game} (alike : Alike past past' game other)
    (notice : Notice) : Alike past past' (game.record notice) (other.record notice) := by
  rcases alike.elim with ⟨runner, recent, rfl, driver, trace⟩
  simp only [Game.record]
  split
  · exact .of (game.eventOf notice :: recent) driver (by rw [Game.push, trace]; rfl)
  split
  · exact .of (game.eventOf notice :: recent) driver (by rw [Game.push, trace]; rfl)
  · exact .of recent driver trace

/-- Activities that match still do so when the same observer is told of both. -/
theorem Activity.Matches.attend {α : Type} {observer : Observer}
    (forgetful : observer.Forgetful past past') {activity other : Activity Point Game Fault α}
    (matching : activity.Matches (Game.Alike past past') Terrain.plain.harmless other) :
    (activity.attend observer).Matches (Game.Alike past past') Terrain.plain.harmless
      (other.attend observer) := by
  induction activity generalizing other with
  | done result state =>
      rcases matching with ⟨-, state', rfl, alike⟩
      exact ⟨by cases result <;> trivial, state', rfl, alike⟩
  | paused point state resume ih =>
      rcases matching with ⟨state', resume', rfl, alike, onward⟩
      cases point with
      | notice notice =>
          apply (forgetful notice state state' alike).andThen
          intro reply bears later later' alike
          exact ih reply later (onward reply bears later later' alike)
      | signal signal =>
          refine ⟨state', _, rfl, alike, ?_⟩
          intro reply bears later later' alike
          exact ih reply later (onward reply bears later later' alike)

/-- What an observer does about notices is the same in games that differ in their pasts if it
gives the same commands there, and none of them reads the record. -/
theorem Observer.reacting_forgetful {reaction : Reaction}
    (same : ∀ notice game other, Game.Alike past past' game other →
      reaction other notice = reaction game notice)
    (forgetful : ∀ notice game, ∀ command ∈ reaction game notice, command.Forgetful)
    (depth : Nat) : (reacting reaction depth).Forgetful past past' := by
  induction depth with
  | zero =>
      intro notice
      exact Process.Matches.update fun _ _ alike => Game.Alike.record alike notice
  | succ depth ih =>
      intro notice
      apply (Process.Matches.update fun _ _ alike => Game.Alike.record alike notice).bind
      intro _
      apply Process.Matches.state_bind
      intro game other alike
      have heeds : other.heeds notice = game.heeds notice := by
        rcases Game.Alike.elim alike with ⟨_, _, rfl, -⟩
        rfl
      rw [heeds, same notice game other alike]
      apply Activity.Matches.ite
      · intro _
        exact (Command.performAll_forgetful (forgetful notice game) game other alike).attend ih
      · intro _
        exact Process.Matches.pure () game other alike

/-! ## Stages -/

namespace Stage

/-- Held workers that match, or none. -/
abbrev HeldAlike (past past' : List Event) : Option Held → Option Held → Prop :=
  Option.Rel fun held held' => ∀ game other, Game.Alike past past' game other →
    (held game).Matches (Game.Alike past past') Terrain.plain.harmless (held' other)

/-- Two stages whose games differ in their pasts, and whose held workers match. -/
structure Alike (past past' : List Event) (stage other : Stage) : Prop where
  game : Game.Alike past past' stage.game other.game
  held : HeldAlike past past' stage.held other.held

variable {stage other : Stage} {observer : Observer}

theorem afterWorker_alike {game other : Game} (alike : Game.Alike past past' game other)
    (result : Except Fault Unit) :
    Game.Alike past past' (afterWorker result game) (afterWorker result other) := by
  cases result with
  | ok =>
      exact alike.update (fun game => { game with current := .controller }) (fun _ _ _ => rfl) rfl
  | error fault =>
      exact Game.Alike.update (alike.push (.workerFailed fault))
        (fun game => { game with current := .controller }) (fun _ _ _ => rfl) rfl

theorem handTo_alike {game other : Game} (alike : Game.Alike past past' game other) :
    Game.Alike past past' (handTo game) (handTo other) :=
  alike.update handTo (fun _ _ _ => rfl) rfl

theorem workerTurn_alike {activity other : Activity Signal Game Fault Unit}
    (matching : activity.Matches (Game.Alike past past') Terrain.plain.harmless other) :
    Alike past past' (workerTurn activity) (workerTurn other) := by
  induction activity generalizing other with
  | done result game =>
      rcases matching with ⟨-, game', rfl, alike⟩
      exact ⟨afterWorker_alike alike result, .none⟩
  | paused signal game resume ih =>
      rcases matching with ⟨game', resume', rfl, alike, onward⟩
      have further := fun later later' => onward (.ok ()) trivial later later'
      have turned := ih (.ok ()) game (further game game' alike)
      cases signal with
      | held =>
          refine ⟨?_, .some further⟩
          exact Game.Alike.update alike (fun game => { game with current := .controller })
            (fun _ _ _ => rfl) rfl
      | start lines => exact turned
      | release => exact turned
      | await => exact turned

theorem workerEnd_alike {activity other : Activity Signal Game Fault Unit}
    (matching : activity.Matches (Game.Alike past past') Terrain.plain.harmless other) :
    Game.Alike past past' (workerEnd activity) (workerEnd other) := by
  induction activity generalizing other with
  | done result game =>
      rcases matching with ⟨-, game', rfl, alike⟩
      exact afterWorker_alike alike result
  | paused signal game resume ih =>
      rcases matching with ⟨game', resume', rfl, alike, onward⟩
      have ended := ih (.ok ()) game (onward (.ok ()) trivial game game' alike)
      exact ended

/-- Orders that match have the same results, on stages that are alike again. -/
theorem conduct_alike {α : Type} {work : List SourceLine → Play Unit}
    (works : ∀ lines, Process.Matches (Game.Alike past past') Terrain.plain.harmless (work lines)
      (work lines))
    {activity other : Activity Signal Game Fault α} {held held' : Option Held}
    (matching : activity.Matches (Game.Alike past past') Terrain.plain.harmless other)
    (same : HeldAlike past past' held held') :
    (conduct work activity held).1 = (conduct work other held').1 ∧
      Alike past past' (conduct work activity held).2 (conduct work other held').2 := by
  induction activity generalizing other held held' with
  | done result game =>
      rcases matching with ⟨-, game', rfl, alike⟩
      exact ⟨rfl, alike, same⟩
  | paused signal game resume ih =>
      rcases matching with ⟨game', resume', rfl, alike, onward⟩
      -- The order goes on in the games that the worker leaves.
      have further {later later' : Game} {held held' : Option Held}
          (alike : Game.Alike past past' later later') (same : HeldAlike past past' held held') :=
        ih (.ok ()) later (onward (.ok ()) trivial later later' alike) same
      cases signal with
      | held => exact further alike same
      | start lines =>
          have turned := workerTurn_alike (works lines _ _ (handTo_alike alike))
          exact further turned.game turned.held
      | release =>
          cases same with
          | none => exact further alike .none
          | some same =>
              have turned := workerTurn_alike (same _ _ (handTo_alike alike))
              exact further turned.game turned.held
      | await =>
          cases same with
          | none => exact further alike .none
          | some same =>
              have ended := workerEnd_alike (same _ _ (handTo_alike alike))
              exact further ended .none

theorem Alike.settle (alike : Alike past past' stage other) :
    Alike past past' stage.settle other.settle := by
  rcases stage with ⟨game, held⟩
  rcases other with ⟨game', held'⟩
  rcases alike with ⟨same, workers⟩
  have stop : game'.session.stopRequested = game.session.stopRequested := by
    rcases same.session with ⟨grid, -, session⟩
    rw [session]
  cases workers with
  | none => exact ⟨same, .none⟩
  | some matching =>
      simp only [Stage.settle, stop]
      split
      · exact workerTurn_alike (matching _ _ (handTo_alike same))
      · exact ⟨same, .some matching⟩

/-- Courses that match lead to the same result, on stages that are alike afterwards. -/
theorem perform_alike (stage other : Stage) (workers : HeldAlike past past' stage.held other.held)
    (forgetful : observer.Forgetful past past') {α : Type} {course course' : Course α}
    (same : (course stage.game).Matches (Game.Alike past past') Terrain.plain.harmless
      (course' other.game)) :
    (stage.perform observer course).1 = (other.perform observer course').1 ∧
      Alike past past' (stage.perform observer course).2 (other.perform observer course').2 := by
  have works (lines : List SourceLine) : Process.Matches (Game.Alike past past')
      Terrain.plain.harmless ((Scheduler.execute lines).attend observer)
      ((Scheduler.execute lines).attend observer) := by
    intro game other alike
    exact (Scheduler.execute_indifferent lines game other alike).attend forgetful
  rcases conduct_alike works (same.attend forgetful) workers with ⟨result, after⟩
  exact ⟨result, after.settle⟩

end Stage

/-! ## What is told of an order -/

/-- The events that are new in alike games are the same. -/
theorem Game.Alike.eventsSince {game other later later' : Game}
    (before : Alike past past' game other) (after : Alike past past' later later') :
    Report.eventsSince game.trace.length later = Report.eventsSince other.trace.length later' := by
  rcases before.elim with ⟨_, first, rfl, -, start⟩
  rcases after.elim with ⟨_, second, rfl, -, trace⟩
  have count : second.length + past.length - (first.length + past.length) ≤ second.length := by omega
  have same : second.length + past'.length - (first.length + past'.length) =
      second.length + past.length - (first.length + past.length) := by omega
  simp only [Report.eventsSince, start, trace, List.length_append, same,
    List.take_append_of_le_length count]

namespace Stage

variable {stage other : Stage} {observer : Observer}

/-- What an order leads to: its result, what happened meanwhile, and the session afterwards. -/
def shown {α : Type} (observer : Observer) (course : Course α) (stage : Stage) :
    Except Fault α × List Event × Session :=
  let (result, after) := stage.perform observer course
  (result, Report.eventsSince stage.game.trace.length after.game, after.game.session)

/-- What each of some commands leads to. -/
def shownAll (observer : Observer) (commands : List Command) (stage : Stage) :
    List (Option (Except Fault Answer) × List Event × Session) :=
  (Report.ofCommands observer commands stage).1.map fun report =>
    (report.result, report.events, report.game.session)

theorem Alike.session (alike : Alike past past' stage other) :
    stage.game.session = other.game.session := by
  rcases alike.game.elim with ⟨_, _, same, -⟩
  rw [same]

theorem Alike.shownAll (alike : Alike past past' stage other)
    (forgetful : observer.Forgetful past past') {commands : List Command}
    (reading : ∀ command ∈ commands, command.Forgetful) :
    stage.shownAll observer commands = other.shownAll observer commands := by
  induction commands generalizing stage other with
  | nil => rfl
  | cons command rest ih =>
      rcases List.forall_mem_cons.mp reading with ⟨first, others⟩
      have same := Command.perform_forgetful first stage.game other.game alike.game
      rcases perform_alike stage other alike.held forgetful same with ⟨result, after⟩
      have later := ih after others
      simp only [Stage.shownAll] at later
      simp only [Stage.shownAll, Report.ofCommands, List.map_cons, result, after.session,
        alike.game.eventsSince after.game, later]

end Stage

/-! ## New games -/

namespace Game

/-- A new game on the same map, at the same pace and in the same surroundings. -/
def anew (game : Game) : Game :=
  let opening : Opening :=
    { speed := game.session.speed
      draws := game.draws
      disk := game.disk
      library := game.library
      usesLibrary := game.usesLibrary
      attended := game.attended }
  { opening.gameOn game.session.world.grid with current := game.current, holdIn := game.holdIn }

/-- Two games with the same world, pace and surroundings. -/
structure AsSet (game other : Game) : Prop where
  world : other.session.world = game.session.world
  speed : other.session.speed = game.session.speed
  current : other.current = game.current
  attended : other.attended = game.attended
  disk : other.disk = game.disk
  library : other.library = game.library
  usesLibrary : other.usesLibrary = game.usesLibrary
  draws : other.draws = game.draws
  holdIn : other.holdIn = game.holdIn

/-- A run begins alike whatever was left behind. -/
theorem AsSet.claimed {game other : Game} (same : game.AsSet other) :
    Alike game.trace other.trace (game.claimed game.current) (other.claimed other.current) := by
  have equal : other.claimed other.current =
      { game.claimed game.current with
        runner := some game.current
        trace := [] ++ other.trace } := by
    simp only [Game.claimed, same.world, same.speed, same.current, same.attended, same.disk,
      same.library, same.usesLibrary, same.draws, same.holdIn, List.nil_append]
  rw [equal]
  exact .of [] (.inr rfl) rfl

/-- A fresh session of the usual size is that of a new game. -/
theorem anew_alike (game : Game) (fresh : game.session.Fresh) (idle : game.idle = true)
    (size : game.session.world.size = Grid.standardSize) : Alike game.trace [] game game.anew := by
  have session : game.anew.session = game.session := by
    rcases game with ⟨⟨⟨grid, agent, extent⟩, bindings, state, speed, stop⟩, rest⟩
    rcases fresh with ⟨agent, bindings, state, clear⟩
    simp_all [anew, Opening.gameOn]
  have equal : game.anew = { game with runner := none, trace := [] ++ [] } := by
    rw [← session, idle]
    rfl
  rw [equal]
  exact .of [] (.inl idle) rfl

/-- A reset comes through in a free game, and in this game it is told. -/
inductive Renews (game : Game) : Course Unit → Game → Prop
  | position : Renews game Scheduler.resetPosition (game.onSession Session.resetPosition)
  | full (grid : Option Grid) (draws : Option Random.Draws) {last : Game} :
    Scheduler.resetSession grid game.usesLibrary draws game = .done (.ok ()) last →
    Renews game (Scheduler.fullReset grid draws) last

theorem Renews.announces {game last : Game} {reset : Course Unit} (renews : game.Renews reset last)
    (free : game.Free) : reset game = Scheduler.announce last := by
  have still : game.stopped = game := by simp [stopped, free.state]
  cases renews with
  | position =>
      simp [Scheduler.resetPosition, Scheduler.stop_apply, still, Scheduler.join_idle free.idle]
  | full grid draws made =>
      simp [Scheduler.fullReset, Scheduler.stop_apply, still, Scheduler.join_idle free.idle, made]

theorem Renews.fresh {game last : Game} {reset : Course Unit} (renews : game.Renews reset last)
    (free : game.Free) : last.session.Fresh ∧ last.idle = true ∧
      last.session.world.size = game.session.world.size := by
  cases renews with
  | position => exact ⟨⟨rfl, rfl, rfl, rfl⟩, free.idle, rfl⟩
  | full grid draws made =>
      rcases Scheduler.resetSession_ends grid game.usesLibrary draws game with
        ⟨result, other, ends, threads, session⟩
      cases made.symm.trans ends
      rcases session with ⟨fresh, same⟩ | ⟨-, failed⟩
      · rw [same]
        exact ⟨⟨rfl, rfl, rfl, rfl⟩, threads.idle.trans free.idle, rfl⟩
      · exact absurd rfl failed

end Game

/-! ## The past is forgotten -/

namespace Stage

variable {observer : Observer} {game : Game}

/-- A program leads to the same in idle games that differ in what they have left behind. -/
theorem shown_run {other : Game} {source : Text} (free : game.Free) (free' : other.Free)
    (same : game.AsSet other) (filled : SourceLine.ofSource source ≠ [])
    (forgetful : observer.Forgetful game.trace other.trace) :
    ({ game } : Stage).shown observer (Scheduler.run source) =
      ({ game := other } : Stage).shown observer (Scheduler.run source) := by
  have claimed := same.claimed
  have matching : (Scheduler.run source game).Matches (Game.Alike game.trace other.trace)
      Terrain.plain.harmless (Scheduler.run source other) := by
    rw [Scheduler.run_free filled free, Scheduler.run_free filled free']
    apply (Scheduler.execute_indifferent _ _ _ claimed).andThen
    intro result _ later later' alike
    exact ⟨by cases result <;> trivial, later', rfl, alike⟩
  rcases perform_alike { game } { game := other } .none forgetful matching with ⟨result, after⟩
  have events : Report.eventsSince game.trace.length _ =
      Report.eventsSince other.trace.length _ := claimed.eventsSince after.game
  simp only [Stage.shown, result, after.session, events]

variable {reset : Course Unit} {last : Game}

/-- A reset leads to the same as what it tells does in a new game. -/
theorem perform_reset (free : game.Free) (renews : game.Renews reset last)
    (size : game.session.world.size = Grid.standardSize)
    (forgetful : observer.Forgetful last.trace []) :
    let renewed := ({ game } : Stage).perform observer reset
    let opened := ({ game := last.anew } : Stage).perform observer Scheduler.announce
    renewed.1 = opened.1 ∧ Alike last.trace [] renewed.2 opened.2 := by
  rcases renews.fresh free with ⟨fresh, idle, extent⟩
  have matching := Scheduler.announce_indifferent last last.anew
    (last.anew_alike fresh idle (extent.trans size))
  rw [← renews.announces free] at matching
  exact perform_alike { game } { game := last.anew } .none forgetful matching

/-- After a reset that is only recorded a game is like a new one. -/
theorem perform_reset_recorded (free : game.Free) (renews : game.Renews reset last)
    (size : game.session.world.size = Grid.standardSize) :
    let cleared := last.record (.highlight none)
    let renewed := cleared.record .redraw
    observer (.highlight none) last = .done (.ok ()) cleared →
    observer .redraw cleared = .done (.ok ()) renewed →
    ({ game } : Stage).perform observer reset = (.ok (), { game := renewed }) ∧
      Game.Alike renewed.trace [] renewed last.anew := by
  intro cleared renewed first second
  rcases renews.fresh free with ⟨fresh, idle, extent⟩
  constructor
  · simp only [Stage.perform, Course.attend, renews.announces free, Scheduler.announce, bind_apply,
      notify_apply, Activity.andThen_paused, Activity.andThen_done, Activity.attend, first, second,
      Stage.conduct]
    rfl
  · obtain ⟨trace, same⟩ : ∃ trace, renewed = { last with trace } := by
      rcases last.record_aside (by simp : Notice.highlight none ≠ .wait) with ⟨_, first⟩
      rcases cleared.record_aside (by simp : Notice.redraw ≠ .wait) with ⟨trace, second⟩
      exact ⟨trace, second.trans (by simp only [cleared, first])⟩
    rw [same]
    exact ({ last with trace } : Game).anew_alike fresh idle (extent.trans size)

end Stage

/-- What an idle game does does not depend on its past. A program that is run gives the same
result, the same events and the same session in any two idle games with the same world, pace and
surroundings. After a reset on a map of the usual size, whatever is asked for then leads to
the same as in a new game in which the observer has been told what the reset tells; or in
a new game as such, if the observer does nothing but record that. -/
theorem history_forgotten (observer : Observer) (game : Game) (free : game.Free) :
    (∀ (other : Game) (source : Text), other.Free → game.AsSet other →
      SourceLine.ofSource source ≠ [] → observer.Forgetful game.trace other.trace →
      ({ game } : Stage).shown observer (Scheduler.run source) =
        ({ game := other } : Stage).shown observer (Scheduler.run source)) ∧
    ∀ (reset : Course Unit) (last : Game), game.Renews reset last →
      game.session.world.size = Grid.standardSize →
      (observer.Forgetful last.trace [] →
        let renewed := ({ game } : Stage).perform observer reset
        let opened := ({ game := last.anew } : Stage).perform observer Scheduler.announce
        renewed.1 = opened.1 ∧ renewed.2.game.session = opened.2.game.session ∧
        ∀ commands : List Command, (∀ command ∈ commands, command.Forgetful) →
          renewed.2.shownAll observer commands = opened.2.shownAll observer commands) ∧
      let cleared := last.record (.highlight none)
      let renewed := cleared.record .redraw
      (observer (.highlight none) last = .done (.ok ()) cleared →
        observer .redraw cleared = .done (.ok ()) renewed →
        observer.Forgetful renewed.trace [] →
        ({ game } : Stage).perform observer reset = (.ok (), { game := renewed }) ∧
        renewed.session = last.anew.session ∧
        ∀ commands : List Command, (∀ command ∈ commands, command.Forgetful) →
          ({ game := renewed } : Stage).shownAll observer commands =
            ({ game := last.anew } : Stage).shownAll observer commands) := by
  constructor
  · intro other source free' same filled forgetful
    exact Stage.shown_run free free' same filled forgetful
  intro reset last renews size
  constructor
  · intro forgetful
    rcases Stage.perform_reset free renews size forgetful with ⟨result, after⟩
    exact ⟨result, after.session, fun commands reading => after.shownAll forgetful reading⟩
  · intro cleared renewed first second forgetful
    rcases Stage.perform_reset_recorded free renews size first second with ⟨performed, alike⟩
    have stages : Stage.Alike renewed.trace [] { game := renewed } { game := last.anew } :=
      ⟨alike, .none⟩
    exact ⟨performed, stages.session, fun commands reading => stages.shownAll forgetful reading⟩

/-- Variables, a request to stop and the worker's mark are left behind, and the observer asks
each run to stop at its first redraw. -/
theorem history_forgotten_leftover :
    let observer := Observer.reacting (fun _ notice => if notice = .redraw then [.stop] else []) 1
    let game := Game.onGrass Grid.standardSize
    let other : Game := { game with
      session := { game.session with bindings := Bindings.empty.set "x" 1, stopRequested := true }
      runner := some .worker
      trace := [.ended .idle] }
    let renewed := other.onSession Session.resetPosition
    other.Free ∧ game.AsSet other ∧ SourceLine.ofSource "move_right(x)" ≠ [] ∧
    ({ game } : Stage).shown observer (Scheduler.run "move_right(x)") =
      ({ game := other } : Stage).shown observer (Scheduler.run "move_right(x)") ∧
    other.Renews Scheduler.resetPosition renewed ∧
    (({ game := other } : Stage).perform observer Scheduler.resetPosition).1 =
      (({ game := renewed.anew } : Stage).perform observer Scheduler.announce).1 := by
  intro observer game other renewed
  have free : game.Free := by decide
  have free' : other.Free := by decide
  have same : game.AsSet other := ⟨rfl, rfl, rfl, rfl, rfl, rfl, rfl, rfl, rfl⟩
  have filled : SourceLine.ofSource "move_right(x)" ≠ [] := by decide +kernel
  have forgetful (past past' : List Event) : observer.Forgetful past past' := by
    apply Observer.reacting_forgetful
    · intros
      rfl
    · intro notice game command membership
      split at membership <;> simp_all [Command.Forgetful]
  refine ⟨free', same, filled, ?_, .position, ?_⟩
  · exact (history_forgotten observer game free).1 other _ free' same filled (forgetful _ _)
  · exact ((history_forgotten observer other free').2 _ _ .position rfl).1 (forgetful _ _) |>.1

end TileWalk
