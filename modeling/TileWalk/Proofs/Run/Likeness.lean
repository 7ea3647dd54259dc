import TileWalk.Proofs.Activity.Likeness
import TileWalk.Proofs.Library.Saving
import TileWalk.Proofs.Map.Generation
import TileWalk.Proofs.Run.Calls

/-!
# Runs in alike games

A call of the scheduler does the same in two games that differ in nothing it looks at.
Games are alike when they differ only in their maps, in what happened before some moment
of the past, and in who drove a run that is over. Which maps may be exchanged for one
another, and what is known about the agent on them, is kept open as a terrain.
-/

namespace TileWalk

open Process Course

/-- Which maps are as good as each other, and what is known about the agent on them. -/
structure Terrain where
  maps : Grid → Grid → Prop
  /-- What is known about the agent and the size of the map. -/
  stands : World → Prop
  /-- The places at which the maps are looked up. -/
  seen : Position → Prop
  /-- The errors that are not excluded. -/
  harmless : Fault → Prop
  look {grid other : Grid} {place : Position} : maps grid other → seen place →
    other.cellAt place = grid.cellAt place ∧
      ∀ error, grid.cellAt place = .error error → harmless (.grid error)
  step {world : World} {place : Position} : stands world → world.isOutOfBounds place = false →
    seen place ∧ stands (world.place place)
  die {world : World} : stands world → stands (world.setDead true)
  start {world : World} : stands world → stands world.resetAgent
  load {world : World} (grid : Grid) : stands world → stands (world.load grid)
  mild {fault : Fault} : (∀ error, fault ≠ .grid error) → harmless fault
  square {grid : Grid} : grid.WellFormed Grid.standardSize → maps grid grid

@[simp] theorem World.load_agent (world : World) (grid : Grid) :
    (world.load grid).agent = world.agent := rfl

@[simp] theorem World.load_isOutOfBounds (world : World) (grid : Grid) (place : Position) :
    (world.load grid).isOutOfBounds place = world.isOutOfBounds place := rfl

@[simp] theorem World.load_cellAt (world : World) (grid : Grid) (place : Position) :
    (world.load grid).cellAt place = grid.cellAt place := rfl

/-- The second game differs from the first one only in its map, in what happened before a
moment of the past, and in the thread that drove a run which is over. -/
inductive Game.Like (terrain : Terrain) (past past' : List Event) : Game → Game → Prop
  | mk {game : Game} {grid : Grid} {runner : Option Thread} (recent : List Event) :
    terrain.maps game.session.world.grid grid → terrain.stands game.session.world →
    (game.idle = true ∨ runner = game.runner) → game.trace = recent ++ past →
    Like terrain past past' game
      { game.onWorld (·.load grid) with runner, trace := recent ++ past' }

namespace Game.Like

variable {terrain : Terrain} {past past' : List Event} {game other : Game}

theorem push (like : Like terrain past past' game other) (event : Event) :
    Like terrain past past' (game.push event) (other.push event) := by
  cases like with
  | mk recent maps stands runner trace =>
      exact .mk (event :: recent) maps stands runner (by rw [Game.push, trace]; rfl)

theorem place (like : Like terrain past past' game other) {place : Position}
    (inside : game.session.world.isOutOfBounds place = false) :
    Like terrain past past' (game.onWorld (·.place place)) (other.onWorld (·.place place)) := by
  cases like with
  | mk recent maps stands runner trace =>
      exact .mk recent maps (terrain.step stands inside).2 runner trace

theorem die (like : Like terrain past past' game other) :
    Like terrain past past' (game.onWorld (·.setDead true)) (other.onWorld (·.setDead true)) := by
  cases like with
  | mk recent maps stands runner trace => exact .mk recent maps (terrain.die stands) runner trace

theorem restart (like : Like terrain past past' game other) :
    Like terrain past past' (game.onSession Session.resetPosition)
      (other.onSession Session.resetPosition) := by
  cases like with
  | mk recent maps stands runner trace => exact .mk recent maps (terrain.start stands) runner trace

theorem load (like : Like terrain past past' game other) {grid : Grid} (square : terrain.maps grid grid) :
    Like terrain past past' (game.onSession (·.load grid)) (other.onSession (·.load grid)) := by
  cases like with
  | mk recent maps stands runner trace => exact .mk recent square (terrain.load _ stands) runner trace

theorem report (like : Like terrain past past' game other) (disk : Storage.Disk) (events : List Event) :
    Like terrain past past' { game with disk, trace := events ++ game.trace }
      { other with disk, trace := events ++ other.trace } := by
  cases like with
  | mk recent maps stands runner trace =>
      have after : Like terrain past past' { game with disk, trace := events ++ game.trace } _ :=
        .mk (events ++ recent) maps stands runner (by rw [trace, List.append_assoc])
      rw [List.append_assoc] at after
      exact after

theorem redraw (like : Like terrain past past' game other) (draws : Random.Draws) :
    Like terrain past past' { game with draws } { other with draws } := by
  cases like with
  | mk recent maps stands runner trace => exact .mk recent maps stands runner trace

theorem idle (like : Like terrain past past' game other) : other.idle = game.idle := by
  cases like
  rfl

theorem current (like : Like terrain past past' game other) : other.current = game.current := by
  cases like
  rfl

theorem runner (like : Like terrain past past' game other) (busy : game.idle = false) :
    other.runner = game.runner := by
  cases like with
  | mk recent maps stands runner trace =>
      rcases runner with idle | same
      · cases busy.symm.trans idle
      · exact same

theorem session (like : Like terrain past past' game other) : ∃ grid,
    terrain.maps game.session.world.grid grid ∧
    other.session = { game.session with world := game.session.world.load grid } := by
  cases like with
  | mk recent maps stands runner trace => exact ⟨_, maps, rfl⟩

theorem stands (like : Like terrain past past' game other) : terrain.stands game.session.world := by
  cases like with
  | mk recent maps stands runner trace => exact stands

end Game.Like

/-! ## Statements -/

namespace Course

variable {terrain : Terrain} {past past' : List Event} {α : Type}

/-- A course does the same in alike games. -/
abbrev Indifferent (terrain : Terrain) (past past' : List Event) (course : Course α) : Prop :=
  Process.Matches (Game.Like terrain past past') terrain.harmless course course

theorem log_indifferent (level : LogLevel) (message : Text) :
    Indifferent terrain past past' (log level message) :=
  Process.Matches.update fun _ _ like => like.push _

theorem notify_indifferent (notice : Notice) : Indifferent terrain past past' (notify notice) :=
  Process.Matches.pause _

theorem ofGrid_matches {value : Type} {found : Except GridError value} {game other : Game}
    (like : Game.Like terrain past past' game other)
    (mild : ∀ error, found = .error error → terrain.harmless (.grid error))
    {next next' : value → Course α}
    (onward : ∀ cell, (next cell game).Matches (Game.Like terrain past past') terrain.harmless
      (next' cell other)) :
    ((ofGrid found >>= next) game).Matches (Game.Like terrain past past') terrain.harmless
      ((ofGrid found >>= next') other) := by
  cases found with
  | error error => exact ⟨mild error rfl, other, rfl, like⟩
  | ok cell => exact onward cell

end Course

namespace Interpreter

open Course

variable {terrain : Terrain} {past past' : List Event}

theorem tick_indifferent : Indifferent terrain past past' tick := by
  apply (notify_indifferent .wait).bind
  intro _
  apply Process.Matches.state_bind
  intro game other like
  rcases like.session with ⟨grid, -, same⟩
  rw [same]
  exact Process.Matches.pure _ game other like

theorem die_indifferent (message : String) : Indifferent terrain past past' (die message) := by
  apply (Process.Matches.update fun _ _ like => like.die).bind
  intro _
  apply (notify_indifferent _).bind
  intro _
  exact notify_indifferent .redraw

/-- What is done after a step has been made. -/
theorem stepped_indifferent {place : Position} (seen : terrain.seen place) {onward : Course Bool}
    (further : Indifferent terrain past past' onward) :
    Indifferent terrain past past' (do
      notify .redraw
      if ← ofGrid ((← state).session.world.isGoal place) then
        notify (.output { text := Obstacle.victory, kind := .success })
        return false
      if ← tick then onward else return false) := by
  apply (notify_indifferent .redraw).bind
  intro _
  apply Process.Matches.state_bind
  intro game other like
  rcases like.session with ⟨grid, maps, same⟩
  rcases terrain.look maps seen with ⟨found, mild⟩
  have same : other.session.world.isGoal place = game.session.world.isGoal place := by
    simp only [same, World.isGoal, World.load_cellAt, found]
    rfl
  have bearable : ∀ error, game.session.world.isGoal place = .error error →
      terrain.harmless (.grid error) := by
    intro error failed
    apply mild error
    cases cell : game.session.world.grid.cellAt place with
    | error cause => simpa [World.isGoal, World.cellAt, cell, Except.map] using failed
    | ok cell => simp [World.isGoal, World.cellAt, cell, Except.map] at failed
  rw [same]
  apply ofGrid_matches like bearable
  intro reached
  apply Activity.Matches.ite
  · intro _
    exact (notify_indifferent _).bind (fun _ => Process.Matches.pure false) game other like
  intro _
  apply tick_indifferent.bind _ game other like
  intro free
  cases free with
  | true => exact further
  | false => exact Process.Matches.pure false

theorem walk_indifferent (direction : Direction) (steps : Nat) :
    Indifferent terrain past past' (walk direction steps) := by
  induction steps with
  | zero => exact Process.Matches.pure true
  | succ left ih =>
      apply Process.Matches.state_bind
      intro game other like
      rcases like.session with ⟨grid, maps, same⟩
      simp only [same, World.load_agent, World.load_isOutOfBounds, World.load_cellAt]
      apply Activity.Matches.ite
      · intro _
        exact Process.Matches.pure false game other like
      intro _
      apply Activity.Matches.ite
      · intro _
        exact (die_indifferent _).bind (fun _ => Process.Matches.pure false) game other like
      intro inside
      rw [Bool.not_eq_true] at inside
      have seen := (terrain.step like.stands inside).1
      rcases terrain.look maps seen with ⟨found, mild⟩
      rw [found]
      apply ofGrid_matches like mild
      intro cell
      apply Activity.Matches.ite
      · intro _
        exact (die_indifferent _).bind (fun _ => Process.Matches.pure false) game other like
      intro _
      exact stepped_indifferent seen ih _ _ (like.place inside)

theorem move_indifferent (direction : Direction) (argument : Option Text) :
    Indifferent terrain past past' (move direction argument) := by
  apply Process.Matches.state_bind
  intro game other like
  rcases like.session with ⟨grid, maps, same⟩
  rw [same]
  cases resolveSteps game.session.bindings argument with
  | error cause =>
      have mild : terrain.harmless (.longNumeral cause) := terrain.mild (by simp)
      exact Process.Matches.fail mild game other like
  | ok steps =>
      apply (walk_indifferent direction steps.toNat).bind _ game other like
      intro made
      cases made with
      | false => exact Process.Matches.pure false
      | true =>
          by_cases several : steps > 1
          · simp only [several, if_true]
            exact (notify_indifferent _).bind fun _ => Process.Matches.pure true
          · simp only [several, if_false]
            exact Process.Matches.pure true

theorem valueOf_mild {bindings : Bindings} {name value : Text} {fault : Fault}
    (failed : valueOf bindings name value = .error fault) : terrain.harmless fault := by
  apply terrain.mild
  intro error
  simp only [valueOf] at failed
  split at failed
  · split at failed <;> cases failed
    simp
  · split at failed <;> cases failed
    simp

theorem execute_indifferent (statement : Statement) :
    Indifferent terrain past past' (execute statement) := by
  cases statement with
  | assign name value =>
      apply Process.Matches.state_bind
      intro game other like
      rcases like.session with ⟨grid, maps, same⟩
      rw [same]
      cases found : valueOf game.session.bindings name value with
      | error fault => exact Process.Matches.fail (valueOf_mild found) game other like
      | ok number =>
          refine (Process.Matches.update fun _ _ like => ?_).bind
            (fun _ => Process.Matches.pure true) game other like
          cases like with
          | mk recent maps stands runner trace => exact .mk recent maps stands runner trace
  | print token quoted =>
      apply Process.Matches.state_bind
      intro game other like
      rcases like.session with ⟨grid, maps, same⟩
      rw [same]
      exact (notify_indifferent _).bind (fun _ => Process.Matches.pure true) game other like
  | move direction argument => exact move_indifferent direction argument
  | remark text => exact Process.Matches.pure true

end Interpreter

/-! ## Runs -/

namespace Scheduler

open Course

variable {terrain : Terrain} {past past' : List Event}

theorem executeLine_indifferent (line : SourceLine) :
    Indifferent terrain past past' (executeLine line) := by
  simp only [executeLine]
  cases Statement.parse line.text with
  | ok statement => exact Interpreter.execute_indifferent statement
  | error error => exact Process.Matches.fail (terrain.mild (by simp))

theorem dispatch_indifferent (lines : List SourceLine) :
    Indifferent terrain past past' (dispatch lines) := by
  induction lines with
  | nil => exact Process.Matches.pure ()
  | cons line rest ih =>
      apply Process.Matches.state_bind
      intro game other like
      rcases like.session with ⟨grid, maps, same⟩
      rw [same]
      apply Activity.Matches.ite
      · intro _
        exact Process.Matches.pure () game other like
      intro _
      apply (notify_indifferent _).bind _ game other like
      intro _
      apply (executeLine_indifferent line).outcome_bind
      intro result bears
      match result with
      | .ok true =>
          by_cases last : rest.isEmpty = true
          · simp only [last, if_true]
            exact Process.Matches.pure ()
          · simp only [last]
            apply Interpreter.tick_indifferent.bind
            intro free
            cases free with
            | true => exact ih
            | false => exact Process.Matches.pure ()
      | .ok false => exact Process.Matches.pure ()
      | .error fault =>
          cases fault with
          | statement error => exact (log_indifferent _ _).bind fun _ => notify_indifferent _
          | _ => exact Process.Matches.fail bears

theorem close_indifferent {result : Except Fault Unit} (bears : Bears terrain.harmless result) :
    Indifferent terrain past past' (close result) := by
  apply (notify_indifferent _).bind
  intro _
  refine (Process.Matches.update fun _ _ like => ?_).bind fun _ => ?_
  · cases like with
    | mk recent maps stands runner trace => exact .mk recent maps stands runner trace
  apply (log_indifferent _ _).bind
  intro _
  apply (notify_indifferent .ended).outcome_bind
  intro closing told
  refine (Process.Matches.update fun _ _ like => ?_).bind fun _ => ?_
  · cases like with
    | mk recent maps stands runner trace => exact .mk recent maps stands (.inl rfl) trace
  exact (Process.Matches.ofOutcome told).bind fun _ => Process.Matches.ofOutcome bears

/-- A whole run does the same in alike games. -/
theorem execute_indifferent (lines : List SourceLine) :
    Indifferent terrain past past' (execute lines) := by
  apply (log_indifferent _ _).bind
  intro _
  apply Process.Matches.outcome_bind
  · exact (notify_indifferent .started).bind fun _ => dispatch_indifferent lines
  · exact fun result bears => close_indifferent bears

/-! ## Calls -/

theorem claim_indifferent (runner : Thread) : Indifferent terrain past past' (claim runner) := by
  apply Process.Matches.state_bind
  intro game other like
  have kept := like
  cases like with
  | mk recent maps stands _ trace =>
      apply Activity.Matches.ite
      · intro _
        exact (log_indifferent _ _).bind (fun _ => Process.Matches.pure false) game _ kept
      · intro _
        exact ⟨trivial, _, rfl, .mk recent maps stands (.inr rfl) trace⟩

theorem run_indifferent (source : Text) : Indifferent terrain past past' (run source) := by
  intro game other like
  apply Activity.Matches.ite
  · intro _
    exact Process.Matches.pure false game other like
  intro _
  refine Process.Matches.state_bind ?_ game other like
  intro game other like
  have kept := like
  cases like with
  | mk =>
      apply (claim_indifferent game.current).bind _ game _ kept
      intro free
      cases free with
      | true => exact (execute_indifferent _).bind fun _ => Process.Matches.pure true
      | false => exact Process.Matches.pure false

theorem runAsync_indifferent (source : Text) : Indifferent terrain past past' (runAsync source) := by
  intro game other like
  apply Activity.Matches.ite
  · intro _
    exact Process.Matches.pure false game other like
  intro _
  apply (claim_indifferent .worker).bind _ game other like
  intro free
  cases free with
  | true => exact (Process.Matches.pause _).bind fun _ => Process.Matches.pure true
  | false => exact Process.Matches.pure false

theorem stop_indifferent : Indifferent terrain past past' stop := by
  apply Process.Matches.state_bind
  intro game other like
  have kept := like
  cases like with
  | mk recent maps stands runner trace =>
      apply Activity.Matches.ite
      · intro _
        refine (Process.Matches.update fun _ _ like => ?_).bind (fun _ => log_indifferent _ _) game _ kept
        cases like with
        | mk recent maps stands runner trace => exact .mk recent maps stands runner trace
      · intro _
        exact Process.Matches.pure () game _ kept

theorem isIdle_indifferent : Indifferent terrain past past' isIdle := by
  apply Process.Matches.state_bind
  intro game other like
  have kept := like
  cases like with
  | mk => exact Process.Matches.pure _ game _ kept

theorem join_idle {game : Game} (idle : game.idle = true) : join game = .done (.ok ()) game := by
  simp [join, idle]

theorem join_busy {game : Game} (busy : game.idle = false) (other : game.runner ≠ some game.current) :
    join game = (do yield .await; if !(← isIdle) then fail .deadlock : Course Unit) game := by
  simp [join, busy, other]

/-- Who drove a run that is over makes no difference to those who wait for its end. -/
theorem join_indifferent : Indifferent terrain past past' join := by
  have waits : Indifferent terrain past past'
      (do yield .await; if !(← isIdle) then fail .deadlock) := by
    apply (Process.Matches.pause _).bind
    intro _
    apply isIdle_indifferent.bind
    intro idle
    cases idle with
    | true => exact Process.Matches.pure ()
    | false => exact Process.Matches.fail (terrain.mild (by simp))
  intro game other like
  have same := like.idle
  cases idle : game.idle with
  | true =>
      rw [join_idle idle, join_idle (same.trans idle)]
      exact ⟨trivial, _, rfl, like⟩
  | false =>
      have runner := like.runner idle
      have current := like.current
      by_cases own : game.runner = some game.current
      · rw [join_own own, join_own (by rw [runner, own, current])]
        exact ⟨trivial, _, rfl, like⟩
      · rw [join_busy idle own, join_busy (same.trans idle) (by rwa [runner, current])]
        exact waits game other like

theorem announce_indifferent : Indifferent terrain past past' announce :=
  (notify_indifferent _).bind fun _ => notify_indifferent .redraw

theorem resetPosition_indifferent : Indifferent terrain past past' resetPosition := by
  apply stop_indifferent.bind
  intro _
  apply join_indifferent.bind
  intro _
  exact (Process.Matches.update fun _ _ like => like.restart).bind fun _ => announce_indifferent

theorem withArchive_indifferent {value : Type} (use : Archive → Archived value) :
    Indifferent terrain past past' (withArchive use) := by
  intro game other like
  have same : other.disk = game.disk := by
    cases like
    rfl
  simp only [withArchive, same]
  split
  · exact ⟨trivial, _, rfl, like.report _ _⟩
  · exact ⟨terrain.mild (by simp), _, rfl, like.report _ _⟩

/-- The grid of a new map is as good as itself. -/
theorem chooseGrid_indifferent {grid : Option Grid}
    (square : ∀ given, grid = some given → terrain.maps given given) (useLibrary : Bool)
    {game other : Game} (like : Game.Like terrain past past' game other) :
    ∃ result later later', chooseGrid grid useLibrary game = .done result later ∧
      chooseGrid grid useLibrary other = .done result later' ∧
      Game.Like terrain past past' later later' ∧ Bears terrain.harmless result ∧
      ∀ chosen, result = .ok (some chosen) → terrain.maps chosen chosen := by
  cases grid with
  | some given =>
      refine ⟨_, _, _, rfl, rfl, like, trivial, ?_⟩
      rintro chosen ⟨⟩
      exact square _ rfl
  | none =>
      cases useLibrary with
      | false => exact ⟨_, _, _, rfl, rfl, like, trivial, by simp⟩
      | true =>
          have kept := like
          cases like with
          | mk =>
              simp only [chooseGrid, if_true, bind_apply, state_apply, Activity.andThen_done,
                withArchive, Game.onWorld]
              split
              · next chosen found =>
                  refine ⟨_, _, _, rfl, rfl, kept.report _ _, trivial, ?_⟩
                  rintro grid ⟨⟩
                  exact terrain.square (Library.firstWithin_square found)
              · exact ⟨_, _, _, rfl, rfl, kept.report _ _, terrain.mild (by simp), by simp⟩

theorem drawGrid_indifferent (draws : Option Random.Draws)
    {game other : Game} (like : Game.Like terrain past past' game other) :
    ∃ result later later', drawGrid draws game = .done result later ∧
      drawGrid draws other = .done result later' ∧
      Game.Like terrain past past' later later' ∧ Bears terrain.harmless result ∧
      ∀ drawn, result = .ok drawn → terrain.maps drawn drawn := by
  have same : other.draws = game.draws := by
    cases like
    rfl
  simp only [drawGrid, same]
  split
  · next made found =>
      refine ⟨_, _, _, rfl, rfl, ?_, trivial, ?_⟩
      · split
        · exact like.push _
        · exact (like.push _).redraw _
      · rintro grid ⟨⟩
        exact terrain.square (MapPlan.generate_square found)
  · refine ⟨_, _, _, rfl, rfl, ?_, terrain.mild (by simp), by simp⟩
    split
    · exact like
    · exact like.redraw _

theorem loadMap_indifferent {grid : Grid} (square : terrain.maps grid grid) :
    Indifferent terrain past past' (loadMap grid) := by
  exact (Process.Matches.update fun _ _ like => like.load square).bind fun _ => notify_indifferent .redraw

theorem resetSession_indifferent {grid : Option Grid}
    (square : ∀ given, grid = some given → terrain.maps given given) (useLibrary : Bool)
    (draws : Option Random.Draws) :
    Indifferent terrain past past' (resetSession grid useLibrary draws) := by
  intro game other like
  rcases chooseGrid_indifferent square useLibrary like with
    ⟨chosen, later, later', choice, choice', like, bears, fits⟩
  simp only [resetSession, bind_apply, choice, choice', Activity.andThen_done]
  cases chosen with
  | error fault => exact ⟨bears, _, rfl, like⟩
  | ok chosen =>
      cases chosen with
      | some fresh => exact ⟨trivial, _, rfl, like.restart.load (fits fresh rfl)⟩
      | none =>
          rcases drawGrid_indifferent draws like.restart with
            ⟨drawn, last, last', draw, draw', like, bears, fits⟩
          simp only [bind_apply, update_apply, Activity.andThen_done, draw, draw']
          cases drawn with
          | error fault => exact ⟨bears, _, rfl, like⟩
          | ok fresh => exact ⟨trivial, _, rfl, like.load (fits fresh rfl)⟩

theorem fullReset_indifferent {grid : Option Grid}
    (square : ∀ given, grid = some given → terrain.maps given given)
    (draws : Option Random.Draws) : Indifferent terrain past past' (fullReset grid draws) := by
  apply stop_indifferent.bind
  intro _
  apply join_indifferent.bind
  intro _ game other like
  have kept := like
  cases like with
  | mk =>
      exact (resetSession_indifferent square game.usesLibrary draws).bind
        (fun _ => announce_indifferent) game _ kept

end Scheduler

end TileWalk
