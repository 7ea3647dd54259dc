import TileWalk.Proofs.Program.Evaluation
import TileWalk.Proofs.Run.Control

/-!
# The trail of the agent

A redraw in a run shows either a step or a death. A step leads to the next cell
in the direction of the highlighted movement, and that cell is free; a death
leaves the agent where it is, and right before it is told which obstacle the next
cell is. Nothing else ever happens to the world, also when the run is asked to
stop on the way.
-/

namespace TileWalk

open Exchange

/-! ## Runs that are at most stopped -/

/-- Whoever is told at most asks the run to stop. -/
structure Exchange.Mild (exchange : Exchange Point Game Fault) : Prop where
  reply : exchange.reply = .ok ()
  session : exchange.after.session = exchange.before.session ∨
    exchange.after.session = exchange.before.stopped.session

def Environment.Mild (environment : Environment Point Game Fault) : Prop :=
  ∀ past point game, (environment.exchange past point game).Mild

theorem Game.stopped_world (game : Game) : game.stopped.session.world = game.session.world := by
  simp only [stopped]
  split <;> rfl

theorem Game.stopped_session {game other : Game} (same : other.session = game.session) :
    other.stopped.session = game.stopped.session := by
  simp only [stopped, same]
  split
  · simp [push, onSession, same]
  · exact same

theorem Game.stopped_speed (game : Game) : game.stopped.session.speed = game.session.speed := by
  simp only [stopped]
  split <;> rfl

theorem Exchange.Mild.world {exchange : Exchange Point Game Fault} (mild : exchange.Mild) :
    exchange.after.session.world = exchange.before.session.world := by
  rcases mild.session with same | stopped
  · rw [same]
  · rw [stopped, Game.stopped_world]

theorem Exchange.Mild.speed {exchange : Exchange Point Game Fault} (mild : exchange.Mild) :
    exchange.after.session.speed = exchange.before.session.speed := by
  rcases mild.session with same | stopped
  · rw [same]
  · rw [stopped, Game.stopped_speed]

/-- A request to stop at one pause is mild. -/
theorem Environment.Mild.stopping {environment : Environment Point Game Fault}
    (quiet : environment.Quiet) (index : Nat) :
    (environment.calling index Scheduler.stop).Mild := by
  intro past point game
  rcases quiet past point game with ⟨answered, undisturbed⟩
  by_cases here : past.length = index
  · refine ⟨by simp [Environment.exchange, calling, here, Scheduler.stop_apply], .inr ?_⟩
    simpa [Environment.exchange, calling, here, Scheduler.stop_apply] using
      Game.stopped_session undisturbed.session
  · refine ⟨?_, .inl ?_⟩
    · simpa [Environment.exchange, calling, here] using answered
    · simpa [Environment.exchange, calling, here] using undisturbed.session

/-! ## What is read off the past -/

namespace Exchange

variable (exchange : Exchange Point Game Fault) (past : List (Exchange Point Game Fault))

def agent : Agent :=
  exchange.before.session.world.agent

/-- The agent as it was shown last, or as it was at the start. -/
def lastShown (start : Agent) : Agent :=
  (redraws past).getLast?.getD start

/-- The lines so far that tell of an error or a death. -/
def errors : List OutputLine :=
  (outputs past).filter (·.kind = .error)

/-- The line that was highlighted last is a movement in a direction. -/
def Heads (source : Text) (direction : Direction) : Prop :=
  ∃ line ∈ SourceLine.ofSource source, (highlights past).getLast? = some line.lineNumber ∧
    ∃ argument, Statement.parse line.text = .ok (.move direction argument)

variable {exchange past}

theorem lastShown_redraw (start : Agent) (told : exchange.signal = .notice .redraw) :
    lastShown (past ++ [exchange]) start = exchange.agent := by
  simp [lastShown, redraws_cons, redrawn?, told, agent]

theorem lastShown_other (start : Agent) (told : exchange.signal ≠ .notice .redraw) :
    lastShown (past ++ [exchange]) start = lastShown past start := by
  have unshown : exchange.redrawn? = none := by simp [redrawn?]
  simp [lastShown, redraws_cons, unshown]

theorem errors_other (blameless : errors past = [])
    (told : ∀ line, exchange.signal = .notice (.output line) → line.kind ≠ .error) :
    errors (past ++ [exchange]) = [] := by
  have silent : exchange.output?.toList.filter (·.kind = .error) = [] := by
    simp only [output?]
    split
    · next line output => simp [told line output]
    · rfl
  rw [errors] at blameless
  simp [errors, outputs_cons, blameless, silent]

/-- The agent is still as it was shown last, unless it is shown anew. -/
theorem Mild.onward (mild : exchange.Mild) {start : Agent}
    (shown : exchange.agent = lastShown past start) (told : exchange.signal ≠ .notice .redraw) :
    exchange.after.session.world.agent = lastShown (past ++ [exchange]) start := by
  rw [mild.world, lastShown_other start told, ← shown]
  rfl

theorem Heads.later {source : Text} {direction : Direction} (heads : Heads past source direction)
    (unlit : ∀ line, exchange.signal ≠ .notice (.highlight line)) :
    Heads (past ++ [exchange]) source direction := by
  have none : exchange.highlighted? = none := by simp [highlighted?]
  simpa [Heads, highlights_cons, none] using heads

theorem heads_lit {source : Text} {direction : Direction} {line : SourceLine}
    {argument : Option Text} (known : line ∈ SourceLine.ofSource source)
    (lit : exchange.signal = .notice (.highlight (some line.lineNumber)))
    (parsed : Statement.parse line.text = .ok (.move direction argument)) :
    Heads (past ++ [exchange]) source direction := by
  refine ⟨line, known, ?_, argument, parsed⟩
  simp [highlights_cons, highlighted?, lit]

end Exchange

/-! ## Steps and deaths -/

section Trail

variable (source : Text) (start : World) (past : List (Exchange Point Game Fault))

/-- Without an error so far, the agent is about to enter a place in the direction of
the highlighted movement. -/
structure Approaches (direction : Direction) (place : Position) : Prop where
  heads : Heads past source direction
  alive : (lastShown past start.agent).dead = false
  next : place = (lastShown past start.agent).position.shift direction.delta
  blameless : errors past = []

/-- The place can be entered. -/
structure World.Admits (place : Position) (tile : Tile) : Prop where
  inside : start.isOutOfBounds place = false
  found : start.cellAt place = .ok (.tile tile)
  dry : tile ≠ .wall ∧ tile ≠ .water

/-- The agent is shown after a step. When it has reached the goal, this is told
next, and nothing more is shown. -/
structure Exchange.Steps (here : Exchange Point Game Fault)
    (rest : List (Exchange Point Game Fault)) (direction : Direction) (place : Position)
    (tile : Tile) : Prop where
  approaches : Approaches source start past direction place
  goes : start.Admits place tile
  shown : here.agent = { position := place, target := place, dead := false }
  wins : tile = .goal → ∃ victory tail, rest = victory :: tail ∧
    victory.signal = .notice (.output Landmark.goal.line) ∧ redraws tail = []

/-- The agent is shown dead, right after it was told why. Nothing more is shown. -/
structure Exchange.Dies (here : Exchange Point Game Fault)
    (rest : List (Exchange Point Game Fault)) (direction : Direction) (place : Position)
    (landmark : Landmark) : Prop where
  told : ∃ earlier line, past = earlier ++ [line] ∧
    line.signal = .notice (.output landmark.line) ∧ Approaches source start earlier direction place
  obstacle : start.landmark? place = some landmark ∧ landmark ≠ .goal
  shown : here.agent = { lastShown past start.agent with dead := true }
  last : redraws rest = []

/-! ## What holds on the way -/

/-- The map and the pace are those of the start, the agent stands within the bounds
and aims at its place, and if it was ever dead, it is. -/
structure Game.Grounded (begin : Session) (game : Game) : Prop where
  map : begin.world.SameMap game.session.world
  speed : game.session.speed = begin.speed
  inside : begin.world.isOutOfBounds game.session.world.agent.position = false
  aimed : game.session.world.agent.target = game.session.world.agent.position
  stays : begin.world.agent.dead = true ∨ (∃ earlier ∈ past, earlier.agent.dead = true) →
    game.session.world.agent.dead = true

/-- What is known of the agent at a notice of a statement. -/
def Moment.Lawful (agent : Agent) : Moment → Prop
  | .said _ | .won => agent = lastShown past start.agent ∧ errors past = []
  | .stepped walk => Approaches source start past walk.direction walk.place ∧
    agent = { position := walk.place, target := walk.place, dead := false } ∧
    ∃ tile, start.Admits walk.place tile
  | .rested walk => agent = lastShown past start.agent ∧ errors past = [] ∧
    Heads past source walk.direction
  | .obstructed message => ∃ direction place landmark,
    Approaches source start past direction place ∧
    start.landmark? place = some landmark ∧ landmark ≠ .goal ∧
    landmark.line = { text := message, kind := .error } ∧
    agent = { lastShown past start.agent with dead := true }
  | .fallen => ∃ direction place landmark earlier line,
    Approaches source start earlier direction place ∧
    start.landmark? place = some landmark ∧ landmark ≠ .goal ∧
    past = earlier ++ [line] ∧ line.signal = .notice (.output landmark.line) ∧
    agent = { lastShown past start.agent with dead := true }

/-- What is known where a statement is paused or over. -/
def StatementTurn.Lawful (begin : Session) (turn : StatementTurn) : Prop :=
  turn.Meets
    (fun moment later => later.Grounded past begin ∧
      moment.Lawful source begin.world past later.session.world.agent)
    (fun result later => later.Grounded past begin ∧
      later.session.world.agent = lastShown past begin.world.agent ∧
      (result = .ok true → errors past = []))

end Trail

namespace Game.Grounded

variable {past : List (Exchange Point Game Fault)} {begin : Session} {game : Game}

theorem same {later : Game} (grounded : game.Grounded past begin)
    (world : later.session.world = game.session.world)
    (speed : later.session.speed = game.session.speed) : later.Grounded past begin where
  map := by rw [world]; exact grounded.map
  speed := speed.trans grounded.speed
  inside := by rw [world]; exact grounded.inside
  aimed := by rw [world]; exact grounded.aimed
  stays := by rw [world]; exact grounded.stays

theorem after {exchange : Exchange Point Game Fault}
    (grounded : exchange.before.Grounded past begin) (mild : exchange.Mild) :
    exchange.after.Grounded (past ++ [exchange]) begin where
  map := by rw [mild.world]; exact grounded.map
  speed := mild.speed.trans grounded.speed
  inside := by rw [mild.world]; exact grounded.inside
  aimed := by rw [mild.world]; exact grounded.aimed
  stays := by
    rw [mild.world]
    rintro (dead | ⟨earlier, known, dead⟩)
    · exact grounded.stays (.inl dead)
    · rcases List.mem_append.mp known with known | known
      · exact grounded.stays (.inr ⟨earlier, known, dead⟩)
      · exact (List.mem_singleton.mp known) ▸ dead

theorem placed (grounded : game.Grounded past begin) {place : Position}
    (inside : begin.world.isOutOfBounds place = false) :
    (game.onWorld (·.place place)).Grounded past begin :=
  ⟨⟨grounded.map.grid, grounded.map.size⟩, grounded.speed, inside, rfl, grounded.stays⟩

theorem dead (grounded : game.Grounded past begin) :
    (game.onWorld (·.setDead true)).Grounded past begin :=
  ⟨⟨grounded.map.grid, grounded.map.size⟩, grounded.speed, grounded.inside, grounded.aimed,
    fun _ => rfl⟩

end Game.Grounded

section Same

variable {world other : World} (same : world.SameMap other) (position : Position)

include same

theorem World.SameMap.isOutOfBounds :
    other.isOutOfBounds position = world.isOutOfBounds position := by
  simp [World.isOutOfBounds, same.size]

theorem World.SameMap.cellAt : other.cellAt position = world.cellAt position := by
  simp [World.cellAt, same.grid]

end Same

/-! ## Statements -/

section Statements

variable {source : Text} {past : List (Exchange Point Game Fault)} {begin : Session}
  (square : begin.world.grid.WellFormed begin.world.size)

include square

theorem StatementTurn.walk_lawful {game : Game} (grounded : game.Grounded past begin)
    (shown : game.session.world.agent = lastShown past begin.world.agent)
    (blameless : errors past = []) {direction : Direction} (heads : Heads past source direction)
    (total : Int) (left : Nat) :
    (walk direction total left game).Lawful source past begin := by
  cases left with
  | zero =>
      simp only [walk]
      split
      · exact ⟨grounded, shown, blameless⟩
      · exact ⟨grounded, shown, fun _ => blameless⟩
  | succ left =>
      simp only [walk]
      split
      · exact ⟨grounded, shown, by simp⟩
      next going =>
      have alive : (lastShown past begin.world.agent).dead = false := by
        rw [← shown]
        exact (Bool.or_eq_false_iff.mp (by simpa using going)).2
      have approaches : Approaches source begin.world past direction
          (game.session.world.agent.position.shift direction.delta) :=
        ⟨heads, alive, by rw [shown], blameless⟩
      rw [grounded.map.isOutOfBounds, grounded.map.cellAt]
      generalize game.session.world.agent.position.shift direction.delta = place at approaches ⊢
      have dying {landmark : Landmark} {message : String}
          (ahead : begin.world.landmark? place = some landmark) (blocks : landmark ≠ .goal)
          (line : landmark.line = { text := message, kind := .error }) :
          StatementTurn.Lawful source past begin
            (.pause (.obstructed message) (game.onWorld (·.setDead true))) := by
        refine ⟨grounded.dead, direction, place, landmark, approaches, ahead, blocks, line, ?_⟩
        rw [← shown]
        rfl
      split
      · next outside => exact dying (World.landmark?_outside outside) (by decide) rfl
      next inside =>
      have inside : begin.world.isOutOfBounds place = false := by simpa using inside
      rcases World.cellAt_inside square inside with ⟨tile, found⟩
      have ahead := World.landmark?_inside inside found
      have going (free : tile ≠ .wall ∧ tile ≠ .water) (left : Nat) :
          StatementTurn.Lawful source past begin
            (.pause (.stepped ⟨direction, total, left, place⟩) (game.onWorld (·.place place))) := by
        refine ⟨grounded.placed inside, approaches, ?_, tile, inside, found, free⟩
        have living : game.session.world.agent.dead = false := by rw [shown]; exact alive
        simp [Game.onWorld, World.place, living]
      rw [found]
      cases tile with
      | grass => exact going (by decide) left
      | wall => exact dying ahead (by decide) rfl
      | water => exact dying ahead (by decide) rfl
      | goal => exact going (by decide) left

theorem StatementTurn.begin_lawful {game : Game} (grounded : game.Grounded past begin)
    (shown : game.session.world.agent = lastShown past begin.world.agent)
    (blameless : errors past = []) {statement : Statement}
    (heads : ∀ direction argument, statement = .move direction argument →
      Heads past source direction) :
    (StatementTurn.begin game statement).Lawful source past begin := by
  cases statement with
  | assign name value =>
      simp only [StatementTurn.begin]
      split
      · exact ⟨grounded, shown, fun _ => blameless⟩
      · exact ⟨grounded.same rfl rfl, shown, fun _ => blameless⟩
  | print token quoted => exact ⟨grounded, shown, blameless⟩
  | move direction argument =>
      simp only [StatementTurn.begin]
      split
      · exact ⟨grounded, shown, fun _ => blameless⟩
      · exact walk_lawful square grounded shown blameless (heads direction argument rfl) _ _
  | remark text => exact ⟨grounded, shown, fun _ => blameless⟩

/-- A statement stays lawful with each notice. -/
theorem Moment.next_lawful {exchange : Exchange Point Game Fault} (mild : exchange.Mild)
    {moment : Moment} (told : exchange.signal = .notice moment.notice)
    (grounded : exchange.before.Grounded past begin)
    (lawful : moment.Lawful source begin.world past exchange.agent) :
    (moment.next exchange.reply exchange.after).Lawful source (past ++ [exchange]) begin := by
  have ground := grounded.after mild
  have agent : exchange.after.session.world.agent = exchange.agent := by rw [mild.world]; rfl
  rw [mild.reply]
  cases moment with
  | said text =>
      rcases lawful with ⟨shown, blameless⟩
      exact ⟨ground, mild.onward shown (by simp [told, notice]),
        fun _ => errors_other blameless (by simp [told, notice])⟩
  | stepped walk =>
      rcases lawful with ⟨approaches, shown, tile, goes⟩
      have last : lastShown (past ++ [exchange]) begin.world.agent = exchange.agent :=
        lastShown_redraw _ told
      have blameless : errors (past ++ [exchange]) = [] :=
        errors_other approaches.blameless (by simp [told, notice])
      have goal : exchange.after.session.world.isGoal walk.place =
          .ok (decide (tile = .goal)) := by
        apply World.isGoal_tile
        rw [mild.world, grounded.map.cellAt]
        exact goes.found
      simp only [next, goal]
      cases decide (tile = .goal) with
      | true => exact ⟨ground, by rw [agent, last], blameless⟩
      | false =>
          exact ⟨ground, by rw [agent, last], blameless,
            approaches.heads.later (by simp [told, notice])⟩
  | rested walk =>
      rcases lawful with ⟨shown, blameless, heads⟩
      have shown := mild.onward shown (by simp [told, notice])
      simp only [next]
      split
      · exact ⟨ground, shown, by simp⟩
      · exact StatementTurn.walk_lawful square ground shown
          (errors_other blameless (by simp [told, notice]))
          (heads.later (by simp [told, notice])) _ _
  | obstructed message =>
      rcases lawful with ⟨direction, place, landmark, approaches, ahead, blocks, line, shown⟩
      refine ⟨ground, direction, place, landmark, past, exchange, approaches, ahead, blocks, rfl,
        ?_, ?_⟩
      · rw [told, line]
        rfl
      · rw [agent, shown, lastShown_other _ (by simp [told, notice])]
  | fallen =>
      refine ⟨ground, ?_, by simp⟩
      rw [agent, lastShown_redraw _ told]
  | won =>
      rcases lawful with ⟨shown, blameless⟩
      exact ⟨ground, mild.onward shown (by simp [told, notice]), by simp⟩

end Statements

/-! ## Runs -/

/-- What is known of the agent at a notice of a run, and of the lines to come. -/
def Waypoint.Lawful (source : Text) (start : World) (past : List (Exchange Point Game Fault))
    (agent : Agent) : Waypoint → Prop
  | .begun lines | .between lines => (∀ line ∈ lines, line ∈ SourceLine.ofSource source) ∧
    agent = lastShown past start.agent ∧ errors past = []
  | .highlighted line rest => (∀ other ∈ line :: rest, other ∈ SourceLine.ofSource source) ∧
    agent = lastShown past start.agent ∧ errors past = []
  | .within _ rest moment => (∀ other ∈ rest, other ∈ SourceLine.ofSource source) ∧
    moment.Lawful source start past agent
  | .failed _ | .closing _ | .ended _ => agent = lastShown past start.agent

/-- What is known where a run is paused. -/
def Waypoint.Stands (source : Text) (begin : Session) (past : List (Exchange Point Game Fault))
    (waypoint : Waypoint) (later : Game) : Prop :=
  later.Grounded past begin ∧ waypoint.Lawful source begin.world past later.session.world.agent

/-- What is known where a run is over. -/
def Game.Rests (begin : Session) (past : List (Exchange Point Game Fault)) (later : Game) : Prop :=
  later.Grounded past begin ∧ later.session.world.agent = lastShown past begin.world.agent

def RunTurn.Lawful (source : Text) (past : List (Exchange Point Game Fault)) (begin : Session)
    (turn : RunTurn) : Prop :=
  turn.Meets (Waypoint.Stands source begin past) fun _ => Game.Rests begin past

section Runs

variable {source : Text} {past : List (Exchange Point Game Fault)} {begin : Session}

section Turns

variable {game : Game} (grounded : game.Grounded past begin)
  (shown : game.session.world.agent = lastShown past begin.world.agent)

include grounded shown

theorem RunTurn.close_lawful (result : Except Fault Unit) :
    (close result game).Lawful source past begin :=
  ⟨grounded, shown⟩

theorem RunTurn.dispatch_lawful (blameless : errors past = []) {lines : List SourceLine}
    (known : ∀ line ∈ lines, line ∈ SourceLine.ofSource source) :
    (dispatch lines game).Lawful source past begin := by
  cases lines with
  | nil => exact close_lawful grounded shown _
  | cons line rest =>
      simp only [dispatch]
      split
      · exact close_lawful grounded shown _
      · exact ⟨grounded, known, shown, blameless⟩

theorem RunTurn.settle_lawful (line : SourceLine) {rest : List SourceLine}
    (known : ∀ other ∈ rest, other ∈ SourceLine.ofSource source) {result : Except Fault Bool}
    (blameless : result = .ok true → errors past = []) :
    (settle line rest result game).Lawful source past begin := by
  simp only [settle]
  split
  · split
    · exact close_lawful grounded shown _
    · exact ⟨grounded, known, shown, blameless rfl⟩
  · exact close_lawful grounded shown _
  · exact ⟨grounded.same rfl rfl, shown⟩
  · exact close_lawful grounded shown _

end Turns

theorem RunTurn.ofStatement_lawful {turn : StatementTurn} (lawful : turn.Lawful source past begin)
    (line : SourceLine) {rest : List SourceLine}
    (known : ∀ other ∈ rest, other ∈ SourceLine.ofSource source) :
    (ofStatement line rest turn).Lawful source past begin := by
  apply Turn.Meets.carry (fun _ _ facts => ⟨facts.1, known, facts.2⟩) ?_ lawful
  rintro result later ⟨grounded, shown, blameless⟩
  exact settle_lawful grounded shown line known blameless

/-- A run stays lawful with each notice. -/
theorem Waypoint.next_lawful (square : begin.world.grid.WellFormed begin.world.size)
    {exchange : Exchange Point Game Fault} (mild : exchange.Mild) {waypoint : Waypoint}
    (told : exchange.signal = .notice waypoint.notice)
    (grounded : exchange.before.Grounded past begin)
    (lawful : waypoint.Lawful source begin.world past exchange.agent) :
    (waypoint.next exchange.reply exchange.after).Lawful source (past ++ [exchange]) begin := by
  have ground := grounded.after mild
  cases waypoint with
  | begun lines =>
      rcases lawful with ⟨known, shown, blameless⟩
      rw [mild.reply]
      exact RunTurn.dispatch_lawful ground (mild.onward shown (by simp [told, notice]))
        (errors_other blameless (by simp [told, notice])) known
  | highlighted line rest =>
      rcases lawful with ⟨known, shown, blameless⟩
      rcases List.forall_mem_cons.mp known with ⟨here, known⟩
      have shown := mild.onward shown (by simp [told, notice])
      have blameless : errors (past ++ [exchange]) = [] :=
        errors_other blameless (by simp [told, notice])
      rw [mild.reply]
      simp only [next, RunTurn.carryOut]
      cases parsed : Statement.parse line.text with
      | error error => exact RunTurn.settle_lawful ground shown line known fun _ => blameless
      | ok statement =>
          refine RunTurn.ofStatement_lawful
            (StatementTurn.begin_lawful square ground shown blameless ?_) line known
          rintro direction argument rfl
          exact heads_lit here told parsed
  | within line rest moment =>
      rcases lawful with ⟨known, lawful⟩
      exact RunTurn.ofStatement_lawful (Moment.next_lawful square mild told grounded lawful)
        line known
  | failed error =>
      rw [mild.reply]
      exact RunTurn.close_lawful ground (mild.onward lawful (by simp [told, notice])) _
  | between rest =>
      rcases lawful with ⟨known, shown, blameless⟩
      rw [mild.reply]
      exact RunTurn.dispatch_lawful ground (mild.onward shown (by simp [told, notice]))
        (errors_other blameless (by simp [told, notice])) known
  | closing result =>
      rw [mild.reply]
      exact ⟨ground.same rfl rfl, mild.onward lawful (by simp [told, notice])⟩
  | ended result => exact ⟨ground.same rfl rfl, mild.onward lawful (by simp [told, notice])⟩

end Runs

/-! ## What is still shown -/

theorem RunTurn.close_unshown {result ending : Except Fault Unit} {game final : Game}
    {tail : List (Exchange Point Game Fault)}
    (plays : runMachine.Plays (RunTurn.close result game) tail ending final) :
    redraws tail = [] := by
  cases plays with
  | pause _ _ reply after onward =>
      cases reply with
      | error fault =>
          cases onward
          rfl
      | ok =>
          cases onward with
          | pause _ _ reply after onward =>
              cases onward
              rfl

/-- The goal is told after the step that leads to it, and nothing more is shown. -/
theorem won_unshown {line : SourceLine} {rest : List SourceLine} {walk : Walk} {game : Game}
    (reached : game.session.world.isGoal walk.place = .ok true)
    {tail : List (Exchange Point Game Fault)} {ending : Except Fault Unit} {final : Game}
    (plays : runMachine.Plays (Waypoint.next (.within line rest (.stepped walk)) (.ok ()) game)
      tail ending final) (mild : ∀ exchange ∈ tail, exchange.Mild) :
    ∃ victory others, tail = victory :: others ∧
      victory.signal = .notice (.output Landmark.goal.line) ∧ redraws others = [] := by
  simp only [Waypoint.next, Moment.next, reached] at plays
  cases plays with
  | pause _ _ reply after onward =>
      have answered := (mild _ List.mem_cons_self).reply
      cases answered
      exact ⟨_, _, rfl, rfl, RunTurn.close_unshown onward⟩

/-! ## The trail of a run -/

section Trail

variable {source : Text} {begin : Session} {past rest : List (Exchange Point Game Fault)}
  {here : Exchange Point Game Fault} {ending : Except Fault Unit} {final : Game}

/-- What a redraw shows. -/
theorem Waypoint.Lawful.shows {waypoint : Waypoint} (told : .notice waypoint.notice = here.signal)
    (redraw : here.signal = .notice .redraw) (grounded : here.before.Grounded past begin)
    (lawful : waypoint.Lawful source begin.world past here.agent) (mild : here.Mild)
    (plays : runMachine.Plays (waypoint.next here.reply here.after) rest ending final)
    (others : ∀ exchange ∈ rest, exchange.Mild) :
    (∃ direction place tile, here.Steps source begin.world past rest direction place tile) ∨
    ∃ direction place landmark,
      here.Dies source begin.world past rest direction place landmark := by
  rw [redraw] at told
  cases waypoint with
  | within line lines moment =>
      rw [mild.reply] at plays
      cases moment with
      | stepped walk =>
          rcases lawful with ⟨-, approaches, shown, tile, goes⟩
          refine .inl ⟨walk.direction, walk.place, tile, approaches, goes, shown, ?_⟩
          rintro rfl
          have found : here.after.session.world.cellAt walk.place = .ok (.tile .goal) := by
            rw [mild.world, grounded.map.cellAt]
            exact goes.found
          exact won_unshown (World.isGoal_tile found) plays others
      | fallen =>
          rcases lawful with
            ⟨-, direction, place, landmark, earlier, line, approaches, ahead, blocks, split, told,
              shown⟩
          exact .inr ⟨direction, place, landmark, ⟨earlier, line, split, told, approaches⟩,
            ⟨ahead, blocks⟩, shown, RunTurn.close_unshown plays⟩
      | _ => cases told
  | _ => cases told

theorem lastShown_cases (past : List (Exchange Point Game Fault)) (start : Agent) :
    lastShown past start = start ∨ ∃ earlier ∈ past, lastShown past start = earlier.agent := by
  simp only [lastShown]
  cases last : (redraws past).getLast? with
  | none => exact .inl rfl
  | some agent =>
      right
      rcases List.mem_filterMap.mp (List.mem_of_getLast? last) with ⟨earlier, known, redrawn⟩
      refine ⟨earlier, known, ?_⟩
      simp only [redrawn?] at redrawn
      split at redrawn
      · exact (Option.some.inj redrawn).symm
      · cases redrawn

/-- An agent that was dead at the start is never shown. -/
theorem redraws_of_dead {exchanges : List (Exchange Point Game Fault)}
    (trail : ∀ first here rest, exchanges = first ++ here :: rest →
      here.before.Grounded first begin ∧
      (here.signal = .notice .redraw →
        (∃ direction place tile,
          here.Steps source begin.world first rest direction place tile) ∨
        ∃ direction place landmark,
          here.Dies source begin.world first rest direction place landmark))
    (dead : begin.world.agent.dead = true) : redraws exchanges = [] := by
  -- Whoever was shown before is dead, since the agent was so at the start.
  have ghosts (past : List (Exchange Point Game Fault)) (known : past ⊆ exchanges) :
      (lastShown past begin.world.agent).dead = true := by
    rcases lastShown_cases past begin.world.agent with shown | ⟨earlier, before, shown⟩
    · rw [shown]
      exact dead
    · rcases List.append_of_mem (known before) with ⟨first, rest, split⟩
      rw [shown]
      exact (trail first earlier rest split).1.stays (.inl dead)
  apply List.filterMap_eq_nil_iff.mpr
  intro here seen
  by_contra redrawn
  have redraw : here.signal = .notice .redraw := by
    by_contra other
    simp [redrawn?] at redrawn
  rcases List.append_of_mem seen with ⟨first, rest, split⟩
  rcases (trail first here rest split).2 redraw with
    ⟨_, _, _, steps⟩ | ⟨_, _, _, ⟨⟨earlier, line, early, -, approaches⟩, -, -, -⟩⟩
  · have living := steps.approaches.alive
    rw [ghosts first (by simp [split])] at living
    cases living
  · have living := approaches.alive
    rw [ghosts earlier (by simp [split, early])] at living
    cases living

end Trail

/-- In a run that is at most stopped, on whichever thread, each redraw shows either
a step to the next free cell in the direction of the highlighted movement, or the
death at the obstacle that was told right before; nothing more is shown after a
death or the goal. At every notice and in the end the map, its size and the pace
are those of the start, the agent is within the bounds and aims at its place, and
once it is dead it stays so. A dead agent is never shown at all. -/
theorem walks_legal_path {environment : Environment Point Game Fault} (mild : environment.Mild)
    (source : Text) (runner : Thread) {game : Game}
    (square : game.session.world.grid.WellFormed game.session.world.size)
    (inside : game.session.world.isOutOfBounds game.session.world.agent.position = false)
    (aimed : game.session.world.agent.target = game.session.world.agent.position) :
    let start := game.session.world
    let ending := (Scheduler.execute (SourceLine.ofSource source) (game.claimed runner)).under
      environment []
    (∀ first here rest, ending.exchanges = first ++ here :: rest →
      here.before.Grounded first game.session ∧
      (here.signal = .notice .redraw →
        (∃ direction place tile, here.Steps source start first rest direction place tile) ∨
        ∃ direction place landmark,
          here.Dies source start first rest direction place landmark)) ∧
    ending.final.Grounded ending.exchanges game.session ∧
    ending.final.session.world.agent = lastShown ending.exchanges start.agent ∧
    (start.agent.dead = true → redraws ending.exchanges = []) := by
  intro start ending
  have plays := (run_follows (SourceLine.ofSource source) (game.claimed runner)).plays
    environment []
  have given := (environment.gave_under
    (Scheduler.execute (SourceLine.ofSource source) (game.claimed runner)) []).all mild
  have grounded : ((game.claimed runner).begun (SourceLine.ofSource source)).Grounded []
      game.session :=
    ⟨⟨rfl, rfl⟩, rfl, inside, aimed, fun dead => dead.resolve_right (by simp)⟩
  have begins : RunTurn.Lawful source [] game.session
      (.pause (.begun (SourceLine.ofSource source))
        ((game.claimed runner).begun (SourceLine.ofSource source))) :=
    ⟨grounded, fun _ => id, rfl, rfl⟩
  rcases plays.recall (Waypoint.Stands source game.session)
      (fun past _ => Game.Rests game.session past)
      (fun past waypoint exchange stands mild told =>
        Waypoint.next_lawful square mild told.symm stands.1 stands.2) begins given with
    ⟨⟨last, shown⟩, within⟩
  have trail : ∀ first here rest, ending.exchanges = first ++ here :: rest →
      here.before.Grounded first game.session ∧
      (here.signal = .notice .redraw →
        (∃ direction place tile, here.Steps source start first rest direction place tile) ∨
        ∃ direction place landmark,
          here.Dies source start first rest direction place landmark) := by
    intro first here rest split
    rcases within first here rest split with ⟨waypoint, told, ⟨grounded, lawful⟩, onward⟩
    have others : ∀ exchange ∈ here :: rest, exchange.Mild := by
      intro exchange later
      exact given exchange (split ▸ List.mem_append_right _ later)
    rcases List.forall_mem_cons.mp others with ⟨mild, others⟩
    exact ⟨grounded, fun redraw => lawful.shows told redraw grounded mild onward others⟩
  exact ⟨trail, last, shown, redraws_of_dead trail⟩

/-- An agent that walks off the map dies at its edge, also when the run is asked to
stop as this is told. -/
theorem walks_legal_path_to_edge :
    let environment := Environment.silent.calling 4 Scheduler.stop
    let start := (Game.onGrass 2).session.world
    let ending := (Scheduler.execute (SourceLine.ofSource "move_right(5)")
      ((Game.onGrass 2).claimed .controller)).under environment []
    environment.Mild ∧ start.grid.WellFormed start.size ∧
      start.isOutOfBounds start.agent.position = false ∧
      redraws ending.exchanges = [⟨⟨1, 0⟩, ⟨1, 0⟩, false⟩, ⟨⟨1, 0⟩, ⟨1, 0⟩, true⟩] ∧
      ∃ first here rest direction place landmark, ending.exchanges = first ++ here :: rest ∧
        here.Dies "move_right(5)" start first rest direction place landmark := by
  intro environment start ending
  have mild : environment.Mild := .stopping Environment.silent_quiet 4
  have square : start.grid.WellFormed start.size := Grid.empty_square 2
  have inside : start.isOutOfBounds start.agent.position = false := by decide
  refine ⟨mild, square, inside, by decide +kernel, ?_⟩
  rcases Option.isSome_iff_exists.mp
    (by decide +kernel : (ending.exchanges[5]?).isSome = true) with ⟨here, found⟩
  have redraw : here.signal = .notice .redraw := Option.some.inj <|
    (congrArg (Option.map Exchange.signal) found).symm.trans (by decide +kernel)
  have dead : here.agent.dead = true := Option.some.inj <|
    (congrArg (Option.map fun exchange : Exchange Point Game Fault => exchange.agent.dead)
      found).symm.trans (by decide +kernel)
  rcases List.append_of_mem (List.mem_of_getElem? found) with ⟨first, rest, split⟩
  rcases walks_legal_path mild "move_right(5)" .controller square inside rfl with ⟨trail, -⟩
  rcases (trail _ _ _ split).2 redraw with ⟨_, _, _, steps⟩ | ⟨direction, place, landmark, dies⟩
  · rw [steps.shown] at dead
    cases dead
  · exact ⟨_, _, _, direction, place, landmark, split, dies⟩

end TileWalk
