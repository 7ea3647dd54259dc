import TileWalk.Proofs.Run.Trail

/-!
# How far a movement goes

The loop of a movement may be asked for any number of steps, but every step that is made leaves
fewer cells up to the edge of the map. So the number of cells ahead bounds how often the loop is
entered and all that is seen of it, whatever the observers answer.
-/

namespace TileWalk

open Process Course Exchange

/-! ## Observers that leave the world alone -/

/-- Nobody who is told changes the world. -/
def Environment.Still (environment : Environment Point Game Fault) : Prop :=
  ∀ past point game,
    (environment.exchange past point game).after.session.world = game.session.world

theorem Environment.Mild.still {environment : Environment Point Game Fault}
    (mild : environment.Mild) : environment.Still :=
  fun past point game => (mild past point game).world

/-- The activity ends in this way, whatever happened before it. -/
def Activity.Ends {α : Type} (environment : Environment Point Game Fault)
    (post : Ending Point Game Fault α → Prop) (activity : Activity Point Game Fault α) : Prop :=
  ∀ past, post (activity.under environment past)

namespace Activity.Ends

variable {α β : Type} {environment : Environment Point Game Fault}
  {post : Ending Point Game Fault α → Prop} {last : Ending Point Game Fault β → Prop}

theorem done {result : Except Fault α} {game : Game} (ends : post ⟨[], result, game⟩) :
    (Activity.done result game).Ends environment post :=
  fun _ => ends

theorem notify (still : environment.Still) {notice : Notice} {game : Game}
    {resume : Except Fault Unit → Game → Activity Point Game Fault α}
    (onward : ∀ reply later, later.session.world = game.session.world →
      (resume reply later).Ends environment fun ending =>
        post { ending with exchanges := ⟨.notice notice, game, reply, later⟩ :: ending.exchanges }) :
    (Activity.paused (.notice notice) game resume).Ends environment post :=
  fun past => onward _ _ (still past _ game) _

theorem andThen {activity : Activity Point Game Fault α}
    {next : Except Fault α → Game → Activity Point Game Fault β}
    (first : activity.Ends environment fun one =>
      (next one.result one.final).Ends environment fun two =>
        last { two with exchanges := one.exchanges ++ two.exchanges }) :
    (activity.andThen next).Ends environment last := by
  intro past
  rw [under_andThen]
  exact first past _

theorem imp {weaker : Ending Point Game Fault α → Prop} {activity : Activity Point Game Fault α}
    (ends : activity.Ends environment post) (weaken : ∀ ending, post ending → weaker ending) :
    activity.Ends environment weaker :=
  fun past => weaken _ (ends past)

end Activity.Ends

/-! ## The body of the loop -/

/-- Processes that are put together in another order are the same. The monad laws are no instance,
so that `simp` leaves processes as they are written. -/
theorem Process.lawful {ι σ ε : Type} : LawfulMonad (Process ι σ ε) := by
  refine LawfulMonad.mk' _ ?_ (fun _ _ => rfl) ?_
  · intro α process
    funext state
    refine Eq.trans ?_ (Activity.andThen_finished (process state))
    change Activity.andThen _ _ = _
    congr 1
    funext result state
    cases result <;> rfl
  · intro α β γ process next last
    funext state
    simp only [bind_apply, Activity.andThen_assoc]
    congr 1
    funext result state
    cases result <;> rfl

namespace Interpreter

/-- One step of a movement. The answer is whether the loop goes on. -/
def substep (direction : Direction) : Course Bool := do
  let game ← state
  let world := game.session.world
  if game.session.stopRequested || world.agent.dead then return false
  let next := world.agent.position.shift direction.delta
  if world.isOutOfBounds next then
    die Obstacle.outOfBounds
    return false
  let cell ← ofGrid (world.cellAt next)
  if cell.isBlocking then
    die (Obstacle.ofCell cell)
    return false
  update (Game.onWorld (·.place next))
  notify .redraw
  if ← ofGrid ((← state).session.world.isGoal next) then
    notify (.output { text := Obstacle.victory, kind := .success })
    return false
  tick

/-- The loop of a movement repeats the step. -/
theorem walk_succ (direction : Direction) (steps : Nat) :
    walk direction (steps + 1) = do
      if ← substep direction then walk direction steps else return false := by
  have lawful : LawfulMonad Course := Process.lawful
  simp only [walk, substep, bind_assoc]
  apply bind_congr
  intro game
  split
  · simp
  split
  · simp
  rw [bind_assoc]
  apply bind_congr
  intro cell
  split
  · simp
  simp only [bind_assoc]
  iterate 4
    apply bind_congr
    intro _
  split
  · simp
  · rfl

/-- What a step comes to: the agent stays and the loop is over, or it is one cell ahead. -/
structure Substep (direction : Direction) (game : Game)
    (ending : Ending Point Game Fault Bool) : Prop where
  size : ending.final.session.world.size = game.session.world.size
  redraws : (redraws ending.exchanges).length ≤ 1
  plain : ∀ line ∈ outputs ending.exchanges, line.kind ≠ .info
  moves :
    (ending.final.session.world.agent.position = game.session.world.agent.position ∧
      ending.result ≠ .ok true ∧ waits ending.exchanges = 0) ∨
    (game.session.world.isOutOfBounds
        (game.session.world.agent.position.shift direction.delta) = false ∧
      ending.final.session.world.agent.position =
        game.session.world.agent.position.shift direction.delta ∧
      waits ending.exchanges ≤ 1)

section Steps

variable {environment : Environment Point Game Fault} (still : environment.Still)

include still

attribute [local simp] redraws_cons redrawn? outputs_cons output? waits_cons isWait Game.onWorld
  World.setDead World.place

theorem die_ends (direction : Direction) (message : String) (game : Game) :
    ((die message >>= fun _ => return false) game).Ends environment (Substep direction game) := by
  refine .notify still ?_
  intro reply later same
  cases reply with
  | error fault =>
      refine .done ⟨?_, ?_, ?_, .inl ⟨?_, ?_, ?_⟩⟩ <;> simp [same]
  | ok =>
      refine .notify still ?_
      intro reply last again
      cases reply <;>
        refine .done ⟨?_, ?_, ?_, .inl ⟨?_, ?_, ?_⟩⟩ <;> simp [again, same]

/-- After the agent has been put on the next cell, this is shown, and the loop waits or is over. -/
theorem advance_ends {direction : Direction} {game : Game} {next : Position}
    (ahead : next = game.session.world.agent.position.shift direction.delta)
    (inside : game.session.world.isOutOfBounds next = false) :
    ((do
      notify .redraw
      if ← ofGrid ((← state).session.world.isGoal next) then
        notify (.output { text := Obstacle.victory, kind := .success })
        return false
      tick : Course Bool) (game.onWorld (·.place next))).Ends environment
        (Substep direction game) := by
  subst ahead
  refine .notify still ?_
  intro reply later same
  cases reply with
  | error fault =>
      refine .done ⟨?_, ?_, ?_, .inr ⟨inside, ?_, ?_⟩⟩ <;> simp [same]
  | ok =>
      simp only [Activity.andThen_done, bind_apply, state_apply]
      cases later.session.world.isGoal (game.session.world.agent.position.shift direction.delta) with
      | error error =>
          refine .done ⟨?_, ?_, ?_, .inr ⟨inside, ?_, ?_⟩⟩ <;> simp [same]
      | ok reached =>
          -- Victory is told on the goal, and elsewhere the step ends with a wait.
          cases reached <;>
            refine .notify still ?_ <;>
            intro reply last again <;>
            cases reply <;>
            refine .done ⟨?_, ?_, ?_, .inr ⟨inside, ?_, ?_⟩⟩ <;> simp [again, same]

theorem substep_ends (direction : Direction) (game : Game) :
    (substep direction game).Ends environment (Substep direction game) := by
  have stays {result : Except Fault Bool} (stopped : result ≠ .ok true) :
      Substep direction game ⟨[], result, game⟩ :=
    ⟨rfl, by simp, by simp, .inl ⟨rfl, stopped, rfl⟩⟩
  simp only [substep, bind_apply, state_apply, Activity.andThen_done]
  split
  · exact .done (stays (by simp))
  split
  · exact die_ends still direction _ game
  next inside =>
  cases game.session.world.cellAt (game.session.world.agent.position.shift direction.delta) with
  | error error => exact .done (stays (by simp))
  | ok cell =>
      have lawful : LawfulMonad Course := Process.lawful
      rw [show (ofGrid (.ok cell) : Course Cell) = pure cell from rfl, pure_bind]
      split
      · exact die_ends still direction _ game
      · exact advance_ends still rfl (by simpa using inside)

end Steps

/-! ## The laps of a movement -/

/-- An entry of the loop. -/
structure Lap where
  start : Game
  ending : Ending Point Game Fault Bool

/-- The agent is put on another cell in this lap. -/
def Lap.Commits (lap : Lap) : Prop :=
  lap.ending.final.session.world.agent.position ≠ lap.start.session.world.agent.position

instance (lap : Lap) : Decidable lap.Commits := by
  unfold Lap.Commits
  infer_instance

/-- All laps of a movement that is asked for so many steps. -/
def laps (environment : Environment Point Game Fault) (direction : Direction) :
    Nat → Game → List (Exchange Point Game Fault) → List Lap
  | 0, _, _ => []
  | steps + 1, game, past =>
    let ending := (substep direction game).under environment past
    ⟨game, ending⟩ ::
      match ending.result with
      | .ok true => laps environment direction steps ending.final (past ++ ending.exchanges)
      | _ => []

end Interpreter

/-- How many cells there are up to the edge of a map of this size. -/
def Position.room (position : Position) (size : Nat) : Direction → Nat
  | .right => (size - 1 - position.x).toNat
  | .left => position.x.toNat
  | .up => position.y.toNat
  | .down => (size - 1 - position.y).toNat

/-- The agent stands on a map of this size. -/
structure Game.Within (game : Game) (size : Nat) : Prop where
  size : game.session.world.size = size
  inside : game.session.world.isOutOfBounds game.session.world.agent.position = false

def Game.room (game : Game) (direction : Direction) : Nat :=
  game.session.world.agent.position.room game.session.world.size direction

theorem World.inside_iff {world : World} {position : Position} :
    world.isOutOfBounds position = false ↔
      (0 ≤ position.x ∧ position.x < world.size) ∧ 0 ≤ position.y ∧ position.y < world.size := by
  simp [isOutOfBounds, and_assoc]

theorem Game.Within.room_lt {game : Game} {size : Nat} (within : game.Within size)
    (direction : Direction) : game.room direction < size := by
  rcases within with ⟨rfl, inside⟩
  rw [World.inside_iff] at inside
  cases direction <;> simp only [Game.room, Position.room] <;> omega

/-- A step leaves one cell less. -/
theorem Position.room_shift {position : Position} {world : World} {direction : Direction}
    (ahead : world.isOutOfBounds (position.shift direction.delta) = false) :
    (position.shift direction.delta).room world.size direction + 1 =
      position.room world.size direction := by
  rw [World.inside_iff] at ahead
  cases direction <;>
    simp only [room, shift, offset, Direction.delta] at ahead ⊢ <;> omega

namespace Interpreter

/-- A walk is seen in its laps, and the cells ahead bound what is seen of it. -/
structure Bounds (size steps room : Nat) (laps : List Lap)
    (ending : Ending Point Game Fault Bool) : Prop where
  whole : ending.exchanges = laps.flatMap (·.ending.exchanges)
  entered : laps.length ≤ min steps (room + 1)
  commits : laps.countP (·.Commits) ≤ room
  redraws : (redraws ending.exchanges).length ≤ room + 1
  waits : waits ending.exchanges ≤ room
  plain : ∀ line ∈ outputs ending.exchanges, line.kind ≠ .info
  within : ending.final.Within size
  completed : ending.result = .ok true → steps ≤ room

section Laps

variable {direction : Direction} {game : Game} {size steps : Nat}
  {ending : Ending Point Game Fault Bool}

theorem Substep.within (substep : Substep direction game ending) (within : game.Within size) :
    ending.final.Within size := by
  have same := substep.size
  refine ⟨same.trans within.size, ?_⟩
  rcases substep.moves with ⟨stays, -⟩ | ⟨ahead, moved, -⟩
  · simpa only [stays, World.isOutOfBounds, same] using within.inside
  · simpa only [moved, World.isOutOfBounds, same] using ahead

/-- A step that was made leaves one cell less. -/
theorem Substep.room_succ (substep : Substep direction game ending)
    (ahead : game.session.world.isOutOfBounds
      (game.session.world.agent.position.shift direction.delta) = false)
    (moved : ending.final.session.world.agent.position =
      game.session.world.agent.position.shift direction.delta) :
    ending.final.room direction + 1 = game.room direction := by
  rw [Game.room, Game.room, moved, substep.size]
  exact Position.room_shift ahead

/-- A step that ends the loop. -/
theorem Bounds.last (substep : Substep direction game ending) (within : game.Within size)
    (stopped : ending.result ≠ .ok true) :
    Bounds size (steps + 1) (game.room direction) [⟨game, ending⟩] ending := by
  have shown := substep.redraws
  rcases substep.moves with ⟨stays, -, still⟩ | ⟨ahead, moved, waited⟩
  · have none : [Lap.mk game ending].countP (·.Commits) = 0 := by simp [Lap.Commits, stays]
    exact ⟨by simp, by simp, by omega, by omega, by omega, substep.plain, substep.within within,
      fun on => absurd on stopped⟩
  · have less := substep.room_succ ahead moved
    have most : [Lap.mk game ending].countP (·.Commits) ≤ 1 := List.countP_le_length
    exact ⟨by simp, by simp, by omega, by omega, by omega, substep.plain, substep.within within,
      fun on => absurd on stopped⟩

/-- A step after which the loop goes on. -/
theorem Bounds.cons (substep : Substep direction game ending) (on : ending.result = .ok true)
    {laps : List Lap} {rest : Ending Point Game Fault Bool}
    (bounds : Bounds size steps (ending.final.room direction) laps rest) :
    Bounds size (steps + 1) (game.room direction) (⟨game, ending⟩ :: laps)
      { rest with exchanges := ending.exchanges ++ rest.exchanges } := by
  have shown := substep.redraws
  rcases substep.moves with ⟨-, stopped, -⟩ | ⟨ahead, moved, waited⟩
  · exact absurd on stopped
  · have less := substep.room_succ ahead moved
    have entered := bounds.entered
    have redraws := bounds.redraws
    have waits := bounds.waits
    have commits := bounds.commits
    constructor
    · simp [bounds.whole]
    · simp only [List.length_cons]
      omega
    · rw [List.countP_cons]
      split <;> omega
    · rw [redraws_append, List.length_append]
      omega
    · rw [waits_append]
      omega
    · rw [outputs_append]
      exact List.forall_mem_append.mpr ⟨substep.plain, bounds.plain⟩
    · exact bounds.within
    · intro ends
      have := bounds.completed ends
      omega

theorem walk_bounds {environment : Environment Point Game Fault} (still : environment.Still)
    (direction : Direction) (steps : Nat) (within : game.Within size)
    (past : List (Exchange Point Game Fault)) :
    Bounds size steps (game.room direction) (laps environment direction steps game past)
      ((walk direction steps game).under environment past) := by
  induction steps generalizing game past with
  | zero =>
      exact ⟨rfl, by simp [laps], by simp [laps], by simp [walk], by simp [walk], by simp [walk],
        within, fun _ => Nat.zero_le _⟩
  | succ steps ih =>
      have made := substep_ends still direction game past
      rw [walk_succ, bind_apply, Activity.under_andThen]
      simp only [laps]
      generalize (substep direction game).under environment past = ending at made ⊢
      rcases ending with ⟨exchanges, result, final⟩
      cases result with
      | error fault => simpa using Bounds.last made within (by simp)
      | ok on =>
          cases on with
          | false => simpa using Bounds.last made within (by simp)
          | true => exact .cons made rfl (ih (made.within within) _)

/-- What is put out when all steps of a movement are made. -/
def completed (steps : Int) : OutputLine :=
  { text := s!"Completed {steps} step movement.", kind := .info }

/-- When all steps are made, at most this is said. -/
theorem completion_ends {environment : Environment Point Game Fault} (still : environment.Still)
    (steps : Int) (game : Game) :
    ((do
      if steps > 1 then
        notify (.output (completed steps))
      return true : Course Bool) game).Ends environment fun ending =>
        ending.final.session.world = game.session.world ∧
          ∀ exchange ∈ ending.exchanges, exchange.signal = .notice (.output (completed steps)) := by
  split
  · refine .notify still ?_
    intro reply later same
    cases reply <;> exact .done ⟨same, by simp⟩
  · exact .done ⟨rfl, by simp⟩

/-- A movement is a walk, and when this is over, it may say that it is complete. -/
theorem move_under {environment : Environment Point Game Fault} (still : environment.Still)
    {argument : Option Text} {steps : Int}
    (resolved : resolveSteps game.session.bindings argument = .ok steps)
    (past : List (Exchange Point Game Fault)) :
    let walked := (walk direction steps.toNat game).under environment past
    let ending := (execute (.move direction argument) game).under environment past
    ending.final.session.world = walked.final.session.world ∧
      ∃ told, ending.exchanges = walked.exchanges ++ told ∧
        (∀ exchange ∈ told, exchange.signal = .notice (.output (completed steps))) ∧
        (told ≠ [] → walked.result = .ok true) := by
  simp only [execute, move, bind_apply, state_apply, Activity.andThen_done, resolved]
  rw [Activity.under_andThen]
  generalize (walk direction steps.toNat game).under environment past = walked
  rcases walked with ⟨exchanges, result, final⟩
  cases result with
  | error fault => exact ⟨rfl, [], rfl, by simp, by simp⟩
  | ok on =>
      cases on with
      | false => exact ⟨rfl, [], rfl, by simp, by simp⟩
      | true =>
          rcases completion_ends still steps final (past ++ exchanges) with ⟨same, told⟩
          exact ⟨same, _, rfl, told, fun _ => rfl⟩

/-- All that a movement comes to is bounded by the size of the map. -/
theorem move_bounds {environment : Environment Point Game Fault} (still : environment.Still)
    {argument : Option Text} {steps : Int}
    (resolved : resolveSteps game.session.bindings argument = .ok steps)
    (within : game.Within size) (past : List (Exchange Point Game Fault)) :
    let entries := laps environment direction steps.toNat game past
    let ending := (execute (.move direction argument) game).under environment past
    (∃ told, ending.exchanges = entries.flatMap (·.ending.exchanges) ++ told ∧
      ∀ exchange ∈ told, exchange.signal = .notice (.output (completed steps))) ∧
      entries.length ≤ min steps.toNat size ∧ entries.countP (·.Commits) ≤ size - 1 ∧
      (redraws ending.exchanges).length ≤ size ∧ waits ending.exchanges ≤ size - 1 ∧
      (completed steps ∈ outputs ending.exchanges → steps ≤ size - 1) ∧
      ending.final.Within size := by
  intro entries ending
  have bounds := walk_bounds still direction steps.toNat within past
  have few := within.room_lt direction
  have entered : entries.length ≤ min steps.toNat (game.room direction + 1) := bounds.entered
  have commits : entries.countP (·.Commits) ≤ game.room direction := bounds.commits
  have shown := bounds.redraws
  have waited := bounds.waits
  rcases move_under still resolved past with ⟨same, told, split, only, whole⟩
  have blank : redraws told = [] ∧ waits told = 0 := by
    constructor
    · apply List.filterMap_eq_nil_iff.mpr
      intro exchange known
      simp [redrawn?, only exchange known]
    · apply List.countP_eq_zero.mpr
      intro exchange known
      simp [isWait, only exchange known]
  refine ⟨⟨told, split.trans (by rw [bounds.whole]), only⟩, by omega, by omega, ?_, ?_, ?_, ?_⟩
  · rw [show ending.exchanges = _ from split, redraws_append, blank.1, List.append_nil]
    omega
  · rw [show ending.exchanges = _ from split, waits_append, blank.2]
    omega
  · intro complete
    rw [show ending.exchanges = _ from split, outputs_append, List.mem_append] at complete
    rcases complete with early | late
    · exact absurd rfl (bounds.plain _ early)
    · have more : told ≠ [] := by
        rintro rfl
        simp at late
      have made := bounds.completed (whole more)
      omega
  · refine ⟨(congrArg World.size same).trans bounds.within.size, ?_⟩
    rw [show ending.final.session.world = _ from same]
    exact bounds.within.inside

end Laps

end Interpreter

/-! ## The waits of a run -/

/-- The activity waits at most so often and leaves the agent on a map of this size. -/
def Activity.Spends {α : Type} (environment : Environment Point Game Fault) (size bound : Nat)
    (activity : Activity Point Game Fault α) : Prop :=
  activity.Ends environment fun ending =>
    waits ending.exchanges ≤ bound ∧ ending.final.Within size

theorem Game.Within.later {game later : Game} {size : Nat} (within : game.Within size)
    (same : later.session.world = game.session.world) : later.Within size :=
  ⟨(congrArg World.size same).trans within.size, by rw [same]; exact within.inside⟩

namespace Activity.Spends

variable {α β : Type} {environment : Environment Point Game Fault} {size bound : Nat}
  {game : Game}

theorem done {result : Except Fault α} (within : game.Within size) :
    (Activity.done result game).Spends environment size bound :=
  Activity.Ends.done ⟨Nat.zero_le _, within⟩

/-- Only a wait counts. -/
theorem notify (still : environment.Still) (within : game.Within size) {notice : Notice}
    (plain : notice ≠ .wait) {resume : Except Fault Unit → Game → Activity Point Game Fault α}
    (onward : ∀ reply later, later.Within size →
      (resume reply later).Spends environment size bound) :
    (Activity.paused (.notice notice) game resume).Spends environment size bound := by
  refine Activity.Ends.notify still ?_
  intro reply later same
  refine (onward reply later (within.later same)).imp ?_
  rintro ending ⟨few, inside⟩
  exact ⟨by simpa [waits_cons, isWait, plain] using few, inside⟩

theorem wait (still : environment.Still) (within : game.Within size)
    {resume : Except Fault Unit → Game → Activity Point Game Fault α}
    (onward : ∀ reply later, later.Within size →
      (resume reply later).Spends environment size bound) :
    (Activity.paused (.notice .wait) game resume).Spends environment size (bound + 1) := by
  refine Activity.Ends.notify still ?_
  intro reply later same
  refine (onward reply later (within.later same)).imp ?_
  rintro ending ⟨few, inside⟩
  refine ⟨?_, inside⟩
  simp only [waits_cons, isWait, decide_true, Bool.toNat_true]
  omega

theorem andThen {activity : Activity Point Game Fault α}
    {next : Except Fault α → Game → Activity Point Game Fault β}
    (first : activity.Spends environment size bound) (more : Nat)
    (onward : ∀ result later, later.Within size →
      (next result later).Spends environment size more) :
    (activity.andThen next).Spends environment size (bound + more) := by
  apply Activity.Ends.andThen
  refine first.imp ?_
  rintro one ⟨few, inside⟩
  refine (onward one.result one.final inside).imp ?_
  rintro two ⟨others, last⟩
  exact ⟨by rw [waits_append]; omega, last⟩

theorem mono {more : Nat} {activity : Activity Point Game Fault α}
    (spends : activity.Spends environment size bound) (less : bound ≤ more) :
    activity.Spends environment size more :=
  spends.imp fun _ both => ⟨both.1.trans less, both.2⟩

end Activity.Spends

section Runs

variable {environment : Environment Point Game Fault} (still : environment.Still) {size : Nat}
  {game : Game} (within : game.Within size)

include still within

theorem Interpreter.execute_spends (statement : Statement) :
    (execute statement game).Spends environment size (size - 1) := by
  cases statement with
  | assign name value =>
      simp only [execute, bind_apply, state_apply, Activity.andThen_done]
      cases valueOf game.session.bindings name value with
      | error fault => exact .done within
      | ok number => exact .done (within.later rfl)
  | print token quoted =>
      refine .notify still within (by simp) ?_
      intro reply later inside
      cases reply <;> exact .done inside
  | move direction argument =>
      cases resolved : resolveSteps game.session.bindings argument with
      | error cause =>
          simp only [execute, move, bind_apply, state_apply, Activity.andThen_done, resolved]
          exact .done within
      | ok steps =>
          intro past
          rcases move_bounds still resolved within past with ⟨-, -, -, -, waited, -, inside⟩
          exact ⟨waited, inside⟩
  | remark text => exact .done within

theorem executeLine_spends (line : SourceLine) :
    (Scheduler.executeLine line game).Spends environment size (size - 1) := by
  simp only [Scheduler.executeLine]
  cases Statement.parse line.text with
  | error error => exact .done within
  | ok statement => exact Interpreter.execute_spends still within statement

/-- The close of a run takes no wait. -/
theorem close_spends (result : Except Fault Unit) :
    (Scheduler.close result game).Spends environment size 0 := by
  refine .notify still within (by simp) ?_
  intro reply later inside
  cases reply with
  | error fault => exact .done inside
  | ok =>
      simp only [Activity.andThen_done, bind_apply, update_apply, log_apply, outcome_apply,
        notify_apply, Activity.andThen_paused]
      refine .notify still ?_ (by simp) ?_
      · exact inside.later rfl
      · intro reply last inside
        have closed : ({ last with idle := true } : Game).Within size := inside.later rfl
        cases reply <;> cases result <;> exact .done closed

/-- A tick before what is left of a program. -/
theorem tick_spends {bound : Nat} {rest : Course Unit}
    (onward : ∀ later : Game, later.Within size → (rest later).Spends environment size bound) :
    ((Interpreter.tick >>= fun free => if free then rest else pure ()) game).Spends environment size
      (bound + 1) := by
  refine .wait still within ?_
  intro reply later inside
  cases reply with
  | error fault => exact .done inside
  | ok =>
      cases stop : later.session.stopRequested with
      | true => simpa [stop] using Activity.Spends.done inside
      | false => simpa [stop] using onward later inside

omit within in
/-- Each line waits at most as often as there are cells ahead, and once more before the next. -/
theorem dispatch_spends (lines : List SourceLine) (within : game.Within size) :
    (Scheduler.dispatch lines game).Spends environment size
      (lines.length * (size - 1) + (lines.length - 1)) := by
  induction lines generalizing game with
  | nil => exact .done within
  | cons line rest ih =>
      simp only [Scheduler.dispatch, bind_apply, state_apply, Activity.andThen_done]
      split
      · exact .done within
      refine .notify still within (by simp) ?_
      intro reply lit inside
      cases reply with
      | error fault => exact .done inside
      | ok =>
          simp only [Activity.andThen_done, bind_apply, outcome_apply, Activity.andThen_assoc]
          refine ((executeLine_spends still inside line).andThen
            (rest.length * (size - 1) + rest.length) ?_).mono ?_
          · intro result later inside
            cases result with
            | ok on =>
                cases on with
                | false => exact .done inside
                | true =>
                    cases rest with
                    | nil => exact .done inside
                    | cons next rest => exact tick_spends still inside fun _ => ih
            | error fault =>
                cases fault with
                | statement error =>
                    refine .notify still ?_ (by simp) ?_
                    · exact inside.later rfl
                    · intro reply told inside
                      cases reply <;> exact .done inside
                | _ => exact .done inside
          · simp only [List.length_cons, Nat.add_one_mul]
            omega

omit within in
theorem execute_spends (lines : List SourceLine) (within : game.Within size) :
    (Scheduler.execute lines game).Spends environment size
      (lines.length * (size - 1) + (lines.length - 1)) := by
  have begun : (game.begun lines).Within size := within.later rfl
  refine .notify still begun (by simp) ?_
  intro reply later inside
  cases reply with
  | error fault => exact (close_spends still inside _).mono (Nat.zero_le _)
  | ok =>
      simp only [Activity.andThen_done]
      rw [Activity.andThen_assoc]
      refine ((dispatch_spends still lines inside).andThen 0 ?_).mono (by simp)
      intro result last inside
      exact close_spends still inside result

end Runs

/-- Nobody who is told changes the world, and the agent is on the map. Then a movement enters its
loop at most as often as it is asked to, and at most as often as the map has columns. It puts the
agent on fewer cells than these, waits less often, shows the map at most so often, and says that it
is complete only if it was asked for fewer steps. A run waits at most as often as its movements
do, and once between two statements. -/
theorem movement_bounded {environment : Environment Point Game Fault}
    (still : environment.Still) {game : Game}
    (inside : game.session.world.isOutOfBounds game.session.world.agent.position = false) :
    let size := game.session.world.size
    (∀ direction argument steps past,
      Interpreter.resolveSteps game.session.bindings argument = .ok steps →
      let laps := Interpreter.laps environment direction steps.toNat game past
      let ending := (Interpreter.execute (.move direction argument) game).under environment past
      (∃ told, ending.exchanges = laps.flatMap (·.ending.exchanges) ++ told ∧
        ∀ exchange ∈ told, exchange.signal = .notice (.output (Interpreter.completed steps))) ∧
      laps.length ≤ min steps.toNat size ∧ laps.countP (·.Commits) ≤ size - 1 ∧
      (redraws ending.exchanges).length ≤ size ∧ waits ending.exchanges ≤ size - 1 ∧
      (Interpreter.completed steps ∈ outputs ending.exchanges → steps ≤ size - 1)) ∧
    ∀ source runner,
      let lines := SourceLine.ofSource source
      let ending := (Scheduler.execute lines (game.claimed runner)).under environment []
      waits ending.exchanges ≤ lines.length * (size - 1) + (lines.length - 1) := by
  intro size
  have within : game.Within size := ⟨rfl, inside⟩
  constructor
  · intro direction argument steps past resolved laps ending
    rcases Interpreter.move_bounds still resolved within past with
      ⟨whole, entered, commits, shown, waited, complete, -⟩
    exact ⟨whole, entered, commits, shown, waited, complete⟩
  · intro source runner lines ending
    have claimed : (game.claimed runner).Within size := within.later rfl
    exact (execute_spends still lines claimed []).1

/-- On four columns, a movement for a thousand steps makes three of them and waits three times. -/
theorem movement_bounded_edge :
    let game := Game.onGrass 4
    let ending := (Interpreter.execute (.move .right (some "1000")) game).under .silent []
    let laps := Interpreter.laps .silent .right 1000 game []
    Environment.silent.Still ∧
      game.session.world.isOutOfBounds game.session.world.agent.position = false ∧
      Interpreter.resolveSteps game.session.bindings (some "1000") = .ok 1000 ∧
      laps.length = 4 ∧ laps.countP (·.Commits) = 3 ∧ laps.length ≤ min 1000 4 ∧
      (redraws ending.exchanges).length = 4 ∧ waits ending.exchanges = 3 ∧
      waits ending.exchanges ≤ 3 ∧ Interpreter.completed 1000 ∉ outputs ending.exchanges := by
  intro game ending laps
  have still : Environment.silent.Still := fun _ _ _ => rfl
  have inside : game.session.world.isOutOfBounds game.session.world.agent.position = false := by
    decide
  have resolved : Interpreter.resolveSteps game.session.bindings (some "1000") = .ok 1000 := by
    rfl
  rcases (movement_bounded still inside).1 .right (some "1000") 1000 [] resolved with
    ⟨-, entered, -, -, waited, complete⟩
  refine ⟨still, inside, resolved, by decide +kernel, by decide +kernel, entered,
    by decide +kernel, by decide +kernel, waited, ?_⟩
  intro known
  exact absurd (complete known) (by decide)

end TileWalk
