import Mathlib.Tactic.Ring
import TileWalk.Proofs.Map.Square
import TileWalk.Proofs.Numeral.Spelling
import TileWalk.Program.Source
import TileWalk.Run.Interpreter

/-!
# Programs as functions

What a program comes to can be said without its steps. A statement takes a world
and variables to others, with the lines that it puts out; a movement is one jump,
to where it ends. A program goes on from statement to statement until one of them
ends it.
-/

namespace TileWalk

open TileWalk.Text

/-! ## Looking ahead -/

/-- What ends a movement before its last step. -/
inductive Landmark where
  | edge
  | wall
  | water
  | goal
deriving DecidableEq, Repr

def Tile.landmark? : Tile → Option Landmark
  | .grass => none
  | .wall => some .wall
  | .water => some .water
  | .goal => some .goal

def Landmark.line : Landmark → OutputLine
  | .edge => ⟨Obstacle.outOfBounds, .error⟩
  | .wall => ⟨Obstacle.wall, .error⟩
  | .water => ⟨Obstacle.water, .error⟩
  | .goal => ⟨Obstacle.victory, .success⟩

def Position.ahead (position : Position) (direction : Direction) (steps : Nat) : Position :=
  position.offset (steps * direction.delta.1) (steps * direction.delta.2)

namespace World

variable (world : World) (direction : Direction)

def landmark? (position : Position) : Option Landmark :=
  if world.isOutOfBounds position then some .edge
  else
    match world.cellAt position with
    | .ok (.tile tile) => tile.landmark?
    | _ => none

/-- The first landmark within so many steps, and the number of steps before it. -/
def lookAhead (steps : Nat) : Option (Nat × Landmark) :=
  (List.range steps).findSome? fun clear =>
    (world.landmark? (world.agent.position.ahead direction (clear + 1))).map (clear, ·)

/-- The world with the agent so many steps ahead. -/
def advance : Nat → World
  | 0 => world
  | steps + 1 => world.place (world.agent.position.ahead direction (steps + 1))

end World

/-! ## Evaluation -/

/-- What a statement or a program comes to. -/
structure Outcome where
  world : World
  bindings : Bindings
  lines : List OutputLine := []
  waits : Nat := 0
  /-- Whether the statement lets the program go on. -/
  goesOn : Bool := true
deriving DecidableEq, Repr

/-- A movement that is not ended by a landmark puts out the given lines. -/
def World.jump (world : World) (bindings : Bindings) (direction : Direction) (steps : Nat)
    (completed : List OutputLine) : Outcome :=
  match world.lookAhead direction steps with
  | none =>
    { world := world.advance direction steps, bindings, lines := completed, waits := steps }
  | some (clear, .goal) =>
    { world := world.advance direction (clear + 1), bindings, lines := [Landmark.goal.line]
      waits := clear, goesOn := false }
  | some (clear, obstacle) =>
    { world := (world.advance direction clear).setDead true, bindings, lines := [obstacle.line]
      waits := clear, goesOn := false }

def Numeral.reading (text : Text) : Nat :=
  valueOf (text.takeWhile isDigit)

/-- The number of steps that an argument asks for, which is at least one. -/
def Bindings.steps (bindings : Bindings) : Option Text → Nat
  | none => 1
  | some token =>
    match bindings.get? token with
    | some value => max 1 value.toNat
    | none => if Numeral.isUnsigned token then max 1 (Numeral.reading token) else 1

def completion (steps : Nat) : List OutputLine :=
  if steps > 1 then [⟨s!"Completed {steps} step movement.", .info⟩] else []

def Statement.evaluate (world : World) (bindings : Bindings) :
    Statement → Except StatementError Outcome
  | .assign name value =>
    if Numeral.isUnsigned value then
      .ok { world, bindings := bindings.set name (Numeral.reading value) }
    else
      match bindings.get? value with
      | some number => .ok { world, bindings := bindings.set name number }
      | none => .error (.invalidAssignment name)
  | .print token quoted =>
    let text := if quoted then token
      else match bindings.get? token with
        | some value => Text.ofString (toString value)
        | none => token
    .ok { world, bindings, lines := [⟨text, .info⟩] }
  | .move direction argument =>
    if world.agent.dead then .ok { world, bindings, goesOn := false }
    else
      let steps := bindings.steps argument
      .ok (world.jump bindings direction steps (completion steps))
  | .remark _ => .ok { world, bindings }

/-- What a line comes to; a statement that cannot be carried out ends the program. -/
def evaluateLine (line : Text) (world : World) (bindings : Bindings) : Outcome :=
  match Statement.parse line >>= Statement.evaluate world bindings with
  | .ok outcome => outcome
  | .error error =>
    { world, bindings, lines := [⟨"Error: " ++ error.message, .error⟩], goesOn := false }

/-- What the lines of a program come to, with a wait between two of them. -/
def evaluateProgram : List Text → World → Bindings → Outcome
  | [], world, bindings => { world, bindings }
  | line :: rest, world, bindings =>
    let first := evaluateLine line world bindings
    if first.goesOn && !rest.isEmpty then
      let others := evaluateProgram rest first.world first.bindings
      { others with
        lines := first.lines ++ others.lines
        waits := first.waits + 1 + others.waits }
    else first

/-- The lines of a source that hold statements, without blanks at the ends. -/
def statementTexts (source : Text) : List Text :=
  ((splitLines source).map trim).filter fun text => !text.isEmpty

theorem SourceLine.ofSource_texts (source : Text) :
    (ofSource source).map (·.text) = statementTexts source := by
  calc
    (ofSource source).map (·.text) = ((numbered source).zipIdx.map Prod.fst).map Prod.fst := by
      simp only [ofSource, List.map_map]
      rfl
    _ = (numbered source).map Prod.fst := by rw [List.zipIdx_map_fst]
    _ = (((splitLines source).map trim).zipIdx.map Prod.fst).filter fun text => !text.isEmpty := by
      rw [numbered, List.filter_map]
      rfl
    _ = statementTexts source := by rw [List.zipIdx_map_fst, statementTexts]

/-! ## Readable programs -/

/-- No numeral of a statement has too many digits. -/
def Statement.Readable : Statement → Prop
  | .assign _ value => ¬ Numeral.Overlong value
  | .move _ (some token) => ¬ Numeral.Overlong token
  | _ => True

instance (statement : Statement) : Decidable statement.Readable := by
  unfold Statement.Readable
  split <;> infer_instance

def Legible (text : Text) : Prop :=
  match Statement.parse text with
  | .ok statement => statement.Readable
  | .error _ => True

instance (text : Text) : Decidable (Legible text) := by
  unfold Legible
  split <;> infer_instance

theorem Interpreter.resolveSteps_eq (bindings : Bindings) {argument : Option Text}
    (readable : ∀ token ∈ argument, ¬ Numeral.Overlong token) :
    resolveSteps bindings argument = .ok (bindings.steps argument) := by
  have least (value : Int) : resolveSteps.atLeastOne value = (max 1 value.toNat : Nat) := by
    simp only [resolveSteps.atLeastOne]
    split <;> omega
  cases argument with
  | none => rfl
  | some token =>
      simp only [resolveSteps, Bindings.steps]
      cases bindings.get? token with
      | some value => simp only [least]
      | none =>
          cases numeral : Numeral.isUnsigned token with
          | false => rfl
          | true =>
              simp only [if_true, Numeral.unsigned_readable numeral (readable token rfl)]
              exact congrArg Except.ok (least _)

theorem Interpreter.valueOf_eq (bindings : Bindings) {name value : Text}
    (readable : ¬ Numeral.Overlong value) :
    valueOf bindings name value =
      if Numeral.isUnsigned value then .ok (Numeral.reading value)
      else match bindings.get? value with
        | some number => .ok number
        | none => .error (.statement (.invalidAssignment name)) := by
  simp only [valueOf]
  split
  · next numeral =>
      rw [Numeral.unsigned_readable numeral readable]
      rfl
  · rfl

/-! ## Landmarks -/

section Landmarks

variable {world : World} {position : Position}

theorem World.landmark?_outside (outside : world.isOutOfBounds position = true) :
    world.landmark? position = some .edge := by
  simp [landmark?, outside]

theorem World.landmark?_inside {tile : Tile} (inside : world.isOutOfBounds position = false)
    (found : world.cellAt position = .ok (.tile tile)) :
    world.landmark? position = tile.landmark? := by
  simp [landmark?, inside, found]

theorem World.isGoal_tile {tile : Tile} (found : world.cellAt position = .ok (.tile tile)) :
    world.isGoal position = .ok (decide (tile = .goal)) := by
  rw [isGoal, found]
  cases tile <;> rfl

end Landmarks

/-! ## A jump is made of steps -/

section Steps

variable (world : World) (bindings : Bindings) (direction : Direction)

theorem Position.ahead_shift (position : Position) (steps : Nat) :
    (position.shift direction.delta).ahead direction steps =
      position.ahead direction (steps + 1) := by
  simp only [ahead, shift, offset, Position.mk.injEq, Nat.cast_add, Nat.cast_one]
  constructor <;> ring

theorem Position.ahead_one (position : Position) :
    position.ahead direction 1 = position.shift direction.delta := by
  simp [ahead, shift]

theorem World.advance_place (steps : Nat) :
    (world.place (world.agent.position.shift direction.delta)).advance direction steps =
      world.advance direction (steps + 1) := by
  cases steps with
  | zero => simp [advance, Position.ahead_one]
  | succ steps =>
      simp only [advance, place, Position.ahead_shift]

theorem World.lookAhead_succ (steps : Nat) :
    world.lookAhead direction (steps + 1) =
      match world.landmark? (world.agent.position.shift direction.delta) with
      | some landmark => some (0, landmark)
      | none =>
        ((world.place (world.agent.position.shift direction.delta)).lookAhead direction steps).map
          fun (clear, landmark) => (clear + 1, landmark) := by
  simp only [lookAhead, List.range_succ_eq_map, List.findSome?_cons, List.findSome?_map,
    Nat.zero_add, Position.ahead_one]
  cases world.landmark? (world.agent.position.shift direction.delta) with
  | some landmark => rfl
  | none =>
      simp only [Option.map_none, List.map_findSome?]
      congr 1
      funext clear
      simp only [Function.comp, place, Position.ahead_shift, Option.map_map]
      rfl

/-- A jump is a step and a shorter jump, unless the step leads to a landmark. -/
theorem World.jump_succ (steps : Nat) (completed : List OutputLine) :
    world.jump bindings direction (steps + 1) completed =
      match world.landmark? (world.agent.position.shift direction.delta) with
      | none =>
        let others := (world.place (world.agent.position.shift direction.delta)).jump bindings
          direction steps completed
        { others with waits := others.waits + 1 }
      | some .goal =>
        { world := world.place (world.agent.position.shift direction.delta), bindings
          lines := [Landmark.goal.line], goesOn := false }
      | some obstacle =>
        { world := world.setDead true, bindings, lines := [obstacle.line], goesOn := false } := by
  simp only [jump, lookAhead_succ]
  cases world.landmark? (world.agent.position.shift direction.delta) with
  | some landmark => cases landmark <;> simp [advance, Position.ahead_one]
  | none =>
      cases (world.place (world.agent.position.shift direction.delta)).lookAhead direction
          steps with
      | none => simp [advance_place]
      | some found =>
          rcases found with ⟨clear, landmark⟩
          cases landmark <;> simp [advance_place]

end Steps

/-! ## The map stays -/

structure World.SameMap (world other : World) : Prop where
  grid : other.grid = world.grid
  size : other.size = world.size

theorem World.SameMap.square {world other : World} (same : world.SameMap other)
    (square : world.grid.WellFormed world.size) : other.grid.WellFormed other.size := by
  rw [same.grid, same.size]
  exact square

theorem World.advance_map (world : World) (direction : Direction) (steps : Nat) :
    world.SameMap (world.advance direction steps) := by
  cases steps <;> exact ⟨rfl, rfl⟩

theorem World.jump_map (world : World) (bindings : Bindings) (direction : Direction)
    (steps : Nat) (completed : List OutputLine) :
    world.SameMap (world.jump bindings direction steps completed).world := by
  simp only [jump]
  split
  · exact world.advance_map direction steps
  · next clear _ => exact world.advance_map direction (clear + 1)
  · next clear _ _ _ =>
      have same := world.advance_map direction clear
      exact ⟨same.grid, same.size⟩

theorem evaluateLine_map (line : Text) (world : World) (bindings : Bindings) :
    world.SameMap (evaluateLine line world bindings).world := by
  simp only [evaluateLine]
  cases Statement.parse line with
  | error error => exact ⟨rfl, rfl⟩
  | ok statement =>
      cases statement with
      | assign name value =>
          simp only [bind, Except.bind, Statement.evaluate]
          cases Numeral.isUnsigned value with
          | true => exact ⟨rfl, rfl⟩
          | false => cases bindings.get? value <;> exact ⟨rfl, rfl⟩
      | print token quoted => exact ⟨rfl, rfl⟩
      | move direction argument =>
          simp only [bind, Except.bind, Statement.evaluate]
          cases world.agent.dead with
          | true => exact ⟨rfl, rfl⟩
          | false => exact world.jump_map bindings direction _ _
      | remark text => exact ⟨rfl, rfl⟩

end TileWalk
