import TileWalk.Proofs.Map.Generation

/-!
# The goals of a map

A tile that is put on a map adds no goal, unless it is one itself. So a random map has
a single goal, which is not where the agent starts.
-/

namespace TileWalk

open TileWalk.Random

namespace Grid

variable {grid : Grid} {column row : Nat} {tile : Tile}

/-- The agent would start on a goal. -/
def GoalAtStart (grid : Grid) : Prop :=
  grid.cellAt .origin = .ok (.tile .goal)

instance (grid : Grid) : Decidable grid.GoalAtStart :=
  inferInstanceAs (Decidable (grid.cellAt .origin = .ok (.tile .goal)))

/-- There is at most one goal, and the agent does not start on it. -/
structure Tidy (grid : Grid) : Prop where
  single : grid.count .goal ≤ 1
  start : ¬ grid.GoalAtStart

theorem cellAt_origin (grid : Grid) :
    grid.cellAt .origin =
      match grid with
      | (cell :: _) :: _ => .ok cell
      | _ => .error .outside := by
  cases grid with
  | nil => rfl
  | cons cells rest =>
      have row : Grid.rowAt (cells :: rest) 0 = .ok cells := by
        rw [rowAt, index_inside .outside (by decide) (by rw [List.length_cons]; omega)]
        rfl
      rw [cellAt, Position.origin]
      simp only [row, bind, Except.bind]
      cases cells with
      | nil => rfl
      | cons cell cells =>
          rw [index_inside .outside (by decide) (by rw [List.length_cons]; omega)]
          rfl

/-- A tile that is put on a map is the only one by which the agent comes to start on a goal. -/
theorem goalAtStart_of_put (start : (grid.put column row (.tile tile)).GoalAtStart) :
    grid.GoalAtStart ∨ tile = .goal ∧ column = 0 ∧ row = 0 := by
  simp only [GoalAtStart, cellAt_origin, put] at start ⊢
  cases grid with
  | nil => simp at start
  | cons cells rest =>
      cases row with
      | succ row => exact .inl (by cases cells <;> simp_all)
      | zero =>
          cases cells with
          | nil => simp at start
          | cons cell cells =>
              cases column with
              | succ column => exact .inl (by simpa using start)
              | zero => exact .inr (by simpa using start)

theorem count_set_le (cells : List Cell) (column : Nat) (tile other : Tile) :
    (cells.set column (.tile tile)).count (.tile other) ≤
      cells.count (.tile other) + if tile = other then 1 else 0 := by
  by_cases inside : column < cells.length
  · rw [List.count_set inside]
    simp only [beq_iff_eq, Cell.tile.injEq]
    omega
  · rw [List.set_eq_of_length_le (by omega)]
    omega

theorem count_put_le (grid : Grid) (column row : Nat) (tile other : Tile) :
    (grid.put column row (.tile tile)).count other ≤
      grid.count other + if tile = other then 1 else 0 := by
  simp only [count, put]
  induction grid generalizing row with
  | nil => simp
  | cons cells rest ih =>
      cases row with
      | zero =>
          have here := count_set_le cells column tile other
          simp only [List.modify_zero_cons, List.flatten_cons, List.count_append]
          omega
      | succ row =>
          have later := ih row
          simp only [List.modify_succ_cons, List.flatten_cons, List.count_append]
          omega

/-- A tile that is no goal leaves a tidy map tidy. -/
theorem Tidy.put (tidy : grid.Tidy) (solid : tile ≠ .goal) (column row : Nat) :
    (grid.put column row (.tile tile)).Tidy where
  single := by
    have fewer := count_put_le grid column row tile .goal
    have := tidy.single
    simp only [solid, if_false] at fewer
    omega
  start := fun start => (goalAtStart_of_put start).elim tidy.start fun goal => solid goal.1

/-- A goal leaves a map without goals tidy, unless it is put where the agent starts. -/
theorem tidy_put_goal (none : grid.count .goal = 0) (fresh : ¬ grid.GoalAtStart)
    (off : (column, row) ≠ (0, 0)) : (grid.put column row (.tile .goal)).Tidy where
  single := by
    have fewer := count_put_le grid column row .goal .goal
    simp only [if_true] at fewer
    omega
  start := by
    intro start
    rcases goalAtStart_of_put start with before | ⟨-, rfl, rfl⟩
    · exact fresh before
    · exact off rfl

theorem count_goal_eq_zero_iff : grid.count .goal = 0 ↔ ∀ row ∈ grid, .tile .goal ∉ row := by
  simp [count, List.count_eq_zero]

theorem not_goalAtStart (none : grid.count .goal = 0) : ¬ grid.GoalAtStart := by
  rw [count_goal_eq_zero_iff] at none
  rw [GoalAtStart, cellAt_origin]
  split
  · next cell cells rest =>
      rintro ⟨⟩
      exact none _ List.mem_cons_self List.mem_cons_self
  · simp

theorem count_goal_empty (size : Nat) : (empty size).count .goal = 0 := by
  rw [count_goal_eq_zero_iff]
  intro row membership
  rw [List.eq_of_mem_replicate membership]
  simp

end Grid

/-! ## Random maps -/

namespace MapPlan

variable {size : Nat} {draws rest : Draws}

theorem drawGoal_off {goal : Nat × Nat} (drawn : drawGoal size draws = some (goal, rest)) :
    goal ≠ (0, 0) := by
  induction draws using drawGoal.induct size with
  | case1 draws none =>
      rw [drawGoal] at drawn
      split at drawn
      · cases drawn
      · next found => cases none.symm.trans found
  | case2 draws rest found _ ih =>
      rw [drawGoal] at drawn
      split at drawn
      · cases drawn
      · next again =>
          cases found.symm.trans again
          exact ih (by simpa using drawn)
  | case3 draws place rest found _ off =>
      rw [drawGoal] at drawn
      split at drawn
      · cases drawn
      · next again =>
          cases found.symm.trans again
          rw [if_neg off] at drawn
          cases drawn
          exact off

/-- A tile is put somewhere on the map. -/
theorem placeOnGrass_put {tile : Tile} {grid placed : Grid} {retries : Nat}
    (done : placeOnGrass size tile grid draws = some (placed, retries, rest)) :
    ∃ column row, placed = grid.put column row (.tile tile) := by
  induction draws using placeOnGrass.induct size grid generalizing retries with
  | case1 draws none =>
      rw [placeOnGrass] at done
      split at done
      · cases done
      · next found => cases none.symm.trans found
  | case2 draws place rest found _ grass =>
      rw [placeOnGrass] at done
      split at done
      · cases done
      · next again =>
          cases found.symm.trans again
          rw [if_pos grass] at done
          cases done
          exact ⟨_, _, rfl⟩
  | case3 draws place rest found _ taken ih =>
      rw [placeOnGrass] at done
      split at done
      · cases done
      · next again =>
          cases found.symm.trans again
          rw [if_neg taken] at done
          rcases Option.map_eq_some_iff.mp done with ⟨_, later, same⟩
          cases same
          exact ih later

theorem placeAll_tidy {tiles : List Tile} (solid : ∀ tile ∈ tiles, tile ≠ .goal)
    {grid placed : Grid} {retries : Nat} (tidy : grid.Tidy)
    (done : placeAll size tiles grid draws = some (placed, retries, rest)) : placed.Tidy := by
  induction tiles generalizing grid draws retries with
  | nil =>
      cases done
      exact tidy
  | cons tile tiles ih =>
      rw [placeAll] at done
      split at done
      · cases done
      · next laid =>
          rcases List.forall_mem_cons.mp solid with ⟨first, solid⟩
          rcases placeOnGrass_put laid with ⟨column, row, rfl⟩
          rcases Option.map_eq_some_iff.mp done with ⟨_, later, same⟩
          cases same
          exact ih solid (tidy.put first column row) later

/-- Whatever the draws, a random map has no second goal and none at the start. -/
theorem generate_tidy {plan : MapPlan} {made : GeneratedMap}
    (done : plan.generate draws = .ok made) : made.grid.Tidy := by
  rw [generate] at done
  split at done
  · cases done
  dsimp only at done
  split at done
  · cases done
  next goal rest drawn =>
  split at done
  · cases done
  next laid =>
  cases done
  have none := Grid.count_goal_empty plan.size.toNat
  have fresh := Grid.tidy_put_goal none (Grid.not_goalAtStart none) (drawGoal_off drawn)
  refine placeAll_tidy ?_ fresh laid
  simp [scattered, or_imp, forall_and]

end MapPlan

end TileWalk
