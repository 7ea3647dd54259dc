import TileWalk.Proofs.Map.Square

/-!
# The board

The board is what a map of the usual size covers. Maps have the same board when they
agree there: elsewhere, also where a negative coordinate counts from the far end, one of
them can hold anything. So what comes out the same on all maps with the same board is
independent of every place off it.
-/

namespace TileWalk

/-- The coordinates are those of a cell on a map of the usual size. -/
structure Position.OnBoard (position : Position) : Prop where
  left : 0 ≤ position.x
  right : position.x < Grid.standardSize
  top : 0 ≤ position.y
  bottom : position.y < Grid.standardSize

theorem Position.onBoard_iff {position : Position} : position.OnBoard ↔
    (0 ≤ position.x ∧ position.x < Grid.standardSize) ∧
      (0 ≤ position.y ∧ position.y < Grid.standardSize) := by
  constructor
  · intro onBoard
    exact ⟨⟨onBoard.left, onBoard.right⟩, onBoard.top, onBoard.bottom⟩
  · rintro ⟨⟨left, right⟩, top, bottom⟩
    exact ⟨left, right, top, bottom⟩

namespace Grid

/-- Two maps have the same tiles on the board, and any cells or none off it. -/
def SameBoard (grid other : Grid) : Prop :=
  ∀ place : Position, place.OnBoard →
    ∃ tile, grid.cellAt place = .ok (.tile tile) ∧ other.cellAt place = .ok (.tile tile)

theorem SameBoard.left {grid other : Grid} (same : grid.SameBoard other) : grid.SameBoard grid := by
  intro place onBoard
  rcases same place onBoard with ⟨tile, found, -⟩
  exact ⟨tile, found, found⟩

theorem WellFormed.sameBoard {grid : Grid} (square : grid.WellFormed standardSize) :
    grid.SameBoard grid := by
  intro place onBoard
  rcases square.cellAt onBoard.left onBoard.right onBoard.top onBoard.bottom with ⟨tile, found⟩
  exact ⟨tile, found, found⟩

/-! ## Off the board -/

/-- The board of a map in the corner of a larger one, which is filled with one cell. -/
def framed (grid : Grid) (margin : Nat) (cell : Cell) : Grid :=
  (List.range (standardSize + margin)).map fun row =>
    (List.range (standardSize + margin)).map fun column =>
      if column < standardSize ∧ row < standardSize then
        (grid.cellAt ⟨column, row⟩).toOption.getD cell
      else cell

/-- A coordinate that is not too far out stands for itself or for a place in the margin. -/
theorem index_margin (absent : GridError) {length margin : Nat} {coordinate : Int}
    (low : -(margin : Int) ≤ coordinate) (high : coordinate < length + margin) :
    ∃ place : Nat, index absent (length + margin) coordinate = .ok place ∧
      place < length + margin ∧ (place < length ↔ 0 ≤ coordinate ∧ coordinate < length) ∧
      (place < length → (place : Int) = coordinate) := by
  by_cases left : 0 ≤ coordinate
  · exact ⟨_, index_inside absent left (by omega), by omega, by omega, by omega⟩
  · refine ⟨(coordinate + (length + margin : Nat)).toNat, ?_, by omega, by omega, by omega⟩
    have reached : -((length + margin : Nat) : Int) ≤ coordinate := by omega
    simp only [index, index?, left, reached, if_true, if_false]

/-- What a framed map holds at a place that is not too far out. -/
theorem framed_cellAt (grid : Grid) {margin : Nat} (cell : Cell) {place : Position}
    (left : -(margin : Int) ≤ place.x) (right : place.x < standardSize + margin)
    (top : -(margin : Int) ≤ place.y) (bottom : place.y < standardSize + margin) :
    (place.OnBoard → (grid.framed margin cell).cellAt place =
      .ok ((grid.cellAt place).toOption.getD cell)) ∧
    (¬ place.OnBoard → (grid.framed margin cell).cellAt place = .ok cell) := by
  rcases index_margin .outside top bottom with ⟨row, vertical, below, rowInside, rowSame⟩
  rcases index_margin .outside left right with ⟨column, horizontal, beside, columnInside, columnSame⟩
  have found : (grid.framed margin cell).cellAt place =
      .ok (if column < standardSize ∧ row < standardSize then
        (grid.cellAt ⟨column, row⟩).toOption.getD cell else cell) := by
    simp [cellAt, rowAt, framed, vertical, horizontal, below, beside, Except.map, bind, Except.bind,
      pure, Except.pure]
  have inside : column < standardSize ∧ row < standardSize ↔ place.OnBoard := by
    rw [rowInside, columnInside, Position.onBoard_iff]
  rw [found]
  constructor
  · intro onBoard
    have corner := inside.mpr onBoard
    rw [if_pos corner, columnSame corner.1, rowSame corner.2]
  · intro off
    rw [if_neg (mt inside.mp off)]

/-- The same board goes with any cell at a place off it. -/
theorem SameBoard.exists_off {grid : Grid} (tiled : grid.SameBoard grid) {place : Position}
    (off : ¬ place.OnBoard) (cell : Cell) :
    ∃ other, grid.SameBoard other ∧ other.cellAt place = .ok cell := by
  refine ⟨grid.framed (place.x.natAbs + place.y.natAbs) cell, ?_, ?_⟩
  · intro inside onBoard
    rcases tiled inside onBoard with ⟨tile, found, -⟩
    rcases onBoard with ⟨left, right, top, bottom⟩
    refine ⟨tile, found, ?_⟩
    rw [(framed_cellAt grid cell (by omega) (by omega) (by omega) (by omega)).1
      ⟨left, right, top, bottom⟩, found]
    rfl
  · have near : (standardSize : Int) = 12 := rfl
    exact (framed_cellAt grid cell (by omega) (by omega) (by omega) (by omega)).2 off

end Grid

end TileWalk
