import TileWalk.World

/-!
# Square maps

On a square map of tiles whose size is that of its world, every position within
the bounds holds a tile.
-/

namespace TileWalk

theorem Grid.index_inside (absent : GridError) {length : Nat} {coordinate : Int}
    (low : 0 ≤ coordinate) (high : coordinate < length) :
    Grid.index absent length coordinate = .ok coordinate.toNat := by
  simp [Grid.index, Grid.index?, low, high]

theorem Grid.empty_square (size : Nat) : (Grid.empty size).WellFormed size := by
  constructor
  · simp [Grid.empty]
  · intro row membership
    rcases List.eq_of_mem_replicate membership with rfl
    constructor
    · simp
    · intro cell membership
      exact ⟨.grass, List.eq_of_mem_replicate membership⟩

/-- There is a tile at every position of a square map. -/
theorem Grid.WellFormed.cellAt {size : Nat} {grid : Grid} (square : grid.WellFormed size)
    {position : Position} (left : 0 ≤ position.x) (right : position.x < size)
    (top : 0 ≤ position.y) (bottom : position.y < size) :
    ∃ tile, grid.cellAt position = .ok (.tile tile) := by
  rcases square with ⟨rows, columns⟩
  have below : position.y.toNat < grid.length := by omega
  rcases columns _ (List.getElem_mem below) with ⟨width, tiles⟩
  have beside : position.x.toNat < (grid[position.y.toNat]).length := by omega
  rcases tiles _ (List.getElem_mem beside) with ⟨tile, found⟩
  refine ⟨tile, ?_⟩
  have row : grid.rowAt position.y = .ok grid[position.y.toNat] := by
    simp [Grid.rowAt, Grid.index_inside .outside top (by omega : position.y < grid.length),
      Except.map, below]
  have column : Grid.index .outside (grid[position.y.toNat]).length position.x =
      .ok position.x.toNat := Grid.index_inside .outside left (by omega)
  simp [Grid.cellAt, row, column, bind, Except.bind, pure, Except.pure, beside, found]

/-- The cells of a square map are written where they are. -/
theorem Grid.WellFormed.write {size : Nat} {grid : Grid} (square : grid.WellFormed size)
    {position : Position} (left : 0 ≤ position.x) (right : position.x < size)
    (top : 0 ≤ position.y) (bottom : position.y < size) (cell : Cell) :
    grid.write position cell = .ok (grid.put position.x.toNat position.y.toNat cell) := by
  rcases square with ⟨rows, columns⟩
  have below : position.y.toNat < grid.length := by omega
  have width := (columns _ (List.getElem_mem below)).1
  have row : index .outside grid.length position.y = .ok position.y.toNat :=
    index_inside .outside top (by omega)
  have column : index .writeOutside (grid[position.y.toNat]?.getD []).length position.x =
      .ok position.x.toNat := by
    rw [List.getElem?_eq_getElem below, Option.getD_some, width]
    exact index_inside .writeOutside left right
  rw [Grid.write, row]
  simp only [bind, Except.bind, column]
  rfl

/-- There is a tile at every position within the bounds. -/
theorem World.cellAt_inside {world : World} (square : world.grid.WellFormed world.size)
    {position : Position} (inside : world.isOutOfBounds position = false) :
    ∃ tile, world.cellAt position = .ok (.tile tile) := by
  simp only [isOutOfBounds, Bool.or_eq_false_iff, decide_eq_false_iff_not] at inside
  exact square.cellAt (by omega) (by omega) (by omega) (by omega)

end TileWalk
