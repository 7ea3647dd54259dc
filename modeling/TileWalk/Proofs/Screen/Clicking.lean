import TileWalk.Proofs.Drawing.WorldMap
import TileWalk.Proofs.Screen.Editor

/-!
# Clicks and what is seen

A click on the drawn map falls on the cell whose glyph, or whose blank, is seen there. The cell
takes the cursor and is painted, which is seen at once: its glyph becomes that of the brush, and no
other glyph changes, but that goals give way to grass when the goal is painted.
-/

namespace TileWalk

namespace Glyph

/-- A goal is seen only where there is one. -/
theorem ofCell_sign_eq_goal {cell : Cell} :
    (ofCell cell).sign = (ofTile .goal).sign ↔ cell = .tile .goal := by
  constructor
  · intro same
    cases cell with
    | tile tile => exact congrArg Cell.tile (ofTile_sign_injective same)
    | stray code =>
        have other : sign ⟨"?", "grey70"⟩ ≠ (ofTile .goal).sign := by decide
        exact absurd same other
  · rintro rfl
    rfl

end Glyph

/-! ## Cells -/

namespace Grid

variable {size column row x y : Nat} {grid : Grid}

/-- There is a tile in every cell of a square map. -/
theorem WellFormed.cell? (square : grid.WellFormed size) (beside : column < size)
    (below : row < size) : ∃ tile, grid.cell? column row = some (.tile tile) := by
  rcases square with ⟨rows, columns⟩
  have inside : row < grid.length := by omega
  rcases columns _ (List.getElem_mem inside) with ⟨width, tiles⟩
  have within : column < (grid[row]).length := by omega
  rcases tiles _ (List.getElem_mem within) with ⟨tile, found⟩
  refine ⟨tile, cell?_eq_some_iff.mpr ⟨grid[row], List.getElem?_eq_getElem inside, ?_⟩⟩
  rw [List.getElem?_eq_getElem within, found]

theorem WellFormed.inside_of_cell? {cell : Cell} (square : grid.WellFormed size)
    (held : grid.cell? column row = some cell) : column < size ∧ row < size := by
  rcases cell?_eq_some_iff.mp held with ⟨cells, line, inside⟩
  have below := (List.getElem?_eq_some_iff.mp line).1
  have beside := (List.getElem?_eq_some_iff.mp inside).1
  rw [(square.2 cells (List.mem_of_getElem? line)).1] at beside
  rw [square.1] at below
  exact ⟨beside, below⟩

theorem cell?_put_self {held : Cell} (known : grid.cell? column row = some held) (cell : Cell) :
    (grid.put column row cell).cell? column row = some cell := by
  rcases cell?_eq_some_iff.mp known with ⟨cells, line, inside⟩
  refine cell?_eq_some_iff.mpr ⟨cells.set column cell, ?_, ?_⟩
  · rw [put, List.getElem?_modify, line]
    simp
  · exact List.getElem?_set_self (List.getElem?_eq_some_iff.mp inside).1

theorem cell?_put_of_ne (other : ¬ (x = column ∧ y = row)) (cell : Cell) :
    (grid.put column row cell).cell? x y = grid.cell? x y := by
  simp only [put, Grid.cell?, List.getElem?_modify]
  cases grid[y]? with
  | none => rfl
  | some cells =>
      by_cases same : row = y
      · have beside : column ≠ x := fun here => other ⟨here.symm, same.symm⟩
        simp [same, List.getElem?_set_ne beside]
      · simp [same]

theorem cell?_withoutGoals (grid : Grid) (column row : Nat) :
    (EditorState.withoutGoals grid).cell? column row =
      (grid.cell? column row).map fun cell =>
        if cell = .tile .goal then .tile .grass else cell := by
  simp only [EditorState.withoutGoals, Grid.cell?, List.getElem?_map]
  cases grid[row]? with
  | none => rfl
  | some cells => simp

end Grid

/-! ## Clicks -/

theorem GridWidget.cellAt?_eq_some_iff {widget : GridWidget} {column row : Int}
    {cell : Position} (reports : widget.reportsClicks = true) :
    widget.cellAt? column row = some cell ↔
      (0 ≤ column ∧ column < 2 * widget.size) ∧ (0 ≤ row ∧ row < widget.size) ∧
        cell = ⟨column / 2, row⟩ := by
  have half : Int.fdiv column cellWidth = column / 2 := Int.fdiv_eq_ediv_of_nonneg column (by decide)
  rw [cellAt?, half, reports]
  constructor
  · intro clicked
    split at clicked
    · next inside =>
        simp only [Bool.true_and, Bool.and_eq_true, decide_eq_true_eq] at inside
        exact ⟨by omega, by omega, (Option.some.inj clicked).symm⟩
    · cases clicked
  · rintro ⟨beside, below, rfl⟩
    apply if_pos
    simp only [Bool.true_and, Bool.and_eq_true, decide_eq_true_eq]
    omega

namespace EditorState

variable {editor : EditorState} {size x y : Nat}

/-- The goal is refused where the agent starts. -/
def Refuses (editor : EditorState) (x y : Nat) : Prop :=
  editor.brush = .goal ∧ x = 0 ∧ y = 0

/-- The glyph of every cell is seen in the editor. -/
theorem signAt?_lines (editor : EditorState) (x y : Nat) :
    signAt? editor.lines (2 * x) y =
      (editor.grid.cell? x y).map fun cell => (Glyph.ofCell cell).sign := by
  rw [lines, Grid.signAt?_even]
  rfl

/-- The map that a cell is painted on. -/
def ground (editor : EditorState) : Grid :=
  if editor.brush = .goal then withoutGoals editor.grid else editor.grid

theorem ground_square (square : editor.grid.WellFormed size) : editor.ground.WellFormed size := by
  rw [ground]
  split
  · exact Grid.withoutGoals_square square
  · exact square

/-- On the ground there are no goals to be seen when the goal is painted. -/
theorem sign_ground (editor : EditorState) (column row : Nat) :
    ((editor.ground.cell? column row).map fun cell => (Glyph.ofCell cell).sign) =
      (signAt? editor.lines (2 * column) row).map fun sign =>
        if editor.brush = .goal ∧ sign = (Glyph.ofTile .goal).sign then (Glyph.ofTile .grass).sign
        else sign := by
  rw [signAt?_lines, ground]
  split
  · next goal =>
      rw [Grid.cell?_withoutGoals, Option.map_map, Option.map_map]
      congr 1
      funext cell
      simp only [Function.comp_apply, goal, true_and, Glyph.ofCell_sign_eq_goal]
      split <;> rfl
  · next other => simp [other, Function.comp_def]

/-- What is seen after a cell was painted: the glyph of the brush in it, unless it was refused, and
the glyphs that were there before in the other cells, but for former goals. -/
structure Paints (editor after : EditorState) (x y : Nat) : Prop where
  refused : editor.Refuses x y → after.grid = editor.grid
  painted : ¬ editor.Refuses x y → after.grid.cell? x y = some (.tile editor.brush) ∧
    signAt? after.lines (2 * x) y = some (Glyph.ofTile editor.brush).sign
  others : ¬ editor.Refuses x y → ∀ column row, ¬ (column = x ∧ row = y) →
    signAt? after.lines (2 * column) row =
      (signAt? editor.lines (2 * column) row).map fun sign =>
        if editor.brush = .goal ∧ sign = (Glyph.ofTile .goal).sign then (Glyph.ofTile .grass).sign
        else sign

/-- A cell of a square map is painted on the ground, or the map is left alone. -/
theorem paint_square (square : editor.grid.WellFormed size) (beside : x < size) (below : y < size) :
    ∃ grid lastMessage,
      editor.paint (some ⟨x, y⟩) = (.ok (), { editor with grid, lastMessage }) ∧
      (editor.Refuses x y ∧ grid = editor.grid ∨
        ¬ editor.Refuses x y ∧ grid = editor.ground.put x y (.tile editor.brush)) := by
  have corner : ((⟨x, y⟩ : Position) = .origin) ↔ x = 0 ∧ y = 0 := by
    simp only [Position.origin, Position.mk.injEq]
    omega
  by_cases refused : editor.Refuses x y
  · have origin : editor.brush = .goal ∧ (⟨x, y⟩ : Position) = .origin :=
      ⟨refused.1, corner.mpr refused.2⟩
    have kept := paint.eq_1 editor (some ⟨x, y⟩)
    rw [Option.getD_some, if_pos origin] at kept
    exact ⟨editor.grid, _, kept, .inl ⟨refused, rfl⟩⟩
  · have allowed : ¬ (editor.brush = .goal ∧ (⟨x, y⟩ : Position) = .origin) :=
      fun origin => refused ⟨origin.1, corner.mp origin.2⟩
    have written : editor.ground.write ⟨x, y⟩ (.tile editor.brush) =
        .ok (editor.ground.put x y (.tile editor.brush)) :=
      (ground_square square).write (Int.natCast_nonneg x) (Int.ofNat_lt.mpr beside)
        (Int.natCast_nonneg y) (Int.ofNat_lt.mpr below) _
    have done := paint.eq_1 editor (some ⟨x, y⟩)
    simp only [Option.getD_some, if_neg allowed] at done
    rw [← ground, written] at done
    exact ⟨_, _, done, .inr ⟨refused, rfl⟩⟩

/-- A cell takes the cursor and is painted. -/
theorem paint_paints (square : editor.grid.WellFormed size) (beside : x < size)
    (below : y < size) :
    ∃ after, ({ editor with cursor := ⟨x, y⟩ } : EditorState).paint (some ⟨x, y⟩) = (.ok (), after) ∧
      after.cursor = ⟨x, y⟩ ∧ editor.Paints after x y := by
  have moved : ({ editor with cursor := ⟨x, y⟩ } : EditorState).grid.WellFormed size := square
  rcases paint_square moved beside below with ⟨grid, lastMessage, done, grids⟩
  refine ⟨_, done, rfl, ?_⟩
  rcases grids with ⟨refused, rfl⟩ | ⟨allowed, rfl⟩
  · exact ⟨fun _ => rfl, fun allowed => absurd refused allowed,
      fun allowed => absurd refused allowed⟩
  · rcases (ground_square square).cell? beside below with ⟨tile, held⟩
    have painted := Grid.cell?_put_self held (.tile editor.brush)
    refine ⟨fun refused => absurd refused allowed, fun _ => ⟨painted, ?_⟩, ?_⟩
    · rw [signAt?_lines]
      exact congrArg (Option.map _) painted
    · intro _ column row other
      rw [signAt?_lines, ← sign_ground]
      exact congrArg (Option.map _) (Grid.cell?_put_of_ne other _)

end EditorState

namespace EditorScreen

variable {screen : EditorScreen} {size : Nat}

theorem click_missed {column row : Int} (missed : screen.widget.cellAt? column row = none) :
    (click (some (column, row))).perform screen = (.ok [], screen) := by
  simp only [click, EditorAction.perform_bind, EditorAction.perform_get, Option.bind_some, missed,
    EditorAction.perform_pure]

/-- A cell that is clicked takes the cursor and is painted. -/
theorem click_hit {column row : Int} {x y : Nat}
    (square : screen.editor.grid.WellFormed size) (beside : x < size) (below : y < size)
    (hit : screen.widget.cellAt? column row = some ⟨x, y⟩) :
    ∃ editor calls, (click (some (column, row))).perform screen =
        (.ok [⟨x, y⟩], { screen with editor, calls }) ∧
      editor.cursor = ⟨x, y⟩ ∧ screen.editor.Paints editor x y := by
  rcases EditorState.paint_paints square beside below with ⟨editor, painted, cursor, paints⟩
  rcases refresh_perform { screen with editor } with ⟨calls, refreshed⟩
  refine ⟨editor, calls, ?_, cursor, paints⟩
  simp only [click, paint, EditorAction.perform_bind, EditorAction.perform_get, Option.bind_some,
    hit, EditorAction.perform_onEditor, painted, EditorAction.perform_pure, refreshed]

/-- A click within the drawn map takes the cursor to the cell that is drawn there and paints it: in
the map that is drawn afterwards the glyph of the brush is at that very column. Other glyphs stay,
but that goals are gone when the goal is painted, and where the goal is refused the whole map stays.
Any other click changes nothing at all. -/
theorem click_paints_cell_seen (square : screen.editor.grid.WellFormed size)
    (shows : screen.widget = { size, reportsClicks := true }) :
    (∀ column row : Int, (0 ≤ column ∧ column < 2 * size) ∧ (0 ≤ row ∧ row < size) →
      ∃ x y : Nat, (x : Int) = column / 2 ∧ (y : Int) = row ∧
        ((click (some (column, row))).perform screen).1 = .ok [⟨x, y⟩] ∧
        ((click (some (column, row))).perform screen).2.editor.cursor = ⟨x, y⟩ ∧
        screen.editor.Paints ((click (some (column, row))).perform screen).2.editor x y) ∧
    (∀ column row : Int, ¬ ((0 ≤ column ∧ column < 2 * size) ∧ (0 ≤ row ∧ row < size)) →
      (click (some (column, row))).perform screen = (.ok [], screen)) ∧
    ∀ (x y : Nat) sign, signAt? screen.editor.lines (2 * x) y = some sign →
      ((click (some ((2 * x : Nat), (y : Nat)))).perform screen).1 = .ok [⟨x, y⟩] := by
  have target (column row : Int) (cell : Position) :
      screen.widget.cellAt? column row = some cell ↔
        (0 ≤ column ∧ column < 2 * size) ∧ (0 ≤ row ∧ row < size) ∧ cell = ⟨column / 2, row⟩ := by
    rw [shows]
    exact GridWidget.cellAt?_eq_some_iff rfl
  refine ⟨?_, ?_, ?_⟩
  · rintro column row ⟨⟨left, right⟩, top, bottom⟩
    have hit := (target column row ⟨(column / 2).toNat, row.toNat⟩).mpr
      ⟨⟨left, right⟩, ⟨top, bottom⟩, by rw [Position.mk.injEq]; omega⟩
    rcases click_hit square (by omega) (by omega) hit with ⟨editor, calls, done, cursor, paints⟩
    refine ⟨(column / 2).toNat, row.toNat, by omega, by omega, ?_⟩
    rw [done]
    exact ⟨rfl, cursor, paints⟩
  · intro column row outside
    apply click_missed
    rw [Option.eq_none_iff_forall_ne_some]
    intro cell hit
    rcases (target column row cell).mp hit with ⟨beside, below, -⟩
    exact outside ⟨beside, below⟩
  · intro x y sign seen
    rw [EditorState.signAt?_lines, Option.map_eq_some_iff] at seen
    rcases seen with ⟨cell, held, -⟩
    rcases square.inside_of_cell? held with ⟨beside, below⟩
    have hit := (target (2 * x : Nat) y ⟨x, y⟩).mpr
      ⟨by omega, by omega, by rw [Position.mk.injEq]; omega⟩
    rcases click_hit square beside below hit with ⟨editor, calls, done, -⟩
    rw [done]

/-- An editor on a small map with its goal in the far corner. -/
def pond : EditorScreen where
  editor := {
    name := "pond"
    grid := [[.tile .grass, .tile .wall], [.tile .water, .tile .goal]]
    brush := .goal }
  library := .atHome "ada"
  disk := {}
  widget := { size := 2, reportsClicks := true }

/-- The blank behind the wall belongs to it: the goal comes to stand there, and is gone from the
corner. Left of the map there is nothing to click on. -/
theorem click_paints_cell_seen_pond :
    pond.editor.grid.WellFormed 2 ∧ pond.widget = { size := 2, reportsClicks := true } ∧
    let clicked := (click (some (3, 0))).perform pond
    clicked.1 = .ok [⟨1, 0⟩] ∧
      signAt? clicked.2.editor.lines 2 0 = some (Glyph.ofTile .goal).sign ∧
      signAt? clicked.2.editor.lines 2 1 = some (Glyph.ofTile .grass).sign ∧
      (click (some (-1, 0))).perform pond = (.ok [], pond) := by
  have widths : ∀ row ∈ pond.editor.grid, row.length = 2 := by decide
  have tiled : pond.editor.grid.Tiled := by decide
  have square : pond.editor.grid.WellFormed 2 :=
    ⟨rfl, fun row known => ⟨widths row known, tiled row known⟩⟩
  rcases click_paints_cell_seen square rfl with ⟨inside, outside, -⟩
  rcases inside 3 0 (by decide) with ⟨x, y, column, row, reported, -, paints⟩
  obtain rfl : x = 1 := by omega
  obtain rfl : y = 0 := by omega
  have accepted : ¬ pond.editor.Refuses 1 0 := by
    rintro ⟨-, corner, -⟩
    cases corner
  refine ⟨square, rfl, reported, (paints.painted accepted).2, ?_, outside (-1) 0 (by decide)⟩
  exact (paints.others accepted 1 1 (by decide)).trans (by decide)

end EditorScreen

end TileWalk
