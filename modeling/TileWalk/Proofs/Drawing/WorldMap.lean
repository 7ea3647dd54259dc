import Mathlib.Logic.ExistsUnique
import TileWalk.Drawing.WorldMap

/-!
# What the drawn map tells

A drawn line holds the glyphs of its row at every second column, with a blank between two of them
and one span for each. No two tiles have the same glyph, and none has that of an agent, so the
drawing tells every cell but the one that the agent covers.
-/

namespace TileWalk

open TileWalk.Text

namespace Glyph

/-- The character of a glyph. -/
def sign (glyph : Glyph) : CodePoint :=
  (Text.ofString glyph.text).headD (.char ' ')

/-- The glyph is one character, which is shown. -/
def Single (glyph : Glyph) : Prop :=
  StyledText.shown glyph.text = [glyph.sign]

instance (glyph : Glyph) : Decidable glyph.Single :=
  inferInstanceAs (Decidable (_ = _))

theorem ofTile_single (tile : Tile) : (ofTile tile).Single := by
  cases tile <;> decide

theorem ofCell_single : ∀ cell, (ofCell cell).Single
  | .tile tile => ofTile_single tile
  | .stray _ => (by decide : Single ⟨"?", "grey70"⟩)

theorem ofAgent_single (dead : Bool) : (ofAgent dead).Single := by
  cases dead <;> decide

theorem ofTile_sign_injective {tile other : Tile} (same : (ofTile tile).sign = (ofTile other).sign) :
    tile = other := by
  cases tile <;> cases other <;> first | rfl | exact absurd same (by decide)

theorem ofAgent_sign_injective {dead other : Bool}
    (same : (ofAgent dead).sign = (ofAgent other).sign) : dead = other := by
  cases dead <;> cases other <;> first | rfl | exact absurd same (by decide)

theorem ofAgent_sign_ne_blank (dead : Bool) : (ofAgent dead).sign ≠ .char ' ' := by
  cases dead <;> decide

theorem ofTile_sign_ne_agent (tile : Tile) (dead : Bool) :
    (ofTile tile).sign ≠ (ofAgent dead).sign := by
  cases tile <;> cases dead <;> decide

end Glyph

/-! ## One line -/

namespace Overlay

variable (overlay : Overlay)

/-- The glyph that is seen at a position, whatever the cursor does to its style. -/
def seenAt (position : Position) (cell : Cell) : Glyph :=
  if overlay.agent = some position then Glyph.ofAgent overlay.dead else Glyph.ofCell cell

/-- The style of what is seen at a position. -/
def styleAt (position : Position) (cell : Cell) : String :=
  if overlay.cursor = some position then (overlay.seenAt position cell).style ++ " reverse"
  else (overlay.seenAt position cell).style

variable {overlay}

theorem seenAt_single (position : Position) (cell : Cell) :
    (overlay.seenAt position cell).Single := by
  rw [seenAt]
  split
  · exact Glyph.ofAgent_single _
  · exact Glyph.ofCell_single cell

/-- The cursor changes nothing but the style. -/
theorem glyphAt_eq (position : Position) (cell : Cell) :
    overlay.glyphAt position cell =
      ⟨(overlay.seenAt position cell).text, overlay.styleAt position cell⟩ := by
  simp only [glyphAt, styleAt, seenAt]
  split <;> split <;> rfl

variable (overlay)

/-- The characters of a row's glyphs, from a column on. -/
def signs (row column : Nat) (cells : List Cell) : Text :=
  cells.mapIdx fun offset cell => (overlay.seenAt ⟨(column + offset : Nat), row⟩ cell).sign

/-- The spans of a row's glyphs, from a column on. -/
def spans (row column : Nat) (cells : List Cell) : List Span :=
  cells.mapIdx fun offset cell => ⟨2 * (column + offset), 2 * (column + offset) + 1,
    overlay.styleAt ⟨(column + offset : Nat), row⟩ cell⟩

theorem signs_cons (row column : Nat) (cell : Cell) (cells : List Cell) :
    overlay.signs row column (cell :: cells) =
      (overlay.seenAt ⟨column, row⟩ cell).sign :: overlay.signs row (column + 1) cells := by
  simp [signs, List.mapIdx_cons, Nat.add_assoc, Nat.add_comm 1]

theorem spans_cons (row column : Nat) (cell : Cell) (cells : List Cell) :
    overlay.spans row column (cell :: cells) =
      ⟨2 * column, 2 * column + 1, overlay.styleAt ⟨column, row⟩ cell⟩ ::
        overlay.spans row (column + 1) cells := by
  simp [spans, List.mapIdx_cons, Nat.add_assoc, Nat.add_comm 1]

variable {overlay}

/-- A glyph is put behind a line that has been begun. -/
theorem append_glyphAt (position : Position) (cell : Cell) (line : StyledText) :
    line.append (overlay.glyphAt position cell).text (overlay.glyphAt position cell).style =
      { text := line.text ++ [(overlay.seenAt position cell).sign]
        style := line.style
        spans := line.spans ++
          [⟨line.text.length, line.text.length + 1, overlay.styleAt position cell⟩] } := by
  have single : StyledText.shown (overlay.seenAt position cell).text =
      [(overlay.seenAt position cell).sign] := seenAt_single position cell
  rw [glyphAt_eq]
  simp only [StyledText.append, single, List.length_singleton]

/-- A line whose next glyph belongs at a column goes on with the glyphs of the cells from there on,
a blank between two of them. -/
theorem drawCells_eq (row column : Nat) (cells : List Cell) {line : StyledText}
    (begun : line.text.length = 2 * column) :
    overlay.drawCells row column cells line =
      { text := line.text ++ (overlay.signs row column cells).intersperse (.char ' ')
        style := line.style
        spans := line.spans ++ overlay.spans row column cells } := by
  induction cells generalizing column line with
  | nil => simp [drawCells, signs, spans]
  | cons cell cells ih =>
      rw [drawCells, append_glyphAt, signs_cons, spans_cons, begun]
      cases cells with
      | nil => simp [drawCells, signs, spans]
      | cons next rest =>
          have blank : StyledText.shown (Text.ofString " ") = [.char ' '] := by decide
          rw [if_neg (List.cons_ne_nil next rest), ih (column + 1)
            (by simp [StyledText.appendPlain, blank, begun]; omega), signs_cons]
          simp [StyledText.appendPlain, blank]

/-- The drawn line of a row: glyphs at the even columns, blanks at the odd ones, and a span for each
glyph. -/
structure Draws (overlay : Overlay) (row : Nat) (cells : List Cell) (line : StyledText) : Prop where
  length : line.text.length = 2 * cells.length - 1
  blanks : ∀ column, 2 * column + 1 < line.text.length →
    line.text[2 * column + 1]? = some (.char ' ')
  glyphs : ∀ (column : Nat) (cell : Cell), cells[column]? = some cell →
    line.text[2 * column]? = some (overlay.seenAt ⟨column, row⟩ cell).sign
  unstyled : line.style = ""
  spanned : line.spans.length = cells.length
  styles : ∀ (column : Nat) (cell : Cell), cells[column]? = some cell →
    line.spans[column]? =
      some ⟨2 * column, 2 * column + 1, overlay.styleAt ⟨column, row⟩ cell⟩

theorem length_signs (row column : Nat) (cells : List Cell) :
    (overlay.signs row column cells).length = cells.length := by
  rw [signs, List.length_mapIdx]

/-- The line of a row from its first column on. -/
theorem drawCells_line (row : Nat) (cells : List Cell) :
    overlay.drawCells row 0 cells {} =
      { text := (overlay.signs row 0 cells).intersperse (.char ' ')
        spans := overlay.spans row 0 cells } := by
  rw [drawCells_eq row 0 cells rfl, List.nil_append, List.nil_append]

theorem drawCells_draws (row : Nat) (cells : List Cell) :
    overlay.Draws row cells (overlay.drawCells row 0 cells {}) := by
  rw [drawCells_line]
  constructor
  · simp only [List.length_intersperse, length_signs]
  · intro column within
    simp only [List.length_intersperse, length_signs] at within
    apply List.getElem?_intersperse_two_mul_add_one
    rw [length_signs]
    omega
  · intro column cell held
    simp only [List.getElem?_intersperse_two_mul]
    simp [signs, held]
  · rfl
  · simp only [spans, List.length_mapIdx]
  · intro column cell held
    simp [spans, held]

/-- The line of a row only depends on what is seen in it. -/
theorem drawCells_congr {row : Nat} {cells others : List Cell}
    (same : ∀ column : Nat, cells[column]?.map (overlay.seenAt ⟨column, row⟩) =
      others[column]?.map (overlay.seenAt ⟨column, row⟩)) :
    overlay.drawCells row 0 cells {} = overlay.drawCells row 0 others {} := by
  have shown {α : Type} (look : Nat → Glyph → α) :
      (cells.mapIdx fun column cell => look column (overlay.seenAt ⟨column, row⟩ cell)) =
        others.mapIdx fun column cell => look column (overlay.seenAt ⟨column, row⟩ cell) := by
    apply List.ext_getElem?
    intro column
    have here := congrArg (Option.map (look column)) (same column)
    simpa only [List.getElem?_mapIdx, Option.map_map, Function.comp_def] using here
  rw [drawCells_line, drawCells_line]
  congr 1
  · simp only [signs, Nat.zero_add]
    rw [shown fun _ seen => seen.sign]
  · simp only [spans, styleAt, Nat.zero_add]
    exact shown fun column seen => (⟨2 * column, 2 * column + 1,
      if overlay.cursor = some ⟨column, row⟩ then seen.style ++ " reverse"
      else seen.style⟩ : Span)

end Overlay

/-! ## All lines -/

/-- The character at a column of a line. -/
def signAt? (lines : List StyledText) (column row : Nat) : Option CodePoint :=
  lines[row]?.bind fun line => line.text[column]?

namespace Grid

/-- All cells hold tiles. The rows may differ in length. -/
def Tiled (grid : Grid) : Prop :=
  ∀ row ∈ grid, ∀ cell ∈ row, ∃ tile, cell = .tile tile

instance (grid : Grid) : Decidable grid.Tiled :=
  decidable_of_iff (∀ row ∈ grid, ∀ cell ∈ row, cell ∈ Tile.all.map Cell.tile) <| by
    have known (cell : Cell) : cell ∈ Tile.all.map Cell.tile ↔ ∃ tile, cell = .tile tile := by
      rw [List.mem_map]
      constructor
      · rintro ⟨tile, -, rfl⟩
        exact ⟨tile, rfl⟩
      · rintro ⟨tile, rfl⟩
        exact ⟨tile, by cases tile <;> decide, rfl⟩
    simp only [Tiled, known]

/-- The cell at a column and a row, if there is one. -/
def cell? (grid : Grid) (column row : Nat) : Option Cell :=
  grid[row]?.bind fun cells => cells[column]?

variable {grid other : Grid} {overlay : Overlay} {column row : Nat} {cell : Cell}

theorem cell?_eq_some_iff : grid.cell? column row = some cell ↔
    ∃ cells, grid[row]? = some cells ∧ cells[column]? = some cell :=
  Option.bind_eq_some_iff

theorem Tiled.tile (tiled : grid.Tiled) (held : grid.cell? column row = some cell) :
    ∃ tile, cell = .tile tile := by
  rcases cell?_eq_some_iff.mp held with ⟨cells, known, inside⟩
  exact tiled cells (List.mem_of_getElem? known) cell (List.mem_of_getElem? inside)

/-- Where there are cells only depends on the lengths of the rows. -/
theorem cell?_isSome (grid : Grid) (column row : Nat) :
    (grid.cell? column row).isSome =
      (grid.map List.length)[row]?.any fun width => decide (column < width) := by
  rw [cell?, List.getElem?_map]
  cases grid[row]? with
  | none => rfl
  | some cells => rw [Bool.eq_iff_iff]; simp

theorem draw_getElem? (grid : Grid) (overlay : Overlay) (row : Nat) :
    (grid.draw overlay)[row]? =
      grid[row]?.map fun cells => overlay.drawCells row 0 cells {} := by
  simp [draw, List.getElem?_zipIdx, Function.comp_def]

theorem draws_of_getElem? {cells : List Cell} (held : grid[row]? = some cells) :
    ∃ line, (grid.draw overlay)[row]? = some line ∧ overlay.Draws row cells line :=
  ⟨_, by rw [draw_getElem?, held]; rfl, Overlay.drawCells_draws row cells⟩

/-- The glyph of every cell is drawn. -/
theorem signAt?_even (grid : Grid) (overlay : Overlay) (column row : Nat) :
    signAt? (grid.draw overlay) (2 * column) row =
      (grid.cell? column row).map fun cell => (overlay.seenAt ⟨column, row⟩ cell).sign := by
  rw [signAt?, draw_getElem?, cell?]
  cases grid[row]? with
  | none => rfl
  | some cells =>
      simp [Overlay.drawCells_line, List.getElem?_intersperse_two_mul, Overlay.signs]

/-- Between two glyphs there is a blank. -/
theorem signAt?_odd {sign : CodePoint}
    (drawn : signAt? (grid.draw overlay) (2 * column + 1) row = some sign) : sign = .char ' ' := by
  rw [signAt?, Option.bind_eq_some_iff] at drawn
  rcases drawn with ⟨line, known, within⟩
  rw [draw_getElem?, Option.map_eq_some_iff] at known
  rcases known with ⟨cells, -, rfl⟩
  have blank := (overlay.drawCells_draws row cells).blanks column
    (List.getElem?_eq_some_iff.mp within).1
  exact Option.some.inj (within.symm.trans blank)

/-! ## The agent -/

/-- The glyph of an agent is just where the agent stands on a cell. -/
theorem signAt?_agent (tiled : grid.Tiled) (dead : Bool) :
    signAt? (grid.draw overlay) column row = some (Glyph.ofAgent dead).sign ↔
      dead = overlay.dead ∧ ∃ x : Nat, column = 2 * x ∧ overlay.agent = some ⟨x, row⟩ ∧
        (grid.cell? x row).isSome = true := by
  constructor
  · intro drawn
    have halved : ∃ x, column = 2 * x ∨ column = 2 * x + 1 := ⟨column / 2, by omega⟩
    rcases halved with ⟨x, rfl | rfl⟩
    · rw [signAt?_even, Option.map_eq_some_iff] at drawn
      rcases drawn with ⟨cell, held, same⟩
      rw [Overlay.seenAt] at same
      split at same
      · next here =>
          exact ⟨(Glyph.ofAgent_sign_injective same).symm, x, rfl, here, by rw [held]; rfl⟩
      · rcases tiled.tile held with ⟨tile, rfl⟩
        exact absurd same (Glyph.ofTile_sign_ne_agent tile dead)
    · exact absurd (signAt?_odd drawn) (Glyph.ofAgent_sign_ne_blank dead)
  · rintro ⟨rfl, x, rfl, here, held⟩
    rcases Option.isSome_iff_exists.mp held with ⟨cell, held⟩
    rw [signAt?_even, held, Option.map_some, Overlay.seenAt, if_pos here]

/-! ## Maps with the same drawing -/

/-- The maps have the same cells but for the one that the agent covers. -/
def AgreesUnder (overlay : Overlay) (grid other : Grid) : Prop :=
  ∀ column row : Nat, overlay.agent ≠ some ⟨column, row⟩ →
    other.cell? column row = grid.cell? column row

/-- Where the glyphs of two tiles are the same, the tiles are. -/
theorem agreesUnder_of_signs (tiled : grid.Tiled) (tiled' : other.Tiled)
    (same : ∀ column row, signAt? (other.draw overlay) column row =
      signAt? (grid.draw overlay) column row) : AgreesUnder overlay grid other := by
  intro column row uncovered
  have glyphs := same (2 * column) row
  rw [signAt?_even, signAt?_even] at glyphs
  cases held : grid.cell? column row with
  | none =>
      rw [held, Option.map_none, Option.map_eq_none_iff] at glyphs
      exact glyphs
  | some cell =>
      rw [held, Option.map_some, Option.map_eq_some_iff] at glyphs
      rcases glyphs with ⟨cell', held', same⟩
      rcases tiled.tile held with ⟨tile, rfl⟩
      rcases tiled'.tile held' with ⟨tile', rfl⟩
      simp only [Overlay.seenAt, if_neg uncovered] at same
      rw [held', Glyph.ofTile_sign_injective same]

/-- The characters alone tell the cells that are not covered. -/
theorem agreesUnder_of_texts (tiled : grid.Tiled) (tiled' : other.Tiled)
    (texts : (other.draw overlay).map (·.text) = (grid.draw overlay).map (·.text)) :
    AgreesUnder overlay grid other := by
  apply agreesUnder_of_signs tiled tiled'
  intro column row
  have lines := congrArg (fun texts : List Text => texts[row]?.bind (·[column]?)) texts
  simpa only [signAt?, List.getElem?_map, Option.bind_map, Function.comp_def] using lines

/-- In each place the same is seen, be it the agent or a tile. -/
theorem seenAt_of_agreesUnder (shape : other.map List.length = grid.map List.length)
    (agrees : AgreesUnder overlay grid other) (column row : Nat) :
    (other.cell? column row).map (overlay.seenAt ⟨column, row⟩) =
      (grid.cell? column row).map (overlay.seenAt ⟨column, row⟩) := by
  by_cases covered : overlay.agent = some ⟨column, row⟩
  · have agent : overlay.seenAt ⟨column, row⟩ = fun _ => Glyph.ofAgent overlay.dead :=
      funext fun _ => if_pos covered
    have both : (other.cell? column row).isSome = (grid.cell? column row).isSome := by
      rw [cell?_isSome, cell?_isSome, shape]
    rw [agent]
    cases held : grid.cell? column row with
    | none =>
        rw [held, Option.isSome_none, Option.isSome_eq_false_iff, Option.isNone_iff_eq_none] at both
        rw [both]
    | some cell =>
        rw [held, Option.isSome_some, Option.isSome_iff_exists] at both
        rcases both with ⟨hidden, held'⟩
        rw [held']
        rfl
  · rw [agrees column row covered]

/-- What the agent covers makes no difference to the drawing. -/
theorem draw_of_agreesUnder (shape : other.map List.length = grid.map List.length)
    (agrees : AgreesUnder overlay grid other) : other.draw overlay = grid.draw overlay := by
  have seen := seenAt_of_agreesUnder shape agrees
  apply List.ext_getElem?
  intro row
  have rows : other[row]?.map List.length = grid[row]?.map List.length := by
    rw [← List.getElem?_map, ← List.getElem?_map, shape]
  rw [draw_getElem?, draw_getElem?]
  simp only [cell?] at seen
  cases known : grid[row]? with
  | none =>
      rw [known, Option.map_none, Option.map_eq_none_iff] at rows
      rw [rows]
  | some cells =>
      rw [known, Option.map_some, Option.map_eq_some_iff] at rows
      rcases rows with ⟨others, known', -⟩
      have line : overlay.drawCells row 0 others {} = overlay.drawCells row 0 cells {} :=
        Overlay.drawCells_congr fun column => by simpa [known, known'] using seen column row
      rw [known', Option.map_some, Option.map_some, line]

/-- The agent stands on a cell of the map. -/
def Bears (grid : Grid) (overlay : Overlay) : Prop :=
  ∃ column row : Nat, overlay.agent = some ⟨column, row⟩ ∧ (grid.cell? column row).isSome = true

/-- Every line of the drawn map is that of its row: glyphs with blanks in between, and a span for
each glyph in its style. The glyph of the agent is there once, if the agent stands on a cell. Maps
whose rows have the same lengths are drawn alike just where they have the same cells but for the one
that the agent covers, and their characters alone tell them apart. -/
theorem drawing_determines_map (tiled : grid.Tiled) (overlay : Overlay) :
    (grid.draw overlay).length = grid.length ∧
    (∀ (row : Nat) (cells : List Cell), grid[row]? = some cells →
      ∃ line, (grid.draw overlay)[row]? = some line ∧ overlay.Draws row cells line) ∧
    (grid.Bears overlay → ∃! place : Nat × Nat,
      signAt? (grid.draw overlay) place.1 place.2 = some (Glyph.ofAgent overlay.dead).sign) ∧
    (∀ dead, dead ≠ overlay.dead ∨ ¬ grid.Bears overlay →
      ∀ column row, signAt? (grid.draw overlay) column row ≠ some (Glyph.ofAgent dead).sign) ∧
    ∀ other : Grid, other.Tiled → other.map List.length = grid.map List.length →
      (other.draw overlay = grid.draw overlay ↔ AgreesUnder overlay grid other) ∧
      ((other.draw overlay).map (·.text) = (grid.draw overlay).map (·.text) ↔
        AgreesUnder overlay grid other) := by
  refine ⟨by simp [draw], fun row cells held => draws_of_getElem? held, ?_, ?_, ?_⟩
  · rintro ⟨column, row, here, held⟩
    refine ⟨(2 * column, row), (signAt?_agent tiled _).mpr ⟨rfl, column, rfl, here, held⟩, ?_⟩
    rintro ⟨column', row'⟩ drawn
    rcases (signAt?_agent tiled _).mp drawn with ⟨-, x, rfl, there, -⟩
    rw [here] at there
    simp only [Option.some.injEq, Position.mk.injEq, Int.natCast_inj] at there
    rw [there.1, there.2]
  · intro dead absent column row drawn
    rcases (signAt?_agent tiled dead).mp drawn with ⟨same, x, rfl, there, held⟩
    exact absent.elim (fun other => other same) fun off => off ⟨x, row, there, held⟩
  · intro other tiled' shape
    have told (texts : (other.draw overlay).map (·.text) = (grid.draw overlay).map (·.text)) :
        AgreesUnder overlay grid other := agreesUnder_of_texts tiled tiled' texts
    refine ⟨⟨fun same => told (by rw [same]), draw_of_agreesUnder shape⟩, told, ?_⟩
    intro agrees
    rw [draw_of_agreesUnder shape agrees]

/-- A map with an empty row and rows of different lengths. -/
def ragged (tile : Tile) : Grid :=
  [[.tile .wall, .tile tile], [], [.tile .water]]

/-- The dead agent under the cursor hides what it lies on. -/
theorem drawing_determines_map_ragged :
    let overlay : Overlay := { agent := some ⟨1, 0⟩, dead := true, cursor := some ⟨1, 0⟩ }
    (ragged .goal).Tiled ∧ (ragged .grass).Tiled ∧
    (∃ line, ((ragged .goal).draw overlay)[0]? = some line ∧
      overlay.Draws 0 [.tile .wall, .tile .goal] line) ∧
    (∃! place : Nat × Nat, signAt? ((ragged .goal).draw overlay) place.1 place.2 =
      some (Glyph.ofAgent true).sign) ∧
    (ragged .grass).draw overlay = (ragged .goal).draw overlay ∧
    (ragged .grass).draw { overlay with agent := none } ≠
      (ragged .goal).draw { overlay with agent := none } := by
  intro overlay
  have tiled : (ragged .goal).Tiled := by decide
  have tiled' : (ragged .grass).Tiled := by decide
  rcases drawing_determines_map tiled overlay with ⟨-, lines, once, -, others⟩
  rcases drawing_determines_map tiled { overlay with agent := none } with ⟨-, -, -, -, bare⟩
  refine ⟨tiled, tiled', lines 0 _ rfl, once ⟨1, 0, rfl, rfl⟩, ?_, ?_⟩
  · refine ((others (ragged .grass) tiled' rfl).1).mpr ?_
    intro column row uncovered
    match column, row with
    | 1, 0 => exact absurd rfl uncovered
    | 0, 0 => rfl
    | column + 2, 0 => rfl
    | column, 1 => rfl
    | column, row + 2 => rfl
  · intro same
    have agrees := ((bare (ragged .grass) tiled' rfl).1).mp same 1 0 nofun
    cases agrees

end Grid

end TileWalk
