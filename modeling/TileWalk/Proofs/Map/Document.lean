import TileWalk.Map.Document

/-!
# Reading back map documents

A named square of tiles is read back from its stored form.
-/

namespace TileWalk

open TileWalk.Text

theorem Text.eq_ofString {text : Text} {plain : String} (spelled : text.toString? = some plain) :
    text = ofString plain := by
  rw [toString?, Option.map_eq_some_iff] at spelled
  rcases spelled with ⟨chars, found, rfl⟩
  rw [ofString, String.toList_ofList]
  induction text generalizing chars with
  | nil =>
      cases found
      rfl
  | cons point text ih =>
      cases point with
      | surrogate offset => simp [CodePoint.char?] at found
      | char value =>
          simp only [List.mapM_cons, CodePoint.char?, Option.pure_def, Option.bind_eq_bind,
            Option.bind_some, Option.bind_eq_some_iff, Option.some.injEq] at found
          rcases found with ⟨others, found, rfl⟩
          rw [ih others found]
          rfl

/-- A square grid of tiles is made of rows of tiles. -/
theorem Grid.WellFormed.rows {size : Nat} {grid : Grid} (square : grid.WellFormed size) :
    ∃ rows : List (List Tile), grid = rows.map (·.map Cell.tile) ∧ rows.length = size ∧
      ∀ row ∈ rows, row.length = size := by
  rcases square with ⟨height, each⟩
  have tiles (row : List Cell) (known : ∀ cell ∈ row, ∃ tile, cell = .tile tile) :
      ∃ tiles : List Tile, row = tiles.map Cell.tile := by
    induction row with
    | nil => exact ⟨[], rfl⟩
    | cons cell row ih =>
        rw [List.forall_mem_cons] at known
        rcases known with ⟨⟨tile, rfl⟩, known⟩
        rcases ih known with ⟨tiles, rfl⟩
        exact ⟨tile :: tiles, rfl⟩
  have rows : ∃ rows : List (List Tile), grid = rows.map (·.map Cell.tile) := by
    clear height
    induction grid with
    | nil => exact ⟨[], rfl⟩
    | cons row grid ih =>
        rw [List.forall_mem_cons] at each
        rcases tiles row each.1.2 with ⟨first, rfl⟩
        rcases ih each.2 with ⟨rows, rfl⟩
        exact ⟨first :: rows, rfl⟩
  rcases rows with ⟨rows, rfl⟩
  refine ⟨rows, rfl, by simpa using height, ?_⟩
  intro row membership
  simpa using (each _ (List.mem_map_of_mem membership)).1

namespace MapDocument

/-- The rows of a document make a square of the usual size. -/
def Square (rows : List (List Tile)) : Prop :=
  rows.length = Grid.standardSize ∧ ∀ row ∈ rows, row.length = Grid.standardSize

theorem Square.wellFormed {rows : List (List Tile)} (square : Square rows) :
    Grid.WellFormed Grid.standardSize (rows.map (·.map Cell.tile)) := by
  constructor
  · rw [List.length_map, square.1]
  · intro row membership
    rcases List.mem_map.mp membership with ⟨tiles, inside, rfl⟩
    refine ⟨by rw [List.length_map, square.2 tiles inside], ?_⟩
    intro cell membership
    rcases List.mem_map.mp membership with ⟨tile, -, rfl⟩
    exact ⟨tile, rfl⟩

theorem encodeGrid_tiles (rows : List (List Tile)) :
    encodeGrid (rows.map (·.map Cell.tile)) = encodeRows rows := by
  simp [encodeGrid, encodeRows, Function.comp_def, Cell.code]

theorem readCell_code (place : List PathStep) (tile : Tile) :
    readCell place (.integer tile.code) = .ok tile := by
  cases tile <;> rfl

theorem readItems_encoded {α : Type} {read : List PathStep → Json → Except (List Issue) α}
    {encode : α → Json} (each : ∀ place value, read place (encode value) = .ok value)
    (place : List PathStep) (values : List α) :
    readItems read place (.array (values.map encode)) = .ok values := by
  have collected (start : Nat) : collect (((values.map encode).zipIdx start).map
      fun pair => read (place ++ [.index pair.2]) pair.1) = .ok values := by
    induction values generalizing start with
    | nil => rfl
    | cons value values ih =>
        rw [List.map_cons, List.zipIdx_cons, List.map_cons]
        simp only [each, collect, ih, Except.map]
  exact collected 0

theorem readRows_encoded (rows : List (List Tile)) : readRows (encodeRows rows) = .ok rows :=
  readItems_encoded (fun place row => readItems_encoded readCell_code place row) _ rows

theorem readName_plain {name : String} (some : name ≠ "") : readName (.text name) = .ok name := by
  simp [readName, some]

theorem shapeIssue?_eq_none_iff {rows : List (List Tile)} :
    shapeIssue? rows = none ↔ Square rows := by
  rw [shapeIssue?]
  by_cases height : rows.length = Grid.standardSize
  · simp [Square, height]
  · simp [Square, height]

/-- A document is read from its name and the stored form of its rows. -/
theorem ofParts_encoded {name : String} (some : name ≠ "") {rows : List (List Tile)}
    (square : Square rows) : ofParts (.text name) (encodeRows rows) = .ok ⟨name, rows⟩ := by
  have key : Text.ofString "name" ≠ Text.ofString "grid" := by decide
  have unknown : unknownFields ["name", "grid"]
      [("name", .text name), ("grid", encodeRows rows)] = [] := by
    simp [unknownFields]
  have first : readField "name" readName [("name", .text name), ("grid", encodeRows rows)] =
      .ok name := by
    simp [readField, Json.Fields.get?, readName_plain some]
  have second : readField "grid" readRows [("name", .text name), ("grid", encodeRows rows)] =
      .ok rows := by
    simp [readField, Json.Fields.get?, key, readRows_encoded]
  simp only [ofParts, ofFields, first, second, unknown, shapeIssue?_eq_none_iff.mpr square]

/-- A document has the name that it was read from. -/
theorem name_of_ofParts {key : Text} {grid : Json} {document : MapDocument}
    (read : ofParts (.text key) grid = .ok document) : key = Text.ofString document.name := by
  have first : readField "name" readName [("name", .text key), ("grid", grid)] =
      readName (.text key) := by
    simp [readField, Json.Fields.get?]
  rw [ofParts, ofFields, first] at read
  split at read
  · next name rows named _ _ =>
      split at read
      · cases read
        rw [readName] at named
        split at named
        · cases named
        · next plain spelled =>
            split at named
            · cases named
            · cases named
              exact Text.eq_ofString spelled
      · cases read
  · cases read

/-- A document has the tiles that it was read from. -/
theorem rows_of_ofParts {name : Json} {rows : List (List Tile)} {document : MapDocument}
    (read : ofParts name (encodeRows rows) = .ok document) : document.rows = rows := by
  have key : Text.ofString "name" ≠ Text.ofString "grid" := by decide
  have second : readField "grid" readRows [("name", name), ("grid", encodeRows rows)] =
      .ok rows := by
    simp [readField, Json.Fields.get?, key, readRows_encoded]
  rw [ofParts, ofFields, second] at read
  split at read
  · next same _ =>
      cases same
      split at read
      · cases read
        rfl
      · cases read
  · cases read

/-- The rows of a document make a square. -/
theorem shape_of_ofParts {name grid : Json} {document : MapDocument}
    (read : ofParts name grid = .ok document) : Square document.rows := by
  rw [ofParts, ofFields] at read
  split at read
  · split at read
    · next fits =>
        cases read
        exact shapeIssue?_eq_none_iff.mp fits
    · cases read
  · cases read

/-- The grid of a document is a square of tiles. -/
theorem square_of_ofParts {name grid : Json} {document : MapDocument}
    (read : ofParts name grid = .ok document) : document.grid.WellFormed Grid.standardSize :=
  (shape_of_ofParts read).wellFormed

end MapDocument

end TileWalk
