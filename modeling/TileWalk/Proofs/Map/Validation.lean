import TileWalk.Proofs.Library.Record
import TileWalk.Proofs.Map.Report

/-!
# What makes a map document

A raw value is read as a map document when it has a name and a square of cells that stand for tiles,
and nothing else. Storing a document and reading it back gives it again.
-/

namespace TileWalk

open TileWalk.Text

theorem Text.hasSurrogate_eq_false_iff {text : Text} :
    text.hasSurrogate = false ↔ ∃ plain : String, text = ofString plain := by
  constructor
  · intro whole
    induction text with
    | nil => exact ⟨"", rfl⟩
    | cons point text ih =>
        rw [hasSurrogate, List.any_cons, Bool.or_eq_false_iff] at whole
        rcases ih whole.2 with ⟨plain, rfl⟩
        cases point with
        | surrogate offset => cases whole.1
        | char value => exact ⟨String.ofList (value :: plain.toList), by simp [ofString, ofChars]⟩
  · rintro ⟨plain, rfl⟩
    simp [hasSurrogate, ofString, ofChars, CodePoint.isSurrogate, CodePoint.char?]

namespace Json

/-- The raw value is an object that has fields of these names, and no others. -/
def HasJust (value : Json) (names : List String) : Prop :=
  ∃ fields, value = .object fields ∧ ∀ key, key ∈ fields.map Prod.fst ↔ key ∈ names.map ofString

/-- The raw value is a list of this many items of a kind. -/
def Lists (size : Nat) (kind : Json → Prop) (value : Json) : Prop :=
  ∃ items, value = .array items ∧ items.length = size ∧ ∀ item ∈ items, kind item

end Json

namespace MapDocument

variable {α : Type} {meaning : Json → α → Prop} {values : List α} {value : Json}
  {document : MapDocument} {invalid : Invalid}

theorem ofJson_eq_ok_iff : ofJson value = .ok document ↔
    value.HasJust ["name", "grid"] ∧ value.field? "name" = some (.text document.name) ∧
      document.name ≠ "" ∧ Square document.rows ∧ ∃ grid, value.field? "grid" = some grid ∧
        ListOf (ListOf Json.ReadsAs) grid document.rows := by
  constructor
  · intro read
    cases value with
    | object fields =>
        rw [ofJson] at read
        split at read
        · cases read
        · rcases ofFields_eq_ok_iff.mp read with ⟨named, laid, known, square⟩
          rcases readName_field_iff.mp named with ⟨_, named, rfl, filled⟩
          rcases readRows_field_iff.mp laid with ⟨grid, laid, tiles⟩
          refine ⟨⟨fields, rfl, fun key => ⟨unknownFields_eq_nil_iff.mp known key, ?_⟩⟩, named,
            filled, square, grid, laid, tiles⟩
          intro expected
          simp only [List.map_cons, List.map_nil, List.mem_cons, List.not_mem_nil, or_false]
            at expected
          rcases expected with rfl | rfl
          · exact List.mem_map_of_mem (Json.mem_of_get? named)
          · exact List.mem_map_of_mem (Json.mem_of_get? laid)
    | _ => cases read
  · rintro ⟨⟨fields, rfl, keys⟩, named, filled, square, grid, laid, tiles⟩
    have whole : brokenKey? recordName fields = none := by
      rw [brokenKey?_eq_none_iff]
      intro key held
      rcases List.mem_map.mp ((keys key).mp held) with ⟨name, _, rfl⟩
      exact hasSurrogate_eq_false_iff.mpr ⟨name, rfl⟩
    simp only [ofJson, whole]
    exact ofFields_eq_ok_iff.mpr ⟨readName_field_iff.mpr ⟨_, named, rfl, filled⟩,
      readRows_field_iff.mpr ⟨grid, laid, tiles⟩,
      unknownFields_eq_nil_iff.mpr fun key => (keys key).mp, square⟩

/-! ## What is accepted -/

/-- The grid of a raw value is a square of cells that stand for tiles. -/
def TiledSquare (value : Json) : Prop :=
  ∃ grid, value.field? "grid" = some grid ∧ grid.Lists Grid.standardSize
    (Json.Lists Grid.standardSize fun cell => ∃ tile, cell.ReadsAs tile)

/-- What a raw value must have to be a map document. -/
structure Admissible (value : Json) : Prop where
  fields : value.HasJust ["name", "grid"]
  name : ∃ name : Text, value.field? "name" = some (.text name) ∧ name ≠ [] ∧
    name.hasSurrogate = false
  grid : TiledSquare value

theorem forall_exists_iff {items : List Json} {good : α → Prop} :
    (∀ item ∈ items, ∃ value, good value ∧ meaning item value) ↔
      ∃ values, (∀ value ∈ values, good value) ∧ List.Forall₂ meaning items values := by
  induction items with
  | nil => simp
  | cons item items ih =>
      rw [List.forall_mem_cons, ih]
      constructor
      · rintro ⟨⟨value, first, means⟩, values, later, each⟩
        exact ⟨value :: values, List.forall_mem_cons.mpr ⟨first, later⟩, .cons means each⟩
      · rintro ⟨values, all, each⟩
        cases each with
        | cons means each =>
            rw [List.forall_mem_cons] at all
            exact ⟨⟨_, all.1, means⟩, _, all.2, each⟩

/-- Items of a kind are those that have good meanings. -/
theorem lists_iff (size : Nat) (good : α → Prop) (meaning : Json → α → Prop) (raw : Json) :
    raw.Lists size (fun item => ∃ value, good value ∧ meaning item value) ↔
      ∃ values, values.length = size ∧ (∀ value ∈ values, good value) ∧
        ListOf meaning raw values := by
  constructor
  · rintro ⟨items, rfl, rfl, each⟩
    rcases forall_exists_iff.mp each with ⟨values, all, means⟩
    exact ⟨values, means.length_eq.symm, all, items, rfl, means⟩
  · rintro ⟨values, rfl, all, items, rfl, means⟩
    exact ⟨items, rfl, means.length_eq, forall_exists_iff.mpr ⟨values, all, means⟩⟩

theorem tiledSquare_iff : TiledSquare value ↔ ∃ rows, Square rows ∧
    ∃ grid, value.field? "grid" = some grid ∧ ListOf (ListOf Json.ReadsAs) grid rows := by
  -- The same fact about lists is used twice: for the cells of a row, and for the rows.
  have row (raw : Json) : raw.Lists Grid.standardSize (fun cell => ∃ tile, cell.ReadsAs tile) ↔
      ∃ tiles : List Tile, tiles.length = Grid.standardSize ∧ ListOf Json.ReadsAs raw tiles := by
    simpa using lists_iff Grid.standardSize (fun _ => True) Json.ReadsAs raw
  have rows (raw : Json) : raw.Lists Grid.standardSize (Json.Lists Grid.standardSize
      fun cell => ∃ tile, cell.ReadsAs tile) ↔
        ∃ rows, Square rows ∧ ListOf (ListOf Json.ReadsAs) raw rows := by
    simp only [funext fun raw => propext (row raw), lists_iff, Square, and_assoc]
  constructor
  · rintro ⟨grid, laid, tiled⟩
    rcases (rows grid).mp tiled with ⟨tiles, square, each⟩
    exact ⟨tiles, square, grid, laid, each⟩
  · rintro ⟨tiles, square, grid, laid, each⟩
    exact ⟨grid, laid, (rows grid).mpr ⟨tiles, square, each⟩⟩

theorem exists_document_iff : (∃ document, ofJson value = .ok document) ↔ Admissible value := by
  constructor
  · rintro ⟨document, read⟩
    rcases ofJson_eq_ok_iff.mp read with ⟨just, named, filled, square, laid⟩
    refine ⟨just, ⟨_, named, ?_, hasSurrogate_eq_false_iff.mpr ⟨_, rfl⟩⟩,
      tiledSquare_iff.mpr ⟨_, square, laid⟩⟩
    exact fun nothing => filled (ofString_injective nothing)
  · rintro ⟨just, ⟨name, named, filled, whole⟩, tiled⟩
    rcases hasSurrogate_eq_false_iff.mp whole with ⟨plain, rfl⟩
    rcases tiledSquare_iff.mp tiled with ⟨rows, square, laid⟩
    refine ⟨⟨plain, rows⟩, ofJson_eq_ok_iff.mpr ⟨just, named, ?_, square, laid⟩⟩
    rintro rfl
    exact filled rfl

/-! ## What is read -/

/-- The tile in a row and a column. -/
def tile? (document : MapDocument) (row column : Nat) : Option Tile := do
  let tiles ← document.rows[row]?
  tiles[column]?

/-- The document shows what is in the raw value: its name, and a square of the tiles that its cells
stand for. -/
structure Depicts (document : MapDocument) (value : Json) : Prop where
  name : value.field? "name" = some (.text document.name)
  square : Square document.rows
  tiles : ∀ row column tile, document.tile? row column = some tile ↔
    ∃ cell, rawCell? value row column = some cell ∧ cell.ReadsAs tile

theorem ListOf.at {raw : Json} (list : ListOf meaning raw values) (index : Nat) :
    (raw.item? index = none ∧ values[index]? = none) ∨
      ∃ item value, raw.item? index = some item ∧ values[index]? = some value ∧
        meaning item value := by
  rcases list with ⟨items, rfl, each⟩
  induction each generalizing index with
  | nil => exact .inl ⟨rfl, rfl⟩
  | cons means _ ih =>
      cases index with
      | zero => exact .inr ⟨_, _, rfl, rfl, means⟩
      | succ index => exact ih index

theorem readsAs_unique {raw : Json} {tile other : Tile} (reads : raw.ReadsAs tile)
    (again : raw.ReadsAs other) : tile = other := by
  have first := readTile_eq_ok_iff.mpr reads
  rw [readTile_eq_ok_iff.mpr again] at first
  cases first
  rfl

theorem depicts_of_ofJson (read : ofJson value = .ok document) : document.Depicts value := by
  rcases ofJson_eq_ok_iff.mp read with ⟨_, named, _, square, grid, laid, rows⟩
  refine ⟨named, square, ?_⟩
  intro row column tile
  rw [tile?, rawCell?, laid]
  simp only [Option.bind_eq_bind, Option.bind_some]
  rcases rows.at row with ⟨noCells, noTiles⟩ | ⟨cells, tiles, someCells, someTiles, each⟩
  · simp [noCells, noTiles]
  · rw [someCells, someTiles, Option.bind_some, Option.bind_some]
    rcases each.at column with ⟨noCell, noTile⟩ | ⟨cell, other, someCell, someTile, reads⟩
    · simp [noCell, noTile]
    · rw [someCell, someTile]
      constructor
      · intro same
        cases same
        exact ⟨cell, rfl, reads⟩
      · rintro ⟨_, ⟨⟩, again⟩
        rw [readsAs_unique reads again]

/-! ## What is stored -/

/-- The raw form of a document: its name, and the codes of its tiles. -/
def dump (document : MapDocument) : Json :=
  .object [("name", .text document.name), ("grid", encodeRows document.rows)]

/-- Reading what was stored gives the document back, and storing it again changes nothing. -/
structure Kept (document : MapDocument) : Prop where
  dumped : ofJson document.dump = .ok document
  held : ∀ record stored, Library.storeDocument document record = .ok stored →
    ∃ maps, Library.storedMaps stored = .ok maps ∧
      maps.get? document.name = some (encodeRows document.rows)
  loaded : ∀ record stored (shelf : Shelf), Library.storeDocument document record = .ok stored →
    Library.documentsOf record = .ok shelf →
      Library.documentsOf stored = .ok (shelf.put document)
  settled : ∀ record stored, Library.storeDocument document record = .ok stored →
    Library.storeDocument document stored = .ok stored

theorem ofJson_pair (name grid : Json) :
    ofJson (.object [("name", name), ("grid", grid)]) = ofParts name grid := by
  have whole : ∀ key ∈ [Text.ofString "name", "grid"], key.hasSurrogate = false := by decide
  have sound : brokenKey? recordName [("name", name), ("grid", grid)] = none :=
    brokenKey?_eq_none_iff.mpr whole
  rw [ofJson, sound, ofParts]

theorem kept_of_ofJson (read : ofJson value = .ok document) : document.Kept := by
  rcases ofJson_eq_ok_iff.mp read with ⟨_, _, filled, square, _⟩
  have back := ofParts_encoded filled square
  refine ⟨?_, ?_, ?_, fun _ _ => Library.storeDocument_settled⟩
  · rw [dump, ofJson_pair, back]
  · intro record stored stores
    rcases Library.maps_of_storeDocument stores with ⟨maps, _, rfl⟩
    exact ⟨_, Library.storedMaps_stored document record maps, Json.Fields.get?_set_self ..⟩
  · intro record stored shelf stores loads
    rcases Library.maps_of_storeDocument stores with ⟨maps, found, rfl⟩
    rcases Library.documentsOf_eq_ok_iff.mp loads with ⟨_, again, shelved⟩
    cases Except.ok.inj (found.symm.trans again)
    exact Library.documentsOf_stored shelved back

/-! ## The whole of it -/

/-- A raw value is read as a map document exactly when it is admissible. The document shows what is
in the value and is kept by storing it; any other value is reported. -/
theorem ofJson_exact (value : Json) :
    ((∃ document, ofJson value = .ok document) ↔ Admissible value) ∧
      (∀ document, ofJson value = .ok document → document.Depicts value ∧ document.Kept) ∧
        ∀ invalid, ofJson value = .error invalid → Reports value invalid :=
  ⟨exists_document_iff, fun _ read => ⟨depicts_of_ofJson read, kept_of_ofJson read⟩,
    fun _ => reports_of_ofJson⟩

/-- A map that begins with water as a text, a wall as a truth value and the goal as a number. -/
def mixedMap : Json :=
  .object [("grid", .array (.array (.text " 2.0" :: .bool true :: .integer 3 ::
      List.replicate 9 (.integer 0)) :: List.replicate 11 (.array (List.replicate 12 (.integer 0))))),
    ("name", .text "a")]

/-- A map without a name, in which two cells stand for no tile. -/
def strayMap : Json :=
  .object [("name", .text ""),
    ("grid", .array [.array [.integer 0, .integer 7], .array [.text "x"]])]

theorem ofJson_exact_mixed :
    (∃ document, ofJson mixedMap = .ok document ∧ document.tile? 0 0 = some .water ∧
        document.tile? 0 1 = some .wall ∧ document.tile? 0 2 = some .goal ∧
          ofJson document.dump = .ok document) ∧
      ∃ invalid, ofJson strayMap = .error invalid ∧ (0, 0) ∉ cellsOf invalid.issues ∧
        (0, 1) ∈ cellsOf invalid.issues ∧ (1, 0) ∈ cellsOf invalid.issues := by
  have water : (Json.text " 2.0").ReadsAs .water :=
    .text (textInteger?_eq_some_iff.mp (by decide +kernel))
  have grass : (Json.integer 0).ReadsAs .grass := readTile_eq_ok_iff.mp rfl
  constructor
  · have admissible : Admissible mixedMap := by
      refine ⟨⟨_, rfl, fun key => ?_⟩, ⟨_, rfl, by decide, by decide⟩, ?_⟩
      · simp [or_comm]
      · refine ⟨_, rfl, _, rfl, rfl, List.forall_mem_cons.mpr ⟨?_, ?_⟩⟩
        · refine ⟨_, rfl, rfl, ?_⟩
          simp only [List.forall_mem_cons, List.mem_replicate]
          refine ⟨⟨.water, water⟩, ⟨.wall, .yes⟩, ⟨.goal, .integer 3⟩, ?_⟩
          rintro cell ⟨-, rfl⟩
          exact ⟨.grass, grass⟩
        · intro row known
          rw [List.eq_of_mem_replicate known]
          refine ⟨_, rfl, rfl, ?_⟩
          intro cell known
          rw [List.eq_of_mem_replicate known]
          exact ⟨.grass, grass⟩
    rcases (ofJson_exact mixedMap).1.mpr admissible with ⟨document, read⟩
    rcases (ofJson_exact mixedMap).2.1 document read with ⟨depicts, kept⟩
    refine ⟨document, read, ?_, ?_, ?_, kept.dumped⟩
    · exact (depicts.tiles 0 0 .water).mpr ⟨_, rfl, water⟩
    · exact (depicts.tiles 0 1 .wall).mpr ⟨_, rfl, .yes⟩
    · exact (depicts.tiles 0 2 .goal).mpr ⟨_, rfl, .integer 3⟩
  · have whole : ¬ strayMap.HasBrokenKey := by
      rintro ⟨_, ⟨⟩, broken⟩
      revert broken
      decide
    refine ⟨_, rfl, ?_⟩
    have reports := (ofJson_exact strayMap).2.2 _ rfl
    refine ⟨?_, ?_, ?_⟩
    · rintro told
      rcases (reports.cells whole 0 0).mp told with ⟨_, ⟨⟩, unread⟩
      exact unread .grass grass
    · exact (reports.cells whole 0 1).mpr ⟨.integer 7, rfl, not_readsAs rfl⟩
    · exact (reports.cells whole 1 0).mpr ⟨.text "x", rfl, not_readsAs rfl⟩

/-- A square of grass under a name that is a lone surrogate. -/
def brokenName : Json :=
  .object [("name", .text [CodePoint.ofCode 0xD800]),
    ("grid", encodeRows (List.replicate 12 (List.replicate 12 .grass)))]

/-- A cell that stands for no tile, beside a key that is a lone surrogate. -/
def brokenKey : Json :=
  .object [("name", .text "a"), ("grid", .array [.array [.text "x"]]),
    ([CodePoint.ofCode 0xD800], .integer 1)]

/-- A map that begins with two texts in which the zeros are followed by a minus sign and by two
underscores. -/
def oddSpellings : Json :=
  .object [("name", .text "a"),
    ("grid", .array (.array (.text "0-0" :: .text "0__1" :: List.replicate 10 (.integer 0)) ::
      List.replicate 11 (.array (List.replicate 12 (.integer 0)))))]

/-- A lone surrogate makes a name unfit, and one in a key keeps the cells from being told. Texts
stand for tiles that are hardly numbers. -/
theorem broken_texts_refused_odd_ones_read :
    (brokenName.HasJust ["name", "grid"] ∧
        (∃ name : Text, brokenName.field? "name" = some (.text name) ∧ name ≠ []) ∧
          TiledSquare brokenName ∧ ¬ ∃ document, ofJson brokenName = .ok document) ∧
      (∃ invalid, ofJson brokenKey = .error invalid ∧
        (∃ cell, rawCell? brokenKey 0 0 = some cell ∧ ∀ tile, ¬ cell.ReadsAs tile) ∧
          (0, 0) ∉ cellsOf invalid.issues) ∧
      ∃ document, ofJson oddSpellings = .ok document ∧
        document.tile? 0 0 = some .grass ∧ document.tile? 0 1 = some .wall := by
  refine ⟨⟨⟨_, rfl, fun key => Iff.rfl⟩, ⟨_, rfl, by decide⟩, ?_, ?_⟩, ?_, ?_⟩
  · let rows : List (List Tile) := List.replicate 12 (List.replicate 12 .grass)
    exact tiledSquare_iff.mpr ⟨rows, ⟨rfl, by decide⟩, encodeRows rows, rfl,
      reader_rows.accepts.mp (readRows_encoded rows)⟩
  · rintro ⟨document, read⟩
    rcases ofJson_eq_ok_iff.mp read with ⟨_, named, _⟩
    have same := Json.text.inj (Option.some.inj named)
    have whole := hasSurrogate_eq_false_iff.mpr ⟨document.name, same⟩
    exact absurd whole (by decide)
  · refine ⟨_, rfl, ⟨.text "x", rfl, ?_⟩, ?_⟩
    · exact not_readsAs rfl
    · exact List.not_mem_nil
  · exact ⟨{ name := "a", rows := _ }, rfl, rfl, rfl⟩

end MapDocument

end TileWalk
