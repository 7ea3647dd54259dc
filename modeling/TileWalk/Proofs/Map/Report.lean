import TileWalk.Proofs.Map.Reading

/-!
# What is told about a refused map

The report on a raw value that is no map document names the cells that stand for no tile, row by
row. A key with a lone surrogate in it and a wrong shape are each told alone.
-/

namespace TileWalk

open TileWalk.Text

namespace Json

/-- The value of the field with this name. -/
def field? : Json → String → Option Json
  | .object fields, name => Fields.get? fields name
  | _, _ => none

/-- The item with this index. -/
def item? : Json → Nat → Option Json
  | .array items, index => items[index]?
  | _, _ => none

/-- A key of the raw value has a lone surrogate in it. -/
def HasBrokenKey (value : Json) : Prop :=
  ∃ fields, value = .object fields ∧ ∃ key ∈ fields.map Prod.fst, key.hasSurrogate = true

end Json

/-- The row and the column of the cell that an issue is about. -/
def Issue.cell? (issue : Issue) : Option (Nat × Nat) :=
  match issue.place with
  | [.field key, .index row, .index column] =>
    if key = Text.ofString "grid" then some (row, column) else none
  | _ => none

theorem Issue.cell?_of_length {issue : Issue} (short : issue.place.length ≠ 3) :
    issue.cell? = none := by
  rw [Issue.cell?]
  split
  · next shape => simp [shape] at short
  · rfl

/-- The cells that issues are about, in order. -/
def cellsOf (issues : List Issue) : List (Nat × Nat) :=
  issues.filterMap Issue.cell?

theorem cellsOf_of_length {issues : List Issue} (short : ∀ issue ∈ issues, issue.place.length ≠ 3) :
    cellsOf issues = [] :=
  List.filterMap_eq_nil_iff.mpr fun issue told => Issue.cell?_of_length (short issue told)

/-- One cell lies before another one when a grid is gone through row by row. -/
def RowMajor (one other : Nat × Nat) : Prop :=
  one.1 < other.1 ∨ one.1 = other.1 ∧ one.2 < other.2

/-! ## Lists gone through with their indices -/

section Indexed

variable {α β : Type} {items : List α} {told : Nat → α → List β}

theorem mem_indexed {found : β} :
    found ∈ items.zipIdx.flatMap (fun pair => told pair.2 pair.1) ↔
      ∃ index item, items[index]? = some item ∧ found ∈ told index item := by
  rw [List.mem_flatMap]
  constructor
  · rintro ⟨⟨item, index⟩, listed, within⟩
    exact ⟨index, item, List.mem_zipIdx_iff_getElem?.mp listed, within⟩
  · rintro ⟨index, item, listed, within⟩
    exact ⟨(item, index), List.mem_zipIdx_iff_getElem?.mpr listed, within⟩

theorem pairwise_zipIdx (items : List α) :
    items.zipIdx.Pairwise fun one other => one.2 < other.2 := by
  have indices : (items.zipIdx.map Prod.snd).Pairwise (· < ·) := by
    rw [List.zipIdx_map_snd]
    exact List.pairwise_lt_range'
  exact List.pairwise_map.mp indices

theorem pairwise_indexed {order : β → β → Prop}
    (within : ∀ index item, (told index item).Pairwise order)
    (across : ∀ index item next other, index < next → ∀ one ∈ told index item,
      ∀ two ∈ told next other, order one two) :
    (items.zipIdx.flatMap fun pair => told pair.2 pair.1).Pairwise order := by
  refine List.pairwise_flatMap.mpr ⟨fun pair _ => within pair.2 pair.1, ?_⟩
  exact (pairwise_zipIdx items).imp fun {pair later} before =>
    across pair.2 pair.1 later.2 later.1 before

end Indexed

namespace MapDocument

/-- The raw cell in a row and a column. -/
def rawCell? (value : Json) (row column : Nat) : Option Json := do
  let grid ← value.field? "grid"
  let cells ← grid.item? row
  cells.item? column

/-! ## The cells in a report -/

variable {fields : Json.Fields} {row column : Nat} {raw cell value : Json} {pair : Nat × Nat}
  {invalid : Invalid}

/-- What is told of a cell: nothing, or that it stands for no tile. -/
def toldOfCell (row column : Nat) (cell : Json) : List (Nat × Nat) :=
  cellsOf (issuesOf (readCell [.named "grid", .index row, .index column] cell))

/-- The cells that are told of a row. -/
def toldOfRow (row : Nat) (raw : Json) : List (Nat × Nat) :=
  cellsOf (issuesOf (readItems readCell [.named "grid", .index row] raw))

/-- The cells that are told of a grid. -/
def toldOfGrid (raw : Json) : List (Nat × Nat) :=
  cellsOf (issuesOf (readRows raw))

theorem cellsOf_readItems {α : Type} (read : List PathStep → Json → Except (List Issue) α)
    (place : List PathStep) (items : List Json) :
    cellsOf (issuesOf (readItems read place (.array items))) =
      items.zipIdx.flatMap fun pair =>
        cellsOf (issuesOf (read (place ++ [.index pair.2]) pair.1)) := by
  rw [readItems, issuesOf_collect, List.flatMap_map, cellsOf, List.filterMap_flatMap]
  rfl

theorem toldOfRow_array (row : Nat) (cells : List Json) : toldOfRow row (.array cells) =
    cells.zipIdx.flatMap fun pair => toldOfCell row pair.2 pair.1 :=
  cellsOf_readItems ..

theorem toldOfGrid_array (rows : List Json) : toldOfGrid (.array rows) =
    rows.zipIdx.flatMap fun pair => toldOfRow pair.2 pair.1 :=
  cellsOf_readItems ..

theorem mem_toldOfCell :
    pair ∈ toldOfCell row column cell ↔ pair = (row, column) ∧ ∀ tile, ¬ cell.ReadsAs tile := by
  rw [toldOfCell, readCell]
  cases read : readTile cell with
  | ok tile =>
      constructor
      · rintro ⟨⟩
      · rintro ⟨-, unread⟩
        exact absurd (readTile_eq_ok_iff.mp read) (unread tile)
  | error fault =>
      exact ⟨fun told => ⟨List.mem_singleton.mp told, not_readsAs read⟩,
        fun same => List.mem_singleton.mpr same.1⟩

theorem mem_toldOfRow : pair ∈ toldOfRow row raw ↔
    pair.1 = row ∧ ∃ cell, raw.item? pair.2 = some cell ∧ ∀ tile, ¬ cell.ReadsAs tile := by
  cases raw with
  | array cells =>
      rw [toldOfRow_array, mem_indexed]
      constructor
      · rintro ⟨column, cell, found, told⟩
        rcases mem_toldOfCell.mp told with ⟨rfl, unread⟩
        exact ⟨rfl, cell, found, unread⟩
      · rintro ⟨rfl, cell, found, unread⟩
        exact ⟨pair.2, cell, found, mem_toldOfCell.mpr ⟨rfl, unread⟩⟩
  | _ =>
      constructor
      · rintro ⟨⟩
      · rintro ⟨-, _, ⟨⟩, -⟩

theorem mem_toldOfGrid : pair ∈ toldOfGrid raw ↔
    ∃ cell, (raw.item? pair.1).bind (·.item? pair.2) = some cell ∧
      ∀ tile, ¬ cell.ReadsAs tile := by
  cases raw with
  | array rows =>
      rw [toldOfGrid_array, mem_indexed]
      constructor
      · rintro ⟨row, cells, found, told⟩
        rcases mem_toldOfRow.mp told with ⟨rfl, cell, inside, unread⟩
        exact ⟨cell, Option.bind_eq_some_iff.mpr ⟨cells, found, inside⟩, unread⟩
      · rintro ⟨cell, found, unread⟩
        rcases Option.bind_eq_some_iff.mp found with ⟨cells, found, inside⟩
        exact ⟨pair.1, cells, found, mem_toldOfRow.mpr ⟨rfl, cell, inside, unread⟩⟩
  | _ =>
      constructor
      · rintro ⟨⟩
      · rintro ⟨_, ⟨⟩, -⟩

theorem pairwise_toldOfCell (row column : Nat) (cell : Json) :
    (toldOfCell row column cell).Pairwise RowMajor := by
  rw [toldOfCell, readCell]
  cases readTile cell with
  | ok tile => exact .nil
  | error fault => exact List.pairwise_singleton ..

theorem pairwise_toldOfRow (row : Nat) (raw : Json) : (toldOfRow row raw).Pairwise RowMajor := by
  cases raw with
  | array cells =>
      rw [toldOfRow_array]
      refine pairwise_indexed (pairwise_toldOfCell row) ?_
      intro column cell next other before one first two second
      rcases mem_toldOfCell.mp first with ⟨rfl, _⟩
      rcases mem_toldOfCell.mp second with ⟨rfl, _⟩
      exact .inr ⟨rfl, before⟩
  | _ => exact .nil

theorem pairwise_toldOfGrid (raw : Json) : (toldOfGrid raw).Pairwise RowMajor := by
  cases raw with
  | array rows =>
      rw [toldOfGrid_array]
      refine pairwise_indexed pairwise_toldOfRow ?_
      intro row cells next others before one first two second
      have above := (mem_toldOfRow.mp first).1
      have below := (mem_toldOfRow.mp second).1
      exact .inl (by omega)
  | _ => exact .nil

theorem place_of_readName {issue : Issue}
    (told : issue ∈ issuesOf (readField "name" readName fields)) :
    issue.place = [.named "name"] := by
  rw [readField] at told
  split at told
  · cases List.mem_singleton.mp told
    rfl
  · next raw _ =>
      rcases readName_cases raw with ⟨name, accepted, _⟩ | ⟨kind, refused, _⟩
      · rw [accepted] at told
        cases told
      · rw [refused] at told
        cases List.mem_singleton.mp told
        rfl

/-- Only the grid has issues about cells. -/
theorem cellsOf_fieldIssues (fields : Json.Fields) : cellsOf (fieldIssues fields) =
    cellsOf (issuesOf (readField "grid" readRows fields)) := by
  have named : cellsOf (issuesOf (readField "name" readName fields)) = [] :=
    cellsOf_of_length fun issue told => by simp [place_of_readName told]
  have unknown : cellsOf (unknownFields ["name", "grid"] fields) = [] := by
    refine cellsOf_of_length fun issue told => ?_
    rcases List.mem_map.mp told with ⟨field, _, rfl⟩
    simp [Issue.of]
  simp only [cellsOf] at named unknown ⊢
  rw [fieldIssues, List.filterMap_append, List.filterMap_append, named, unknown, List.nil_append,
    List.append_nil]

theorem mem_cellsOf_fieldIssues : pair ∈ cellsOf (fieldIssues fields) ↔
    ∃ cell, rawCell? (.object fields) pair.1 pair.2 = some cell ∧ ∀ tile, ¬ cell.ReadsAs tile := by
  rw [cellsOf_fieldIssues, readField, rawCell?, Json.field?]
  cases fields.get? "grid" with
  | none =>
      constructor
      · rintro ⟨⟩
      · rintro ⟨_, ⟨⟩, -⟩
  | some raw => exact mem_toldOfGrid

theorem pairwise_cellsOf_fieldIssues (fields : Json.Fields) :
    (cellsOf (fieldIssues fields)).Pairwise RowMajor := by
  rw [cellsOf_fieldIssues, readField]
  cases fields.get? "grid" with
  | none => exact .nil
  | some raw => exact pairwise_toldOfGrid raw

/-- What is told about a refused raw value. The cells are told row by row, each once; a broken key
and the shape are told alone. -/
structure Reports (value : Json) (invalid : Invalid) : Prop where
  told : invalid.issues ≠ []
  key : value.HasBrokenKey →
    ∃ issue, invalid.issues = [issue] ∧ issue.place = [] ∧ issue.kind = .brokenText
  cells : ¬ value.HasBrokenKey → ∀ row column, (row, column) ∈ cellsOf invalid.issues ↔
    ∃ cell, rawCell? value row column = some cell ∧ ∀ tile, ¬ cell.ReadsAs tile
  order : (cellsOf invalid.issues).Pairwise RowMajor
  shape : ∀ issue ∈ invalid.issues, issue.IsShape → invalid.issues = [issue]

/-- Whether the shape is told or not, the cells are those that the fields have issues about. -/
theorem reports_of_ofFields (refused : ofFields fields = .error invalid)
    (whole : ¬ (Json.object fields).HasBrokenKey) : Reports (.object fields) invalid := by
  have cells : cellsOf invalid.issues = cellsOf (fieldIssues fields) := by
    rcases issues_of_ofFields refused with ⟨_, issues⟩ | ⟨none, reason, issues⟩
    · rw [issues]
    · rw [issues, none]
      rfl
  refine ⟨?_, fun broken => absurd broken whole, ?_, ?_, ?_⟩
  · rcases issues_of_ofFields refused with ⟨some, issues⟩ | ⟨_, reason, issues⟩
    · rwa [issues]
    · rw [issues]
      exact List.cons_ne_nil _ _
  · intro _ row column
    rw [cells]
    exact mem_cellsOf_fieldIssues
  · rw [cells]
    exact pairwise_cellsOf_fieldIssues fields
  · intro issue told shape
    rcases issues_of_ofFields refused with ⟨_, issues⟩ | ⟨_, reason, issues⟩
    · rw [issues] at told
      exact absurd shape (fieldIssues_plain issue told)
    · rw [issues] at told ⊢
      rw [List.mem_singleton.mp told]

/-- An issue about the whole value is told alone, when no raw cell is there to be told. -/
theorem reports_alone {issue : Issue} (alone : invalid.issues = [issue]) (top : issue.place = [])
    (key : value.HasBrokenKey → issue.kind = .brokenText)
    (bare : ¬ value.HasBrokenKey → ∀ row column, rawCell? value row column = none) :
    Reports value invalid := by
  have cells : cellsOf invalid.issues = [] := cellsOf_of_length (by simp [alone, top])
  refine ⟨?_, fun broken => ⟨issue, alone, top, key broken⟩, ?_, ?_, ?_⟩
  · rw [alone]
    exact List.cons_ne_nil _ _
  · intro whole row column
    simp [cells, bare whole row column]
  · rw [cells]
    exact .nil
  · intro other told _
    rw [alone] at told ⊢
    rw [List.mem_singleton.mp told]

theorem reports_of_ofJson (refused : ofJson value = .error invalid) : Reports value invalid := by
  cases value with
  | object fields =>
      rw [ofJson] at refused
      by_cases broken : (Json.object fields).HasBrokenKey
      · have found : brokenKey? recordName fields =
            some ⟨recordName, [.of [] .brokenText (.object fields)]⟩ := by
          rcases broken with ⟨_, ⟨⟩, key, held, surrogate⟩
          rcases List.mem_map.mp held with ⟨field, listed, rfl⟩
          rw [brokenKey?, if_pos (List.any_eq_true.mpr ⟨field, listed, surrogate⟩)]
        rw [found] at refused
        cases refused
        exact reports_alone rfl rfl (fun _ => rfl) (fun whole => absurd broken whole)
      · have whole : brokenKey? recordName fields = none := by
          rw [brokenKey?_eq_none_iff]
          intro key held
          by_contra surrogate
          exact broken ⟨fields, rfl, key, held, by simpa using surrogate⟩
        rw [whole] at refused
        exact reports_of_ofFields refused broken
  | _ =>
      cases refused
      refine reports_alone rfl rfl ?_ (fun _ _ _ => rfl)
      rintro ⟨_, ⟨⟩, -⟩

end MapDocument

end TileWalk
