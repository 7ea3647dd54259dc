import Mathlib.Data.List.Forall2
import TileWalk.Proofs.Map.Document
import TileWalk.Proofs.Map.Spelling

/-!
# What raw values stand for

A raw value stands for a tile, for a name or for a list of what its items stand for. The readers of
map documents accept just the values that stand for something, and tell something about every other
one.
-/

namespace TileWalk

open TileWalk.Text TileWalk.Decimal

/-! ## Raw values that stand for tiles -/

/-- A finite number is this whole number. -/
def Decimal.Dyadic.IsWhole (parts : Decimal.Dyadic) (number : Int) : Prop :=
  ∃ size : Nat,
    parts.mantissa * Nat.pow 2 parts.exponent.toNat = size * Nat.pow 2 (-parts.exponent).toNat ∧
      number = if parts.negative then -(size : Int) else size

namespace Json

/-- The whole number that a raw value stands for. -/
inductive Denotes : Json → Int → Prop where
  | integer (number : Int) : Denotes (.integer number) number
  | float {value : Float} {parts : Decimal.Dyadic} {number : Int}
      (finite : Double.ofFloat value = .finite parts) (whole : parts.IsWhole number) :
      Denotes (.float value) number
  | no : Denotes (.bool false) 0
  | yes : Denotes (.bool true) 1
  | text {value : Text} {number : Int} (spelled : Numeral.SpellsWhole value number) :
      Denotes (.text value) number

/-- A raw value stands for the code of a tile. -/
def ReadsAs (value : Json) (tile : Tile) : Prop :=
  value.Denotes tile.code

end Json

namespace Tile

theorem ofCode?_eq_some_iff {code : Int} {tile : Tile} :
    ofCode? code = some tile ↔ code = tile.code := by
  constructor
  · intro found
    have same := List.find?_some found
    simpa using Eq.symm (of_decide_eq_true same)
  · rintro rfl
    exact ofCode?_code tile

theorem fitsWord_code (tile : Tile) : Numeral.fitsWord tile.code = true := by
  cases tile <;> decide

end Tile

namespace MapDocument

theorem wholeFloat?_eq_some_iff {value : Float} {number : Int} :
    wholeFloat? value = some number ↔
      ∃ parts, Double.ofFloat value = .finite parts ∧ parts.IsWhole number := by
  rw [wholeFloat?]
  cases Double.ofFloat value with
  | infinite negative => simp
  | notANumber => simp
  | finite parts =>
      have positive : 0 < Nat.pow 2 (-parts.exponent).toNat := Nat.two_pow_pos _
      simp only [Double.finite.injEq, exists_eq_left']
      constructor
      · intro found
        split at found
        · next whole =>
            cases found
            exact ⟨_, (Nat.div_mul_cancel (Nat.dvd_of_mod_eq_zero whole)).symm, rfl⟩
        · cases found
      · rintro ⟨size, equal, rfl⟩
        rw [equal, if_pos (Nat.mul_mod_left ..), Nat.mul_div_cancel size positive]

theorem wholeNumber?_eq_some_iff {value : Json} {number : Int}
    (fits : Numeral.fitsWord number = true) :
    wholeNumber? value = some number ↔ value.Denotes number := by
  constructor
  · intro found
    cases value with
    | integer whole =>
        cases found
        exact .integer number
    | float double =>
        rcases wholeFloat?_eq_some_iff.mp (Option.filter_eq_some_iff.mp found).1 with
          ⟨parts, finite, whole⟩
        exact .float finite whole
    | bool truth =>
        cases truth with
        | false =>
            cases found
            exact .no
        | true =>
            cases found
            exact .yes
    | text spelling => exact .text (textInteger?_eq_some_iff.mp found)
    | null => cases found
    | array items => cases found
    | object fields => cases found
  · intro denotes
    cases denotes with
    | integer => rfl
    | float finite whole =>
        exact Option.filter_eq_some_iff.mpr
          ⟨wholeFloat?_eq_some_iff.mpr ⟨_, finite, whole⟩, fits⟩
    | no => rfl
    | yes => rfl
    | text spelled => exact textInteger?_eq_some_iff.mpr spelled

theorem readTile_eq_ok_iff {value : Json} {tile : Tile} :
    readTile value = .ok tile ↔ value.ReadsAs tile := by
  rw [Json.ReadsAs, ← wholeNumber?_eq_some_iff tile.fitsWord_code]
  constructor
  · intro read
    rw [readTile] at read
    split at read
    · cases read
    · next code found =>
        split at read
        · split at read
          · next known =>
              cases read
              rw [found, Tile.ofCode?_eq_some_iff.mp known]
          · cases read
        · cases read
  · intro found
    simp only [readTile, found, tile.fitsWord_code, if_true, Tile.ofCode?_code]

theorem not_readsAs {value : Json} {fault : IssueKind × Json}
    (refused : readTile value = .error fault) (tile : Tile) : ¬ value.ReadsAs tile := by
  rw [← readTile_eq_ok_iff, refused]
  rintro ⟨⟩

end MapDocument

/-- The issue is about the shape of a whole that is in order in all its parts. -/
def Issue.IsShape (issue : Issue) : Prop :=
  ∃ reason, issue.kind = .rejected reason

namespace MapDocument

/-! ## Readers -/

variable {α : Type} {read : List PathStep → Json → Except (List Issue) α}
  {meaning : Json → α → Prop} {results : List (Except (List Issue) α)} {values : List α}

theorem collect_cons_eq_ok_iff {result : Except (List Issue) α} :
    collect (result :: results) = .ok values ↔
      ∃ value others, result = .ok value ∧ collect results = .ok others ∧
        values = value :: others := by
  cases result with
  | error issues =>
      rw [collect]
      cases collect results <;> simp
  | ok value =>
      rw [collect]
      cases collect results <;> simp [Except.map, eq_comm]

/-- The issues of a list are those of its parts, in order. -/
theorem issuesOf_collect (results : List (Except (List Issue) α)) :
    issuesOf (collect results) = results.flatMap issuesOf := by
  induction results with
  | nil => rfl
  | cons result results ih =>
      rw [List.flatMap_cons, ← ih]
      cases result with
      | error issues =>
          rw [collect]
          cases collect results <;> simp [issuesOf]
      | ok value =>
          rw [collect]
          cases collect results <;> simp [issuesOf, Except.map]

theorem collect_ne_error_nil (told : ∀ result ∈ results, result ≠ .error []) :
    collect results ≠ .error [] := by
  induction results with
  | nil => simp [collect]
  | cons result results ih =>
      rw [List.forall_mem_cons] at told
      have later := ih told.2
      cases result with
      | error issues =>
          have first := told.1
          rw [collect]
          cases collect results <;> simp_all
      | ok value =>
          rw [collect]
          generalize collect results = rest at later ⊢
          cases rest <;> simp_all [Except.map]

/-- A reader accepts the values that have a meaning. It tells something about every other value,
and nothing about shapes. -/
structure Reader (read : List PathStep → Json → Except (List Issue) α)
    (meaning : Json → α → Prop) : Prop where
  accepts : ∀ {place value result}, read place value = .ok result ↔ meaning value result
  tells : ∀ place value, read place value ≠ .error []
  plain : ∀ place value, ∀ issue ∈ issuesOf (read place value), ¬ issue.IsShape

theorem kind_of_readTile {value fault : Json} {kind : IssueKind}
    (refused : readTile value = .error (kind, fault)) : kind = notATile ∨ kind = .tooLarge := by
  rw [readTile] at refused
  split at refused
  · cases refused
    exact .inl rfl
  · split at refused
    · split at refused
      · cases refused
      · cases refused
        exact .inl rfl
    · cases refused
      exact .inr rfl

theorem reader_cell : Reader readCell Json.ReadsAs where
  accepts := by
    intro place value tile
    rw [readCell, ← readTile_eq_ok_iff]
    cases readTile value <;> simp
  tells := by
    intro place value
    rw [readCell]
    cases readTile value <;> simp
  plain := by
    rintro place value issue told ⟨reason, shape⟩
    rw [readCell] at told
    split at told
    · cases told
    · next kind fault refused =>
        cases List.mem_singleton.mp told
        rcases kind_of_readTile refused with rfl | rfl <;> cases shape

/-- The items of a raw list mean these values, one by one. -/
def ListOf (meaning : Json → α → Prop) (value : Json) (values : List α) : Prop :=
  ∃ items, value = .array items ∧ List.Forall₂ meaning items values

theorem Reader.items (reader : Reader read meaning) :
    Reader (readItems read) (ListOf meaning) where
  accepts := by
    intro place value values
    cases value with
    | array items =>
        -- The first index is arbitrary, so that the items after the first can be gone through.
        have collected (start : Nat) :
            collect ((items.zipIdx start).map fun pair => read (place ++ [.index pair.2]) pair.1) =
              .ok values ↔ List.Forall₂ meaning items values := by
          induction items generalizing start values with
          | nil => simp [collect, eq_comm]
          | cons item items ih =>
              simp only [List.zipIdx_cons, List.map_cons, collect_cons_eq_ok_iff, reader.accepts,
                ih, List.forall₂_cons_left_iff]
        simpa [ListOf, readItems] using collected 0
    | _ => simp [readItems, ListOf]
  tells := by
    intro place value
    cases value with
    | array items =>
        refine collect_ne_error_nil ?_
        rw [List.forall_mem_map]
        exact fun pair _ => reader.tells _ pair.1
    | _ => simp [readItems]
  plain := by
    intro place value issue told
    cases value with
    | array items =>
        rw [readItems, issuesOf_collect, List.flatMap_map, List.mem_flatMap] at told
        rcases told with ⟨pair, _, told⟩
        exact reader.plain _ pair.1 issue told
    | _ =>
        cases List.mem_singleton.mp told
        rintro ⟨reason, ⟨⟩⟩

theorem reader_rows : Reader (readItems (readItems readCell)) (ListOf (ListOf Json.ReadsAs)) :=
  reader_cell.items.items

/-- A raw value is this name. -/
def Named (value : Json) (name : String) : Prop :=
  value = .text name ∧ name ≠ ""

/-- A raw value is a name, or it is told what keeps it from being one. -/
theorem readName_cases (value : Json) :
    (∃ name, readName value = .ok name ∧ Named value name) ∨
      ∃ kind, readName value = .error [.of [.named "name"] kind value] ∧
        ∀ reason, kind ≠ .rejected reason := by
  cases value with
  | text key =>
      cases spelled : key.toString? with
      | none => exact .inr ⟨.brokenText, by rw [readName, spelled], by rintro _ ⟨⟩⟩
      | some plain =>
          rw [Text.eq_ofString spelled]
          by_cases empty : plain = ""
          · subst empty
            exact .inr ⟨.emptyText, rfl, by rintro _ ⟨⟩⟩
          · exact .inl ⟨plain, readName_plain empty, rfl, empty⟩
  | _ => exact .inr ⟨.notText, rfl, by rintro _ ⟨⟩⟩

theorem reader_name : Reader (fun _ => readName) Named where
  accepts := by
    intro _ value name
    constructor
    · intro read
      rcases readName_cases value with ⟨same, accepted, named⟩ | ⟨kind, refused, _⟩
      · cases Except.ok.inj (accepted.symm.trans read)
        exact named
      · cases refused.symm.trans read
    · rintro ⟨rfl, filled⟩
      exact readName_plain filled
  tells := by
    intro _ value nothing
    rcases readName_cases value with ⟨name, accepted, _⟩ | ⟨kind, refused, _⟩
    · cases accepted.symm.trans nothing
    · cases refused.symm.trans nothing
  plain := by
    rintro _ value issue told ⟨reason, shape⟩
    rcases readName_cases value with ⟨name, accepted, _⟩ | ⟨kind, refused, other⟩
    · rw [accepted] at told
      cases told
    · rw [refused] at told
      cases List.mem_singleton.mp told
      exact other reason shape

/-! ## The fields of a document -/

variable {fields : Json.Fields} {key : String} {document : MapDocument} {invalid : Invalid}

theorem Reader.field_eq_ok_iff (reader : Reader read meaning) (place : List PathStep) {value : α} :
    readField key (read place) fields = .ok value ↔
      ∃ raw, fields.get? key = some raw ∧ meaning raw value := by
  rw [readField]
  cases fields.get? key with
  | none => simp
  | some raw => simp [reader.accepts]

theorem Reader.field_tells (reader : Reader read meaning) (place : List PathStep) :
    readField key (read place) fields ≠ .error [] := by
  rw [readField]
  cases fields.get? key with
  | none => simp
  | some raw => exact reader.tells place raw

theorem Reader.field_plain (reader : Reader read meaning) (place : List PathStep) :
    ∀ issue ∈ issuesOf (readField key (read place) fields), ¬ issue.IsShape := by
  intro issue told
  rw [readField] at told
  cases found : fields.get? key with
  | none =>
      rw [found] at told
      cases List.mem_singleton.mp told
      rintro ⟨reason, ⟨⟩⟩
  | some raw =>
      rw [found] at told
      exact reader.plain place raw issue told

theorem readName_field_iff {name : String} : readField "name" readName fields = .ok name ↔
    ∃ raw, fields.get? "name" = some raw ∧ Named raw name :=
  reader_name.field_eq_ok_iff []

theorem readRows_field_iff {rows : List (List Tile)} : readField "grid" readRows fields = .ok rows ↔
    ∃ raw, fields.get? "grid" = some raw ∧ ListOf (ListOf Json.ReadsAs) raw rows :=
  reader_rows.field_eq_ok_iff [.named "grid"]

/-- What is wrong with the fields one by one. -/
def fieldIssues (fields : Json.Fields) : List Issue :=
  issuesOf (readField "name" readName fields) ++ issuesOf (readField "grid" readRows fields) ++
    unknownFields ["name", "grid"] fields

theorem issuesOf_eq_nil_iff {result : Except (List Issue) α} (tells : result ≠ .error []) :
    issuesOf result = [] ↔ ∃ value, result = .ok value := by
  cases result <;> simp_all [issuesOf]

theorem fieldIssues_eq_nil_iff : fieldIssues fields = [] ↔
    (∃ name, readField "name" readName fields = .ok name) ∧
      (∃ rows, readField "grid" readRows fields = .ok rows) ∧
        unknownFields ["name", "grid"] fields = [] := by
  have named : readField "name" readName fields ≠ .error [] := reader_name.field_tells []
  have laid : readField "grid" readRows fields ≠ .error [] :=
    reader_rows.field_tells [.named "grid"]
  rw [fieldIssues, List.append_eq_nil_iff, List.append_eq_nil_iff, and_assoc,
    issuesOf_eq_nil_iff named, issuesOf_eq_nil_iff laid]

theorem ofFields_eq_ok_iff : ofFields fields = .ok document ↔
    readField "name" readName fields = .ok document.name ∧
      readField "grid" readRows fields = .ok document.rows ∧
        unknownFields ["name", "grid"] fields = [] ∧ Square document.rows := by
  constructor
  · intro read
    rw [ofFields] at read
    split at read
    · next name rows named laid known =>
        split at read
        · next fits =>
            cases read
            exact ⟨named, laid, known, shapeIssue?_eq_none_iff.mp fits⟩
        · cases read
    · cases read
  · rintro ⟨named, laid, known, square⟩
    simp only [ofFields, named, laid, known, shapeIssue?_eq_none_iff.mpr square]

/-- The shape is told about alone, and only when every field is in order. -/
theorem issues_of_ofFields (refused : ofFields fields = .error invalid) :
    (fieldIssues fields ≠ [] ∧ invalid.issues = fieldIssues fields) ∨
      (fieldIssues fields = [] ∧
        ∃ reason, invalid.issues = [.of [] (.rejected reason) (.object fields)]) := by
  rw [ofFields] at refused
  split at refused
  · next name rows named laid known =>
      split at refused
      · cases refused
      · next reason _ =>
          cases refused
          exact .inr ⟨fieldIssues_eq_nil_iff.mpr ⟨⟨name, named⟩, ⟨rows, laid⟩, known⟩, reason, rfl⟩
  · next wrong =>
      cases refused
      refine .inl ⟨?_, rfl⟩
      intro none
      rcases fieldIssues_eq_nil_iff.mp none with ⟨⟨name, named⟩, ⟨rows, laid⟩, known⟩
      exact wrong name rows named laid known

theorem fieldIssues_plain : ∀ issue ∈ fieldIssues fields, ¬ issue.IsShape := by
  intro issue told
  rw [fieldIssues, List.mem_append, List.mem_append] at told
  rcases told with (told | told) | told
  · exact reader_name.field_plain [] issue told
  · exact reader_rows.field_plain [.named "grid"] issue told
  · rcases List.mem_map.mp told with ⟨field, _, rfl⟩
    rintro ⟨reason, ⟨⟩⟩

end MapDocument

theorem unknownFields_eq_nil_iff {known : List String} {fields : Json.Fields} :
    unknownFields known fields = [] ↔ ∀ key ∈ fields.map Prod.fst, key ∈ known.map ofString := by
  simp [unknownFields, List.filter_eq_nil_iff]

theorem brokenKey?_eq_none_iff {record : String} {fields : Json.Fields} :
    brokenKey? record fields = none ↔ ∀ key ∈ fields.map Prod.fst, key.hasSurrogate = false := by
  simp [brokenKey?]

end TileWalk
