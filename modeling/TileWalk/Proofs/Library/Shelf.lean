import Mathlib.Data.List.Forall2
import TileWalk.Library
import TileWalk.Proofs.Json.Reading
import TileWalk.Proofs.Map.Document

/-!
# Shelves of maps

A shelf holds maps in the order in which their names were first put there. The object of a library
stands for a shelf, and storing a document in the object puts it on the shelf.
-/

namespace TileWalk

open TileWalk.Text

/-- Maps in the order in which their names were first put there. -/
abbrev Shelf := List MapDocument

namespace Shelf

variable {shelf : Shelf} {document : MapDocument}

def names (shelf : Shelf) : List String :=
  shelf.map (·.name)

/-- The shelf with a map put on it: in place of the one of its name, or at the end. -/
def put (shelf : Shelf) (document : MapDocument) : Shelf :=
  match shelf with
  | [] => [document]
  | old :: rest => if old.name = document.name then document :: rest else old :: put rest document

/-- The grid of the map with this name. -/
def grid? (shelf : Shelf) (name : Text) : Option Grid :=
  (shelf.find? (Text.ofString ·.name = name)).map (·.grid)

theorem names_put (shelf : Shelf) (document : MapDocument) :
    (shelf.put document).names =
      if document.name ∈ shelf.names then shelf.names else shelf.names ++ [document.name] := by
  induction shelf with
  | nil => rfl
  | cons old rest ih =>
      by_cases same : old.name = document.name
      · simp [put, names, same]
      · have tail : (put rest document).map (·.name) = if document.name ∈ rest.map (·.name) then
            rest.map (·.name) else rest.map (·.name) ++ [document.name] := ih
        by_cases held : document.name ∈ rest.map (·.name)
        · rw [if_pos held] at tail
          simp [put, names, same, tail, List.mem_map.mp held]
        · rw [if_neg held] at tail
          rw [List.mem_map] at held
          simp [put, names, same, tail, held, Ne.symm same]

theorem grid?_put_self (shelf : Shelf) (document : MapDocument) :
    (shelf.put document).grid? document.name = some document.grid := by
  induction shelf with
  | nil => simp [put, grid?]
  | cons old rest ih =>
      by_cases same : old.name = document.name
      · simp [put, grid?, same]
      · have other : Text.ofString old.name ≠ Text.ofString document.name :=
          fun equal => same (Text.ofString_injective equal)
        simpa [put, grid?, same, other] using ih

theorem grid?_put_of_ne {name : Text} (other : name ≠ document.name) (shelf : Shelf) :
    (shelf.put document).grid? name = shelf.grid? name := by
  induction shelf with
  | nil => simp [put, grid?, Ne.symm other]
  | cons old rest ih =>
      by_cases same : old.name = document.name
      · simp [put, grid?, same, Ne.symm other]
      · simp only [grid?] at ih
        by_cases here : Text.ofString old.name = name
        · simp [put, grid?, same, here]
        · simp [put, grid?, same, here, ih]

/-- There is a map of every name. -/
theorem grid?_of_mem {name : String} (listed : name ∈ shelf.names) :
    ∃ grid, shelf.grid? name = some grid := by
  rcases List.mem_map.mp listed with ⟨document, held, rfl⟩
  rw [grid?]
  cases found : shelf.find? (Text.ofString ·.name = document.name) with
  | some first => exact ⟨first.grid, rfl⟩
  | none => simpa using List.find?_eq_none.mp found document held

end Shelf

/-! ## The object of a library -/

namespace Json

variable {doubles : Float → Prop} {levels : Nat} {value : Json} {fields : Fields} {key : Text}

theorem joinPairs_ofString (text : String) : joinPairs (Text.ofString text) = text := by
  rw [ofString, ofChars]
  induction text.toList with
  | nil => rfl
  | cons char chars ih => rw [List.map_cons, joinPairs_cons (by rintro _ _ ⟨_, _, ⟨⟩, _⟩), ih]

theorem mem_of_get? (found : fields.get? key = some value) : (key, value) ∈ fields := by
  induction fields with
  | nil => cases found
  | cons field fields ih =>
      rw [Fields.get?] at found
      split at found
      · next same =>
          cases found
          rw [← same]
          exact List.mem_cons_self ..
      · exact List.mem_cons_of_mem _ (ih found)

/-- Setting a field to the value that it has changes nothing. -/
theorem Fields.set_of_get? (found : fields.get? key = some value) :
    fields.set key value = fields := by
  induction fields with
  | nil => cases found
  | cons field fields ih =>
      rw [Fields.get?] at found
      rw [Fields.set]
      split at found
      · next same =>
          cases found
          rw [if_pos same]
      · next other => rw [if_neg other, ih found]

theorem storable_empty : Storable doubles (levels + 1) (.object []) :=
  .object (by simp) (by simp) (by simp)

theorem Storable.set (storable : Storable doubles (levels + 1) (.object fields))
    (joined : joinPairs key = key) (new : Storable doubles levels value) :
    Storable doubles (levels + 1) (.object (fields.set key value)) := by
  cases storable with
  | object distinct keys each =>
      refine .object (nodup_set distinct) ?_ ?_
      · intro field membership
        rcases mem_set membership with rfl | old
        · exact joined
        · exact keys field old
      · intro field membership
        rcases mem_set membership with rfl | old
        · exact new
        · exact each field old

theorem storable_encodeRows (rows : List (List Tile)) :
    Storable doubles (levels + 2) (MapDocument.encodeRows rows) := by
  refine .array ?_
  rw [List.forall_mem_map]
  intro row _
  refine .array ?_
  rw [List.forall_mem_map]
  intro tile _
  refine .integer ?_
  cases tile <;> decide

end Json

namespace Library

variable {record maps : Json.Fields} {shelf : Shelf} {document : MapDocument}

theorem mapM_eq_ok_iff {ε α β : Type} {f : α → Except ε β} {items : List α} {results : List β} :
    items.mapM f = .ok results ↔
      List.Forall₂ (fun item result => f item = .ok result) items results := by
  induction items generalizing results with
  | nil =>
      rw [List.forall₂_nil_left_iff, List.mapM_nil]
      exact ⟨fun same => (Except.ok.inj same).symm, fun same => by rw [same]; rfl⟩
  | cons item items ih =>
      rw [List.mapM_cons, List.forall₂_cons_left_iff]
      constructor
      · intro ran
        rcases Json.bind_eq_ok.mp ran with ⟨result, first, ran⟩
        rcases Json.bind_eq_ok.mp ran with ⟨others, later, same⟩
        cases same
        exact ⟨result, others, first, ih.mp later, rfl⟩
      · rintro ⟨result, others, first, later, rfl⟩
        exact Json.bind_eq_ok.mpr ⟨result, first, Json.bind_eq_ok.mpr ⟨others, ih.mpr later, rfl⟩⟩

/-- Where a list is gone through with an error, one of its items has led to it. -/
theorem mapM_eq_error {ε α β : Type} {f : α → Except ε β} {items : List α} {error : ε}
    (failed : items.mapM f = .error error) : ∃ item, f item = .error error := by
  induction items with
  | nil => cases failed
  | cons item items ih =>
      rw [List.mapM_cons] at failed
      cases first : f item with
      | error other =>
          rw [first] at failed
          cases failed
          exact ⟨item, first⟩
      | ok result =>
          rw [first] at failed
          cases later : items.mapM f with
          | error other =>
              rw [later] at failed
              cases failed
              exact ih later
          | ok results =>
              rw [later] at failed
              cases failed

/-- The fields of an object hold the maps of a shelf, each under its own name. -/
def Shelved (maps : Json.Fields) (shelf : Shelf) : Prop :=
  List.Forall₂ (fun field document => MapDocument.ofParts (.text field.1) field.2 = .ok document)
    maps shelf

theorem documentsOf_eq_ok_iff :
    documentsOf record = .ok shelf ↔ ∃ maps, storedMaps record = .ok maps ∧ Shelved maps shelf := by
  rw [documentsOf, Json.bind_eq_ok]
  apply exists_congr
  intro maps
  rw [mapM_eq_ok_iff, Shelved]
  apply and_congr_right
  intro _
  constructor
  · apply List.Forall₂.imp
    rintro ⟨name, grid⟩ document read
    dsimp only at read ⊢
    split at read
    · next same => rw [same, Except.ok.inj read]
    · cases read
  · apply List.Forall₂.imp
    rintro ⟨name, grid⟩ document read
    dsimp only at read ⊢
    rw [read]

theorem Shelved.set (shelved : Shelved maps shelf) {grid : Json}
    (read : MapDocument.ofParts (.text document.name) grid = .ok document) :
    Shelved (maps.set document.name grid) (shelf.put document) := by
  induction shelved with
  | nil => exact .cons read .nil
  | @cons field old maps shelf first later ih =>
      have named := MapDocument.name_of_ofParts first
      rw [Json.Fields.set, Shelf.put]
      by_cases same : old.name = document.name
      · rw [if_pos same, if_pos (by rw [named, same])]
        refine .cons ?_ later
        rw [named, same]
        exact read
      · rw [if_neg same, if_neg (by rw [named]; exact fun equal => same (ofString_injective equal))]
        exact .cons first ih

theorem storeDocument_eq_ok (found : storedMaps record = .ok maps) :
    storeDocument document record = .ok (storeDocument.stored document record maps) := by
  rw [storedMaps] at found
  rw [storeDocument]
  split at found <;> simp_all

theorem maps_of_storeDocument {stored : Json.Fields}
    (stores : storeDocument document record = .ok stored) :
    ∃ maps, storedMaps record = .ok maps ∧
      stored = storeDocument.stored document record maps := by
  rw [storeDocument] at stores
  rw [storedMaps]
  split at stores
  · exact ⟨[], by simp_all⟩
  · next maps found => exact ⟨maps, by simp_all⟩
  · cases stores

/-- The maps have the names of the fields that hold them. -/
theorem Shelved.names (shelved : Shelved maps shelf) :
    maps.map Prod.fst = shelf.names.map Text.ofString := by
  induction shelved with
  | nil => rfl
  | cons first _ ih => exact congrArg₂ List.cons (MapDocument.name_of_ofParts first) ih

theorem Shelved.square (shelved : Shelved maps shelf) :
    ∀ document ∈ shelf, document.grid.WellFormed Grid.standardSize := by
  induction shelved with
  | nil => simp
  | cons first _ ih => exact List.forall_mem_cons.mpr ⟨MapDocument.square_of_ofParts first, ih⟩

end Library

end TileWalk
