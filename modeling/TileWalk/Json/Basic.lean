import TileWalk.Text.Basic

/-!
# JSON values

Numbers keep the sort in which they were written: whole numbers of any size, or doubles. Objects
keep the order of their fields.
-/

namespace TileWalk

open TileWalk.Text

inductive Json where
  | null
  | bool (value : Bool)
  | integer (value : Int)
  | float (value : Float)
  | text (value : Text)
  | array (items : List Json)
  | object (fields : List (Text × Json))

instance : Inhabited Json := ⟨.null⟩

namespace Json

/-- The fields of an object, in order. -/
abbrev Fields := List (Text × Json)

def string (text : String) : Json :=
  .text (Text.ofString text)

/-- The value of the field with this key. -/
def Fields.get? (fields : Fields) (key : Text) : Option Json :=
  match fields with
  | [] => none
  | (name, value) :: rest => if name = key then some value else Fields.get? rest key

/-- The fields with one value set: in its place when the key is there, at the end otherwise. -/
def Fields.set (fields : Fields) (key : Text) (value : Json) : Fields :=
  match fields with
  | [] => [(key, value)]
  | (name, old) :: rest =>
    if name = key then (name, value) :: rest else (name, old) :: Fields.set rest key value

/-- Fields that may repeat a key, made into an object's: the last value wins, at the first place. -/
def Fields.ofPairs (pairs : List (Text × Json)) : Fields :=
  pairs.foldl (fun fields pair => Fields.set fields pair.1 pair.2) []

theorem Fields.get?_set_self (fields : Fields) (key : Text) (value : Json) :
    (fields.set key value).get? key = some value := by
  induction fields with
  | nil => simp [Fields.set, Fields.get?]
  | cons field rest ih =>
    by_cases h : field.1 = key
    · simp [Fields.set, Fields.get?, h]
    · simp [Fields.set, Fields.get?, h, ih]

theorem Fields.get?_set_of_ne (fields : Fields) {key other : Text} (value : Json)
    (h : other ≠ key) : (fields.set key value).get? other = fields.get? other := by
  induction fields with
  | nil => simp [Fields.set, Fields.get?, Ne.symm h]
  | cons field rest ih =>
    by_cases hk : field.1 = key
    · simp [Fields.set, Fields.get?, hk, Ne.symm h]
    · by_cases ho : field.1 = other
      · simp [Fields.set, Fields.get?, ho, h]
      · simp [Fields.set, Fields.get?, hk, ho, ih]

/-- The keys after setting a field: the same ones, or one more at the end. -/
theorem Fields.keys_set (fields : Fields) (key : Text) (value : Json) :
    (fields.set key value).map Prod.fst =
      if key ∈ fields.map Prod.fst then fields.map Prod.fst
      else fields.map Prod.fst ++ [key] := by
  induction fields with
  | nil => simp [Fields.set]
  | cons field rest ih =>
    by_cases h : field.1 = key
    · simp [Fields.set, h]
    · simp only [Fields.set, h, if_false, List.map_cons, ih, List.mem_cons, Ne.symm h, false_or]
      split <;> simp

end Json

end TileWalk
