import TileWalk.Text.Basic

/-!
# Bindings

The variables of a program: names bound to whole numbers of any size. The last binding of a name
is the one that counts.
-/

namespace TileWalk

/-- Names and their values, no name twice. -/
structure Bindings where
  entries : List (Text × Int) := []
deriving DecidableEq, Repr

namespace Bindings

def empty : Bindings := {}

def get? (bindings : Bindings) (name : Text) : Option Int :=
  bindings.entries.lookup name

/-- Entries with a name bound to a value, in its place when it is there already. -/
def setEntry (name : Text) (value : Int) : List (Text × Int) → List (Text × Int)
  | [] => [(name, value)]
  | (other, old) :: rest =>
    if other = name then (name, value) :: rest else (other, old) :: setEntry name value rest

def set (bindings : Bindings) (name : Text) (value : Int) : Bindings :=
  { entries := setEntry name value bindings.entries }

/-- The entries in the order of their names. -/
def sorted (bindings : Bindings) : List (Text × Int) :=
  bindings.entries.mergeSort fun one other => !decide (other.1.codes < one.1.codes)

@[simp] theorem get?_empty (name : Text) : empty.get? name = none := rfl

theorem lookup_setEntry (name other : Text) (value : Int) (entries : List (Text × Int)) :
    (setEntry name value entries).lookup other =
      if other = name then some value else entries.lookup other := by
  induction entries with
  | nil =>
    by_cases h : other = name
    · simp [setEntry, h]
    · simp [setEntry, List.lookup_cons, beq_false_of_ne h, h]
  | cons entry rest ih =>
    obtain ⟨key, old⟩ := entry
    by_cases hk : key = name
    · subst hk
      by_cases h : other = key
      · simp [setEntry, h]
      · simp [setEntry, List.lookup_cons, beq_false_of_ne h, h]
    · by_cases h : other = key
      · subst h
        simp [setEntry, hk]
      · simp [setEntry, hk, List.lookup_cons, beq_false_of_ne h, ih]

/-- Binding a name changes the value of that name and of no other. -/
theorem get?_set (bindings : Bindings) (name other : Text) (value : Int) :
    (bindings.set name value).get? other =
      if other = name then some value else bindings.get? other :=
  lookup_setEntry name other value bindings.entries

end Bindings

end TileWalk
