import TileWalk.Library
import TileWalk.Proofs.Storage.Folder

/-!
# The file of a library

The name of a library's file stays in its folder. Users whose names differ in their octets have
files of their own.
-/

namespace TileWalk

open TileWalk.Text TileWalk.Storage

/-! ## Names in a path -/

theorem Text.mem_join (separator : Text) {text : Text} {texts : List Text} {point : CodePoint}
    (inside : point ∈ text) (membership : text ∈ texts) : point ∈ join separator texts := by
  induction texts with
  | nil => cases membership
  | cons first texts ih =>
      cases texts with
      | nil =>
          rw [List.mem_singleton] at membership
          rwa [join, ← membership]
      | cons second texts =>
          rw [join.eq_3 _ _ _ (by simp), List.mem_append, List.mem_append]
          rcases List.mem_cons.mp membership with rfl | later
          · exact .inl (.inl inside)
          · exact .inr (ih later)

theorem Storage.Path.mem_toText {path : Path} {name : Text} {point : CodePoint}
    (inside : point ∈ name) (membership : name ∈ path.parts) : point ∈ path.toText := by
  have joined : point ∈ anchorText path.anchor ++ Text.join "/" path.parts :=
    List.mem_append_right _ (Text.mem_join _ inside membership)
  rw [toText, if_neg (List.ne_nil_of_mem joined)]
  exact joined

/-- Names of two and more code points are neither empty nor a single dot. -/
theorem Storage.Path.splitNames_long {text last : Text} {names : List Text}
    (split : text.splitOn (.char '/') = names ++ [last]) (long : 2 ≤ last.length) :
    ∃ kept, splitNames text = kept ++ [last] ∧ (names = [] → kept = []) := by
  have some : last ≠ [] := by
    rintro rfl
    simp at long
  have other : last ≠ "." := by
    rintro rfl
    exact absurd long (by decide)
  refine ⟨names.filter fun name => !(name = [] || name = "."), ?_, ?_⟩
  · rw [splitNames, split, List.filter_append]
    simp [some, other]
  · rintro rfl
    rfl

/-- An end without slashes stays in the last name. -/
theorem Storage.Path.splitNames_append (text : Text) {ending : Text}
    (slashless : .char '/' ∉ ending) (long : 2 ≤ ending.length) :
    ∃ names last, splitNames (text ++ ending) = names ++ [last ++ ending] := by
  have split : ∃ names last, (text ++ ending).splitOn (.char '/') = names ++ [last ++ ending] := by
    induction text with
    | nil => exact ⟨[], [], List.splitOn_eq_singleton slashless⟩
    | cons point text ih =>
        rcases ih with ⟨names, last, split⟩
        rw [List.cons_append, List.splitOn_cons_eq_if_modifyHead, split]
        split
        · exact ⟨[] :: names, last, rfl⟩
        · cases names with
          | nil => exact ⟨[], point :: last, rfl⟩
          | cons name names => exact ⟨(point :: name) :: names, last, rfl⟩
  rcases split with ⟨names, last, split⟩
  rcases splitNames_long split (by rw [List.length_append]; omega) with ⟨kept, same, -⟩
  exact ⟨kept, last, same⟩

theorem Storage.Path.splitNames_slashless {text : Text} (slashless : .char '/' ∉ text)
    (long : 2 ≤ text.length) : splitNames text = [text] := by
  have split : text.splitOn (.char '/') = [] ++ [text] := List.splitOn_eq_singleton slashless
  rcases splitNames_long split long with ⟨kept, same, none⟩
  rw [same, none rfl]
  rfl

theorem Text.Utf8.nameOctets_append (lead tail : Text) :
    nameOctets (lead ++ tail) = nameOctets lead ++ nameOctets tail :=
  List.flatMap_append

namespace Library

variable {library other : Library}

/-- The name of a library's file in the folder that it lies in. -/
def fileName (library : Library) : Text :=
  library.path.parts.getLast?.getD []

theorem path_eq (library : Library) :
    library.path = ⟨library.folder.anchor,
      library.folder.parts ++ Path.splitNames ("maps_" ++ library.user ++ ".json")⟩ :=
  rfl

theorem fileName_of_parts {names : List Text} {last : Text}
    (split : Path.splitNames ("maps_" ++ library.user ++ ".json") = names ++ [last]) :
    library.fileName = last ∧
      library.path.parent = ⟨library.folder.anchor, library.folder.parts ++ names⟩ := by
  rw [fileName, path_eq, split, ← List.append_assoc, Path.parent]
  simp

theorem fileName_ends (library : Library) :
    ∃ lead, library.fileName = lead ++ (".json" : Text) ∧
      library.path = library.path.parent.entry library.fileName := by
  rcases Path.splitNames_append ("maps_" ++ library.user) (by decide : .char '/' ∉ (".json" : Text))
    (by decide) with ⟨names, last, split⟩
  rcases fileName_of_parts split with ⟨file, folder⟩
  refine ⟨last, file, ?_⟩
  rw [folder, file, path_eq, split]
  simp [Path.entry]

theorem path_entry (library : Library) :
    library.path = library.path.parent.entry library.fileName :=
  library.fileName_ends.choose_spec.2

theorem loose (library : Library) : Loose library.fileName := by
  rcases library.fileName_ends with ⟨lead, file, -⟩
  have long : 5 ≤ (Utf8.nameOctets library.fileName).length := by
    have ending : (Utf8.nameOctets ".json").length = 5 := by decide
    rw [file, Utf8.nameOctets_append, List.length_append]
    omega
  constructor
  · intro same
    rw [same] at long
    exact absurd long (by decide)
  · intro same
    rw [same] at long
    exact absurd long (by decide)

/-- Without slashes in the user's name, the file lies in the library's folder. -/
theorem fileName_slashless (slashless : .char '/' ∉ library.user) :
    library.fileName = "maps_" ++ library.user ++ ".json" ∧
      library.path.parent = library.folder := by
  have plain : .char '/' ∉ ("maps_" ++ library.user ++ ".json" : Text) := by
    have lead : .char '/' ∉ ("maps_" : Text) := by decide
    have ending : .char '/' ∉ (".json" : Text) := by decide
    simp [lead, ending, slashless]
  have long : 2 ≤ ("maps_" ++ library.user ++ ".json" : Text).length := by
    have lead : ("maps_" : Text).length = 5 := by decide
    rw [List.length_append, List.length_append]
    omega
  have split : Path.splitNames ("maps_" ++ library.user ++ ".json") =
      [] ++ [("maps_" ++ library.user ++ ".json" : Text)] := Path.splitNames_slashless plain long
  rcases fileName_of_parts split with ⟨file, folder⟩
  exact ⟨file, by simpa using folder⟩

/-- Users whose names differ in their octets have files whose names do. -/
theorem fileName_apart (slashless : .char '/' ∉ library.user) (slashless' : .char '/' ∉ other.user)
    (apart : Utf8.nameOctets other.user ≠ Utf8.nameOctets library.user) :
    Utf8.nameOctets other.fileName ≠ Utf8.nameOctets library.fileName := by
  rw [(fileName_slashless slashless).1, (fileName_slashless slashless').1]
  simpa [Utf8.nameOctets_append] using apart

/-- A user whose name has no octets has no file. -/
theorem pathError?_unwritable (slashless : .char '/' ∉ library.user)
    (unwritable : Utf8.findUnwritable 0 library.user ≠ none) :
    Disk.pathError? library.path ≠ none := by
  intro fine
  apply unwritable
  rw [findUnwritable_eq_none_iff]
  intro point membership
  apply (pathError?_eq_none_iff.mp fine).1
  rw [path_entry]
  have inside : point ∈ library.fileName := by
    simp [(fileName_slashless slashless).1, membership]
  exact Path.mem_toText inside (by simp [Path.entry])

end Library

end TileWalk
