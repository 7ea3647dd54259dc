import TileWalk.Storage.Disk

/-!
# Files in folders

On a disk on which everything stands in a folder, a folder that is missing can be made, and
putting a file into it leaves what lies elsewhere as it was.
-/

namespace TileWalk.Storage

open TileWalk.Text

variable {disk : Disk} {place other : Place} {name : Text} {names : List Text} {entry : Entry}

/-! ## Places -/

theorem Place.isSame_iff :
    place.isSame other = true ↔ place.map Utf8.nameOctets = other.map Utf8.nameOctets := by
  simp [isSame]

theorem Place.length_of_isSame (same : place.isSame other = true) :
    place.length = other.length := by
  simpa using congrArg List.length (isSame_iff.mp same)

theorem Place.isSame_snoc {last : Text} :
    Place.isSame (place ++ [name]) (other ++ [last]) = true ↔
      place.isSame other = true ∧ Utf8.nameOctets name = Utf8.nameOctets last := by
  simp [isSame_iff]

theorem Place.isStanding_congr (same : place.isSame other = true) :
    place.isStanding = other.isStanding := by
  have names := isSame_iff.mp same
  have ups (path : Place) : (path.all fun name => Utf8.nameOctets name == Utf8.nameOctets above) =
      (path.map Utf8.nameOctets).all (· == Utf8.nameOctets above) := by
    simp [List.all_map, Function.comp_def]
  simp only [isStanding, isSame, ups, names]

/-- The folder above a place that is always there is always there too. -/
theorem Place.isStanding_of_snoc (standing : Place.isStanding (place ++ [name]) = true) :
    place.isStanding = true := by
  simp only [isStanding, Bool.or_eq_true, List.all_append, Bool.and_eq_true] at standing ⊢
  rcases standing with root | ups
  · have length := length_of_isSame root
    cases place with
    | nil => simp
    | cons first place => simp [Place.root] at length
  · exact .inr ups.1

theorem Place.enter_of_ne (plain : name ≠ above) : place.enter name = place ++ [name] := by
  simp [enter, plain]

theorem Disk.get?_congr (same : place.isSame other = true) : disk.get? place = disk.get? other := by
  have names := Place.isSame_iff.mp same
  have lookup : (fun found : Place × Entry => found.1.isSame place) =
      fun found => found.1.isSame other := by
    funext found
    simp [Place.isSame, names]
  simp only [get?, Place.isStanding_congr same, lookup]

theorem Disk.get?_standing (standing : place.isStanding = true) :
    disk.get? place = some .folder := by
  simp [get?, standing]

/-! ## Putting an entry at a place -/

theorem Disk.find?_putEntry (entries : List (Place × Entry)) :
    ((putEntry place entry entries).find? fun found => found.1.isSame other).map (·.2) =
      if place.isSame other then some entry
      else (entries.find? fun found => found.1.isSame other).map (·.2) := by
  induction entries with
  | nil =>
      by_cases same : place.isSame other = true
      · simp [putEntry, same]
      · simp [putEntry, same]
  | cons first entries ih =>
      by_cases here : first.1.isSame place = true
      · have names := Place.isSame_iff.mp here
        by_cases same : place.isSame other = true
        · simp [putEntry, here, same]
        · have apart : ¬ first.1.isSame other = true := by
            rw [Place.isSame_iff, names, ← Place.isSame_iff]
            exact same
          simp [putEntry, here, same, apart]
      · by_cases found : first.1.isSame other = true
        · have apart : ¬ place.isSame other = true := by
            intro same
            apply here
            rw [Place.isSame_iff] at found same ⊢
            rw [found, same]
          simp [putEntry, here, found, apart]
        · simpa [putEntry, here, found] using ih

theorem Disk.get?_put :
    (disk.put place entry).get? other =
      if other.isStanding then some .folder
      else if place.isSame other then some entry else disk.get? other := by
  by_cases standing : other.isStanding = true
  · simp [get?, standing]
  · simp [get?, standing, put, find?_putEntry]

theorem Disk.get?_put_self (loose : place.isStanding = false) :
    (disk.put place entry).get? place = some entry := by
  simp [get?_put, loose, Place.isSame]

theorem Disk.get?_put_of_not_same (apart : place.isSame other = false) :
    (disk.put place entry).get? other = disk.get? other := by
  simp only [get?_put, apart]
  by_cases standing : other.isStanding = true
  · simp [standing, get?_standing]
  · simp [standing]

theorem Disk.get?_put_of_length (apart : place.length ≠ other.length) :
    (disk.put place entry).get? other = disk.get? other := by
  apply get?_put_of_not_same
  rw [← Bool.not_eq_true]
  exact mt Place.length_of_isSame apart

/-! ## Disks that keep their folders -/

/-- All folders of one disk are on the other one too. -/
def Disk.Grows (disk grown : Disk) : Prop :=
  ∀ place, disk.get? place = some .folder → grown.get? place = some .folder

theorem Disk.Grows.refl (disk : Disk) : disk.Grows disk :=
  fun _ folder => folder

theorem Disk.Grows.trans {grown later : Disk} (first : disk.Grows grown)
    (second : grown.Grows later) : disk.Grows later :=
  fun place folder => second place (first place folder)

theorem Disk.Grows.put (fits : entry = .folder ∨ disk.get? place ≠ some .folder) :
    disk.Grows (disk.put place entry) := by
  intro other folder
  rw [get?_put]
  split
  · rfl
  · split
    · next same =>
        rcases fits with rfl | free
        · rfl
        · rw [get?_congr same] at free
          exact absurd folder free
    · exact folder

/-- Whatever is on the disk stands in a folder. -/
def Disk.Rooted (disk : Disk) : Prop :=
  ∀ place name, disk.get? (place ++ [name]) ≠ none → disk.get? place = some .folder

theorem Disk.rooted_empty : (⟨[]⟩ : Disk).Rooted := by
  intro place name present
  apply get?_standing
  rw [get?] at present
  split at present
  · next standing => exact Place.isStanding_of_snoc standing
  · simp at present

theorem Disk.Rooted.put (rooted : disk.Rooted) (folder : disk.get? place = some .folder)
    (fits : entry = .folder ∨ disk.get? (place ++ [name]) ≠ some .folder) :
    (disk.put (place ++ [name]) entry).Rooted := by
  intro parent last present
  apply Grows.put fits
  rw [get?_put] at present
  split at present
  · next standing => exact get?_standing (Place.isStanding_of_snoc standing)
  · split at present
    · next same => rwa [← get?_congr (Place.isSame_snoc.mp same).1]
    · exact rooted parent last present

/-! ## Following names -/

theorem Disk.walk_append (later : List Text) :
    disk.walk place (names ++ later) =
      match disk.walk place names with
      | .ok reached => disk.walk reached later
      | .error cause => .error cause := by
  induction names generalizing place with
  | nil => rfl
  | cons first names ih =>
      simp only [List.cons_append, walk]
      split
      · rfl
      · rfl
      · split
        · rfl
        · exact ih

/-- A folder lets through to the names in it that are not too long. -/
theorem Disk.walk_name (folder : disk.get? place = some .folder)
    (short : Utf8.nameSize name ≤ maxNameSize) :
    disk.walk place [name] = .ok (place.enter name) := by
  simp [walk, folder, Nat.not_lt.mpr short]

theorem Disk.walk_name_ok (reached : disk.walk place [name] = .ok other) :
    disk.get? place = some .folder ∧ Utf8.nameSize name ≤ maxNameSize ∧
      other = place.enter name := by
  simp only [walk] at reached
  split at reached
  · cases reached
  · cases reached
  · next folder =>
      split at reached
      · cases reached
      · next short =>
          cases reached
          exact ⟨folder, Nat.not_lt.mp short, rfl⟩

theorem Disk.walk_snoc_ok (walked : disk.walk place (names ++ [name]) = .ok other) :
    ∃ reached, disk.walk place names = .ok reached ∧ disk.get? reached = some .folder ∧
      Utf8.nameSize name ≤ maxNameSize ∧ other = reached.enter name := by
  rw [walk_append] at walked
  split at walked
  · next reached found => exact ⟨reached, found, walk_name_ok walked⟩
  · cases walked

theorem Disk.Grows.walk {grown : Disk} (grows : disk.Grows grown)
    (reached : disk.walk place names = .ok other) : grown.walk place names = .ok other := by
  induction names generalizing place with
  | nil => exact reached
  | cons name names ih =>
      rw [← List.singleton_append, walk_append] at reached ⊢
      cases first : disk.walk place [name] with
      | error cause => simp [first] at reached
      | ok next =>
          rw [first] at reached
          rcases walk_name_ok first with ⟨folder, short, rfl⟩
          rw [walk_name (grows place folder) short]
          exact ih reached

/-- Names without steps upwards lead further down. -/
theorem Disk.walk_plain (plain : ∀ name ∈ names, name ≠ Place.above)
    (reached : disk.walk place names = .ok other) : other = place ++ names := by
  induction names generalizing place with
  | nil =>
      cases reached
      simp
  | cons name names ih =>
      rcases List.forall_mem_cons.mp plain with ⟨here, later⟩
      rw [← List.singleton_append, walk_append] at reached
      cases first : disk.walk place [name] with
      | error cause => simp [first] at reached
      | ok next =>
          rw [first] at reached
          rcases walk_name_ok first with ⟨-, -, rfl⟩
          rw [Place.enter_of_ne here] at reached
          simpa using ih later reached

end TileWalk.Storage
