import Mathlib.Data.List.Induction
import TileWalk.Proofs.Storage.Disk

/-!
# Making folders and writing files

Making the folder of a file that is missing succeeds unless a name is too long, and it adds
nothing but folders on the way. Writing a file there changes what is read at no other path in
that folder.
-/

namespace TileWalk.Storage

open TileWalk.Text

variable {disk : Disk} {folder path : Path} {name : Text} {place : Place}

/-! ## Paths that a disk can have -/

/-- The path of a name in a folder. -/
def Path.entry (folder : Path) (name : Text) : Path :=
  ⟨folder.anchor, folder.parts ++ [name]⟩

theorem nameSize_append (lead tail : Text) :
    Utf8.nameSize (lead ++ tail) = Utf8.nameSize lead + Utf8.nameSize tail := by
  have shift (sum : Nat) (text : Text) :
      text.foldl (fun size point => size + (Utf8.sizeInName? point).getD 0) sum =
        sum + Utf8.nameSize text := by
    induction text generalizing sum with
    | nil => rfl
    | cons point text ih =>
        rw [Utf8.nameSize, List.foldl_cons, List.foldl_cons, ih, ih (0 + _)]
        omega
  rw [Utf8.nameSize, List.foldl_append, shift]
  rfl

theorem findUnwritable_eq_none_iff (position : Nat) {text : Text} :
    Utf8.findUnwritable position text = none ↔
      ∀ point ∈ text, (Utf8.sizeInName? point).isSome := by
  induction text generalizing position with
  | nil => simp [Utf8.findUnwritable]
  | cons point text ih =>
      by_cases here : (Utf8.sizeInName? point).isSome = true
      · simp [Utf8.findUnwritable, here, ih]
      · simp [Utf8.findUnwritable, here]

theorem pathError?_eq_none_iff :
    Disk.pathError? path = none ↔
      (∀ point ∈ path.toText, (Utf8.sizeInName? point).isSome) ∧
        .char '\x00' ∉ path.toText ∧ Utf8.nameSize path.toText ≤ Disk.maxPathSize := by
  rw [← findUnwritable_eq_none_iff 0, Disk.pathError?]
  cases Utf8.findUnwritable 0 path.toText with
  | some failure => simp
  | none =>
      by_cases null : path.toText.contains (.char '\x00') = true
      · simp_all
      · simp_all

theorem join_snoc (separator : Text) (parts : List Text) (last : Text) :
    ∃ tail, Text.join separator (parts ++ [last]) = Text.join separator parts ++ tail := by
  induction parts with
  | nil => exact ⟨last, rfl⟩
  | cons first parts ih =>
      rcases ih with ⟨tail, joined⟩
      cases parts with
      | nil => exact ⟨separator ++ last, by simp [Text.join]⟩
      | cons second parts =>
          refine ⟨tail, ?_⟩
          simpa [Text.join] using joined

/-- A folder of a path that a disk can have is such a path too. -/
theorem pathError?_folder (fine : Disk.pathError? (folder.entry name) = none) :
    Disk.pathError? folder = none := by
  rcases join_snoc "/" folder.parts name with ⟨tail, joined⟩
  rw [pathError?_eq_none_iff] at fine ⊢
  simp only [Path.toText, Path.entry, joined, ← List.append_assoc] at fine ⊢
  generalize Path.anchorText folder.anchor ++ Text.join "/" folder.parts = text at fine ⊢
  cases text with
  | nil =>
      rw [if_pos rfl]
      decide
  | cons point text =>
      rw [if_neg (by simp)] at fine ⊢
      rcases fine with ⟨writable, null, short⟩
      rw [nameSize_append] at short
      refine ⟨?_, ?_, by omega⟩
      · intro other membership
        exact writable other (List.mem_append_left _ membership)
      · intro membership
        exact null (List.mem_append_left _ membership)

/-! ## Finding places -/

theorem Place.isStanding_start (anchor : Anchor) : (Place.start anchor).isStanding = true := by
  cases anchor <;> decide

theorem Disk.locate_eq_ok_iff :
    disk.locate path = .ok place ↔
      pathError? path = none ∧ disk.walk (Place.start path.anchor) path.parts = .ok place := by
  rw [locate]
  cases pathError? path with
  | some error => simp
  | none =>
      cases disk.walk (Place.start path.anchor) path.parts with
      | ok reached => simp
      | error cause => simp

theorem Disk.read_refused {error : DiskError} (refused : pathError? path = some error) :
    disk.read path = .error error := by
  simp [read, locate, refused, bind, Except.bind]

theorem Disk.isFolder_iff :
    disk.isFolder path = true ↔
      ∃ place, disk.locate path = .ok place ∧ disk.get? place = some .folder := by
  rw [isFolder]
  cases disk.locate path with
  | error error => simp
  | ok place =>
      dsimp only
      split
      · next folder => simp [folder]
      · next other => simpa using other

theorem Disk.Grows.locate {grown : Disk} (grows : disk.Grows grown)
    (located : disk.locate path = .ok place) : grown.locate path = .ok place := by
  rw [locate_eq_ok_iff] at located ⊢
  exact ⟨located.1, grows.walk located.2⟩

/-- What has been written to a file is read from it. -/
theorem Disk.read_write {octets : ByteArray} {written : Disk}
    (wrote : disk.write path octets = .ok written) : written.read path = .ok octets := by
  rw [write] at wrote
  cases located : disk.locate path with
  | error error => simp [located, bind, Except.bind] at wrote
  | ok place =>
      simp only [located, bind, Except.bind] at wrote
      split at wrote
      · cases wrote
      · next free =>
          cases wrote
          have loose : place.isStanding = false := by
            rw [← Bool.not_eq_true]
            exact fun standing => free (get?_standing standing)
          have grows : disk.Grows (disk.put place (.file octets)) := .put (.inr free)
          simp only [read, grows.locate located, bind, Except.bind, get?_put_self loose]

/-- Where everything stands in a folder, short names lead to whatever there is. -/
theorem Disk.Rooted.walk {names : List Text} (rooted : disk.Rooted)
    (plain : ∀ name ∈ names, name ≠ Place.above ∧ Utf8.nameSize name ≤ maxNameSize)
    (present : disk.get? (place ++ names) ≠ none) :
    disk.walk place names = .ok (place ++ names) := by
  induction names using List.reverseRecOn with
  | nil => simp [Disk.walk]
  | append_singleton names name ih =>
      rw [← List.append_assoc] at present
      have folder := rooted _ _ present
      have reached := ih (fun other membership => plain other (List.mem_append_left _ membership))
        (by simp [folder])
      rcases plain name (by simp) with ⟨stays, short⟩
      rw [walk_append, reached]
      dsimp only
      rw [walk_name folder short, Place.enter_of_ne stays, List.append_assoc]

theorem Place.foldl_enter {names : List Text} (plain : ∀ name ∈ names, name ≠ Place.above) :
    names.foldl Place.enter place = place ++ names := by
  induction names generalizing place with
  | nil => simp
  | cons name names ih =>
      rcases List.forall_mem_cons.mp plain with ⟨here, later⟩
      rw [List.foldl_cons, enter_of_ne here, ih later, List.append_assoc]
      rfl

/-! ## Making folders -/

/-- A disk on which the folders on the way to a path have been made. -/
structure Disk.Furnished (disk : Disk) (folder : Path) (place : Place) (furnished : Disk) :
    Prop where
  rooted : furnished.Rooted
  grows : disk.Grows furnished
  located : furnished.locate folder = .ok place
  there : furnished.get? place = some .folder
  spares : ∀ other, place.length < other.length → furnished.get? other = disk.get? other

theorem Disk.makeOrFindFolder_found (there : disk.isFolder path = true) :
    disk.makeOrFindFolder path = .ok disk := by
  rcases isFolder_iff.mp there with ⟨place, located, folder⟩
  simp [makeOrFindFolder, makeFolder, located, folder, there, bind, Except.bind]

theorem Disk.makeFolders_entry :
    disk.makeFolders (folder.entry name) =
      match disk.makeFolder (folder.entry name) with
      | .error (.trouble .missing _) =>
        match disk.makeFolders folder with
        | (.ok (), prepared) => prepared.tried (prepared.makeLastFolder (folder.entry name))
        | refused => refused
      | _ => disk.tried (disk.makeOrFindFolder (folder.entry name)) := by
  have whole : (⟨folder.anchor, (name :: folder.parts.reverse).reverse⟩ : Path) =
      folder.entry name := by
    simp [Path.entry]
  rw [makeFolders, Path.entry, List.reverse_concat, makeFoldersAt]
  simp only [whole]
  rfl

theorem Disk.makeFolders_found (there : disk.isFolder path = true) :
    disk.makeFolders path = (.ok (), disk) := by
  rcases isFolder_iff.mp there with ⟨place, located, folder⟩
  have made : disk.makeFolder path = .error (.trouble .exists path) := by
    simp [makeFolder, located, folder, bind, Except.bind]
  rcases path with ⟨anchor, parts⟩
  cases parts using List.reverseRecOn with
  | nil => rw [makeFolders, List.reverse_nil, makeFoldersAt, makeOrFindFolder_found there, tried]
  | append_singleton parts name =>
      change disk.makeFolders (Path.entry ⟨anchor, parts⟩ name) = _
      rw [makeFolders_entry]
      simp only [Path.entry, made, makeOrFindFolder_found there, tried]

/-- A folder is at the end of the names, or can still be made there: no file is in the way. -/
def Disk.Vacant (disk : Disk) (place : Place) (names : List Text) : Prop :=
  disk.walk place names = .error .missing ∨
    ∃ reached, disk.walk place names = .ok reached ∧
      (disk.get? reached = none ∨ disk.get? reached = some .folder)

theorem Disk.vacant_of_missing {names : List Text}
    (missing : disk.walk place (names ++ [name]) = .error .missing) : disk.Vacant place names := by
  rw [walk_append] at missing
  split at missing
  · next reached found =>
      refine .inr ⟨reached, found, ?_⟩
      simp only [walk] at missing
      split at missing
      · next absent => exact .inl absent
      · cases missing
      · next folder => exact .inr folder
  · next cause lost =>
      cases missing
      exact .inl lost

theorem Disk.Furnished.refl (rooted : disk.Rooted) (located : disk.locate folder = .ok place)
    (there : disk.get? place = some .folder) : disk.Furnished folder place disk where
  rooted := rooted
  grows := .refl disk
  located := located
  there := there
  spares := fun _ _ => rfl

/-- One more folder in a folder. -/
theorem Disk.Furnished.put (rooted : disk.Rooted)
    (located : disk.locate path = .ok (place ++ [name])) (there : disk.get? place = some .folder) :
    disk.Furnished path (place ++ [name]) (disk.put (place ++ [name]) .folder) where
  rooted := rooted.put there (.inl rfl)
  grows := .put (.inl rfl)
  located := (Grows.put (.inl rfl)).locate located
  there := by
    rw [get?_put]
    simp [Place.isSame]
  spares := by
    intro other longer
    exact get?_put_of_length (by omega)

theorem Disk.Furnished.trans {place' : Place} {furnished later : Disk}
    (first : disk.Furnished folder place furnished) (second : furnished.Furnished path place' later)
    (further : place.length ≤ place'.length) : disk.Furnished path place' later where
  rooted := second.rooted
  grows := first.grows.trans second.grows
  located := second.located
  there := second.there
  spares := by
    intro other longer
    rw [second.spares other longer, first.spares other (by omega)]

theorem Disk.locate_entry (located : disk.locate folder = .ok place)
    (there : disk.get? place = some .folder) (fine : pathError? (folder.entry name) = none)
    (stays : name ≠ Place.above) (short : Utf8.nameSize name ≤ maxNameSize) :
    disk.locate (folder.entry name) = .ok (place ++ [name]) := by
  rw [locate_eq_ok_iff] at located ⊢
  refine ⟨fine, ?_⟩
  rw [Path.entry, walk_append, located.2]
  dsimp only
  rw [walk_name there short, Place.enter_of_ne stays]

theorem Disk.makeLastFolder_absent (short : Utf8.nameSize name ≤ maxNameSize)
    (leads : (folder.entry name).place = place) (absent : disk.get? place = none) :
    disk.makeLastFolder (folder.entry name) = .ok (disk.put place .folder) := by
  have last : (folder.entry name).parts.getLast? = some name := by
    simp [Path.entry]
  rw [makeLastFolder, last, leads]
  simp [absent, Nat.not_lt.mpr short]

/-- A folder that no file is in the way of can be made. -/
theorem Disk.makeFolders_vacant {anchor : Anchor} {parts : List Text} (rooted : disk.Rooted)
    (plain : ∀ name ∈ parts, name ≠ Place.above ∧ Utf8.nameSize name ≤ maxNameSize)
    (fine : pathError? ⟨anchor, parts⟩ = none) (vacant : disk.Vacant (Place.start anchor) parts) :
    ∃ furnished, disk.makeFolders ⟨anchor, parts⟩ = (.ok (), furnished) ∧
      disk.Furnished ⟨anchor, parts⟩ (Place.start anchor ++ parts) furnished := by
  induction parts using List.reverseRecOn with
  | nil =>
      have located : disk.locate ⟨anchor, []⟩ = .ok (Place.start anchor) :=
        locate_eq_ok_iff.mpr ⟨fine, rfl⟩
      have there := disk.get?_standing (Place.isStanding_start anchor)
      refine ⟨disk, makeFolders_found (isFolder_iff.mpr ⟨_, located, there⟩), ?_⟩
      simpa using Furnished.refl rooted located there
  | append_singleton parts name ih =>
      rcases plain name (by simp) with ⟨stays, short⟩
      have leads : (Path.entry ⟨anchor, parts⟩ name).place =
          Place.start anchor ++ parts ++ [name] := by
        rw [List.append_assoc]
        exact Place.foldl_enter fun other membership => (plain other membership).1
      rw [← List.append_assoc]
      change ∃ furnished, disk.makeFolders (Path.entry ⟨anchor, parts⟩ name) = _ ∧
        disk.Furnished (Path.entry ⟨anchor, parts⟩ name) _ _
      rw [makeFolders_entry]
      rcases vacant with missing | ⟨reached, walked, free⟩
      · -- The folder above is missing too, or has only just been made.
        rcases ih (fun other membership => plain other (List.mem_append_left _ membership))
            (pathError?_folder fine) (vacant_of_missing missing) with ⟨furnished, made, facts⟩
        have absent : disk.get? (Place.start anchor ++ parts ++ [name]) = none := by
          rw [List.append_assoc, ← Option.not_isSome_iff_eq_none, Option.isSome_iff_ne_none]
          intro present
          have walked := rooted.walk plain present
          rw [missing] at walked
          cases walked
        have refused : disk.makeFolder (Path.entry ⟨anchor, parts⟩ name) =
            .error (.trouble .missing (Path.entry ⟨anchor, parts⟩ name)) := by
          simp [makeFolder, locate, Path.entry, fine, missing, bind, Except.bind]
        have located := locate_entry facts.located facts.there fine stays short
        have spared := (facts.spares (_ ++ [name]) (by simp)).trans absent
        refine ⟨_, ?_, facts.trans (.put facts.rooted located facts.there) (by simp)⟩
        rw [refused, made]
        dsimp only
        rw [makeLastFolder_absent short leads spared, tried]
      · have same := walk_plain (fun other membership => (plain other membership).1) walked
        have located : disk.locate (Path.entry ⟨anchor, parts⟩ name) = .ok reached :=
          locate_eq_ok_iff.mpr ⟨fine, walked⟩
        rw [← List.append_assoc] at same
        subst same
        rcases free with absent | there
        · have made : disk.makeFolder (Path.entry ⟨anchor, parts⟩ name) =
              .ok (disk.put (Place.start anchor ++ parts ++ [name]) .folder) := by
            simp only [makeFolder, located, absent, bind, Except.bind]
          have upper : disk.get? (Place.start anchor ++ parts) = some .folder := by
            rcases walk_snoc_ok walked with ⟨above, reached, folder, -⟩
            rwa [walk_plain (fun other membership => (plain other (by simp [membership])).1)
              reached] at folder
          refine ⟨_, ?_, .put rooted located upper⟩
          simp only [made, makeOrFindFolder, tried]
        · have found := isFolder_iff.mpr ⟨_, located, there⟩
          refine ⟨disk, ?_, .refl rooted located there⟩
          rw [← makeFolders_entry, makeFolders_found found]

/-! ## Folders that cannot be made -/

/-- The same files are on both disks, each with the same octets. -/
def Disk.SameFiles (disk later : Disk) : Prop :=
  ∀ place octets, later.get? place = some (.file octets) ↔ disk.get? place = some (.file octets)

theorem Disk.SameFiles.refl (disk : Disk) : disk.SameFiles disk :=
  fun _ _ => .rfl

theorem Disk.SameFiles.trans {later last : Disk} (first : disk.SameFiles later)
    (second : later.SameFiles last) : disk.SameFiles last :=
  fun place octets => (second place octets).trans (first place octets)

/-- A new folder takes the place of no file. -/
theorem Disk.SameFiles.put (absent : disk.get? place = none) :
    disk.SameFiles (disk.put place .folder) := by
  intro other octets
  rw [get?_put]
  split
  · next standing => simp [get?_standing standing]
  · split
    · next same => simp [← get?_congr same, absent]
    · rfl

theorem Disk.makeOrFindFolder_files {made : Disk} (ok : disk.makeOrFindFolder path = .ok made) :
    disk.SameFiles made := by
  rw [makeOrFindFolder] at ok
  split at ok
  · next making =>
      cases ok
      cases located : disk.locate path with
      | error error => simp [makeFolder, located, bind, Except.bind] at making
      | ok place =>
          simp only [makeFolder, located, bind, Except.bind] at making
          split at making
          · cases making
          · next absent =>
              cases making
              exact .put absent
  · split at ok
    · cases ok
      exact .refl disk
    · cases ok

theorem Disk.makeLastFolder_files {made : Disk} (ok : disk.makeLastFolder path = .ok made) :
    disk.SameFiles made := by
  rw [makeLastFolder] at ok
  split at ok
  · cases ok
  · split at ok
    · next absent =>
        cases ok
        exact .put absent
    · cases ok
      exact .refl disk
    · cases ok

theorem Disk.tried_files {tried : Except DiskError Disk}
    (files : ∀ made, tried = .ok made → disk.SameFiles made) :
    disk.SameFiles (disk.tried tried).2 := by
  cases tried with
  | ok made => exact files made rfl
  | error error => exact .refl disk

/-- Making folders changes no file, also where it fails on the way. -/
theorem Disk.makeFolders_files (disk : Disk) (path : Path) :
    disk.SameFiles (disk.makeFolders path).2 := by
  rcases path with ⟨anchor, parts⟩
  induction parts using List.reverseRecOn with
  | nil => exact tried_files fun _ => makeOrFindFolder_files
  | append_singleton parts name ih =>
      change disk.SameFiles (disk.makeFolders (Path.entry ⟨anchor, parts⟩ name)).2
      rw [makeFolders_entry]
      split
      · split
        · next prepared made =>
            rw [made] at ih
            exact ih.trans (tried_files fun _ => makeLastFolder_files)
        · exact ih
      · exact tried_files fun _ => makeOrFindFolder_files

/-- What is in a folder can only be reached when the folder is there. -/
theorem Disk.isFolder_of_locate (located : disk.locate (folder.entry name) = .ok place) :
    disk.isFolder folder = true := by
  rcases locate_eq_ok_iff.mp located with ⟨fine, walked⟩
  rcases walk_snoc_ok walked with ⟨reached, found, there, -⟩
  exact isFolder_iff.mpr ⟨reached, locate_eq_ok_iff.mpr ⟨pathError?_folder fine, found⟩, there⟩

theorem Disk.locate_of_read {octets : ByteArray} (reads : disk.read path = .ok octets) :
    ∃ place, disk.locate path = .ok place := by
  cases located : disk.locate path with
  | ok place => exact ⟨place, rfl⟩
  | error error => simp [read, located, bind, Except.bind] at reads

theorem Disk.walk_leads {names : List Text} {other : Place}
    (walked : disk.walk place names = .ok other) : other = names.foldl Place.enter place := by
  induction names generalizing place with
  | nil =>
      cases walked
      rfl
  | cons name names ih =>
      simp only [walk] at walked
      split at walked
      · cases walked
      · cases walked
      · split at walked
        · cases walked
        · exact ih walked

/-- A folder that is there is found without following its path once more. -/
theorem Disk.makeLastFolder_found (there : disk.isFolder (folder.entry name) = true) :
    disk.makeLastFolder (folder.entry name) = .ok disk := by
  rcases isFolder_iff.mp there with ⟨place, located, found⟩
  rcases locate_eq_ok_iff.mp located with ⟨-, walked⟩
  rcases walk_snoc_ok walked with ⟨-, -, -, short, -⟩
  have last : (folder.entry name).parts.getLast? = some name := by
    simp [Path.entry]
  have leads : (folder.entry name).place = place := (walk_leads walked).symm
  rw [makeLastFolder, last, leads]
  simp [found, Nat.not_lt.mpr short]

/-- A folder that could not be made is not there afterwards. -/
theorem Disk.makeFolders_refused {later : Disk} {cause : DiskError}
    (refused : disk.makeFolders path = (.error cause, later)) : later.isFolder path = false := by
  have unfound {path : Path} {disk later : Disk} {cause : DiskError}
      (refused : disk.tried (disk.makeOrFindFolder path) = (.error cause, later)) :
      later.isFolder path = false := by
    cases making : disk.makeOrFindFolder path with
    | ok made =>
        rw [making] at refused
        cases refused
    | error error =>
        rw [making] at refused
        cases refused
        rw [← Bool.not_eq_true]
        intro there
        rw [makeOrFindFolder_found there] at making
        cases making
  rcases path with ⟨anchor, parts⟩
  induction parts using List.reverseRecOn generalizing later cause with
  | nil => exact unfound refused
  | append_singleton parts name ih =>
      change later.isFolder (Path.entry ⟨anchor, parts⟩ name) = false
      change disk.makeFolders (Path.entry ⟨anchor, parts⟩ name) = _ at refused
      rw [makeFolders_entry] at refused
      rw [← Bool.not_eq_true]
      intro there
      split at refused
      · split at refused
        · next prepared made =>
            cases making : prepared.makeLastFolder (Path.entry ⟨anchor, parts⟩ name) with
            | ok last =>
                rw [making] at refused
                cases refused
            | error error =>
                rw [making] at refused
                cases refused
                rw [makeLastFolder_found there] at making
                cases making
        · rcases isFolder_iff.mp there with ⟨place, located, -⟩
          have upper := ih refused
          rw [isFolder_of_locate located] at upper
          cases upper
      · rw [unfound refused] at there
        cases there

/-! ## Files in a folder -/

/-- A name that stays in the folder, told apart from the root and from the step upwards. -/
structure Loose (name : Text) : Prop where
  slashless : Utf8.nameOctets name ≠ Utf8.nameOctets "/"
  stays : Utf8.nameOctets name ≠ Utf8.nameOctets Place.above

theorem Loose.ne_above (loose : Loose name) : name ≠ Place.above := by
  rintro rfl
  exact loose.stays rfl

theorem Loose.isStanding (loose : Loose name) : Place.isStanding (place ++ [name]) = false := by
  rw [← Bool.not_eq_true]
  intro standing
  simp only [Place.isStanding, Bool.or_eq_true, List.all_append, Bool.and_eq_true] at standing
  rcases standing with root | ⟨-, up⟩
  · rw [Place.root, ← List.nil_append [Text.ofString "/"]] at root
    exact loose.slashless (Place.isSame_snoc.mp root).2
  · exact loose.stays (by simpa using up)

/-- Reading a file of a folder that is there depends on nothing but its own entry. -/
theorem Disk.read_entry_congr {grown : Disk} (located : disk.locate folder = .ok place)
    (located' : grown.locate folder = .ok place) (there : disk.get? place = some .folder)
    (there' : grown.get? place = some .folder) (loose : Loose name)
    (same : grown.get? (place ++ [name]) = disk.get? (place ++ [name])) :
    grown.read (folder.entry name) = disk.read (folder.entry name) := by
  cases fine : pathError? (folder.entry name) with
  | some error => rw [read_refused fine, read_refused fine]
  | none =>
      by_cases short : Utf8.nameSize name ≤ maxNameSize
      · have found := locate_entry located there fine loose.ne_above short
        have found' := locate_entry located' there' fine loose.ne_above short
        simp only [read, found, found', same, bind, Except.bind]
      · have long (disk : Disk) (located : disk.locate folder = .ok place)
            (there : disk.get? place = some .folder) :
            disk.locate (folder.entry name) =
              .error (.trouble .nameTooLong (folder.entry name)) := by
          rw [locate, fine, Path.entry, walk_append, (locate_eq_ok_iff.mp located).2]
          simp [walk, there, Nat.lt_of_not_le short]
        simp only [read, long disk located there, long grown located' there', bind, Except.bind]

/-- Where a file that is not there yet, or is overwritten, can be put: its folder is there, or its
path takes no step upwards and all names in it are short. -/
def Disk.Admits (disk : Disk) (folder : Path) (name : Text) : Prop :=
  disk.isFolder folder = true ∨
    (∀ other ∈ folder.parts, other ≠ Place.above ∧ Utf8.nameSize other ≤ maxNameSize) ∧
      Utf8.nameSize name ≤ maxNameSize

/-- A disk on which a file has been written anew in a folder. -/
structure Disk.Stored (disk : Disk) (folder : Path) (name : Text) (octets : ByteArray)
    (stored : Disk) : Prop where
  rooted : stored.Rooted
  there : stored.isFolder folder = true
  reads : stored.read (folder.entry name) = .ok octets
  spares : ∀ other, Loose other → Utf8.nameOctets other ≠ Utf8.nameOctets name →
    disk.Admits folder other → stored.read (folder.entry other) = disk.read (folder.entry other)

/-- A path that no disk can have is not merely missing. -/
theorem Disk.pathError?_ne_missing (path other : Path) :
    pathError? path ≠ some (.trouble .missing other) := by
  intro missing
  rw [pathError?] at missing
  split at missing
  · cases missing
  · split at missing
    · cases missing
    · split at missing <;> cases missing

/-- A file that is missing is reported by its own path. -/
theorem Disk.read_missing {other : Path}
    (missing : disk.read path = .error (.trouble .missing other)) : other = path := by
  cases fine : pathError? path with
  | some error =>
      rw [read_refused fine, Except.error.injEq] at missing
      subst missing
      exact absurd fine (pathError?_ne_missing path other)
  | none =>
      simp only [read, locate, fine] at missing
      cases walked : disk.walk (Place.start path.anchor) path.parts with
      | error cause =>
          simp only [walked, bind, Except.bind, Except.error.injEq,
            DiskError.trouble.injEq] at missing
          exact missing.2.symm
      | ok reached =>
          simp only [walked, bind, Except.bind] at missing
          split at missing
          · cases missing
            rfl
          · cases missing
          · cases missing

/-- The file at a path is there, or nothing but missing. -/
def Disk.Readable (disk : Disk) (path : Path) : Prop :=
  (∃ octets, disk.read path = .ok octets) ∨ disk.read path = .error (.trouble .missing path)

theorem Disk.Readable.walk (readable : disk.Readable path) :
    pathError? path = none ∧
      (disk.walk (Place.start path.anchor) path.parts = .error .missing ∨
        ∃ reached, disk.walk (Place.start path.anchor) path.parts = .ok reached ∧
          disk.get? reached ≠ some .folder) := by
  cases fine : pathError? path with
  | some error =>
      have refused : disk.read path = .error error := read_refused fine
      have other : error ≠ .trouble .missing path := by
        rintro rfl
        exact pathError?_ne_missing path path fine
      rcases readable with ⟨octets, reads⟩ | missing
      · rw [refused] at reads
        cases reads
      · rw [refused] at missing
        exact absurd (Except.error.inj missing) other
  | none =>
      refine ⟨rfl, ?_⟩
      cases walked : disk.walk (Place.start path.anchor) path.parts with
      | ok reached =>
          refine .inr ⟨reached, rfl, ?_⟩
          intro folder
          simp [Readable, read, locate, fine, walked, folder, bind, Except.bind] at readable
      | error cause =>
          simp [Readable, read, locate, fine, walked, bind, Except.bind] at readable
          exact .inl (by rw [readable])

theorem Disk.Readable.vacant (readable : disk.Readable (folder.entry name)) :
    disk.Vacant (Place.start folder.anchor) folder.parts := by
  rcases readable.walk.2 with missing | ⟨reached, walked, -⟩
  · exact vacant_of_missing missing
  · rcases walk_snoc_ok walked with ⟨place, found, there, -⟩
    exact .inr ⟨place, found, .inr there⟩

/-- Nothing lies in a folder that is not there. -/
theorem Disk.Rooted.get?_folderless (rooted : disk.Rooted)
    (fine : pathError? (folder.entry name) = none)
    (plain : ∀ other ∈ folder.parts, other ≠ Place.above ∧ Utf8.nameSize other ≤ maxNameSize)
    (folderless : disk.isFolder folder = false) :
    disk.get? (Place.start folder.anchor ++ folder.parts ++ [name]) = none := by
  rw [← Option.not_isSome_iff_eq_none, Option.isSome_iff_ne_none]
  intro present
  have there := rooted _ _ present
  have walked : disk.walk (Place.start folder.anchor) folder.parts =
      .ok (Place.start folder.anchor ++ folder.parts) := rooted.walk plain (by simp [there])
  have found : disk.isFolder folder = true :=
    isFolder_iff.mpr ⟨_, locate_eq_ok_iff.mpr ⟨pathError?_folder fine, walked⟩, there⟩
  rw [folderless] at found
  cases found

/-- No file is read from a folder that is not there. -/
theorem Disk.Readable.read_folderless {other : Text} (readable : disk.Readable (folder.entry name))
    (folderless : disk.isFolder folder = false)
    (fine : pathError? (folder.entry other) = none) :
    disk.read (folder.entry other) = .error (.trouble .missing (folder.entry other)) := by
  have lost : disk.walk (Place.start folder.anchor) (folder.parts ++ [other]) =
      .error .missing := by
    rw [walk_append]
    rcases readable.vacant with missing | ⟨reached, walked, absent | there⟩
    · rw [missing]
    · simp [walked, Disk.walk, absent]
    · have located := locate_eq_ok_iff.mpr ⟨pathError?_folder fine, walked⟩
      rw [isFolder_iff.mpr ⟨_, located, there⟩] at folderless
      cases folderless
  have lost : disk.locate (folder.entry other) =
      .error (.trouble .missing (folder.entry other)) := by
    rw [locate, fine, Path.entry, lost]
  simp [read, lost, bind, Except.bind]

/-- Where the folder of a file is there or can be made, it can be made ready for the file. -/
theorem Disk.Readable.furnished (readable : disk.Readable (folder.entry name))
    (rooted : disk.Rooted) (loose : Loose name) (admits : disk.Admits folder name) :
    ∃ place furnished, disk.makeFolders folder = (.ok (), furnished) ∧
      disk.Furnished folder place furnished ∧
      furnished.locate (folder.entry name) = .ok (place ++ [name]) ∧
      furnished.get? (place ++ [name]) ≠ some .folder := by
  rcases readable.walk with ⟨fine, missing | ⟨reached, walked, free⟩⟩
  · cases folderless : disk.isFolder folder with
    | true =>
        rcases isFolder_iff.mp folderless with ⟨place, located, there⟩
        rw [Path.entry, walk_append, (locate_eq_ok_iff.mp located).2] at missing
        simp only [Disk.walk, there] at missing
        split at missing <;> cases missing
    | false =>
        rcases admits with there | ⟨plain, short⟩
        · rw [folderless] at there
          cases there
        · rcases makeFolders_vacant rooted plain (pathError?_folder fine) readable.vacant with
            ⟨furnished, made, facts⟩
          refine ⟨_, furnished, made, facts,
            locate_entry facts.located facts.there fine loose.ne_above short, ?_⟩
          rw [facts.spares _ (by simp), rooted.get?_folderless fine plain folderless]
          simp
  · rcases walk_snoc_ok walked with ⟨place, found, there, -, same⟩
    rw [Place.enter_of_ne loose.ne_above] at same
    subst same
    have located := locate_eq_ok_iff.mpr ⟨pathError?_folder fine, found⟩
    exact ⟨place, disk, makeFolders_found (isFolder_iff.mpr ⟨_, located, there⟩),
      .refl rooted located there, locate_eq_ok_iff.mpr ⟨fine, walked⟩, free⟩

/-- Writing a file that is there or only missing succeeds, and spares the other files of its
folder. -/
theorem Disk.Readable.stored (readable : disk.Readable (folder.entry name))
    (rooted : disk.Rooted) (loose : Loose name) (admits : disk.Admits folder name)
    (octets : ByteArray) :
    ∃ furnished stored, disk.makeFolders folder = (.ok (), furnished) ∧
      furnished.write (folder.entry name) octets = .ok stored ∧
      disk.Stored folder name octets stored := by
  rcases readable.furnished rooted loose admits with ⟨place, furnished, made, facts, located, free⟩
  have grows : furnished.Grows (furnished.put (place ++ [name]) (.file octets)) := .put (.inr free)
  refine ⟨furnished, furnished.put (place ++ [name]) (.file octets), made, ?_, ?_⟩
  · simp only [write, located, bind, Except.bind]
  · constructor
    · exact facts.rooted.put facts.there (.inr free)
    · exact isFolder_iff.mpr ⟨place, grows.locate facts.located, grows _ facts.there⟩
    · simp [read, grows.locate located, get?_put_self loose.isStanding, bind, Except.bind]
    · intro other loose' apart admits'
      have same : (furnished.put (place ++ [name]) (.file octets)).get? (place ++ [other]) =
          disk.get? (place ++ [other]) := by
        rw [get?_put_of_not_same, facts.spares _ (by simp)]
        rw [← Bool.not_eq_true, Place.isSame_snoc]
        intro names
        exact apart names.2.symm
      cases folderless : disk.isFolder folder with
      | true =>
          rcases isFolder_iff.mp folderless with ⟨first, found, there⟩
          have one := (facts.grows.locate found).symm.trans facts.located
          cases one
          exact read_entry_congr found (grows.locate facts.located) there (grows _ facts.there)
            loose' same
      | false =>
          rcases admits' with there | ⟨plain, short⟩
          · rw [folderless] at there
            cases there
          · cases fine : pathError? (folder.entry other) with
            | some error => rw [read_refused fine, read_refused fine]
            | none =>
                have whole := walk_plain (fun name membership => (plain name membership).1)
                  (locate_eq_ok_iff.mp facts.located).2
                have absent := rooted.get?_folderless fine plain folderless
                rw [← whole, ← same] at absent
                have located' := locate_entry (grows.locate facts.located) (grows _ facts.there)
                  fine loose'.ne_above short
                rw [readable.read_folderless folderless fine]
                simp only [read, located', absent, bind, Except.bind]

end TileWalk.Storage
