import TileWalk.Proofs.Library.Record

/-!
# Saving maps

A library whose object can be read is a shelf. A map that is saved is put on the shelf, and what
else is in the object stays, as do the libraries of other users in the folder.
-/

namespace TileWalk.Library

open TileWalk.Text TileWalk.Storage

variable {library : Library} {archive after : Archive} {record maps : Json.Fields} {shelf : Shelf}
  {document : MapDocument}

/-! ## What a library answers -/

theorem loadAllWithin_eq (library : Library) (requests : Nat) (archive : Archive) :
    (library.loadAllWithin requests archive).1 =
      (library.readRecord requests archive).1.bind documentsOf := by
  rw [loadAllWithin]
  split <;> next same => rw [same]; rfl

theorem list_eq (library : Library) (archive : Archive) :
    (library.list archive).1 = (library.loadAllWithin 1 archive).1.map Shelf.names := by
  rw [list]
  split <;> next same => rw [same]; rfl

theorem loadWithin_eq (library : Library) (requests : Nat) (name : Text) (archive : Archive) :
    (library.loadWithin requests name archive).1 =
      (library.loadAllWithin (requests + 1) archive).1.bind fun shelf : Shelf =>
        (shelf.grid? name).elim (.error (.unknownMap name library.user)) .ok := by
  rw [loadWithin]
  split
  · next same =>
      rw [same]
      rfl
  · next shelf _ same =>
      rw [same]
      dsimp only [Except.bind]
      rw [Shelf.grid?]
      split <;> next found => rw [found]; rfl

theorem load_eq (library : Library) (name : Text) (archive : Archive) :
    (library.load name archive).1 = (library.loadAllWithin 1 archive).1.bind fun shelf : Shelf =>
      (shelf.grid? name).elim (.error (.unknownMap name library.user)) .ok :=
  library.loadWithin_eq 0 name archive

theorem firstWithin_eq (library : Library) (requests : Nat) (archive : Archive) :
    (library.firstWithin requests archive).1 =
      (library.loadAllWithin (requests + 1) archive).1.map fun shelf =>
        shelf.head?.map (·.grid) := by
  rw [firstWithin]
  split <;> next same => rw [same]; rfl

theorem first_eq (library : Library) (archive : Archive) :
    (library.first archive).1 =
      (library.loadAllWithin 1 archive).1.map fun shelf => shelf.head?.map (·.grid) :=
  library.firstWithin_eq 0 archive

/-! ## What asking leaves behind -/

section After

variable (library : Library) (archive : Archive)

theorem loadAllWithin_after (requests : Nat) :
    (library.loadAllWithin requests archive).2 = (library.readRecord requests archive).2 := by
  rw [loadAllWithin]
  split <;> next same => rw [same]

theorem list_after : (library.list archive).2 = (library.loadAllWithin 1 archive).2 := by
  rw [list]
  split <;> next same => rw [same]

theorem firstWithin_after (requests : Nat) : (library.firstWithin requests archive).2 =
    (library.loadAllWithin (requests + 1) archive).2 := by
  rw [firstWithin]
  split <;> next same => rw [same]

theorem loadWithin_after (requests : Nat) (name : Text) :
    (library.loadWithin requests name archive).2 =
      (library.loadAllWithin (requests + 1) archive).2 := by
  rw [loadWithin]
  split
  · next same => rw [same]
  · next same =>
      rw [same]
      split <;> rfl

theorem loadAllWithin_disk (requests : Nat) :
    (library.loadAllWithin requests archive).2.disk = archive.disk := by
  rw [loadAllWithin_after, readRecord_disk]

theorem list_disk : (library.list archive).2.disk = archive.disk := by
  rw [list_after, loadAllWithin_disk]

theorem first_disk : (library.first archive).2.disk = archive.disk := by
  rw [first, firstWithin_after, loadAllWithin_disk]

end After

/-! ## What is listed -/

/-- A map that is listed is there. -/
theorem load_of_list {names : List String} {name : String}
    (listed : (library.list archive).1 = .ok names) (held : name ∈ names) :
    ∃ grid, (library.load name archive).1 = .ok grid := by
  rw [list_eq] at listed
  rw [load_eq]
  cases loaded : (library.loadAllWithin 1 archive).1 with
  | error error => simp [loaded, Except.map] at listed
  | ok shelf =>
      rw [loaded] at listed
      cases listed
      rcases Shelf.grid?_of_mem held with ⟨grid, found⟩
      exact ⟨grid, by simp [Except.bind, found]⟩

/-- No name is listed twice. -/
theorem list_nodup {names : List String} (listed : (library.list archive).1 = .ok names) :
    names.Nodup := by
  rw [list_eq, loadAllWithin_eq] at listed
  cases reads : (library.readRecord 1 archive).1 with
  | error error => simp [reads, Except.bind, Except.map] at listed
  | ok record =>
      cases stands : documentsOf record with
      | error error => simp [reads, stands, Except.bind, Except.map] at listed
      | ok shelf =>
          simp only [reads, Except.bind, stands, Except.map, Except.ok.injEq] at listed
          rcases documentsOf_eq_ok_iff.mp stands with ⟨maps, found, shelved⟩
          have storable : Json.Storable (fun _ => True) (983 + 2) (.object record) :=
            storable_of_readRecord reads (by decide)
          cases storable_maps storable found with
          | object distinct _ _ =>
              rw [shelved.names, listed] at distinct
              exact List.Pairwise.of_map Text.ofString (fun _ _ apart same => apart (congrArg _ same))
                distinct

/-- The maps of a library are squares of tiles. -/
theorem loadAllWithin_square {requests : Nat}
    (loaded : (library.loadAllWithin requests archive).1 = .ok shelf) :
    ∀ document ∈ shelf, document.grid.WellFormed Grid.standardSize := by
  rw [loadAllWithin_eq] at loaded
  rcases Json.bind_eq_ok.mp loaded with ⟨record, -, stands⟩
  rcases documentsOf_eq_ok_iff.mp stands with ⟨maps, -, shelved⟩
  exact shelved.square

theorem loadWithin_square {requests : Nat} {name : Text} {grid : Grid}
    (found : (library.loadWithin requests name archive).1 = .ok grid) :
    grid.WellFormed Grid.standardSize := by
  rw [loadWithin_eq] at found
  rcases Json.bind_eq_ok.mp found with ⟨shelf, loaded, found⟩
  rw [Shelf.grid?] at found
  cases known : shelf.find? (ofString ·.name = name) with
  | none => simp [known] at found
  | some document =>
      rw [known] at found
      cases found
      exact loadAllWithin_square loaded document (List.mem_of_find?_eq_some known)

theorem firstWithin_square {requests : Nat} {grid : Grid}
    (found : (library.firstWithin requests archive).1 = .ok (some grid)) :
    grid.WellFormed Grid.standardSize := by
  rw [firstWithin_eq] at found
  cases loaded : (library.loadAllWithin (requests + 1) archive).1 with
  | error error => simp [loaded, Except.map] at found
  | ok shelf =>
      rw [loaded, Except.map, Except.ok.injEq, Option.map_eq_some_iff] at found
      rcases found with ⟨document, head, rfl⟩
      exact loadAllWithin_square loaded document (List.mem_of_head? head)

/-- A library answers what the shelf of its maps does. -/
structure Answers (library : Library) (archive : Archive) (shelf : Shelf) : Prop where
  loadAll : (library.loadAll archive).1 = .ok shelf
  list : (library.list archive).1 = .ok shelf.names
  load : ∀ name, (library.load name archive).1 =
    (shelf.grid? name).elim (.error (.unknownMap name library.user)) .ok
  first : (library.first archive).1 = .ok (shelf.head?.map (·.grid))

/-- A library answers in one archive as it does in another. -/
structure Unchanged (library : Library) (archive after : Archive) : Prop where
  loadAll : (library.loadAll after).1 = (library.loadAll archive).1
  list : (library.list after).1 = (library.list archive).1
  load : ∀ name, (library.load name after).1 = (library.load name archive).1
  first : (library.first after).1 = (library.first archive).1

theorem unchanged_of_read (same : after.disk.read library.path = archive.disk.read library.path) :
    library.Unchanged archive after := by
  have all (requests : Nat) : (library.loadAllWithin requests after).1 =
      (library.loadAllWithin requests archive).1 := by
    rw [loadAllWithin_eq, loadAllWithin_eq, readRecord_congr same]
  constructor
  · exact all 0
  · rw [list_eq, list_eq, all]
  · intro name
    rw [load_eq, load_eq, all]
  · rw [first_eq, first_eq, all]

/-! ## Libraries that are shelves -/

/-- The object of a library can be read, holds the maps of a shelf, and can be written. The doubles
in it are read back from their own texts. -/
structure Holds (library : Library) (archive : Archive) (record : Json.Fields) (shelf : Shelf) :
    Prop where
  rooted : archive.disk.Rooted
  admits : archive.disk.Admits library.path.parent library.fileName
  reads : ∀ requests ≤ 1, (library.readRecord requests archive).1 = .ok record
  stands : documentsOf record = .ok shelf
  doubles : ∀ double, Json.Occurs double (.object record) → Json.ReadsBack double

theorem Holds.answers (holds : library.Holds archive record shelf) :
    library.Answers archive shelf := by
  have all : ∀ requests ≤ 1, (library.loadAllWithin requests archive).1 = .ok shelf := by
    intro requests few
    rw [loadAllWithin_eq, holds.reads requests few, ← holds.stands]
    rfl
  have one := all 1 (by decide)
  constructor
  · exact all 0 (by decide)
  · rw [list_eq, one]
    rfl
  · intro name
    rw [load_eq, one]
    rfl
  · rw [first_eq, one]
    rfl

theorem Holds.storable (holds : library.Holds archive record shelf) :
    Json.Storable Json.ReadsBack (maxNesting 1) (.object record) :=
  (storable_of_readRecord (holds.reads 1 (by decide)) (by decide)).imp holds.doubles

/-- Libraries of which the files are one to the disk list the same maps. -/
theorem list_shared {other : Library} {place alike : Place}
    (holds : library.Holds archive record shelf)
    (located : archive.disk.locate library.path = .ok place)
    (there : (archive.disk.get? place).isSome = true)
    (located' : archive.disk.locate other.path = .ok alike) (same : place.isSame alike = true) :
    (other.list archive).1 = .ok shelf.names := by
  have reads := holds.reads 1 (by decide)
  rw [list_eq, loadAllWithin_eq]
  have shared : (other.readRecord 1 archive).1 = .ok record := by
    rw [readRecord] at reads ⊢
    simp only [Disk.read, located, located', bind, Except.bind, ← Disk.get?_congr same] at reads ⊢
    generalize archive.disk.get? place = entry at reads there
    cases entry with
    | none => cases there
    | some entry =>
        cases entry with
        | folder => cases reads
        | file octets => exact decodeRecord_path reads
  rw [shared]
  have stands := holds.stands
  dsimp only [Except.bind]
  rw [stands]
  rfl

/-- The libraries of other users in the folder of a library answer as before. A user's name has no
slash in it, and users are told apart by the octets of their names. -/
def Spares (library : Library) (archive after : Archive) : Prop :=
  .char '/' ∉ library.user → ∀ other : Library, other.folder = library.folder →
    .char '/' ∉ other.user →
    (Utf8.findUnwritable 0 other.user = none →
      Utf8.nameOctets other.user ≠ Utf8.nameOctets library.user) →
    archive.disk.Admits library.folder other.fileName → other.Unchanged archive after

/-- The object of a library that holds a shelf can be written anew. -/
theorem write_stored (holds : library.Holds archive record shelf) (stored : Json.Fields) :
    ∃ disk, library.writeRecord stored archive.disk = (.ok (), disk) ∧
      archive.disk.Stored library.path.parent library.fileName (Utf8.encode (encodeRecord stored))
        disk := by
  have readable := readable_of_readRecord (holds.reads 0 (by decide))
  rw [path_entry] at readable
  rcases readable.stored holds.rooted library.loose holds.admits
    (Utf8.encode (encodeRecord stored)) with ⟨furnished, disk, made, wrote, facts⟩
  refine ⟨disk, ?_, facts⟩
  rw [← path_entry] at wrote
  simp only [writeRecord, made, wrote, Disk.tried]

theorem spares_stored {octets : ByteArray} {disk : Disk}
    (stored : archive.disk.Stored library.path.parent library.fileName octets disk)
    (now : after.disk = disk) : library.Spares archive after := by
  intro slashless other folder slashless' apart admits
  apply unchanged_of_read
  rw [now]
  by_cases writable : Utf8.findUnwritable 0 other.user = none
  · rw [(fileName_slashless slashless).2, ← folder] at stored
    rw [path_entry, (fileName_slashless slashless').2]
    rw [← folder] at admits
    exact stored.spares _ other.loose
      (fileName_apart slashless slashless' (apart writable)) admits
  · cases refused : Disk.pathError? other.path with
    | none => exact absurd refused (pathError?_unwritable slashless' writable)
    | some error => rw [Disk.read_refused refused, Disk.read_refused refused]

/-- A valid document is saved if the object with it in it can be written. -/
theorem save_eq {name grid : Json} {stored : Json.Fields} {disk : Disk}
    (read : MapDocument.ofParts name grid = .ok document)
    (looked : (library.readRecord 0 archive).1 = .ok record)
    (stores : storeDocument document record = .ok stored)
    (writes : library.writeRecord stored archive.disk = (.ok (), disk)) :
    ∃ after, library.save name grid archive = (.ok document, after) ∧ after.disk = disk := by
  have here := readRecord_disk library 0 archive
  rw [Library.save, read]
  dsimp only
  generalize library.readRecord 0 archive = found at looked here
  rcases found with ⟨result, logged⟩
  dsimp only at looked here
  subst looked
  dsimp only
  rw [stores]
  dsimp only
  rw [here, writes]
  exact ⟨_, rfl, rfl⟩

theorem read_of_writeRecord {stored : Json.Fields} {disk written : Disk}
    (writes : library.writeRecord stored disk = (.ok (), written)) :
    written.read library.path = .ok (Utf8.encode (encodeRecord stored)) := by
  rw [writeRecord] at writes
  split at writes
  · next prepared _ =>
      cases wrote : prepared.write library.path (Utf8.encode (encodeRecord stored)) with
      | error cause => simp [wrote, Disk.tried] at writes
      | ok later =>
          rw [wrote, Disk.tried] at writes
          cases writes
          exact Disk.read_write wrote
  · next unmade => exact (unmade written writes).elim

/-- After a save the file holds the object with the document in it. -/
theorem written_of_save {name grid : Json}
    (saved : library.save name grid archive = (.ok document, after)) :
    MapDocument.ofParts name grid = .ok document ∧
      ∃ record maps, (library.readRecord 0 archive).1 = .ok record ∧
        storedMaps record = .ok maps ∧
        after.disk.read library.path =
          .ok (Utf8.encode (encodeRecord (storeDocument.stored document record maps))) := by
  rw [Library.save] at saved
  split at saved
  · cases saved
  next read =>
  split at saved
  · cases saved
  next record _ looked =>
  split at saved
  · cases saved
  next stored stores =>
  split at saved
  · cases saved
  next disk writes =>
  cases saved
  refine ⟨read, record, ?_⟩
  rw [looked]
  rcases maps_of_storeDocument stores with ⟨maps, found, rfl⟩
  exact ⟨maps, rfl, found, read_of_writeRecord writes⟩

/-- A save that fails leaves the disk alone, unless it is the disk that cannot be written. -/
theorem kept_of_save {name grid : Json} {error : LibraryError}
    (failed : library.save name grid archive = (.error error, after)) :
    after.disk = archive.disk ∨
      ∃ stored cause, error = .disk cause ∧
        library.writeRecord stored archive.disk = (.error cause, after.disk) := by
  have here := readRecord_disk library 0 archive
  rw [Library.save] at failed
  split at failed
  · cases failed
    exact .inl rfl
  split at failed
  · next looked =>
      cases failed
      rw [looked] at here
      exact .inl here
  next looked =>
  rw [looked] at here
  dsimp only at here
  split at failed
  · cases failed
    exact .inl here
  next stored _ =>
  rw [here] at failed
  split at failed
  · next cause disk writes =>
      cases failed
      exact .inr ⟨stored, cause, rfl, writes⟩
  · cases failed

/-- A document can be saved in a library that holds a shelf, and is put on the shelf. -/
theorem Holds.save (holds : library.Holds archive record shelf) {name : String} {grid : Grid}
    (some : name ≠ "") (square : grid.WellFormed Grid.standardSize) :
    ∃ document after stored,
      library.save (.text name) (MapDocument.encodeGrid grid) archive = (.ok document, after) ∧
      document.name = name ∧ document.grid = grid ∧
      library.Holds after stored (shelf.put document) ∧ FieldsKept record stored ∧
      after.disk.isFolder library.path.parent = true ∧ library.Spares archive after := by
  rcases square.rows with ⟨rows, rfl, height, width⟩
  have read := MapDocument.ofParts_encoded some ⟨height, width⟩
  rcases documentsOf_eq_ok_iff.mp holds.stands with ⟨maps, found, shelved⟩
  -- What a request within another one may read is nested less deeply than what a save may.
  have storable := storable_stored holds.storable found ⟨name, rows⟩
  rcases write_stored holds (storeDocument.stored ⟨name, rows⟩ record maps) with
    ⟨disk, writes, written⟩
  rcases save_eq read (holds.reads 0 (by decide)) (storeDocument_eq_ok found) writes with
    ⟨after, saved, now⟩
  rw [← MapDocument.encodeGrid_tiles] at saved
  refine ⟨⟨name, rows⟩, after, _, saved, rfl, rfl, ?_, fieldsKept_stored ⟨name, rows⟩ record maps,
    by rw [now]; exact written.there, spares_stored written now⟩
  subst now
  constructor
  · exact written.rooted
  · exact .inl written.there
  · intro requests few
    apply readRecord_written (storable.mono (by simp only [maxNesting]; omega))
    rw [path_entry]
    exact written.reads
  · exact documentsOf_stored shelved read
  · intro double occurs
    exact storable.of_occurs occurs

theorem FieldsKept.trans {stored later : Json.Fields} (first : FieldsKept record stored)
    (second : FieldsKept stored later) : FieldsKept record later where
  version := second.version
  others := fun key maps version =>
    (second.others key maps version).trans (first.others key maps version)

theorem Spares.refl (library : Library) (archive : Archive) : library.Spares archive archive :=
  fun _ _ _ _ _ _ => unchanged_of_read rfl

theorem Spares.trans {middle : Archive} (first : library.Spares archive middle)
    (second : library.Spares middle after)
    (there : middle.disk.isFolder library.path.parent = true) : library.Spares archive after := by
  intro slashless other folder slashless' apart admits
  have before := first slashless other folder slashless' apart admits
  rw [(fileName_slashless slashless).2] at there
  have later := second slashless other folder slashless' apart (.inl there)
  constructor
  · exact later.loadAll.trans before.loadAll
  · exact later.list.trans before.list
  · exact fun name => (later.load name).trans (before.load name)
  · exact later.first.trans before.first

/-- Saves named grids one after another, up to the first that is refused. -/
def saveAll (library : Library) : List (String × Grid) → Archive → Archived (List MapDocument)
  | [], archive => (.ok [], archive)
  | (name, grid) :: saves, archive =>
    match library.save (.text name) (MapDocument.encodeGrid grid) archive with
    | (.error error, after) => (.error error, after)
    | (.ok document, after) =>
      match library.saveAll saves after with
      | (.error error, final) => (.error error, final)
      | (.ok documents, final) => (.ok (document :: documents), final)

/-- Documents that are saved one after another are put on the shelf in that order. -/
theorem Holds.saveAll {saves : List (String × Grid)} (holds : library.Holds archive record shelf)
    (valid : ∀ save ∈ saves, save.1 ≠ "" ∧ save.2.WellFormed Grid.standardSize) :
    ∃ documents after stored, library.saveAll saves archive = (.ok documents, after) ∧
      documents.map (fun document => (document.name, document.grid)) = saves ∧
      library.Holds after stored (documents.foldl Shelf.put shelf) ∧
      (saves = [] ∧ stored = record ∨ FieldsKept record stored) ∧ library.Spares archive after := by
  -- The library holds a shelf after each save, and its folder is there from the first one on.
  induction saves generalizing archive record shelf with
  | nil => exact ⟨[], archive, record, rfl, rfl, holds, .inl ⟨rfl, rfl⟩, .refl library archive⟩
  | cons save saves ih =>
      rw [List.forall_mem_cons] at valid
      rcases valid with ⟨⟨some, square⟩, valid⟩
      rcases save with ⟨name, grid⟩
      rcases holds.save some square with
        ⟨document, middle, stored, saved, rfl, rfl, holds, kept, there, spares⟩
      rcases ih holds valid with ⟨documents, after, final, ran, rfl, holds, later, spares'⟩
      refine ⟨document :: documents, after, final, ?_, rfl, holds, .inr ?_,
        spares.trans spares' there⟩
      · rw [Library.saveAll, saved]
        dsimp only
        rw [ran]
      · rcases later with ⟨-, rfl⟩ | later
        · exact kept
        · exact kept.trans later

/-- What a library is after a named grid has been saved in it. -/
structure Saved (library : Library) (name : String) (grid : Grid) (archive after : Archive) :
    Prop where
  load : (library.load name after).1 = .ok grid
  others : ∀ other, other ≠ ofString name →
    (library.load other after).1 = (library.load other archive).1
  list : ∃ names, (library.list archive).1 = .ok names ∧
    (library.list after).1 = .ok (if name ∈ names then names else names ++ [name])
  first : ∃ leading names found, (library.list after).1 = .ok (leading :: names) ∧
    (library.load leading after).1 = .ok found ∧ (library.first after).1 = .ok (some found)
  fields : ∃ record stored, (library.readRecord 0 archive).1 = .ok record ∧
    (library.readRecord 0 after).1 = .ok stored ∧ FieldsKept record stored
  users : library.Spares archive after

theorem saved_of_holds {stored : Json.Fields} (before : library.Holds archive record shelf)
    (later : library.Holds after stored (shelf.put document)) (kept : FieldsKept record stored)
    (spares : library.Spares archive after) :
    library.Saved document.name document.grid archive after where
  load := by
    rw [later.answers.load, Shelf.grid?_put_self]
    rfl
  others := by
    intro other apart
    rw [later.answers.load, before.answers.load, Shelf.grid?_put_of_ne apart]
  list := by
    refine ⟨shelf.names, before.answers.list, ?_⟩
    rw [later.answers.list, Shelf.names_put]
  first := by
    have found := Shelf.grid?_put_self shelf document
    have answers := later.answers
    generalize shelf.put document = full at found answers
    cases full with
    | nil => cases found
    | cons leading rest =>
        refine ⟨leading.name, Shelf.names rest, leading.grid, answers.list, ?_, answers.first⟩
        rw [answers.load]
        simp [Shelf.grid?]
  fields := ⟨record, stored, before.reads 0 (by decide), later.reads 0 (by decide), kept⟩
  users := spares

/-- A library whose object can be read is a shelf that keeps maps in the order in which their names
were first saved. Each save puts one map on it, and leaves the other maps, the other fields of the
object and the libraries of other users as they are; so do any number of saves. -/
theorem saves_shelve (holds : library.Holds archive record shelf) :
    library.Answers archive shelf ∧
    (∀ name grid, name ≠ "" → grid.WellFormed Grid.standardSize →
      ∃ document after,
        library.save (.text name) (MapDocument.encodeGrid grid) archive = (.ok document, after) ∧
        document.name = name ∧ document.grid = grid ∧ library.Saved name grid archive after) ∧
    ∀ saves : List (String × Grid),
      (∀ save ∈ saves, save.1 ≠ "" ∧ save.2.WellFormed Grid.standardSize) →
      ∃ documents after stored,
        library.saveAll saves archive = (.ok documents, after) ∧
        documents.map (fun document => (document.name, document.grid)) = saves ∧
        library.Answers after (documents.foldl Shelf.put shelf) ∧
        (library.readRecord 0 after).1 = .ok stored ∧
        (saves = [] ∧ stored = record ∨ FieldsKept record stored) ∧
        library.Spares archive after := by
  refine ⟨holds.answers, ?_, ?_⟩
  · intro name grid some square
    rcases holds.save some square with
      ⟨document, after, stored, saved, rfl, rfl, later, kept, -, spares⟩
    exact ⟨document, after, saved, rfl, rfl, saved_of_holds holds later kept spares⟩
  · intro saves valid
    rcases holds.saveAll valid with ⟨documents, after, stored, ran, same, later, kept, spares⟩
    exact ⟨documents, after, stored, ran, same, later.answers, later.reads 0 (by decide), kept,
      spares⟩

/-! ## Some libraries -/

/-- The library of a user in the working folder. -/
def atHome (user : Text) : Library := ⟨⟨.workingFolder, []⟩, user⟩

/-- A map that is covered by one tile. -/
def covered (tile : Tile) : List (List Tile) :=
  List.replicate Grid.standardSize (List.replicate Grid.standardSize tile)

def coveredGrid (tile : Tile) : Grid := (covered tile).map (·.map Cell.tile)

/-- An object with a map and a field of its own, but without a version. -/
def annotated : Json.Fields :=
  [("scale", .float 0.5), (mapsKey, .object [("meadow", MapDocument.encodeRows (covered .grass))])]

/-- An archive with the annotated object in one user's file. -/
def annotatedArchive : Archive where
  disk := (⟨[]⟩ : Disk).put (Place.start .workingFolder ++ [("maps_ada.json" : Text)])
    (.file (Utf8.encode (encodeRecord annotated)))

theorem storable_annotated : Json.Storable Json.ReadsBack (maxNesting 1) (.object annotated) := by
  have scale : Json.Storable Json.ReadsBack (984 + 1)
      (.object (Json.Fields.set [] "scale" (.float 0.5))) :=
    Json.storable_empty.set (Json.joinPairs_ofString "scale") (.float rfl)
  have meadow : Json.Storable Json.ReadsBack (983 + 1)
      (.object (Json.Fields.set [] "meadow" (MapDocument.encodeRows (covered .grass)))) :=
    Json.storable_empty.set (Json.joinPairs_ofString "meadow") (Json.storable_encodeRows _)
  exact scale.set (Json.joinPairs_ofString "maps") meadow

theorem annotated_holds :
    (atHome "ada").Holds annotatedArchive annotated [⟨"meadow", covered .grass⟩] where
  rooted := Disk.rooted_empty.put (Disk.get?_standing (Place.isStanding_start _)) (.inr nofun)
  admits := .inl (by decide +kernel)
  reads := by
    intro requests few
    apply readRecord_written (storable_annotated.mono (by simp only [maxNesting]; omega))
    rfl
  stands := rfl
  doubles := fun _ occurs => storable_annotated.of_occurs occurs

theorem coveredGrid_square (tile : Tile) : (coveredGrid tile).WellFormed Grid.standardSize :=
  MapDocument.Square.wellFormed ⟨by simp [covered], by simp [covered]⟩

/-- A map is added and another one replaced beside a field that the library knows nothing of. -/
theorem saves_shelve_annotated :
    (atHome "ada").Holds annotatedArchive annotated [⟨"meadow", covered .grass⟩] ∧
    (∃ document after,
      (atHome "ada").save (.text "pond") (MapDocument.encodeGrid (coveredGrid .water))
        annotatedArchive = (.ok document, after) ∧
      (atHome "ada").Saved "pond" (coveredGrid .water) annotatedArchive after) ∧
    ∃ documents after stored,
      (atHome "ada").saveAll [("pond", coveredGrid .water), ("meadow", coveredGrid .goal)]
        annotatedArchive = (.ok documents, after) ∧
      ((atHome "ada").list after).1 = .ok ["meadow", "pond"] ∧
      ((atHome "ada").load "meadow" after).1 = .ok (coveredGrid .goal) ∧
      ((atHome "ada").load "pond" after).1 = .ok (coveredGrid .water) ∧
      ((atHome "ada").first after).1 = .ok (some (coveredGrid .goal)) ∧
      ((atHome "ada").readRecord 0 after).1 = .ok stored ∧
      stored.get? "scale" = some (.float 0.5) ∧ stored.get? versionKey = some (.integer 1) ∧
      ((atHome "grace").list after).1 = .ok [] := by
  refine ⟨annotated_holds, ?_, ?_⟩
  · rcases (saves_shelve annotated_holds).2.1 "pond" _ (by decide) (coveredGrid_square .water) with
      ⟨document, after, saved, -, -, facts⟩
    exact ⟨document, after, saved, facts⟩
  rcases (saves_shelve annotated_holds).2.2
      [("pond", coveredGrid .water), ("meadow", coveredGrid .goal)]
      (by simp [coveredGrid_square]) with
    ⟨documents, after, stored, ran, same, answers, reads, kept | kept, spares⟩
  · cases kept.1
  · have shelf : ∃ pond meadow, documents = [pond, meadow] ∧
        (pond.name = "pond" ∧ pond.grid = coveredGrid .water) ∧
        meadow.name = "meadow" ∧ meadow.grid = coveredGrid .goal := by
      rcases documents with _ | ⟨pond, _ | ⟨meadow, _ | _⟩⟩ <;> simp_all
    rcases shelf with ⟨pond, meadow, rfl, ⟨pondName, pondGrid⟩, meadowName, meadowGrid⟩
    have shelf : [pond, meadow].foldl Shelf.put [⟨"meadow", covered .grass⟩] = [meadow, pond] := by
      simp [Shelf.put, pondName, meadowName]
    rw [shelf] at answers
    have other : ofString "meadow" ≠ ofString "pond" := by decide
    refine ⟨_, after, stored, ran, ?_, ?_, ?_, ?_, reads, ?_, kept.version, ?_⟩
    · rw [answers.list]
      simp [Shelf.names, pondName, meadowName]
    · rw [answers.load]
      simp [Shelf.grid?, meadowName, meadowGrid]
    · rw [answers.load]
      simp [Shelf.grid?, pondName, pondGrid, meadowName, other]
    · rw [answers.first]
      simp [meadowGrid]
    · rw [kept.others _ (by decide) (by decide)]
      rfl
    · have unchanged := spares (by decide) (atHome "grace") rfl (by decide) (fun _ => by decide)
        (.inl (by decide +kernel))
      rw [unchanged.list]
      decide +kernel

/-- The library of a user in the folder of maps. -/
def amongMaps (user : Text) : Library := ⟨⟨.workingFolder, ["maps"]⟩, user⟩

/-- An archive without any files. -/
def bareArchive : Archive where
  disk := ⟨[]⟩

/-- A user whose name is longer than the name of a file may be. -/
def longUser : Text := List.replicate 300 (.char 'x')

/-- The archive after a user has saved a meadow among the maps of a bare archive. -/
def afterSave (user : Text) : Archive :=
  ((amongMaps user).save (.text "meadow") (MapDocument.encodeGrid (coveredGrid .grass))
    bareArchive).2

theorem bare_holds : (amongMaps "é").Holds bareArchive freshRecord [] where
  rooted := Disk.rooted_empty
  admits := .inr (by decide +kernel)
  reads := by
    intro requests few
    have missing : bareArchive.disk.read (amongMaps "é").path =
        .error (.trouble .missing (amongMaps "é").path) := by
      decide +kernel
    rw [readRecord, missing]
  stands := rfl
  doubles := by
    intro double occurs
    exact (storable_freshRecord : Json.Storable Json.ReadsBack (0 + 2) _).of_occurs occurs

/-- The user whose name has the octets of an accented letter, but not as a letter. -/
def splitUser : Text := [.surrogate 0x4C3, .surrogate 0x4A9]

/-- An archive with a file where a folder is to be. -/
def blockedArchive : Archive where
  disk := (⟨[]⟩ : Disk).put (Place.start .workingFolder ++ [("maps" : Text)]) (.file ⟨#[]⟩)

/-- A library among the maps, on a way through a folder that is not there. -/
def detour : Library := ⟨⟨.workingFolder, ["away", "..", "maps"]⟩, "ada"⟩

/-- Names of maps and users, and folders, for which saving does not behave like a shelf. -/
theorem saves_shelve_limits :
    -- A name with a lone surrogate is not empty, but makes no map.
    ((amongMaps "ada").save (.text [.surrogate 0]) (MapDocument.encodeGrid (coveredGrid .grass))
        bareArchive).1 = .error (.invalidMap ⟨MapDocument.recordName,
          [.of [.named "name"] .brokenText (.text [.surrogate 0])]⟩) ∧
    -- Two names of users with the same octets are one file.
    ((amongMaps splitUser).list bareArchive).1 = .ok [] ∧
    ((amongMaps splitUser).list (afterSave "é")).1 = .ok ["meadow"] ∧
    -- A user with too long a name has no library once there is a folder, and cannot save a map.
    ((amongMaps longUser).list bareArchive).1 = .ok [] ∧
    ((amongMaps longUser).list (afterSave "ada")).1 =
      .error (.disk (.trouble .nameTooLong (amongMaps longUser).path)) ∧
    ((amongMaps longUser).save (.text "meadow") (MapDocument.encodeGrid (coveredGrid .grass))
        bareArchive).1 = .error (.disk (.trouble .nameTooLong (amongMaps longUser).path)) ∧
    -- A way back from a folder that is not there may end at a file.
    (detour.list blockedArchive).1 = .ok [] ∧
    (detour.save (.text "meadow") (MapDocument.encodeGrid (coveredGrid .grass))
        blockedArchive).1 = .error (.disk (.trouble .exists detour.folder)) := by
  refine ⟨by decide +kernel, by decide +kernel, ?_, by decide +kernel, by decide +kernel,
    by decide +kernel, by decide +kernel, by decide +kernel⟩
  rcases bare_holds.save (by decide : "meadow" ≠ "") (coveredGrid_square .grass) with
    ⟨document, after, stored, saved, named, -, holds, -, -, -⟩
  have same : after = afterSave "é" := (congrArg Prod.snd saved).symm
  subst same
  have located : (afterSave "é").disk.locate (amongMaps "é").path =
      .ok [("maps" : Text), ("maps_é.json" : Text)] := by
    decide +kernel
  have alike : (afterSave "é").disk.locate (amongMaps splitUser).path =
      .ok [("maps" : Text), "maps_" ++ splitUser ++ ".json"] := by
    decide +kernel
  rw [list_shared holds located (by decide +kernel) alike (by decide +kernel)]
  simp [Shelf.put, Shelf.names, named]

end TileWalk.Library
