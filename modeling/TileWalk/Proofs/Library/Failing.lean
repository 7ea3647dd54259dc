import TileWalk.Proofs.Library.Saving

/-!
# Saves that fail

A save is prepared before anything is written: the map is checked, the object of the
library is read and brought up to date, and the folder is made. Where this fails no
file is touched, whatever the map and the library are; what may stay behind are
folders, when it is the folder that cannot be made. A save that succeeds leaves a file
that is read as an object with the map in it.
-/

namespace TileWalk.Library

open TileWalk.Text TileWalk.Storage

variable {library : Library} {name grid : Json} {archive after : Archive} {error : LibraryError}
  {document : MapDocument}

/-! ## Up to the writing -/

/-- What a save does before it writes the object that it has brought up to date. -/
def prepare (library : Library) (name grid : Json) (archive : Archive) :
    Archived (MapDocument × Json.Fields) :=
  match MapDocument.ofParts name grid with
  | .error invalid => (.error (.invalidMap invalid), archive)
  | .ok document =>
    match library.readRecord 0 archive with
    | (.error error, after) => (.error error, after)
    | (.ok record, after) =>
      match storeDocument document record with
      | .error error => (.error error, after)
      | .ok stored =>
        match after.disk.makeFolders library.path.parent with
        | (.error cause, disk) => (.error (.disk cause), { after with disk })
        | (.ok (), disk) => (.ok (document, stored), { after with disk })

/-- A save is prepared, and then its file is written at once. -/
theorem save_prepared (library : Library) (name grid : Json) (archive : Archive) :
    library.save name grid archive =
      match library.prepare name grid archive with
      | (.error error, after) => (.error error, after)
      | (.ok (document, stored), after) =>
        match after.disk.write library.path (Utf8.encode (encodeRecord stored)) with
        | .error cause => (.error (.disk cause), after)
        | .ok disk =>
          (.ok document, { after with disk }.log ⟨.info, .mapLibrary,
            s!"Saved map {quote document.name} to " ++ library.path.toText ++ "."⟩) := by
  rw [Library.save, prepare]
  cases MapDocument.ofParts name grid with
  | error invalid => rfl
  | ok document =>
      dsimp only
      rcases library.readRecord 0 archive with ⟨error | record, later⟩
      · rfl
      dsimp only
      cases storeDocument document record with
      | error error => rfl
      | ok stored =>
          dsimp only
          rw [writeRecord]
          rcases later.disk.makeFolders library.path.parent with ⟨cause | ⟨⟩, furnished⟩
          · rfl
          dsimp only
          cases furnished.write library.path (Utf8.encode (encodeRecord stored)) <;> rfl

/-- What a save that cannot be prepared leaves behind: the disk as it was, or the folders
that were made before one could not be. -/
theorem left_of_prepare (failed : library.prepare name grid archive = (.error error, after)) :
    after.disk = archive.disk ∨
      ∃ cause, error = .disk cause ∧
        archive.disk.read library.path = .error (.trouble .missing library.path) ∧
        archive.disk.makeFolders library.path.parent = (.error cause, after.disk) := by
  have here := readRecord_disk library 0 archive
  rw [prepare] at failed
  split at failed
  · cases failed
    exact .inl rfl
  split at failed
  · next looked =>
      cases failed
      rw [looked] at here
      exact .inl here
  next record later looked =>
  rw [looked] at here
  dsimp only at here
  split at failed
  · cases failed
    exact .inl here
  split at failed
  · next cause disk refused =>
      cases failed
      rw [here] at refused
      refine .inr ⟨cause, rfl, ?_, refused⟩
      rcases readable_of_readRecord (congrArg Prod.fst looked) with ⟨octets, reads⟩ | missing
      · -- A file that is read lies in a folder, and that folder need not be made.
        rcases Disk.locate_of_read reads with ⟨place, located⟩
        rw [path_entry] at located
        rw [Disk.makeFolders_found (Disk.isFolder_of_locate located)] at refused
        cases refused
      · exact missing
  · cases failed

/-! ## What is written -/

/-- The file of a library is read as an object with a document in its maps. -/
def Files (library : Library) (archive : Archive) (document : MapDocument) : Prop :=
  ∃ (octets : ByteArray) (text : String) (record maps : Json.Fields),
    archive.disk.read library.path = .ok octets ∧ decodeText octets = .ok text ∧
    Json.read (maxNesting 0) text = .ok (.object record) ∧
    record.get? mapsKey = some (.object maps) ∧
    maps.get? document.name = some (MapDocument.encodeRows document.rows)

theorem files_of_save (saved : library.save name grid archive = (.ok document, after)) :
    library.Files after document := by
  rcases written_of_save saved with ⟨-, record, maps, reads, found, written⟩
  have storable : Json.Storable (fun _ => True) (982 + 4) (.object record) :=
    storable_of_readRecord reads (by decide)
  -- The doubles of the other fields are read as some double, whichever that is.
  have legible := (storable_stored storable found document).imp fun double _ =>
    Json.readValue_reread double
  refine ⟨_, _, _, Json.mapFields Json.reread
    (maps.set document.name (MapDocument.encodeRows document.rows)), written,
    legible.decodeText_pretty, legible.read_changed, ?_, ?_⟩
  · rw [Json.Fields.get?_mapFields, storeDocument.stored,
      Json.Fields.get?_set_of_ne _ _ mapsKey_ne_versionKey, Json.Fields.get?_set_self]
    rfl
  · have plain : Json.Storable (fun _ => False) (0 + 2) (MapDocument.encodeRows document.rows) :=
      Json.storable_encodeRows document.rows
    rw [Json.Fields.get?_mapFields, Json.Fields.get?_set_self, Option.map_some,
      plain.mapDoubles_self fun _ never => never.elim]

/-- A save that fails before it writes touches no file, whatever is in the library and whatever is
to be saved; it makes no folder either, unless it fails for a folder that cannot be made. A save
that succeeds leaves a file with the rows of the map under its name. -/
theorem failed_save_keeps_files (library : Library) (name grid : Json) (archive : Archive) :
    (∀ error after, library.prepare name grid archive = (.error error, after) →
      library.save name grid archive = (.error error, after) ∧
      archive.disk.SameFiles after.disk ∧
      (∀ octets, after.disk.read library.path = .ok octets ↔
        archive.disk.read library.path = .ok octets) ∧
      (after.disk = archive.disk ∨
        ∃ cause, error = .disk cause ∧
          archive.disk.read library.path = .error (.trouble .missing library.path) ∧
          archive.disk.makeFolders library.path.parent = (.error cause, after.disk))) ∧
    ∀ document after, library.save name grid archive = (.ok document, after) →
      MapDocument.ofParts name grid = .ok document ∧ MapDocument.Square document.rows ∧
      library.Files after document := by
  constructor
  · intro error after failed
    have saved : library.save name grid archive = (.error error, after) := by
      rw [save_prepared, failed]
    rcases left_of_prepare failed with same | ⟨cause, rfl, missing, refused⟩
    · rw [same]
      exact ⟨saved, .refl _, fun _ => .rfl, .inl rfl⟩
    · have files := archive.disk.makeFolders_files library.path.parent
      rw [refused] at files
      refine ⟨saved, files, ?_, .inr ⟨cause, rfl, missing, refused⟩⟩
      -- There was no file, and there is none where its folder is not.
      intro octets
      rw [missing]
      constructor
      · intro reads
        rcases Disk.locate_of_read reads with ⟨place, located⟩
        rw [path_entry] at located
        have there := Disk.isFolder_of_locate located
        rw [Disk.makeFolders_refused refused] at there
        cases there
      · intro reads
        cases reads
  · intro document after saved
    have read := (written_of_save saved).1
    exact ⟨read, MapDocument.shape_of_ofParts read, files_of_save saved⟩

/-- An archive in which the file of a user's library is no JSON. -/
def brokenArchive : Archive where
  disk := (⟨[]⟩ : Disk).put (Place.start .workingFolder ++ [("maps_ada.json" : Text)])
    (.file (Utf8.encode "\x7b"))

/-- A broken file is left alone; where a map is saved it can be found. -/
theorem failed_save_keeps_files_broken :
    (∃ error after, (atHome "ada").save (.text "pond")
        (MapDocument.encodeGrid (coveredGrid .water)) brokenArchive = (.error error, after) ∧
      after.disk.read (atHome "ada").path = .ok (Utf8.encode "\x7b")) ∧
    ∃ document after, (atHome "ada").save (.text "pond")
        (MapDocument.encodeGrid (coveredGrid .water)) annotatedArchive = (.ok document, after) ∧
      (atHome "ada").Files after document := by
  constructor
  · have refused : ((atHome "ada").prepare (.text "pond")
        (MapDocument.encodeGrid (coveredGrid .water)) brokenArchive).1.isOk = false := by
      decide +kernel
    have octets : brokenArchive.disk.read (atHome "ada").path = .ok (Utf8.encode "\x7b") := rfl
    rcases prepared : (atHome "ada").prepare (.text "pond")
        (MapDocument.encodeGrid (coveredGrid .water)) brokenArchive with ⟨error | found, after⟩
    · rcases (failed_save_keeps_files (atHome "ada") _ _ _).1 error after prepared with
        ⟨saved, -, same, -⟩
      exact ⟨error, after, saved, (same _).mpr octets⟩
    · rw [prepared] at refused
      cases refused
  · rcases annotated_holds.save (by decide : "pond" ≠ "") (coveredGrid_square .water) with
      ⟨document, after, stored, saved, -⟩
    exact ⟨document, after, saved,
      ((failed_save_keeps_files (atHome "ada") _ _ _).2 document after saved).2.2⟩

/-- A library in a folder with too long a name, within one that can be made. -/
def tooDeep : Library := ⟨⟨.workingFolder, ["shelf", longUser]⟩, "ada"⟩

/-- The folder on the way to one that cannot be made stays behind. -/
theorem failed_save_leaves_folder :
    let shelf : Path := ⟨.workingFolder, ["shelf"]⟩
    ∃ error after, tooDeep.prepare (.text "pond")
        (MapDocument.encodeGrid (coveredGrid .water)) bareArchive = (.error error, after) ∧
      tooDeep.save (.text "pond") (MapDocument.encodeGrid (coveredGrid .water)) bareArchive =
        (.error error, after) ∧
      bareArchive.disk.isFolder shelf = false ∧ after.disk.isFolder shelf = true := by
  intro shelf
  have refused : (tooDeep.prepare (.text "pond")
      (MapDocument.encodeGrid (coveredGrid .water)) bareArchive).1.isOk = false := by
    decide +kernel
  have made : (tooDeep.prepare (.text "pond")
      (MapDocument.encodeGrid (coveredGrid .water)) bareArchive).2.disk.isFolder shelf = true := by
    decide +kernel
  have saved := tooDeep.save_prepared (.text "pond")
    (MapDocument.encodeGrid (coveredGrid .water)) bareArchive
  generalize tooDeep.prepare (.text "pond") (MapDocument.encodeGrid (coveredGrid .water))
    bareArchive = prepared at refused made saved ⊢
  rcases prepared with ⟨error | found, after⟩
  · exact ⟨error, after, rfl, saved, by decide +kernel, made⟩
  · cases refused

end TileWalk.Library
