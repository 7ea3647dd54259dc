import TileWalk.Proofs.Json.File
import TileWalk.Proofs.Library.File
import TileWalk.Proofs.Library.Shelf

/-!
# The object of a library

Storing a document in the object of a library keeps the other fields. A stored object is read back
from the file that it is written into.
-/

namespace TileWalk.Library

open TileWalk.Text TileWalk.Storage

variable {library : Library} {archive after : Archive} {record maps : Json.Fields} {shelf : Shelf}
  {document : MapDocument} {requests levels : Nat}

/-! ## Storing a document -/

theorem mapsKey_ne_versionKey : mapsKey ≠ versionKey := by
  decide

theorem storedMaps_stored (document : MapDocument) (record maps : Json.Fields) :
    storedMaps (storeDocument.stored document record maps) =
      .ok (maps.set document.name (MapDocument.encodeRows document.rows)) := by
  rw [storedMaps, storeDocument.stored, Json.Fields.get?_set_of_ne _ _ mapsKey_ne_versionKey,
    Json.Fields.get?_set_self]

/-- What a save leaves in the object of a library: the version is set, and the other fields beside
the maps keep their values. -/
structure FieldsKept (record stored : Json.Fields) : Prop where
  version : stored.get? versionKey = some (.integer 1)
  others : ∀ key, key ≠ mapsKey → key ≠ versionKey → stored.get? key = record.get? key

theorem fieldsKept_stored (document : MapDocument) (record maps : Json.Fields) :
    FieldsKept record (storeDocument.stored document record maps) where
  version := Json.Fields.get?_set_self _ _ _
  others := by
    intro key other other'
    rw [storeDocument.stored, Json.Fields.get?_set_of_ne _ _ other',
      Json.Fields.get?_set_of_ne _ _ other]

/-- Storing a document again changes nothing. -/
theorem storeDocument_settled {stored : Json.Fields}
    (stores : storeDocument document record = .ok stored) :
    storeDocument document stored = .ok stored := by
  rcases maps_of_storeDocument stores with ⟨maps, _, rfl⟩
  have found := storedMaps_stored document record maps
  have same : (maps.set document.name (MapDocument.encodeRows document.rows)).set document.name
      (MapDocument.encodeRows document.rows) =
        maps.set document.name (MapDocument.encodeRows document.rows) :=
    Json.Fields.set_of_get? (Json.Fields.get?_set_self ..)
  have listed : (storeDocument.stored document record maps).get? mapsKey =
      some (.object (maps.set document.name (MapDocument.encodeRows document.rows))) := by
    rw [storeDocument.stored, Json.Fields.get?_set_of_ne _ _ mapsKey_ne_versionKey,
      Json.Fields.get?_set_self]
  have version := (fieldsKept_stored document record maps).version
  rw [storeDocument_eq_ok found]
  conv_lhs => rw [storeDocument.stored, same]
  rw [Json.Fields.set_of_get? listed, schemaVersion, Json.Fields.set_of_get? version]

theorem storable_maps {doubles : Float → Prop}
    (storable : Json.Storable doubles (levels + 2) (.object record))
    (found : storedMaps record = .ok maps) : Json.Storable doubles (levels + 1) (.object maps) := by
  rw [storedMaps] at found
  split at found
  · cases found
    exact Json.storable_empty
  · next held =>
      cases found
      cases storable with
      | object _ _ each => exact each _ (Json.mem_of_get? held)
  · cases found

theorem storable_stored {doubles : Float → Prop}
    (storable : Json.Storable doubles (levels + 4) (.object record))
    (found : storedMaps record = .ok maps) (document : MapDocument) :
    Json.Storable doubles (levels + 4) (.object (storeDocument.stored document record maps)) := by
  have put := (storable_maps storable found).set (Json.joinPairs_ofString document.name)
    (Json.storable_encodeRows document.rows)
  exact (storable.set (Json.joinPairs_ofString "maps") put).set
    (Json.joinPairs_ofString "schema_version") (.integer (by decide))

theorem documentsOf_stored (shelved : Shelved maps shelf)
    (read : MapDocument.ofParts (.text document.name) (MapDocument.encodeRows document.rows) =
      .ok document) :
    documentsOf (storeDocument.stored document record maps) = .ok (shelf.put document) :=
  documentsOf_eq_ok_iff.mpr ⟨_, storedMaps_stored document record maps, shelved.set read⟩

/-! ## Reading the object -/

theorem readRecord_disk (library : Library) (requests : Nat) (archive : Archive) :
    (library.readRecord requests archive).2.disk = archive.disk := by
  rw [readRecord]
  split <;> rfl

/-- What is read from a library depends on what is read from its file. -/
theorem readRecord_congr (same : after.disk.read library.path = archive.disk.read library.path) :
    (library.readRecord requests after).1 = (library.readRecord requests archive).1 := by
  rw [readRecord, readRecord, same]
  split <;> rfl

theorem readable_of_readRecord (reads : (library.readRecord requests archive).1 = .ok record) :
    archive.disk.Readable library.path := by
  rw [readRecord] at reads
  split at reads
  · next octets found => exact .inl ⟨octets, found⟩
  · next other missing =>
      rw [Disk.read_missing missing] at missing
      exact .inr missing
  · cases reads

theorem storable_freshRecord {doubles : Float → Prop} :
    Json.Storable doubles (levels + 2) (.object freshRecord) := by
  have version : Json.Storable doubles (levels + 2)
      (.object (Json.Fields.set [] versionKey (.integer schemaVersion))) :=
    Json.storable_empty.set (Json.joinPairs_ofString "schema_version") (.integer (by decide))
  exact version.set (Json.joinPairs_ofString "maps") Json.storable_empty

theorem read_of_decodeRecord {path : Path} {octets : ByteArray}
    (decoded : decodeRecord path requests octets = .ok record) :
    ∃ text, Json.read (maxNesting requests) text = .ok (.object record) := by
  rw [decodeRecord] at decoded
  split at decoded
  · cases decoded
  · next text _ =>
      split at decoded
      · cases decoded
      · cases decoded
      · cases decoded
      · next fields read =>
          cases decoded
          exact ⟨text, read⟩
      · cases decoded

theorem storable_of_readRecord (reads : (library.readRecord requests archive).1 = .ok record)
    (few : requests ≤ 1) :
    Json.Storable (fun _ => True) (maxNesting requests) (.object record) := by
  rw [readRecord] at reads
  split at reads
  · rcases read_of_decodeRecord reads with ⟨text, read⟩
    exact Json.storable_of_ok read
  · cases reads
    exact (storable_freshRecord : Json.Storable _ (0 + 2) _).mono (by rw [maxNesting]; omega)
  · cases reads

/-- A written object is read back from its file. -/
theorem readRecord_written
    (storable : Json.Storable Json.ReadsBack (maxNesting requests) (.object record))
    (written : archive.disk.read library.path = .ok (Utf8.encode (encodeRecord record))) :
    (library.readRecord requests archive).1 = .ok record := by
  rw [readRecord, written]
  dsimp only
  rw [decodeRecord, encodeRecord, storable.decodeText_pretty]
  dsimp only
  rw [storable.read_pretty]

theorem decodeRecord_path {path other : Path} {octets : ByteArray}
    (decoded : decodeRecord path requests octets = .ok record) :
    decodeRecord other requests octets = .ok record := by
  rw [decodeRecord] at decoded ⊢
  split at decoded
  · cases decoded
  · split at decoded
    · cases decoded
    · cases decoded
    · cases decoded
    · exact decoded
    · cases decoded

end TileWalk.Library
