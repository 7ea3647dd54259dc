import TileWalk.Json.Reader
import TileWalk.Json.Writer
import TileWalk.Log.Entry
import TileWalk.Map.Document
import TileWalk.Map.Generation
import TileWalk.Storage.TextFile
import TileWalk.Text.Quoted

/-!
# Map libraries

Every user has a library of named maps, kept as a JSON object in one file. Maps are listed in the
order in which they were first saved. All stored maps are checked whenever the library is read,
and a map is checked before it is saved.
-/

namespace TileWalk

open TileWalk.Text TileWalk.Storage

/-- Why a library does not do what it was asked. -/
inductive LibraryError where
  | disk (error : DiskError)
  | undecodable (failure : Utf8.Failure)
  | notJson (path : Path)
  | tooDeep (shape : Json.Shape)
  | longNumeral (cause : Numeral.TooLong)
  | notAnObject (path : Path)
  /-- The stored maps are no object, and cannot be listed. -/
  | mapsNotListed (kind : String)
  /-- The stored maps are no object, and none can be added. -/
  | mapsNotAssigned (kind : String)
  | invalidMap (invalid : Invalid)
  | unknownMap (name user : Text)
deriving DecidableEq, Repr

def LibraryError.message : LibraryError → Text
  | .disk error => error.message
  | .undecodable failure => failure.message
  | .notJson path => "Map library " ++ path.toText ++ " is not valid JSON."
  | .tooDeep shape =>
    s!"maximum recursion depth exceeded while decoding a JSON {shape.name} from a unicode string"
  | .longNumeral cause => cause.message
  | .notAnObject path => "Map library " ++ path.toText ++ " must hold a JSON object."
  | .mapsNotListed kind => s!"'{kind}' object has no attribute 'items'"
  | .mapsNotAssigned kind =>
    if kind = "list" then "list indices must be integers or slices, not str"
    else s!"'{kind}' object does not support item assignment"
  | .invalidMap invalid => invalid.report
  | .unknownMap name user => s!"No saved map named {quote name} for user {quote user}."

/-- Whether an error is about a value that is not as it should be. The command line and the screens
report such errors to the player; others are not expected. -/
def LibraryError.isBadValue : LibraryError → Bool
  | .disk error => error.isBadPath
  | .undecodable _ => true
  | .notJson _ => true
  | .longNumeral _ => true
  | .notAnObject _ => true
  | .invalidMap _ => true
  | _ => false

/-- A disk and what has been logged while it was used, the newest entry first. -/
structure Archive where
  disk : Disk
  logged : List LogEntry := []

namespace Archive

/-- The archive with one more entry in its log. -/
def log (archive : Archive) (entry : LogEntry) : Archive :=
  { archive with logged := entry :: archive.logged }

end Archive

/-- What using a library answers: a result or an error, and the archive afterwards. -/
abbrev Archived (α : Type) := Except LibraryError α × Archive

/-- The library of a user in a folder. -/
structure Library where
  folder : Path
  user : Text
deriving DecidableEq, Repr

namespace Library

def defaultUser : Text := "default"

/-- The version that is written into a library. -/
def schemaVersion : Int := 1

def path (library : Library) : Path :=
  library.folder.join ("maps_" ++ library.user ++ ".json")

/-- The key of the maps in a library's object. -/
def mapsKey : Text := "maps"

/-- The key of the version in a library's object. -/
def versionKey : Text := "schema_version"

/-- The object of a library that has no file yet. -/
def freshRecord : Json.Fields :=
  [(versionKey, .integer schemaVersion), (mapsKey, .object [])]

/-- How deeply the JSON of a library may be nested when its object is read. Each request that the
reading is a part of takes one level of it away. -/
def maxNesting (requests : Nat) : Nat := 986 - requests

/-- The object that the octets of a library's file spell. -/
def decodeRecord (path : Path) (requests : Nat) (octets : ByteArray) :
    Except LibraryError Json.Fields :=
  match decodeText octets with
  | .error failure => .error (.undecodable failure)
  | .ok text =>
    match Json.read (maxNesting requests) text with
    | .error .malformed => .error (.notJson path)
    | .error (.tooDeep shape) => .error (.tooDeep shape)
    | .error (.longNumeral cause) => .error (.longNumeral cause)
    | .ok (.object fields) => .ok fields
    | .ok _ => .error (.notAnObject path)

/-- Reads the object of a library, as a part of some requests. Without a file it is a fresh one,
which is logged. -/
def readRecord (library : Library) (requests : Nat) (archive : Archive) : Archived Json.Fields :=
  match archive.disk.read library.path with
  | .ok octets => (decodeRecord library.path requests octets, archive)
  | .error (.trouble .missing _) =>
    (.ok freshRecord,
      archive.log ⟨.debug, .mapLibrary, "No map library at " ++ library.path.toText ++ " yet."⟩)
  | .error error => (.error (.disk error), archive)

/-- The fields under which maps are stored in a library's object. -/
def storedMaps (record : Json.Fields) : Except LibraryError Json.Fields :=
  match record.get? mapsKey with
  | none => .ok []
  | some (.object maps) => .ok maps
  | some value => .error (.mapsNotListed value.kindName)

/-- The documents of a library's object. The first one that is invalid is reported. -/
def documentsOf (record : Json.Fields) : Except LibraryError (List MapDocument) := do
  let maps ← storedMaps record
  maps.mapM fun (name, grid) =>
    match MapDocument.ofParts (.text name) grid with
    | .ok document => .ok document
    | .error invalid => .error (.invalidMap invalid)

/-- All documents of a library, in order, as a part of some requests. -/
def loadAllWithin (library : Library) (requests : Nat) (archive : Archive) :
    Archived (List MapDocument) :=
  match library.readRecord requests archive with
  | (.error error, after) => (.error error, after)
  | (.ok record, after) => (documentsOf record, after)

/-- All documents of a library, in order. -/
def loadAll (library : Library) (archive : Archive) : Archived (List MapDocument) :=
  library.loadAllWithin 0 archive

/-- The names of the maps in a library, in order. -/
def list (library : Library) (archive : Archive) : Archived (List String) :=
  match library.loadAllWithin 1 archive with
  | (.error error, after) => (.error error, after)
  | (.ok documents, after) => (.ok (documents.map (·.name)), after)

/-- The grid of a named map, as a part of some requests. -/
def loadWithin (library : Library) (requests : Nat) (name : Text) (archive : Archive) :
    Archived Grid :=
  match library.loadAllWithin (requests + 1) archive with
  | (.error error, after) => (.error error, after)
  | (.ok documents, after) =>
    match documents.find? (Text.ofString ·.name = name) with
    | some document => (.ok document.grid, after)
    | none => (.error (.unknownMap name library.user), after)

def load (library : Library) (name : Text) (archive : Archive) : Archived Grid :=
  library.loadWithin 0 name archive

/-- The grid of the first map, if there is one, as a part of some requests. -/
def firstWithin (library : Library) (requests : Nat) (archive : Archive) :
    Archived (Option Grid) :=
  match library.loadAllWithin (requests + 1) archive with
  | (.error error, after) => (.error error, after)
  | (.ok documents, after) => (.ok (documents.head?.map (·.grid)), after)

/-- The grid of the first map, if there is one. -/
def first (library : Library) (archive : Archive) : Archived (Option Grid) :=
  library.firstWithin 0 archive

/-- A library's object with a document stored in it. -/
def storeDocument (document : MapDocument) (record : Json.Fields) :
    Except LibraryError Json.Fields :=
  match record.get? mapsKey with
  | none => .ok (stored [])
  | some (.object maps) => .ok (stored maps)
  | some value => .error (.mapsNotAssigned value.kindName)
where
  /-- The object with the document added to its maps, and the present version. -/
  stored (maps : Json.Fields) : Json.Fields :=
    let maps := maps.set document.name (MapDocument.encodeRows document.rows)
    (record.set mapsKey (.object maps)).set versionKey (.integer schemaVersion)

def encodeRecord (record : Json.Fields) : String :=
  Json.pretty (.object record) ++ "\n"

/-- Writes the object of a library, making its folder when there is none. A folder that was made stays
when the file cannot be written. -/
def writeRecord (library : Library) (record : Json.Fields) (disk : Disk) :
    Except DiskError Unit × Disk :=
  match disk.makeFolders library.path.parent with
  | (.ok (), prepared) =>
    prepared.tried (prepared.write library.path (Utf8.encode (encodeRecord record)))
  | refused => refused

/-- Saves a raw grid under a raw name, when they make a map. -/
def save (library : Library) (name grid : Json) (archive : Archive) : Archived MapDocument :=
  match MapDocument.ofParts name grid with
  | .error invalid => (.error (.invalidMap invalid), archive)
  | .ok document =>
    match library.readRecord 0 archive with
    | (.error error, after) => (.error error, after)
    | (.ok record, after) =>
      match storeDocument document record with
      | .error error => (.error error, after)
      | .ok stored =>
        match library.writeRecord stored after.disk with
        | (.error error, disk) => (.error (.disk error), { after with disk })
        | (.ok (), disk) =>
          (.ok document, { after with disk }.log ⟨.info, .mapLibrary,
            s!"Saved map {quote document.name} to " ++ library.path.toText ++ "."⟩)

end Library

end TileWalk
