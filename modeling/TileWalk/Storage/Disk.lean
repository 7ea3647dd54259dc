import TileWalk.Storage.Path
import TileWalk.Text.Utf8

/-!
# Disks

A disk holds folders and files. The working folder, the folders above it and the root are always
there; whatever else is there has been put there.
-/

namespace TileWalk.Storage

open TileWalk.Text

/-- The names that lead from the working folder to an entry, each of two dots going up by one folder.
Under the root the first name is a slash. -/
abbrev Place := List Text

namespace Place

def root : Place := ["/"]

def above : Text := ".."

def start : Anchor → Place
  | .workingFolder => []
  | _ => root

/-- Whether two places are one to the disk: it tells names apart by their octets. -/
def isSame (one other : Place) : Bool :=
  one.map Utf8.nameOctets == other.map Utf8.nameOctets

/-- Whether a folder is always at a place. -/
def isStanding (place : Place) : Bool :=
  isSame place root || place.all fun name => Utf8.nameOctets name == Utf8.nameOctets above

/-- The place that a name leads to. There is nothing above the root. -/
def enter (place : Place) (name : Text) : Place :=
  if name ≠ above then place ++ [name]
  else if place = root then root
  else if place.isStanding then place ++ [above]
  else place.dropLast

end Place

/-- The place that a path leads to, if all folders on the way are there. -/
def Path.place (path : Path) : Place :=
  path.parts.foldl Place.enter (Place.start path.anchor)

inductive Entry where
  | folder
  | file (octets : ByteArray)

structure Disk where
  entries : List (Place × Entry) := []

/-- Why the disk refuses to do something. -/
inductive Trouble where
  | missing
  | exists
  | notAFolder
  | isAFolder
  | nameTooLong
deriving DecidableEq, Repr

namespace Trouble

def number : Trouble → Nat
  | .missing => 2
  | .exists => 17
  | .notAFolder => 20
  | .isAFolder => 21
  | .nameTooLong => 36

def title : Trouble → String
  | .missing => "No such file or directory"
  | .exists => "File exists"
  | .notAFolder => "Not a directory"
  | .isAFolder => "Is a directory"
  | .nameTooLong => "File name too long"

end Trouble

/-- A trouble and the path it was met on, or what is wrong with a path that no disk can have. -/
inductive DiskError where
  | trouble (cause : Trouble) (path : Path)
  | nullInPath
  | unwritablePath (failure : Utf8.Unwritable)
deriving DecidableEq, Repr

namespace Disk

def maxNameSize : Nat := 255

/-- The most octets in the text of a path. -/
def maxPathSize : Nat := 4095

def get? (disk : Disk) (place : Place) : Option Entry :=
  if Place.isStanding place then some .folder
  else (disk.entries.find? fun entry => Place.isSame entry.1 place).map (·.2)

/-- The entries with one put in: in its place when there is one, at the end otherwise. -/
def putEntry (place : Place) (entry : Entry) : List (Place × Entry) → List (Place × Entry)
  | [] => [(place, entry)]
  | (other, old) :: rest =>
    if Place.isSame other place then (place, entry) :: rest
    else (other, old) :: putEntry place entry rest

/-- The disk with an entry put at a place. -/
def put (disk : Disk) (place : Place) (entry : Entry) : Disk :=
  { entries := putEntry place entry disk.entries }

/-- Follows names from a place. The last name need not exist, all folders on the way must. -/
def walk (disk : Disk) (place : Place) : List Text → Except Trouble Place
  | [] => .ok place
  | name :: names =>
    match disk.get? place with
    | none => .error .missing
    | some (.file _) => .error .notAFolder
    | some .folder =>
      if Utf8.nameSize name > maxNameSize then .error .nameTooLong
      else disk.walk (Place.enter place name) names

/-- What is wrong with the text of a path, whatever the disk holds. -/
def pathError? (path : Path) : Option DiskError :=
  let text := path.toText
  match Utf8.findUnwritable 0 text with
  | some failure => some (.unwritablePath failure)
  | none =>
    if text.contains '\x00' then some .nullInPath
    else if Utf8.nameSize text > maxPathSize then some (.trouble .nameTooLong path)
    else none

/-- The place that a path leads to. -/
def locate (disk : Disk) (path : Path) : Except DiskError Place :=
  match pathError? path with
  | some error => .error error
  | none =>
    match disk.walk (Place.start path.anchor) path.parts with
    | .ok place => .ok place
    | .error cause => .error (.trouble cause path)

/-- The octets of the file at a path. -/
def read (disk : Disk) (path : Path) : Except DiskError ByteArray := do
  let place ← disk.locate path
  match disk.get? place with
  | none => .error (.trouble .missing path)
  | some .folder => .error (.trouble .isAFolder path)
  | some (.file octets) => .ok octets

/-- Writes a file anew. Its folder has to exist. -/
def write (disk : Disk) (path : Path) (octets : ByteArray) : Except DiskError Disk := do
  let place ← disk.locate path
  match disk.get? place with
  | some .folder => .error (.trouble .isAFolder path)
  | _ => .ok (disk.put place (.file octets))

/-- Makes one folder, which must not exist. -/
def makeFolder (disk : Disk) (path : Path) : Except DiskError Disk := do
  let place ← disk.locate path
  match disk.get? place with
  | some _ => .error (.trouble .exists path)
  | none => .ok (disk.put place .folder)

/-- Whether a path leads to a folder. -/
def isFolder (disk : Disk) (path : Path) : Bool :=
  match disk.locate path with
  | .ok place => match disk.get? place with
    | some .folder => true
    | _ => false
  | .error _ => false

/-- Makes one folder; it may be there already, if it is no file. -/
def makeOrFindFolder (disk : Disk) (path : Path) : Except DiskError Disk :=
  match disk.makeFolder path with
  | .ok made => .ok made
  | .error error => if disk.isFolder path then .ok disk else .error error

/-- A change of a disk that was tried: the error, if it was refused, and the disk afterwards, which is
the disk before when there was an error. -/
def tried (disk : Disk) : Except DiskError Disk → Except DiskError Unit × Disk
  | .ok changed => (.ok (), changed)
  | .error error => (.error error, disk)

/-- Makes or finds a folder in a folder that is there, without following the path once more. -/
def makeLastFolder (disk : Disk) (path : Path) : Except DiskError Disk :=
  if path.parts.getLast?.any fun name => Utf8.nameSize name > maxNameSize then
    .error (.trouble .nameTooLong path)
  else
    match disk.get? path.place with
    | none => .ok (disk.put path.place .folder)
    | some .folder => .ok disk
    | some (.file _) => .error (.trouble .exists path)

/-- Makes the folder that some names lead to, and the missing folders on the way. Those that were made
before an error stay. -/
def makeFoldersAt (disk : Disk) (anchor : Anchor) :
    (reversed : List Text) → Except DiskError Unit × Disk
  | [] => disk.tried (disk.makeOrFindFolder ⟨anchor, []⟩)
  | name :: names =>
    let path : Path := ⟨anchor, (name :: names).reverse⟩
    match disk.makeFolder path with
    | .error (.trouble .missing _) =>
      match disk.makeFoldersAt anchor names with
      | (.ok (), prepared) => prepared.tried (prepared.makeLastFolder path)
      | refused => refused
    | _ => disk.tried (disk.makeOrFindFolder path)

/-- Makes a folder and the missing folders above it. -/
def makeFolders (disk : Disk) (path : Path) : Except DiskError Unit × Disk :=
  disk.makeFoldersAt path.anchor path.parts.reverse

/-- The disk with an entry put at a place, and a folder wherever one is missing on the way. -/
def install (disk : Disk) (place : Place) (entry : Entry) : Disk :=
  let folders := (List.range place.length).map place.take
  let prepared := folders.foldl (fun disk folder =>
    match disk.get? folder with
    | none => disk.put folder .folder
    | some _ => disk) disk
  prepared.put place entry

end Disk

def DiskError.message : DiskError → String
  | .trouble cause path => s!"[Errno {cause.number}] {cause.title}: {quote path.toText}"
  | .nullInPath => "embedded null byte"
  | .unwritablePath failure => failure.message

/-- Whether a disk error is about a path that no disk can have. -/
def DiskError.isBadPath : DiskError → Bool
  | .trouble _ _ => false
  | _ => true

end TileWalk.Storage
