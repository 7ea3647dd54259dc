import TileWalk.Storage.Disk
import TileWalk.Text.Utf8

/-!
# Text files

A text file holds UTF-8, and all of its line ends are read as line feeds.
-/

namespace TileWalk.Storage

open TileWalk.Text

/-- The text with every carriage return, alone or before a line feed, read as a line feed. -/
def joinReturns : List Char → List Char
  | [] => []
  | '\r' :: '\n' :: rest => '\n' :: joinReturns rest
  | char :: rest => (if char = '\r' then '\n' else char) :: joinReturns rest

/-- The text that the octets of a file spell. -/
def decodeText (octets : ByteArray) : Except Utf8.Failure String :=
  (Utf8.decode octets).map fun text => String.ofList (joinReturns text.toList)

/-- Why there is no text to be had from a path. -/
inductive TextError where
  | disk (error : DiskError)
  | undecodable (failure : Utf8.Failure)
deriving DecidableEq, Repr

def TextError.message : TextError → String
  | .disk error => error.message
  | .undecodable failure => failure.message

/-- The text in the file at a path. -/
def Disk.readText (disk : Disk) (path : Path) : Except TextError String :=
  match disk.read path with
  | .error error => .error (.disk error)
  | .ok octets =>
    match decodeText octets with
    | .ok text => .ok text
    | .error failure => .error (.undecodable failure)

end TileWalk.Storage
