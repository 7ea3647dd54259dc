import TileWalk.Text.Scan
import TileWalk.Text.Word

/-!
# Statements

A line of a program is an assignment, a print, a movement, or a remark that has no effect. The
reader tries these forms in that order.
-/

namespace TileWalk

open TileWalk.Text

inductive Direction where
  | right
  | left
  | up
  | down
deriving DecidableEq, Repr

namespace Direction

def all : List Direction := [.right, .left, .up, .down]

/-- The word that moves the agent this way. -/
def keyword : Direction → String
  | .right => "move_right"
  | .left => "move_left"
  | .up => "move_up"
  | .down => "move_down"

def ofKeyword? (word : Text) : Option Direction :=
  all.find? fun direction => Text.ofString direction.keyword = word

/-- How a step changes the column and the row. Rows are counted downwards. -/
def delta : Direction → Int × Int
  | .right => (1, 0)
  | .left => (-1, 0)
  | .up => (0, -1)
  | .down => (0, 1)

end Direction

inductive Statement where
  /-- Gives a name the value of a numeral or of another name. -/
  | assign (name value : Text)
  /-- Prints a quoted text, or what a word stands for. -/
  | print (token : Text) (quoted : Bool)
  /-- Walks in a direction; the argument says how far. -/
  | move (direction : Direction) (argument : Option Text)
  /-- Has no effect. -/
  | remark (text : Text)
deriving DecidableEq, Repr

/-- Why a statement cannot be carried out. -/
inductive StatementError where
  | invalidPrint
  | invalidAssignment (name : Text)
deriving DecidableEq, Repr

/-- What the player is told about an error in a statement. -/
def StatementError.message : StatementError → Text
  | .invalidPrint => "Invalid print statement"
  | .invalidAssignment name => "Invalid value for " ++ name

namespace Statement

def isQuote (point : CodePoint) : Bool :=
  point == '\'' || point == '"'

def printWord : Text := "print("

/-- The sides of the first equals sign, without blanks. A text with two equals signs in a row is
no assignment. -/
def assignment? (text : Text) : Option (Text × Text) :=
  if text.contains '=' && !hasDouble '=' text then
    some (trim (text.takeWhile (· != .char '=')), trim ((text.dropWhile (· != .char '=')).drop 1))
  else
    none

/-- The text of a quoted print that starts right here. The quotes need not be the same. -/
def quotedPrint? (text : Text) : Option Text :=
  match after? printWord text with
  | some (opening :: rest) =>
    let body := rest.takeWhile (!isQuote ·)
    if isQuote opening && !body.isEmpty then
      match rest.dropWhile (!isQuote ·) with
      | _ :: .char ')' :: _ => some body
      | _ => none
    else none
  | _ => none

/-- The word of a print that starts right here. -/
def wordPrint? (text : Text) : Option Text :=
  match after? printWord text with
  | some rest =>
    let word := rest.takeWhile isWord
    if !word.isEmpty && (rest.dropWhile isWord).head? = some (.char ')') then some word else none
  | none => none

/-- The argument of a movement: what stands between its brackets, when nothing but one line feed
follows them. -/
def argument? (text : Text) : Option (Option Text) :=
  match trimStart text with
  | .char '(' :: rest =>
    let inside := trimStart rest
    let word := inside.takeWhile isWord
    match trimStart (inside.dropWhile isWord) with
    | .char ')' :: ending =>
      if ending = [] ∨ ending = "\n" then some (if word.isEmpty then none else some word)
      else none
    | _ => none
  | _ => none

/-- The direction and the argument of a movement. -/
def movement? (text : Text) : Option (Direction × Option Text) :=
  Direction.all.findSome? fun direction => do
    let rest ← after? direction.keyword text
    let argument ← argument? rest
    return (direction, argument)

/-- Reads one line. A line that starts as a print has to hold one somewhere. -/
def parse (text : Text) : Except StatementError Statement :=
  match assignment? text with
  | some (name, value) => .ok (.assign name value)
  | none =>
    if (after? printWord text).isSome then
      match search? quotedPrint? text with
      | some body => .ok (.print body true)
      | none =>
        match search? wordPrint? text with
        | some word => .ok (.print word false)
        | none => .error .invalidPrint
    else
      match movement? text with
      | some (direction, argument) => .ok (.move direction argument)
      | none => .ok (.remark text)

end Statement

end TileWalk
