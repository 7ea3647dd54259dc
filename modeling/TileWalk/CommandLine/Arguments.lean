import TileWalk.CommandLine.Switch
import TileWalk.Decimal.Reader
import TileWalk.Storage.Path

/-!
# Reading the arguments

All arguments are first sorted into options, plain texts and a separator, behind which everything
is plain. Then they are used from left to right. One plain text is the program's file; an option
takes the value behind its equal sign or else the plain text that follows it. What finds no use is
refused at the end.
-/

namespace TileWalk.CommandLine

open TileWalk.Text TileWalk.Storage

inductive Word where
  | plain (text : Text)
  /-- An option and the value that is written together with it. -/
  | option (switch : Switch) (value : Option Text)
  /-- What looks like an option and is none. -/
  | unknown (text : Text)
  | separator
deriving DecidableEq, Repr

namespace Word

/-- Cuts a text at its first equal sign, if it has one. -/
def cutAtEqual (text : Text) : Text × Option Text :=
  match text.dropWhile (· != .char '=') with
  | [] => (text, none)
  | _ :: value => (text.takeWhile (· != .char '='), some value)

/-- A minus sign and a number in digits, with or without a point. One line feed may follow. -/
def isNegativeNumber (text : Text) : Bool :=
  match text with
  | .char '-' :: digits =>
    let rest := digits.dropWhile isDigit
    let ends := fun (ending : Text) => ending = [] || ending = "\n"
    match rest with
    | .char '.' :: fraction =>
      fraction.head?.any isDigit && ends (fraction.dropWhile isDigit)
    | _ => digits.head?.any isDigit && ends rest
  | _ => false

/-- The option for help by its short name with a text behind it. The short name may be repeated
there; what is left then is taken for a value. -/
def shortHelp (behind : Text) : Word :=
  match behind, behind.dropWhile (· == .char 'h') with
  | [], _ => .option .help (some [])
  | _, [] => .option .help none
  | _, value => .option .help (some value)

/-- An option by its name, with what is written behind its equal sign. -/
def named (name : Text) (switch : Switch) (value : Text) : Word :=
  if name = "-h" then shortHelp value else .option switch (some value)

/-- What a text of at least two code points with a dash in front is taken for, when it is no option
by name. Long names may be shortened. -/
def ofDashed (text : Text) : Except UsageError Word :=
  let (stem, value) := cutAtEqual text
  let candidates :=
    if text.take 2 = "--" then Switch.named.filter fun (name, _) => stem.isPrefixOf name else []
  match candidates with
  | [(_, switch)] => .ok (.option switch value)
  | _ :: _ :: _ => .error (.ambiguous text (candidates.map (·.1)))
  | [] =>
    match text with
    | .char '-' :: .char 'h' :: behind => .ok (shortHelp behind)
    | _ => if isNegativeNumber text || text.contains ' ' then .ok (.plain text) else .ok (.unknown text)

/-- What an argument before any separator is taken for. -/
def ofText (text : Text) : Except UsageError Word :=
  match text with
  | .char '-' :: _ :: _ =>
    match Switch.named.lookup text with
    | some switch => .ok (.option switch none)
    | none =>
      let (stem, value) := cutAtEqual text
      match value, Switch.named.lookup stem with
      | some value, some switch => .ok (named stem switch value)
      | _, _ => ofDashed text
  | _ => .ok (.plain text)

def dashes : Text := "--"

def ofTexts : List Text → Except UsageError (List Word)
  | [] => .ok []
  | text :: rest =>
    if text = dashes then .ok (.separator :: rest.map .plain)
    else do
      let word ← ofText text
      return word :: (← ofTexts rest)

end Word

/-- A number that an option asks for. Two dashes give the option without a number. -/
inductive Given (α : Type) where
  | number (value : α)
  | empty

structure Arguments where
  program : Option Path := none
  play : Bool := false
  editMap : Option Text := none
  listMaps : Bool := false
  mapName : Option Text := none
  speed : Option (Given Float) := none
  user : Option Text := none
  mapFolder : Option Path := none
  seed : Option (Given Int) := none

inductive Interruption where
  | help
  | misuse (error : UsageError)
deriving DecidableEq, Repr

namespace Arguments

/-- The value that a text gives. Two dashes give none. -/
def givenText (text : Text) : Option Text :=
  if text = Word.dashes then none else some text

/-- The number that a text gives, when it is read as one. -/
def givenNumber {α : Type} (read : Text → Option α) (text : Text) : Option (Given α) :=
  if text = Word.dashes then some .empty else (read text).map .number

def setValue (arguments : Arguments) (switch : Switch) (value : Text) :
    Except UsageError Arguments :=
  match switch with
  | .editMap => .ok { arguments with editMap := givenText value }
  | .map => .ok { arguments with mapName := givenText value }
  | .user => .ok { arguments with user := givenText value }
  | .mapFolder => .ok { arguments with mapFolder := (givenText value).map Path.ofText }
  | .speed =>
    match givenNumber Decimal.read? value with
    | some speed => .ok { arguments with speed := some speed }
    | none => .error (.notANumber switch value)
  | .seed =>
    match givenNumber (fun text => (Numeral.signed text).toOption) value with
    | some seed => .ok { arguments with seed := some seed }
    | none => .error (.notWhole switch value)
  | _ => .error (.ignoredValue switch value)

/-- Takes an option that has no value. -/
def setFlag (arguments : Arguments) : Switch → Arguments
  | .play => { arguments with play := true }
  | .listMaps => { arguments with listMaps := true }
  | _ => arguments

end Arguments

/-- Arguments of which some have been used. -/
structure Reading where
  arguments : Arguments := {}
  /-- The place of the program's file has been passed. -/
  programPassed : Bool := false
  /-- What has found no use. -/
  extras : List Text := []

namespace Reading

/-- The reading with an option's value taken. -/
def takeValue (reading : Reading) (switch : Switch) (value : Text) :
    Except Interruption Reading :=
  match reading.arguments.setValue switch value with
  | .ok arguments => .ok { reading with arguments }
  | .error error => .error (.misuse error)

/-- The reading with an option taken that has no value. -/
def takeFlag (reading : Reading) : Switch → Except Interruption Reading
  | .help => .error .help
  | switch => .ok { reading with arguments := reading.arguments.setFlag switch }

/-- The reading with the program's file taken. -/
def takeProgram (reading : Reading) (text : Text) : Reading :=
  { reading with
    arguments := { reading.arguments with program := some (Path.ofText text) }
    programPassed := true }

/-- The reading with one argument more that finds no use. -/
def leave (reading : Reading) (text : Text) : Reading :=
  { reading with extras := reading.extras ++ [text] }

/-- Uses sorted arguments from left to right. -/
def use (reading : Reading) : List Word → Except Interruption Reading
  | [] => .ok reading
  | .option switch (some value) :: rest => do
    (← reading.takeValue switch value).use rest
  | .option switch none :: .plain value :: rest => do
    if switch.takesValue then (← reading.takeValue switch value).use rest
    else (← reading.takeFlag switch).use (.plain value :: rest)
  | .option switch none :: rest => do
    if switch.takesValue then .error (.misuse (.missingValue switch))
    else (← reading.takeFlag switch).use rest
  | .unknown text :: rest => (reading.leave text).use rest
  | .separator :: .plain text :: rest =>
    if reading.programPassed then (reading.leave Word.dashes).use (.plain text :: rest)
    else (reading.takeProgram text).use rest
  | .separator :: rest =>
    (if reading.programPassed then reading.leave Word.dashes
      else { reading with programPassed := true }).use rest
  | .plain text :: .separator :: rest =>
    if reading.programPassed then (reading.leave text).use (.separator :: rest)
    else (reading.takeProgram text).use rest
  | .plain text :: rest =>
    (if reading.programPassed then reading.leave text else reading.takeProgram text).use rest
termination_by words => words.length

end Reading

namespace Arguments

/-- Reads the texts of a command line. -/
def ofTexts (texts : List Text) : Except Interruption Arguments :=
  match Word.ofTexts texts with
  | .error error => .error (.misuse error)
  | .ok words =>
    match Reading.use {} words with
    | .error interruption => .error interruption
    | .ok reading =>
      if reading.extras = [] then .ok reading.arguments
      else .error (.misuse (.unrecognized reading.extras))

end Arguments

end TileWalk.CommandLine
