import TileWalk.Text.Quoted

/-!
# Setting up logs

A log has a level and handlers that write it. A handler keeps the level with which it was added, and
a log has at most one handler of each sort.
-/

namespace TileWalk

open TileWalk.Text

inductive HandlerKind where
  | stream
  | file
deriving DecidableEq, Repr

/-- The name of a sort of handlers. -/
def HandlerKind.name : HandlerKind → String
  | .stream => "StreamHandler"
  | .file => "FileHandler"

structure LogHandler where
  kind : HandlerKind
  level : Int
deriving DecidableEq, Repr

/-- The layout of a line of the log. -/
def LogHandler.layout : String := "[%(asctime)s] %(name)s - %(levelname)s - %(message)s"

/-- The layout of the date in a line of the log. -/
def LogHandler.dateLayout : String := "%Y-%m-%d %H:%M:%S"

/-- A log and its handlers, in the order in which they were added. -/
structure Logger where
  level : Int := 0
  handlers : List LogHandler := []
deriving DecidableEq, Repr

/-- The level that is asked for, by number or by name. -/
inductive LevelRequest where
  | number (level : Int)
  | named (name : Text)
deriving DecidableEq, Repr

/-- Why a level cannot be used: its name stands for something else. -/
inductive LevelError where
  | standsForText (text : String)
  | standsForTable (text : String)
deriving DecidableEq, Repr

def LevelError.message : LevelError → String
  | .standsForText text => s!"Unknown level: {Text.quote text}"
  | .standsForTable text => s!"Level not an integer or a valid string: {text}"

namespace LevelRequest

/-- The level when none is asked for. -/
def standard : Text := "WARNING"

def levels : List (String × Int) :=
  [("DEBUG", 10), ("INFO", 20), ("WARN", 30), ("WARNING", 30), ("ERROR", 40), ("CRITICAL", 50),
   ("FATAL", 50), ("NOTSET", 0)]

/-- The level of a name that is not known. -/
def unknownLevel : Int := 30

/-- The plainest layout of a log line, which has a name among the levels. -/
def basicLayout : String := "%(levelname)s:%(name)s:%(message)s"

/-- The table of layouts, which has a name among the levels. -/
def layoutTable : String :=
  "\x7b'%': (<class 'logging.PercentStyle'>, '%(levelname)s:%(name)s:%(message)s'), " ++
  "'\x7b': (<class 'logging.StrFormatStyle'>, '\x7blevelname\x7d:\x7bname\x7d:\x7bmessage\x7d'), " ++
  "'$': (<class 'logging.StringTemplateStyle'>, '$\x7blevelname\x7d:$\x7bname\x7d:$\x7bmessage\x7d')\x7d"

/-- The plain letters that a letter becomes as a capital. Letters without plain capitals stay, for
they are in no name of a level. -/
def capitals (point : CodePoint) : Text :=
  match point.code with
  | 0xDF => "SS"
  | 0x131 => "I"
  | 0x17F => "S"
  | 0xFB00 => "FF"
  | 0xFB01 => "FI"
  | 0xFB02 => "FL"
  | 0xFB03 => "FFI"
  | 0xFB04 => "FFL"
  | 0xFB05 => "ST"
  | 0xFB06 => "ST"
  | _ => match point.char? with
    | some char => [.char char.toUpper]
    | none => [point]

/-- The level that a name stands for, in any case of its letters. -/
def levelOf (name : Text) : Except LevelError Int :=
  let capital := name.flatMap capitals
  if capital = "BASIC_FORMAT" then .error (.standsForText basicLayout)
  else if capital = "_STYLES" then .error (.standsForTable layoutTable)
  else .ok (((levels.find? (Text.ofString ·.1 = capital)).map (·.2)).getD unknownLevel)

def level : LevelRequest → Except LevelError Int
  | .number level => .ok level
  | .named name => levelOf name

end LevelRequest

namespace Logger

/-- The log with a handler added, unless it has one of that sort. -/
def addHandler (logger : Logger) (kind : HandlerKind) (level : Int) : Logger :=
  if logger.handlers.any (·.kind = kind) then logger
  else { logger with handlers := logger.handlers ++ [⟨kind, level⟩] }

/-- The log with a level, a stream handler, and a file handler if it is wanted. -/
def setUp (logger : Logger) (level : Int) (toFile : Bool) : Logger :=
  let streamed := { logger with level }.addHandler .stream level
  if toFile then streamed.addHandler .file level else streamed

end Logger

structure LogRegistry where
  loggers : List (Text × Logger) := []

namespace LogRegistry

def get (registry : LogRegistry) (name : Text) : Logger :=
  (registry.loggers.lookup name).getD {}

/-- Sets up the log with a name. Without a request, the environment or the usual level decides. A
level that cannot be used leaves the log as it is. -/
def setUp (registry : LogRegistry) (name : Text) (request : Option LevelRequest)
    (environment : Option Text) (toFile : Bool) : Except LevelError Logger × LogRegistry :=
  let wanted := request.getD (.named (environment.getD LevelRequest.standard))
  match wanted.level with
  | .error error => (.error error, registry)
  | .ok level =>
    let logger := (registry.get name).setUp level toFile
    (.ok logger, { loggers := (name, logger) :: registry.loggers })

end LogRegistry

end TileWalk
