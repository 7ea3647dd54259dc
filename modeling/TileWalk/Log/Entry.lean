import TileWalk.Text.Basic

/-!
# Log entries

What the parts of the program log is kept as data: a level, the part that speaks, and its message.
-/

namespace TileWalk

inductive LogLevel where
  | debug
  | info
  | warning
deriving DecidableEq, Repr

def LogLevel.name : LogLevel → String
  | .debug => "DEBUG"
  | .info => "INFO"
  | .warning => "WARNING"

/-- The part of the program that logs. -/
inductive LogSource where
  | scheduler
  | mapGeneration
  | mapLibrary
  | application
deriving DecidableEq, Repr

/-- The name of a part in the log. -/
def LogSource.name : LogSource → String
  | .scheduler => "scheduler"
  | .mapGeneration => "map_gen"
  | .mapLibrary => "map_library"
  | .application => "app"

structure LogEntry where
  level : LogLevel
  source : LogSource
  message : Text
deriving DecidableEq, Repr

end TileWalk
