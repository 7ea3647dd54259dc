import TileWalk.Text.Quoted

/-!
# The options of the command line

Every option has a long name, and the one for help a short name too. The usage says how the options
are written, and the help what they are for.
-/

namespace TileWalk.CommandLine

open TileWalk.Text

inductive Switch where
  | help
  | play
  | editMap
  | listMaps
  | map
  | speed
  | user
  | mapFolder
  | seed
deriving DecidableEq, Repr

namespace Switch

/-- All options in the order in which they are explained. -/
def all : List Switch := [.help, .play, .editMap, .listMaps, .map, .speed, .user, .mapFolder, .seed]

def names : Switch → List String
  | .help => ["-h", "--help"]
  | .play => ["--play"]
  | .editMap => ["--edit-map"]
  | .listMaps => ["--list-maps"]
  | .map => ["--map"]
  | .speed => ["--speed"]
  | .user => ["--user"]
  | .mapFolder => ["--map-dir"]
  | .seed => ["--seed"]

/-- Whether a value belongs to an option. -/
def takesValue : Switch → Bool
  | .help => false
  | .play => false
  | .listMaps => false
  | _ => true

/-- How an option is called in a complaint. -/
def title (switch : Switch) : String :=
  String.intercalate "/" switch.names

/-- Every name of an option, with the option. -/
def named : List (Text × Switch) :=
  all.flatMap fun switch => switch.names.map fun name => (Text.ofString name, switch)

end Switch

inductive UsageError where
  /-- A shortened name that may stand for several. -/
  | ambiguous (text : Text) (candidates : List Text)
  /-- A value for an option that takes none. -/
  | ignoredValue (switch : Switch) (value : Text)
  | missingValue (switch : Switch)
  | notWhole (switch : Switch) (value : Text)
  | notANumber (switch : Switch) (value : Text)
  | unrecognized (texts : List Text)
deriving DecidableEq, Repr

def UsageError.message : UsageError → Text
  | .ambiguous text candidates =>
    "ambiguous option: " ++ text ++ " could match " ++ Text.join ", " candidates
  | .ignoredValue switch value => s!"argument {switch.title}: ignored explicit argument {quote value}"
  | .missingValue switch => s!"argument {switch.title}: expected one argument"
  | .notWhole switch value => s!"argument {switch.title}: invalid int value: {quote value}"
  | .notANumber switch value => s!"argument {switch.title}: invalid float value: {quote value}"
  | .unrecognized texts => "unrecognized arguments: " ++ Text.join " " texts

/-- Lines, each ended by a line feed. -/
def endLines (lines : List String) : String :=
  String.join (lines.map (· ++ "\n"))

def usage : String := endLines [
  "usage: codimoji [-h] [--play] [--edit-map NAME] [--list-maps] [--map MAP]",
  "                [--speed SPEED] [--user USER] [--map-dir MAP_DIR]",
  "                [--seed SEED]",
  "                [program]"]

/-- What the command does and what its options are for. -/
def helpText : String := usage ++ endLines [
  "",
  "Run Codimoji movement programs.",
  "",
  "positional arguments:",
  "  program            Program file to run (headless unless --play is given).",
  "",
  "options:",
  "  -h, --help         show this help message and exit",
  "  --play             Open the interactive game screen.",
  "  --edit-map NAME    Open the map editor for a saved map (created if missing).",
  "  --list-maps        List saved maps for the user.",
  "  --map MAP          Saved map to play on (defaults to the first saved map,",
  "                     else random).",
  "  --speed SPEED      Seconds per tick. Defaults to CODIMOJI_SPEED or 0.5.",
  "  --user USER        Map library owner. Defaults to CODIMOJI_USER or",
  "                     'default'.",
  "  --map-dir MAP_DIR  Directory holding map libraries. Defaults to",
  "                     CODIMOJI_MAP_DIR or ./maps.",
  "  --seed SEED        Seed for random map generation."]

/-- What is said of arguments that cannot be used. -/
def UsageError.report (error : UsageError) : Text :=
  usage ++ "codimoji: error: " ++ error.message ++ "\n"

end TileWalk.CommandLine
