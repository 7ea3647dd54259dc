import TileWalk.Application
import TileWalk.Bindings
import TileWalk.CommandLine.Arguments
import TileWalk.CommandLine.Execution
import TileWalk.CommandLine.Switch
import TileWalk.Decimal.Double
import TileWalk.Decimal.Reader
import TileWalk.Decimal.Writer
import TileWalk.Drawing.Basic
import TileWalk.Drawing.Console
import TileWalk.Drawing.Plain
import TileWalk.Drawing.WorldMap
import TileWalk.Json.Basic
import TileWalk.Json.Excerpt
import TileWalk.Json.Reader
import TileWalk.Json.Writer
import TileWalk.Library
import TileWalk.Log.Entry
import TileWalk.Log.Setup
import TileWalk.Main
import TileWalk.Map.Document
import TileWalk.Map.Generation
import TileWalk.Map.Grid
import TileWalk.Map.Tile
import TileWalk.Numeral
import TileWalk.Output
import TileWalk.Program.Source
import TileWalk.Program.Statement
import TileWalk.Proofs.Activity.Environment
import TileWalk.Proofs.Activity.Machine
import TileWalk.Proofs.Run.Waypoint
import TileWalk.Random.Draws
import TileWalk.Random.Twister
import TileWalk.Run.Activity
import TileWalk.Run.Command
import TileWalk.Run.Game
import TileWalk.Run.Interpreter
import TileWalk.Run.Observer
import TileWalk.Run.Scheduler
import TileWalk.Run.Stage
import TileWalk.Run.Transcript
import TileWalk.Screen.Editor
import TileWalk.Screen.Game
import TileWalk.Screen.Widget
import TileWalk.Session
import TileWalk.Settings
import TileWalk.Storage.Disk
import TileWalk.Storage.Path
import TileWalk.Storage.TextFile
import TileWalk.Text.Basic
import TileWalk.Text.Class
import TileWalk.Text.Printable
import TileWalk.Text.Quoted
import TileWalk.Text.Scan
import TileWalk.Text.Utf8
import TileWalk.Text.Word
import TileWalk.Validation
import TileWalk.World
import TileWalk.Proofs.Map.Square
import TileWalk.Proofs.Program.Evaluation
import TileWalk.Proofs.Run.Calls
import TileWalk.Proofs.Run.Cancellation
import TileWalk.Proofs.Run.Evaluation
import TileWalk.Proofs.Run.Exclusion
import TileWalk.Proofs.Run.InnerReset
import TileWalk.Proofs.Run.Recovery
import TileWalk.Proofs.Run.Trail
import TileWalk.Proofs.Program.Grammar
import TileWalk.Proofs.Storage.Disk
import TileWalk.Proofs.Storage.Folder
import TileWalk.Proofs.Json.Number
import TileWalk.Proofs.Json.RoundTrip
import TileWalk.Proofs.Json.File
import TileWalk.Proofs.Library.File
import TileWalk.Proofs.Map.Document
import TileWalk.Proofs.Library.Shelf
import TileWalk.Proofs.Library.Saving
import TileWalk.Proofs.Map.Outline
import TileWalk.Proofs.Map.Generation
import TileWalk.Proofs.Run.OuterReset
import TileWalk.Proofs.Activity.Likeness
import TileWalk.Proofs.Run.Likeness
import TileWalk.Proofs.Run.History
import TileWalk.Proofs.Map.Board
import TileWalk.Proofs.Run.Footing
import TileWalk.Proofs.Run.Faults
import TileWalk.Proofs.Run.Passage
import TileWalk.Proofs.Map.Goal
import TileWalk.Proofs.Screen.Editor
import TileWalk.Proofs.Library.Report
import TileWalk.Proofs.Run.Recording
import TileWalk.Proofs.CommandLine.Ending
import TileWalk.Proofs.Run.Rest
import TileWalk.Proofs.Screen.Game
import TileWalk.Proofs.Library.Told
import TileWalk.Proofs.Run.Operand
import TileWalk.Proofs.Json.Double
import TileWalk.Proofs.Library.Failing
import TileWalk.Proofs.Run.Handover
import TileWalk.Proofs.Screen.Posting
import TileWalk.Proofs.Screen.Desk
import TileWalk.Proofs.Text.Lines
import TileWalk.Proofs.Program.PrintForm
import TileWalk.Proofs.Program.Source
import TileWalk.Proofs.Program.Layout
import TileWalk.Proofs.Run.Layout
import TileWalk.Proofs.Run.Laps
import TileWalk.Proofs.Drawing.WorldMap
import TileWalk.Proofs.Screen.Clicking
import TileWalk.Proofs.Screen.NewMap
import TileWalk.Proofs.Screen.Lending
import TileWalk.Proofs.Screen.SavedMaps
import TileWalk.Proofs.Text.Digit
import TileWalk.Proofs.Numeral.Spelling
import TileWalk.Proofs.Run.Numeral
import TileWalk.Proofs.Map.Reading
import TileWalk.Proofs.Map.Report
import TileWalk.Proofs.Map.Validation
