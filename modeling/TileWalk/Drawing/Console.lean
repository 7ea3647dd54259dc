import TileWalk.Decimal.Writer
import TileWalk.Drawing.WorldMap
import TileWalk.Output
import TileWalk.Session

/-!
# The drawn console and the summary of a session

Output lines are drawn in the style of their kind. The summary of a session shows the world beside
the agent's data and the console.
-/

namespace TileWalk

/-- The style of a kind of output. -/
def OutputKind.style : OutputKind → String
  | .normal => "white"
  | .info => "white"
  | .error => "bold red"
  | .success => "bold green"

def OutputLine.draw (line : OutputLine) : StyledText :=
  StyledText.ofText line.text line.kind.style

/-- The last `count` items. A count of zero keeps all of them, and a negative one drops that many
from the front. -/
def keepLast {α : Type} (count : Int) (items : List α) : List α :=
  if 0 < count then items.drop (items.length - count.toNat) else items.drop (-count).toNat

/-- The number of lines that a console shows. -/
def consoleLines : Int := 200

def drawConsole (lines : List OutputLine) (maxLines : Int) : Drawing :=
  if lines = [] then .styled (StyledText.ofText "No output yet." "grey50")
  else .group (keepLast maxLines (lines.map fun line => .styled line.draw))

def drawFields (rows : List (String × Drawing)) : Drawing :=
  .table ["Field", "Value"] false (rows.map fun (name, value) => [.plain name, value])

/-- The variables in the order of their names. -/
def Bindings.summary (bindings : Bindings) : Text :=
  let entries := bindings.sorted.map fun (name, value) => name ++ s!"={value}"
  if entries = [] then "None" else Text.join ", " entries

/-- A pace in seconds, with two decimal places. -/
def Speed.render (speed : Float) : String :=
  Decimal.renderFixed 2 speed ++ "s"

def Session.drawAgent (session : Session) : Drawing :=
  let agent := session.world.agent
  .panel (drawFields
    [("Position", .plain s!"{agent.position.x}, {agent.position.y}"),
     ("Status", .plain (if agent.dead then "dead" else "alive")),
     ("Speed", .plain (Speed.render session.speed)),
     ("Variables", .plain session.bindings.summary)]) (some "Agent")

/-- The summary of a session and what was put out in it. -/
def Session.draw (session : Session) (lines : List OutputLine) : Drawing :=
  .columns
    [drawWorldPanel session.world,
     .group [session.drawAgent, .panel (drawConsole lines consoleLines) (some "Console")]]

end TileWalk
