import TileWalk.Decimal.Reader
import TileWalk.Library
import TileWalk.Session

/-!
# Settings

What the environment says about the player, the folder of the maps and the pace. An empty text says
nothing.
-/

namespace TileWalk

open TileWalk.Storage

/-- The texts that are set in the environment. -/
structure Settings where
  user : Option Text := none
  mapFolder : Option Text := none
  speed : Option Text := none
deriving DecidableEq, Repr

namespace Settings

/-- The first text that is given and not empty. -/
def firstText (texts : List (Option Text)) : Option Text :=
  (texts.filterMap id).find? (· ≠ [])

/-- The folder of the maps when none is named. -/
def defaultFolder : Text := "maps"

/-- The library to be used: what is asked for wins over the environment. -/
def library (settings : Settings) (user : Option Text) (folder : Option Path) : Library where
  folder := folder.getD (Path.ofText ((firstText [settings.mapFolder]).getD defaultFolder))
  user := (firstText [user, settings.user]).getD Library.defaultUser

/-- The pace to be used, and what is logged of the choice. A text that is no number is ignored. -/
def chooseSpeed (settings : Settings) (wish : Option Float) : Float × List LogEntry :=
  match wish, firstText [settings.speed] with
  | some speed, _ => (Speed.clamp speed, [])
  | none, none => (Speed.standard, [])
  | none, some text =>
    match Decimal.read? text with
    | some speed => (Speed.clamp speed, [])
    | none =>
      (Speed.standard, [⟨.warning, .application, s!"Ignoring invalid CODIMOJI_SPEED={Text.quote text}."⟩])

end Settings

end TileWalk
