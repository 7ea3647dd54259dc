import TileWalk.Run.Command

/-!
# Observers that act

An observer keeps a record of every notice. It may also give commands at once, on the thread that
gave the notice. Commands lead to further notices, so commands are nested up to a depth that is
fixed beforehand.
-/

namespace TileWalk

open Process

/-- What an observer does about a notice, once it has been recorded. -/
abbrev Reaction := Game → Notice → List Command

namespace Game

/-- The count of waits up to a hold, after one more wait of the thread whose turn it is. -/
def countWait (game : Game) : Option Nat :=
  if game.current = .worker then
    match game.holdIn with
    | some (waits + 1) => some waits
    | _ => none
  else game.holdIn

/-- Records a notice. Without an observer only waits are recorded. -/
def record (game : Game) (notice : Notice) : Game :=
  if notice = .wait then { game.push (game.eventOf notice) with holdIn := game.countWait }
  else if game.attended then game.push (game.eventOf notice)
  else game

/-- Whether a notice comes to someone's attention. -/
def heeds (game : Game) (notice : Notice) : Bool :=
  game.attended || notice = .wait

end Game

namespace Observer

/-- The observer that records notices and reacts to them, with commands nested up to a depth. -/
def reacting (reaction : Reaction) : Nat → Observer
  | 0 => fun notice => update (·.record notice)
  | depth + 1 => fun notice => do
    update (·.record notice)
    let game ← state
    if game.heeds notice then
      (Command.performAll (reaction game notice)).attend (reacting reaction depth)

def recording : Observer := reacting (fun _ _ => []) 0

end Observer

/-- Commands to be given in the course of the notice of a kind with a given number. -/
structure Cue where
  kind : NoticeKind
  number : Nat
  commands : List Command

namespace Cue

/-- The commands of all cues for the newest notice, and the hold of the worker when it is due. -/
def reaction (cues : List Cue) : Reaction := fun game notice =>
  let given := (cues.filter fun cue => cue.kind = notice.kind).filter fun cue =>
    cue.number = Event.count game.trace notice.kind
  let due := notice = .wait && game.current = .worker && game.holdIn = some 0
  given.flatMap (·.commands) ++ if due then [.hold] else []

/-- The observer that follows cues. Each cue is given once, so commands nest no deeper than there
are cues. -/
def observer (cues : List Cue) : Observer :=
  Observer.reacting (reaction cues) (cues.length + 1)

end Cue

end TileWalk
