import TileWalk.Proofs.Activity.Machine
import TileWalk.Run.Game

/-!
# What is seen of a run

The observer of a run is told of output lines, redraws and highlights, and it is
there at every wait. What it sees is read off the exchanges of the run. An
observer that only watches leaves the run undisturbed.
-/

namespace TileWalk

/-- Nothing that a run depends on has changed. -/
structure Game.Undisturbed (before after : Game) : Prop where
  session : after.session = before.session
  idle : after.idle = before.idle
  runner : after.runner = before.runner
  current : after.current = before.current

theorem Game.Undisturbed.world {before after : Game} (undisturbed : before.Undisturbed after) :
    after.session.world = before.session.world :=
  congrArg Session.world undisturbed.session

/-- Nobody raised an error or made a call at this pause. -/
structure Exchange.Quiet (exchange : Exchange Point Game Fault) : Prop where
  reply : exchange.reply = .ok ()
  undisturbed : exchange.before.Undisturbed exchange.after

/-- Observers and other threads only watch. -/
def Environment.Quiet (environment : Environment Point Game Fault) : Prop :=
  ∀ past point game, (environment.exchange past point game).Quiet

/-- Where a machine pauses, and nobody interferes, it goes on in the same session. -/
theorem Machine.Plays.quietly {π α : Type} {machine : Machine π Point Game Fault α} {point : π}
    {game : Game} {exchanges : List (Exchange Point Game Fault)} {result : Except Fault α}
    {final : Game} (plays : machine.Plays (.pause point game) exchanges result final)
    (quiet : ∀ exchange ∈ exchanges, exchange.Quiet) :
    ∃ exchange rest, exchanges = exchange :: rest ∧ exchange.signal = machine.signal point ∧
      exchange.before = game ∧ exchange.after.session = game.session ∧
      machine.Plays (machine.next point (.ok ()) exchange.after) rest result final ∧
      ∀ other ∈ rest, other.Quiet := by
  cases plays with
  | pause _ _ reply after onward =>
      rcases List.forall_mem_cons.mp quiet with ⟨⟨answered, undisturbed⟩, still⟩
      obtain rfl : reply = .ok () := answered
      exact ⟨_, _, rfl, rfl, rfl, undisturbed.session, onward, still⟩

/-- Nobody listens. -/
def Environment.silent : Environment Point Game Fault := fun _ _ game => (.ok (), game)

theorem Environment.silent_quiet : Environment.silent.Quiet :=
  fun _ _ _ => ⟨rfl, ⟨rfl, rfl, rfl, rfl⟩⟩

namespace Exchange

variable (exchange : Exchange Point Game Fault) (exchanges : List (Exchange Point Game Fault))

def output? : Option OutputLine :=
  match exchange.signal with
  | .notice (.output line) => some line
  | _ => none

def redrawn? : Option Agent :=
  match exchange.signal with
  | .notice .redraw => some exchange.before.session.world.agent
  | _ => none

def highlighted? : Option Nat :=
  match exchange.signal with
  | .notice (.highlight line) => line
  | _ => none

def isWait : Bool :=
  exchange.signal = .notice .wait

/-- All lines that are put out, in order. -/
def outputs : List OutputLine :=
  exchanges.filterMap output?

def redraws : List Agent :=
  exchanges.filterMap redrawn?

/-- The numbers of all lines that are highlighted, in order. -/
def highlights : List Nat :=
  exchanges.filterMap highlighted?

def waits : Nat :=
  exchanges.countP isWait

variable (others : List (Exchange Point Game Fault))

@[simp] theorem outputs_nil : outputs [] = [] := rfl

@[simp] theorem redraws_nil : redraws [] = [] := rfl

@[simp] theorem highlights_nil : highlights [] = [] := rfl

@[simp] theorem waits_nil : waits [] = 0 := rfl

@[simp] theorem outputs_append :
    outputs (exchanges ++ others) = outputs exchanges ++ outputs others :=
  List.filterMap_append

@[simp] theorem redraws_append :
    redraws (exchanges ++ others) = redraws exchanges ++ redraws others :=
  List.filterMap_append

@[simp] theorem highlights_append :
    highlights (exchanges ++ others) = highlights exchanges ++ highlights others :=
  List.filterMap_append

@[simp] theorem waits_append : waits (exchanges ++ others) = waits exchanges + waits others :=
  List.countP_append

theorem outputs_cons :
    outputs (exchange :: exchanges) = exchange.output?.toList ++ outputs exchanges := by
  cases told : exchange.output? <;> simp [outputs, told]

theorem redraws_cons :
    redraws (exchange :: exchanges) = exchange.redrawn?.toList ++ redraws exchanges := by
  cases shown : exchange.redrawn? <;> simp [redraws, shown]

theorem highlights_cons :
    highlights (exchange :: exchanges) =
      exchange.highlighted?.toList ++ highlights exchanges := by
  cases line : exchange.highlighted? <;> simp [highlights, line]

theorem waits_cons :
    waits (exchange :: exchanges) = exchange.isWait.toNat + waits exchanges := by
  cases waited : exchange.isWait <;> simp [waits, waited]
  omega

end Exchange

end TileWalk
