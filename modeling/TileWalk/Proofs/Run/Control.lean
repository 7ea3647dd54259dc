import TileWalk.Proofs.Activity.Environment
import TileWalk.Proofs.Run.Calls
import TileWalk.Proofs.Run.Exchanges
import TileWalk.Proofs.Run.Waypoint

/-!
# Control and undisturbed runs

What a program does reaches the world and the variables of a session. The state
of the run, the flag that asks it to stop, and the marks that say who drives it
are left alone until the run closes, whatever happens at its notices. If nothing
happens there, they are as they were when the run began.
-/

namespace TileWalk

/-- Everything that governs runs is the same. -/
structure Game.SameControl (game other : Game) : Prop where
  state : other.session.state = game.session.state
  stopRequested : other.session.stopRequested = game.session.stopRequested
  idle : other.idle = game.idle
  runner : other.runner = game.runner
  current : other.current = game.current

theorem Game.SameControl.refl (game : Game) : game.SameControl game :=
  ⟨rfl, rfl, rfl, rfl, rfl⟩

/-! ## Statements -/

theorem Interpreter.resolveSteps_pos {bindings : Bindings} {argument : Option Text} {steps : Int}
    (resolved : resolveSteps bindings argument = .ok steps) : 0 < steps := by
  have positive (value : Int) : 0 < resolveSteps.atLeastOne value := by
    simp only [resolveSteps.atLeastOne]
    split <;> omega
  cases argument with
  | none =>
      cases resolved
      decide
  | some token =>
      simp only [resolveSteps] at resolved
      cases known : bindings.get? token with
      | some value =>
          simp only [known, Except.ok.injEq] at resolved
          exact resolved ▸ positive value
      | none =>
          simp only [known] at resolved
          split at resolved
          · cases read : Numeral.unsigned token with
            | error cause => simp [read, Except.map, bind, Except.bind] at resolved
            | ok number =>
                simp only [read, Except.map, bind, Except.bind, pure, Except.pure,
                  Except.ok.injEq] at resolved
                exact resolved ▸ positive number
          · cases resolved
            decide

/-- The agent is dead where its death is told. -/
def Moment.Shows (moment : Moment) (game : Game) : Prop :=
  match moment with
  | .obstructed _ | .fallen => game.session.world.agent.dead = true
  | _ => True

namespace StatementTurn

variable (game : Game) (told : Prop)

/-- A statement that comes from a game leaves its control alone; if a death was
told where it comes from, so it is where it is. -/
def Keeps (turn : StatementTurn) : Prop :=
  turn.Meets (fun moment later => game.SameControl later ∧ (told → moment.Shows later))
    (fun _ later => game.SameControl later)

theorem walk_keeps (direction : Direction) (total : Int) (left : Nat) :
    (walk direction total left game).Keeps game told := by
  cases left with
  | zero =>
      simp only [walk]
      split
      · exact ⟨.refl game, fun _ => trivial⟩
      · exact .refl game
  | succ left =>
      simp only [walk]
      split
      · exact .refl game
      split
      · exact ⟨⟨rfl, rfl, rfl, rfl, rfl⟩, fun _ => rfl⟩
      split
      · exact .refl game
      split
      · exact ⟨⟨rfl, rfl, rfl, rfl, rfl⟩, fun _ => rfl⟩
      · exact ⟨⟨rfl, rfl, rfl, rfl, rfl⟩, fun _ => trivial⟩

theorem begin_keeps (statement : Statement) : (begin game statement).Keeps game told := by
  cases statement with
  | assign name value =>
      simp only [begin]
      split
      · exact .refl game
      · exact ⟨rfl, rfl, rfl, rfl, rfl⟩
  | print token quoted => exact ⟨.refl game, fun _ => trivial⟩
  | move direction argument =>
      simp only [begin]
      split
      · exact .refl game
      · exact walk_keeps game told ..
  | remark text => exact .refl game

end StatementTurn

theorem Moment.next_keeps (moment : Moment) (reply : Except Fault Unit) (game : Game) :
    (moment.next reply game).Keeps game (moment.Shows game) := by
  cases reply with
  | error fault => cases moment <;> exact .refl game
  | ok =>
      cases moment with
      | said text => exact .refl game
      | stepped walk =>
          simp only [next]
          split
          · exact .refl game
          · exact ⟨.refl game, fun _ => trivial⟩
          · exact ⟨.refl game, fun _ => trivial⟩
      | rested walk =>
          simp only [next]
          split
          · exact .refl game
          · exact StatementTurn.walk_keeps game _ ..
      | obstructed message => exact ⟨.refl game, id⟩
      | fallen => exact .refl game
      | won => exact .refl game

/-! ## Runs -/

namespace Waypoint

/-- The program of the run has not ended yet. -/
def Open : Waypoint → Prop
  | .closing _ | .ended _ => False
  | _ => True

def BeforeEnd : Waypoint → Prop
  | .ended _ => False
  | _ => True

def Shows (waypoint : Waypoint) (game : Game) : Prop :=
  match waypoint with
  | .within _ _ moment => moment.Shows game
  | _ => True

end Waypoint

namespace RunTurn

variable (game : Game) (told : Prop)

/-- A run goes on from a game to another notice and leaves the control alone; if
a death was told where it comes from, so it is where it is. -/
def Keeps (turn : RunTurn) : Prop :=
  turn.Meets (fun waypoint later =>
    waypoint.BeforeEnd ∧ game.SameControl later ∧ (told → waypoint.Shows later)) (fun _ _ => False)

theorem close_keeps {later : Game} (same : game.SameControl later)
    (result : Except Fault Unit) : (close result later).Keeps game told :=
  ⟨trivial, same, fun _ => trivial⟩

theorem dispatch_keeps (lines : List SourceLine) : (dispatch lines game).Keeps game told := by
  cases lines with
  | nil => exact close_keeps game told (.refl game) _
  | cons line rest =>
      simp only [dispatch]
      split
      · exact close_keeps game told (.refl game) _
      · exact ⟨trivial, .refl game, fun _ => trivial⟩

theorem settle_keeps {later : Game} (same : game.SameControl later) (line : SourceLine)
    (rest : List SourceLine) (result : Except Fault Bool) :
    (settle line rest result later).Keeps game told := by
  simp only [settle]
  split
  · split
    · exact close_keeps game told same _
    · exact ⟨trivial, same, fun _ => trivial⟩
  · exact close_keeps game told same _
  · exact ⟨trivial, ⟨same.state, same.stopRequested, same.idle, same.runner, same.current⟩,
      fun _ => trivial⟩
  · exact close_keeps game told same _

theorem ofStatement_keeps {turn : StatementTurn} (keeps : turn.Keeps game told)
    (line : SourceLine) (rest : List SourceLine) : (ofStatement line rest turn).Keeps game told :=
  Turn.Meets.carry (fun _ _ facts => ⟨trivial, facts⟩)
    (fun result _ same => settle_keeps game told same line rest result) keeps

theorem carryOut_keeps (line : SourceLine) (rest : List SourceLine) :
    (carryOut line rest game).Keeps game told := by
  simp only [carryOut]
  split
  · exact ofStatement_keeps game told (StatementTurn.begin_keeps game told _) line rest
  · exact settle_keeps game told (.refl game) line rest _

end RunTurn

/-- As long as its program has not ended, a run goes on to another notice and
leaves the control alone, whatever happened at the last one. -/
theorem Waypoint.next_keeps {waypoint : Waypoint} (going : waypoint.Open)
    (reply : Except Fault Unit) (game : Game) :
    (waypoint.next reply game).Keeps game (waypoint.Shows game) := by
  cases waypoint with
  | within line rest moment =>
      exact RunTurn.ofStatement_keeps game _ (Moment.next_keeps moment reply game) line rest
  | closing result => exact going.elim
  | ended result => exact going.elim
  | begun lines =>
      cases reply with
      | error fault => exact RunTurn.close_keeps game _ (.refl game) _
      | ok => exact RunTurn.dispatch_keeps game _ lines
  | highlighted line rest =>
      cases reply with
      | error fault => exact RunTurn.close_keeps game _ (.refl game) _
      | ok => exact RunTurn.carryOut_keeps game _ line rest
  | failed error => cases reply <;> exact RunTurn.close_keeps game _ (.refl game) _
  | between rest =>
      cases reply with
      | error fault => exact RunTurn.close_keeps game _ (.refl game) _
      | ok => exact RunTurn.dispatch_keeps game _ rest

/-! ## Undisturbed runs -/

/-- The state of the session at a notice, when nobody interferes. -/
def Waypoint.state : Waypoint → RunState
  | .ended _ => .idle
  | _ => .running

/-- What can be relied on at a notice, when nobody interferes. -/
structure Waypoint.Fits (waypoint : Waypoint) (game : Game) : Prop where
  state : game.session.state = waypoint.state
  clear : game.session.stopRequested = false
  runner : game.runner = some game.current
  shows : waypoint.Shows game

theorem Game.claimed_fits (game : Game) (lines : List SourceLine) :
    (Waypoint.begun lines).Fits ((game.claimed game.current).begun lines) :=
  ⟨rfl, rfl, rfl, trivial⟩

theorem Waypoint.Fits.after {waypoint : Waypoint} {before after : Game}
    (fits : waypoint.Fits before) (undisturbed : before.Undisturbed after) :
    waypoint.Fits after where
  state := by rw [undisturbed.session, fits.state]
  clear := by rw [undisturbed.session, fits.clear]
  runner := by rw [undisturbed.runner, fits.runner, undisturbed.current]
  shows := by
    have shown := fits.shows
    cases waypoint with
    | within line rest moment =>
        cases moment <;> simp_all [Shows, Moment.Shows, undisturbed.session]
    | _ => trivial

theorem Waypoint.Fits.next {waypoint : Waypoint} {game : Game} (fits : waypoint.Fits game) :
    (waypoint.next (.ok ()) game).Meets Waypoint.Fits fun _ _ => True := by
  by_cases going : waypoint.Open
  · have keeps := next_keeps going (.ok ()) game
    cases turn : waypoint.next (.ok ()) game with
    | finish result last => trivial
    | pause place later =>
        rw [turn] at keeps
        rcases keeps with ⟨early, same, shows⟩
        have running : place.state = waypoint.state := by
          cases place <;> cases waypoint <;> first | rfl | exact early.elim | exact going.elim
        constructor
        · rw [same.state, fits.state, running]
        · rw [same.stopRequested, fits.clear]
        · rw [same.runner, fits.runner, same.current]
        · exact shows fits.shows
  · cases waypoint with
    | closing result => exact ⟨rfl, fits.clear, fits.runner, trivial⟩
    | ended result => trivial
    | _ => exact absurd trivial going

/-- Up to any of its exchanges, an undisturbed run is as it should be. -/
theorem Waypoint.Fits.plays {turn : RunTurn}
    {first rest : List (Exchange Point Game Fault)} {exchange : Exchange Point Game Fault}
    {result : Except Fault Unit} {final : Game}
    (fits : turn.Meets Waypoint.Fits fun _ _ => True) (quiet : ∀ other ∈ first, other.Quiet)
    (plays : runMachine.Plays turn (first ++ exchange :: rest) result final) :
    ∃ waypoint : Waypoint, runMachine.after turn first = .pause waypoint exchange.before ∧
      waypoint.Fits exchange.before ∧ .notice waypoint.notice = exchange.signal ∧
      runMachine.Plays (waypoint.next exchange.reply exchange.after) rest result final := by
  apply plays.meets fits
  intro waypoint other membership fits
  rw [(quiet other membership).reply]
  exact (fits.after (quiet other membership).undisturbed).next

/-- A run that closes clears the highlight and tells its end. -/
theorem RunTurn.close_quiet {result ending : Except Fault Unit} {game final : Game}
    {tail : List (Exchange Point Game Fault)}
    (plays : runMachine.Plays (RunTurn.close result game) tail ending final)
    (quiet : ∀ exchange ∈ tail, exchange.Quiet) :
    ending = result ∧ ∃ closing ended, tail = [closing, ended] ∧
      closing.signal = .notice (.highlight none) ∧ ended.signal = .notice .ended ∧
      closing.before = game ∧
      ended.before.session = { game.session with state := .idle } ∧
      final.session = { game.session with state := .idle } := by
  rcases plays.quietly quiet with ⟨closing, rest, rfl, cleared, first, same, plays, quiet⟩
  rcases plays.quietly quiet with ⟨ended, rest, rfl, told, second, still, plays, quiet⟩
  cases plays
  have idle : ended.before.session = { game.session with state := .idle } := by
    rw [second, ← same]
    rfl
  exact ⟨rfl, closing, ended, rfl, cleared, told, first, idle, by rw [← idle, second, ← still]⟩

/-! ## Accepted runs -/

section Accepted

variable {source : Text} {game : Game} {environment : Environment Point Game Fault}

/-- A run that pauses has been accepted. -/
theorem Scheduler.run_pauses {index : Nat} {point : Exchange Point Game Fault}
    (found : ((run source game).under environment []).exchanges[index]? = some point) :
    SourceLine.ofSource source ≠ [] ∧ game.Free := by
  by_cases filled : SourceLine.ofSource source = []
  · simp [run_blank filled] at found
  · by_cases free : game.Free
    · exact ⟨filled, free⟩
    · simp [run_busy filled free] at found

/-- An accepted run does what its lines do in the claimed session. -/
theorem Scheduler.run_under (filled : SourceLine.ofSource source ≠ []) (free : game.Free)
    (environment : Environment Point Game Fault) :
    let ending := (execute (SourceLine.ofSource source) (game.claimed game.current)).under
      environment []
    (run source game).under environment [] =
      { ending with result := ending.result.map fun _ => true } := by
  rw [run_free filled free]
  exact Activity.under_andThen_done environment _ (fun result => result.map fun _ => true) []

end Accepted

/-! ## A call at a notice -/

/-- An undisturbed run, and the same run with a call at one of its notices. Up to
the call they are the same. -/
structure Interrupted (environment : Environment Point Game Fault) (call : Course Unit)
    (waypoint : Waypoint) (first : List (Exchange Point Game Fault))
    (point other : Exchange Point Game Fault) (rest tail : List (Exchange Point Game Fault))
    (full cut : Ending Point Game Fault Unit) : Prop where
  long : full.exchanges = first ++ point :: rest
  made : cut.exchanges = first ++ other :: tail
  fits : waypoint.Fits point.before
  told : .notice waypoint.notice = point.signal
  signal : other.signal = point.signal
  before : other.before = point.before
  reply : other.reply = ((call point.after).under environment first).result
  after : other.after = ((call point.after).under environment first).final
  whole : runMachine.Plays (waypoint.next point.reply point.after) rest full.result full.final
  plays : runMachine.Plays (waypoint.next other.reply other.after) tail cut.result cut.final
  watched : ∀ exchange ∈ full.exchanges, exchange.Quiet
  quiet : ∀ exchange ∈ tail, exchange.Quiet

theorem execute_interrupted {environment : Environment Point Game Fault}
    (quiet : environment.Quiet) {game : Game} {lines : List SourceLine}
    (fits : (Waypoint.begun lines).Fits (game.begun lines)) (call : Course Unit) {index : Nat}
    {point : Exchange Point Game Fault}
    (found : ((Scheduler.execute lines game).under environment []).exchanges[index]? =
      some point) :
    ∃ waypoint first other rest tail, first.length = index ∧
      runMachine.after (.pause (.begun lines) (game.begun lines)) first =
        .pause waypoint point.before ∧
      Interrupted environment call waypoint first point other rest tail
        ((Scheduler.execute lines game).under environment [])
        ((Scheduler.execute lines game).under (environment.calling index call) []) := by
  have start : Turn.Meets Waypoint.Fits (fun _ _ => True)
    (.pause (.begun lines) (game.begun lines) : RunTurn) := fits
  have whole := (run_follows lines game).plays environment []
  have plays := (run_follows lines game).plays (environment.calling index call) []
  have watched := (environment.gave_under (Scheduler.execute lines game) []).all quiet
  have given := (environment.calling index call).gave_under (Scheduler.execute lines game) []
  rcases (Scheduler.execute lines game).under_calling environment call
    index [] (Nat.zero_le _) with ⟨short, -⟩ |
    ⟨first, place, other, rest, tail, long, made, count, signal, same, reply, after⟩
  · have late := (List.getElem?_eq_some_iff.mp found).1
    simp only [List.length_nil, Nat.zero_add] at short
    exact absurd late (Nat.not_lt.mpr short)
  · simp only [List.length_nil, Nat.zero_add] at count
    obtain rfl : place = point := by simpa [long, ← count] using found
    rw [long] at whole
    rw [made] at plays given
    have early : ∀ exchange ∈ first, exchange.Quiet := by
      intro exchange membership
      exact watched exchange (by simp [long, membership])
    rcases Waypoint.Fits.plays start early whole with ⟨waypoint, reached, fits, told, whole⟩
    rcases plays.split.head with ⟨_, here, -, plays⟩
    rcases (Turn.pause.inj (reached.symm.trans here)).1 with rfl
    have late : index < ([] ++ first ++ [other]).length := by simp [count]
    rw [List.append_cons] at given
    have later := (given.drop.of_calling late).all quiet
    exact ⟨waypoint, first, other, rest, tail, count, reached, long, made, fits, told, signal, same,
      reply, after, whole, plays, watched, later⟩

end TileWalk
