import TileWalk.Proofs.Program.Layout
import TileWalk.Proofs.Run.Control

/-!
# Runs and the layout of their programs

Two runs that nobody disturbs are compared notice by notice. Where their programs differ in the
layout only, they show the same but for the numbers of the highlighted lines. A remark that is put
in shows in one highlight and one wait, if the run comes so far.
-/

namespace TileWalk

open TileWalk.Text Exchange

/-! ## What is seen at a notice -/

/-- What can be seen at an exchange. -/
structure Sight where
  signal : Point
  session : Session

/-- The same point in a program whose lines have other numbers. -/
def Point.renumber (renumber : Nat → Nat) : Point → Point
  | .notice (.highlight line) => .notice (.highlight (line.map renumber))
  | point => point

@[simp] theorem Point.renumber_id (point : Point) : point.renumber id = point := by
  rcases point with notice | signal
  · cases notice with
    | highlight line => simp [renumber]
    | _ => rfl
  · rfl

namespace Sight

def renumber (renumber : Nat → Nat) (sight : Sight) : Sight :=
  { sight with signal := sight.signal.renumber renumber }

@[simp] theorem renumber_id (sight : Sight) : sight.renumber id = sight := by
  simp [renumber]

end Sight

namespace Exchange

def sight (exchange : Exchange Point Game Fault) : Sight :=
  ⟨exchange.signal, exchange.before.session⟩

def sights (exchanges : List (Exchange Point Game Fault)) : List Sight :=
  exchanges.map sight

@[simp] theorem sights_nil : sights [] = [] := rfl

@[simp] theorem sights_cons (exchange : Exchange Point Game Fault)
    (exchanges : List (Exchange Point Game Fault)) :
    sights (exchange :: exchanges) = exchange.sight :: sights exchanges := rfl

@[simp] theorem sights_append (exchanges others : List (Exchange Point Game Fault)) :
    sights (exchanges ++ others) = sights exchanges ++ sights others := List.map_append

end Exchange

/-- The notices of a remark on a line that was added, if one was. -/
def asides : Option Nat → List Point
  | some number => [.notice (.highlight (some number)), .notice .wait]
  | none => []

/-- The second sequence shows what the first one shows with other line numbers and, at one place,
the notices of a remark if one was added. -/
inductive Detours (renumber : Nat → Nat) (added : Option Nat) : List Sight → List Sight → Prop where
  | intro (early late : List Sight) {detour : List Sight}
      (told : (detour.map (·.signal)).Perm (asides added)) :
      Detours renumber added (early ++ late)
        (early.map (·.renumber renumber) ++ detour ++ late.map (·.renumber renumber))

namespace Detours

variable {renumber : Nat → Nat} {added : Option Nat} {seen shown : List Sight}

theorem straight (seen : List Sight) :
    Detours renumber none seen (seen.map (·.renumber renumber)) := by
  have nowhere : (([] : List Sight).map (·.signal)).Perm (asides none) := .refl _
  simpa using Detours.intro [] seen nowhere

theorem eq_map (detours : Detours renumber none seen shown) :
    shown = seen.map (·.renumber renumber) := by
  cases detours with
  | intro early late told => simpa [asides] using told

theorem lead (first : List Sight) (detours : Detours renumber added seen shown) :
    Detours renumber added (first ++ seen) (first.map (·.renumber renumber) ++ shown) := by
  cases detours with
  | intro early late told => simpa using Detours.intro (first ++ early) late told

end Detours

/-- Two activities that are over came to the same, and what was seen of the second one is what was
seen of the first one with other line numbers and with a remark that was added. -/
structure Ending.Follows {α : Type} (renumber : Nat → Nat) (added : Option Nat)
    (one two : Ending Point Game Fault α) : Prop where
  sights : Detours renumber added (sights one.exchanges) (sights two.exchanges)
  result : two.result = one.result
  session : two.final.session = one.final.session

/-- What goes before is seen with other line numbers. -/
theorem Ending.Follows.lead {α : Type} {renumber : Nat → Nat} {added : Option Nat}
    {one two : Ending Point Game Fault α} (first other : List (Exchange Point Game Fault))
    {rest tail : List (Exchange Point Game Fault)} (split : one.exchanges = first ++ rest)
    (also : two.exchanges = other ++ tail)
    (same : Exchange.sights other = (Exchange.sights first).map (·.renumber renumber))
    (follows : Follows renumber added { one with exchanges := rest } { two with exchanges := tail }) :
    Follows renumber added one two where
  sights := by
    rw [split, also, sights_append, sights_append, same]
    exact follows.sights.lead _
  result := follows.result
  session := follows.session

/-- A remark that is carried out at once shows in its two notices. -/
theorem Ending.Follows.aside {α : Type} {renumber : Nat → Nat} {number : Nat}
    {one two : Ending Point Game Fault α} {first second : Exchange Point Game Fault}
    {rest : List (Exchange Point Game Fault)} (split : two.exchanges = first :: second :: rest)
    (told : [first.signal, second.signal].Perm (asides (some number)))
    (follows : Follows renumber none one { two with exchanges := rest }) :
    Follows renumber (some number) one two where
  sights := by
    have detour : ([first.sight, second.sight].map (·.signal)).Perm (asides (some number)) := told
    rw [split, sights_cons, sights_cons, follows.sights.eq_map]
    exact .intro [] (Exchange.sights one.exchanges) detour
  result := follows.result
  session := follows.session

/-! ## Machines that keep step -/

section Machines

variable {π α : Type} {machine : Machine π Point Game Fault α} {points : π → π → Prop}
  {turn other : Turn π Game Fault α} {renumber : Nat → Nat}

/-- Two turns are at points that match, or at the same end, in one session. -/
inductive Turn.Matches (points : π → π → Prop) :
    Turn π Game Fault α → Turn π Game Fault α → Prop where
  | pause {point place : π} {game later : Game} (alike : points point place)
      (same : later.session = game.session) :
      Matches points (.pause point game) (.pause place later)
  | finish (result : Except Fault α) {game later : Game} (same : later.session = game.session) :
      Matches points (.finish result game) (.finish result later)

/-- From points that match, the machine gives the same notice, up to line numbers, and goes on to
points that match. -/
structure Machine.InStep (machine : Machine π Point Game Fault α) (renumber : Nat → Nat)
    (points : π → π → Prop) : Prop where
  signal {point place : π} (alike : points point place) :
    machine.signal place = (machine.signal point).renumber renumber
  next {point place : π} {game later : Game} (alike : points point place)
    (same : later.session = game.session) :
    (machine.next point (.ok ()) game).Matches points (machine.next place (.ok ()) later)

/-- A run of a machine that nobody disturbs. -/
structure Machine.Watched (machine : Machine π Point Game Fault α) (turn : Turn π Game Fault α)
    (ending : Ending Point Game Fault α) : Prop where
  plays : machine.Plays turn ending.exchanges ending.result ending.final
  quiet : ∀ exchange ∈ ending.exchanges, exchange.Quiet

theorem Activity.Follows.watched {activity : Activity Point Game Fault α}
    (follows : activity.Follows machine turn) {environment : Environment Point Game Fault}
    (quiet : environment.Quiet) : machine.Watched turn (activity.under environment []) :=
  ⟨follows.plays environment [], (environment.gave_under activity []).all quiet⟩

theorem Machine.Watched.step {point : π} {game : Game} {ending : Ending Point Game Fault α}
    (watched : machine.Watched (.pause point game) ending) :
    ∃ exchange rest, ending.exchanges = exchange :: rest ∧
      exchange.sight = ⟨machine.signal point, game.session⟩ ∧
      exchange.after.session = game.session ∧
      machine.Watched (machine.next point (.ok ()) exchange.after)
        { ending with exchanges := rest } := by
  rcases watched.plays.quietly watched.quiet with
    ⟨exchange, rest, split, signal, before, same, plays, quiet⟩
  exact ⟨exchange, rest, split, by rw [sight, signal, before], same, plays, quiet⟩

/-- What each step keeps of the session holds of it in the end. -/
theorem Machine.Watched.keeps (property : Session → Prop)
    (steps : ∀ point game, property game.session → (machine.next point (.ok ()) game).Meets
      (fun _ later => property later.session) fun _ later => property later.session)
    (start : turn.Meets (fun _ game => property game.session) fun _ game => property game.session)
    {ending : Ending Point Game Fault α} (watched : machine.Watched turn ending) :
    property ending.final.session := by
  rcases ending with ⟨exchanges, result, final⟩
  induction exchanges generalizing turn with
  | nil =>
      cases watched.plays
      exact start
  | cons exchange exchanges ih =>
      cases turn with
      | finish => cases watched.plays
      | pause point game =>
          rcases watched.step with ⟨_, _, split, -, session, watched⟩
          cases split
          have before : property game.session := start
          exact ih (steps point exchange.after (by rwa [session])) watched

/-- From turns that match, two undisturbed runs of a machine show the same. -/
theorem Machine.InStep.follows (inStep : machine.InStep renumber points)
    (start : turn.Matches points other) {one two : Ending Point Game Fault α}
    (watched : machine.Watched turn one) (also : machine.Watched other two) :
    one.Follows renumber none two := by
  rcases one with ⟨exchanges, result, final⟩
  induction exchanges generalizing turn other two with
  | nil =>
      rcases two with ⟨others, ending, last⟩
      cases start with
      | pause => cases watched.plays
      | finish result same =>
          cases watched.plays
          cases also.plays
          exact ⟨.straight [], rfl, same⟩
  | cons exchange exchanges ih =>
      cases start with
      | finish => cases watched.plays
      | pause alike same =>
          rcases watched.step with ⟨_, _, split, here, session, watched⟩
          cases split
          rcases also.step with ⟨shown, rest, split, there, still, also⟩
          have onward := ih (inStep.next alike (still.trans (same.trans session.symm))) also watched
          refine Ending.Follows.lead [exchange] [shown] rfl split ?_ onward
          simp [here, there, Sight.renumber, inStep.signal alike, same]

end Machines

/-! ## Statements keep step -/

section Statements

variable {game later : Game} (same : later.session = game.session)

include same

theorem StatementTurn.walk_matches (direction : Direction) (total : Int) (left : Nat) :
    (walk direction total left game).Matches Eq (walk direction total left later) := by
  have moved (change : World → World) :
      (later.onWorld change).session = (game.onWorld change).session := by
    simp [Game.onWorld, same]
  cases left with
  | zero =>
      simp only [walk]
      split
      · exact .pause rfl same
      · exact .finish _ same
  | succ left =>
      simp only [walk, same]
      split
      · exact .finish _ same
      split
      · exact .pause rfl (moved _)
      split
      · exact .finish _ same
      split
      · exact .pause rfl (moved _)
      · exact .pause rfl (moved _)

theorem StatementTurn.begin_matches (statement : Statement) :
    (begin game statement).Matches Eq (begin later statement) := by
  cases statement with
  | assign name value =>
      simp only [begin, same]
      split
      · exact .finish _ same
      · exact .finish _ (by simp [Game.onSession, same])
  | print token quoted =>
      simp only [begin, same]
      exact .pause rfl same
  | move direction argument =>
      simp only [begin, same]
      split
      · exact .finish _ same
      · exact walk_matches same ..
  | remark text => exact .finish _ same

omit same in
theorem statementMachine_inStep (renumber : Nat → Nat) : statementMachine.InStep renumber Eq where
  signal {moment _} alike := by
    subst alike
    cases moment <;> rfl
  next {moment _ game later} alike same := by
    subst alike
    cases moment with
    | said text => exact .finish _ same
    | stepped walk =>
        simp only [statementMachine_next, Moment.next, same]
        split
        · exact .finish _ same
        · exact .pause rfl same
        · exact .pause rfl same
    | rested walk =>
        simp only [statementMachine_next, Moment.next, same]
        split
        · exact .finish _ same
        · exact StatementTurn.walk_matches same ..
    | obstructed message => exact .pause rfl same
    | fallen => exact .finish _ same
    | won => exact .finish _ same

end Statements

/-! ## Runs keep step -/

/-- The same place in a program whose lines have other numbers. -/
inductive Waypoint.Renumbered (renumber : Nat → Nat) : Waypoint → Waypoint → Prop where
  | begun {lines others : List SourceLine}
      (all : List.Forall₂ (SourceLine.Renumbered renumber) lines others) :
      Renumbered renumber (.begun lines) (.begun others)
  | highlighted {line shown : SourceLine} {rest tail : List SourceLine}
      (first : SourceLine.Renumbered renumber line shown)
      (others : List.Forall₂ (SourceLine.Renumbered renumber) rest tail) :
      Renumbered renumber (.highlighted line rest) (.highlighted shown tail)
  | within {line shown : SourceLine} {rest tail : List SourceLine} (moment : Moment)
      (others : List.Forall₂ (SourceLine.Renumbered renumber) rest tail) :
      Renumbered renumber (.within line rest moment) (.within shown tail moment)
  | failed (error : StatementError) : Renumbered renumber (.failed error) (.failed error)
  | between {rest tail : List SourceLine}
      (others : List.Forall₂ (SourceLine.Renumbered renumber) rest tail) :
      Renumbered renumber (.between rest) (.between tail)
  | closing (result : Except Fault Unit) : Renumbered renumber (.closing result) (.closing result)
  | ended (result : Except Fault Unit) : Renumbered renumber (.ended result) (.ended result)

section Runs

variable {renumber : Nat → Nat} {line shown : SourceLine} {rest tail lines others : List SourceLine}
  {game later : Game}

namespace RunTurn

/-- Two turns of runs are at the same place, up to line numbers, or at the same end. -/
abbrev Renumbered (renumber : Nat → Nat) : RunTurn → RunTurn → Prop :=
  Turn.Matches (Waypoint.Renumbered renumber)

variable (same : later.session = game.session)

include same

theorem close_renumbered (result : Except Fault Unit) :
    (close result game).Renumbered renumber (close result later) :=
  .pause (.closing result) same

theorem dispatch_renumbered (all : List.Forall₂ (SourceLine.Renumbered renumber) lines others) :
    (dispatch lines game).Renumbered renumber (dispatch others later) := by
  cases all with
  | nil => exact close_renumbered same _
  | cons first others =>
      simp only [dispatch, same]
      split
      · exact close_renumbered same _
      · exact .pause (.highlighted first others) same

/-- Which lines follow matters only where the run goes on. -/
theorem settle_renumbered {result : Except Fault Bool}
    (all : result = .ok true → List.Forall₂ (SourceLine.Renumbered renumber) rest tail) :
    (settle line rest result game).Renumbered renumber (settle shown tail result later) := by
  match result with
  | .ok true =>
      cases all rfl with
      | nil => exact close_renumbered same _
      | cons first others => exact .pause (.between (.cons first others)) same
  | .ok false => exact close_renumbered same _
  | .error fault =>
      cases fault with
      | statement error => exact .pause (.failed error) same
      | _ => exact close_renumbered same _

omit same in
theorem ofStatement_renumbered (all : List.Forall₂ (SourceLine.Renumbered renumber) rest tail)
    {turn other : StatementTurn} (alike : turn.Matches Eq other) :
    (ofStatement line rest turn).Renumbered renumber (ofStatement shown tail other) := by
  cases alike with
  | pause alike same =>
      subst alike
      exact .pause (.within _ all) same
  | finish result same => exact settle_renumbered same fun _ => all

theorem carryOut_renumbered (text : shown.text = line.text)
    (all : List.Forall₂ (SourceLine.Renumbered renumber) rest tail) :
    (carryOut line rest game).Renumbered renumber (carryOut shown tail later) := by
  simp only [carryOut, text]
  split
  · exact ofStatement_renumbered all (StatementTurn.begin_matches same _)
  · exact settle_renumbered same fun _ => all

end RunTurn

theorem runMachine_inStep (renumber : Nat → Nat) :
    runMachine.InStep renumber (Waypoint.Renumbered renumber) where
  signal alike := by
    cases alike with
    | highlighted first others => simp [Waypoint.notice, Point.renumber, first.lineNumber]
    | within moment others => exact (statementMachine_inStep renumber).signal (Eq.refl moment)
    | _ => rfl
  next alike same := by
    cases alike with
    | begun all => exact RunTurn.dispatch_renumbered same all
    | highlighted first others => exact RunTurn.carryOut_renumbered same first.text others
    | within moment others =>
        exact RunTurn.ofStatement_renumbered others
          ((statementMachine_inStep renumber).next (Eq.refl moment) same)
    | failed error => exact RunTurn.close_renumbered same _
    | between others => exact RunTurn.dispatch_renumbered same others
    | closing result => exact .pause (.ended result) (by simp [Game.onSession, Game.push, same])
    | ended result => exact .finish _ same

end Runs

/-! ## A remark more -/

/-- A statement that ends so lets the run go on. -/
def goesOn : Except Fault Bool → Bool
  | .ok on => on
  | .error _ => false

/-- The run comes past these lines when it carries them out in this game. -/
def Game.getsPast (game : Game) : List SourceLine → Bool
  | [] => true
  | line :: rest =>
    let done := (Scheduler.executeLine line game).under .silent []
    goesOn done.result && done.final.getsPast rest

section Remarks

variable {renumber : Nat → Nat} {line : SourceLine} {rest : List SourceLine} {text : Text}

/-- A line shows what it shows to nobody, and the run goes on as its statement ended. -/
theorem RunTurn.carryOut_watched (renumber : Nat → Nat) {game begin : Game}
    (same : game.session = begin.session)
    {ending : Ending Point Game Fault Unit}
    (watched : runMachine.Watched (RunTurn.carryOut line rest game) ending) :
    let done := (Scheduler.executeLine line begin).under .silent []
    ∃ early late state, ending.exchanges = early ++ late ∧ sights early = sights done.exchanges ∧
      sights done.exchanges = (sights done.exchanges).map (·.renumber renumber) ∧
      state.session = done.final.session ∧
      runMachine.Watched (RunTurn.settle line rest done.result state)
        { ending with exchanges := late } := by
  simp only [Scheduler.executeLine]
  simp only [RunTurn.carryOut] at watched
  cases parsed : Statement.parse line.text with
  | error error =>
      simp only [parsed] at watched
      exact ⟨[], ending.exchanges, game, rfl, rfl, rfl, same, watched⟩
  | ok statement =>
      simp only [parsed] at watched ⊢
      have silent := (execute_follows statement begin).watched Environment.silent_quiet
      generalize (Interpreter.execute statement begin).under .silent [] = done at silent ⊢
      rcases RunTurn.ofStatement_plays watched.plays with
        ⟨early, late, result, state, split, inside, outside⟩
      have quiet := watched.quiet
      rw [split] at quiet
      rcases List.forall_mem_append.mp quiet with ⟨calm, still⟩
      have seen : statementMachine.Watched _ ⟨early, result, state⟩ := ⟨inside, calm⟩
      have shows := (statementMachine_inStep id).follows
        (StatementTurn.begin_matches same statement) silent seen
      have again := (statementMachine_inStep renumber).follows
        (StatementTurn.begin_matches rfl statement) silent silent
      refine ⟨early, late, state, split, ?_, again.sights.eq_map, shows.session, ?_, still⟩
      · simpa using shows.sights.eq_map
      · rw [← show result = done.result from shows.result]
        exact outside

/-- A line does not ask its run to stop. -/
theorem executeLine_clear (line : SourceLine) {begin : Game}
    (clear : begin.session.stopRequested = false) :
    ((Scheduler.executeLine line begin).under .silent []).final.session.stopRequested = false := by
  simp only [Scheduler.executeLine]
  cases Statement.parse line.text with
  | error error => exact clear
  | ok statement =>
      have silent := (execute_follows statement begin).watched Environment.silent_quiet
      apply silent.keeps fun session => session.stopRequested = false
      · intro moment game before
        refine (Moment.next_keeps moment (.ok ()) game).imp ?_ ?_
        · intro _ _ kept
          rw [kept.1.stopRequested, before]
        · intro _ _ kept
          rw [kept.stopRequested, before]
      · refine (StatementTurn.begin_keeps begin False statement).imp ?_ ?_
        · intro _ _ kept
          rw [kept.1.stopRequested, clear]
        · intro _ _ kept
          rw [kept.stopRequested, clear]

/-- A remark is highlighted and changes nothing. -/
theorem RunTurn.dispatch_remark (remark : Statement.parse line.text = .ok (.remark text))
    {game : Game} (clear : game.session.stopRequested = false)
    {ending : Ending Point Game Fault Unit}
    (watched : runMachine.Watched (RunTurn.dispatch (line :: rest) game) ending) :
    ∃ lit late state, ending.exchanges = lit :: late ∧
      lit.signal = .notice (.highlight (some line.lineNumber)) ∧ state.session = game.session ∧
      runMachine.Watched (RunTurn.settle line rest (.ok true) state)
        { ending with exchanges := late } := by
  simp only [RunTurn.dispatch, clear, Bool.false_eq_true, if_false] at watched
  rcases watched.step with ⟨lit, late, split, here, session, watched⟩
  refine ⟨lit, late, lit.after, split, congrArg Sight.signal here, session, ?_⟩
  simpa [Waypoint.next, RunTurn.carryOut, remark, RunTurn.ofStatement, StatementTurn.begin]
    using watched

/-- A remark before other lines is highlighted, and a wait follows. -/
theorem RunTurn.dispatch_insert_first (remark : Statement.parse line.text = .ok (.remark text))
    {late lower : List SourceLine} (filled : late ≠ [])
    (belows : List.Forall₂ (SourceLine.Renumbered renumber) late lower) {game later : Game}
    (same : later.session = game.session) (clear : later.session.stopRequested = false)
    {one two : Ending Point Game Fault Unit}
    (watched : runMachine.Watched (RunTurn.dispatch late game) one)
    (longer : runMachine.Watched (RunTurn.dispatch (line :: lower) later) two) :
    one.Follows renumber (some line.lineNumber) two := by
  rcases dispatch_remark remark clear longer with ⟨lit, rest, state, split, signal, still, longer⟩
  cases belows with
  | nil => exact absurd rfl filled
  | cons first others =>
      rcases longer.step with ⟨wait, tail, behind, here, session, longer⟩
      simp only at behind
      have there : wait.after.session = game.session := session.trans (still.trans same)
      have follows := (runMachine_inStep renumber).follows
        (dispatch_renumbered there (.cons first others)) watched longer
      apply Ending.Follows.aside (split.trans (congrArg _ behind)) _ follows
      rw [signal, show wait.signal = .notice .wait from congrArg Sight.signal here]
      exact .refl _

/-- A remark behind the last line is highlighted after a wait. -/
theorem RunTurn.settle_insert_last (remark : Statement.parse line.text = .ok (.remark text))
    {last shown : SourceLine} {game later : Game} (same : later.session = game.session)
    (clear : later.session.stopRequested = false) {one two : Ending Point Game Fault Unit}
    (watched : runMachine.Watched (RunTurn.settle last [] (.ok true) game) one)
    (longer : runMachine.Watched (RunTurn.settle shown [line] (.ok true) later) two) :
    one.Follows renumber (some line.lineNumber) two := by
  rcases longer.step with ⟨wait, rest, split, here, session, longer⟩
  rcases dispatch_remark remark (by rw [session, clear]) longer with
    ⟨lit, tail, state, behind, signal, still, longer⟩
  simp only at behind
  have there : state.session = game.session := still.trans (session.trans same)
  have follows := (runMachine_inStep renumber).follows (close_renumbered there (.ok ())) watched
    longer
  apply Ending.Follows.aside (split.trans (congrArg _ behind)) _ follows
  rw [signal, show wait.signal = .notice .wait from congrArg Sight.signal here]
  exact .swap ..

/-- After a line, a remark further down shows as it does when the run goes on with the line after
it. -/
theorem RunTurn.settle_insert (remark : Statement.parse line.text = .ok (.remark text))
    {first shown : SourceLine} {early moved late lower : List SourceLine}
    (aboves : List.Forall₂ (SourceLine.Renumbered renumber) early moved)
    (belows : List.Forall₂ (SourceLine.Renumbered renumber) late lower)
    {done : Ending Point Game Fault Bool} (clear : done.final.session.stopRequested = false)
    (onward : early ++ late ≠ [] → ∀ {game later : Game}, game.session = done.final.session →
      later.session = done.final.session → ∀ {one two : Ending Point Game Fault Unit},
      runMachine.Watched (dispatch (early ++ late) game) one →
      runMachine.Watched (dispatch (moved ++ line :: lower) later) two →
      one.Follows renumber (if done.final.getsPast early then some line.lineNumber else none) two)
    {state last : Game} (same : state.session = done.final.session)
    (also : last.session = done.final.session) {one two : Ending Point Game Fault Unit}
    (watched : runMachine.Watched (settle first (early ++ late) done.result state) one)
    (longer : runMachine.Watched (settle shown (moved ++ line :: lower) done.result last) two) :
    one.Follows renumber
      (if goesOn done.result && done.final.getsPast early then some line.lineNumber else none) two := by
  by_cases goes : done.result = .ok true
  · simp only [goes, goesOn, Bool.true_and] at watched longer ⊢
    by_cases filled : early ++ late = []
    · rcases List.append_eq_nil_iff.mp filled with ⟨rfl, rfl⟩
      cases aboves
      cases belows
      exact settle_insert_last remark (also.trans same.symm) (by rw [also, clear]) watched longer
    · simp only [settle, List.isEmpty_iff, filled, if_false, List.append_eq_nil_iff, reduceCtorEq,
        and_false] at watched longer
      rcases watched.step with ⟨wait, rest, split, here, session, watched⟩
      rcases longer.step with ⟨paused, tail, divided, there, still, longer⟩
      have follows := onward filled (session.trans same) (still.trans also) watched longer
      refine follows.lead [wait] [paused] split divided ?_
      simp [here, there, same, also, Sight.renumber, Point.renumber, Waypoint.notice]
  · have stays : goesOn done.result = false := by
      cases ends : done.result with
      | error fault => rfl
      | ok on =>
          cases on with
          | false => rfl
          | true => exact absurd ends goes
    rw [stays]
    exact (runMachine_inStep renumber).follows
      (settle_renumbered (also.trans same.symm) fun on => absurd on goes) watched longer

/-- A run with a remark put in shows the remark if it comes so far, and else the same as without
it. -/
theorem RunTurn.dispatch_insert (remark : Statement.parse line.text = .ok (.remark text))
    {early moved late lower : List SourceLine}
    (aboves : List.Forall₂ (SourceLine.Renumbered renumber) early moved)
    (belows : List.Forall₂ (SourceLine.Renumbered renumber) late lower)
    (filled : early ++ late ≠ []) {begin game later : Game}
    (same : game.session = begin.session) (also : later.session = begin.session)
    (clear : begin.session.stopRequested = false) {one two : Ending Point Game Fault Unit}
    (watched : runMachine.Watched (RunTurn.dispatch (early ++ late) game) one)
    (longer : runMachine.Watched (RunTurn.dispatch (moved ++ line :: lower) later) two) :
    one.Follows renumber (if begin.getsPast early then some line.lineNumber else none) two := by
  induction aboves generalizing begin game later one two with
  | nil =>
      exact dispatch_insert_first remark filled belows (also.trans same.symm)
        (by rw [also, clear]) watched longer
  | @cons first shown early moved head tail ih =>
      simp only [List.cons_append, dispatch, same, also, clear, Bool.false_eq_true, if_false]
        at watched longer
      rcases watched.step with ⟨lit, rest, split, here, session, watched⟩
      rcases longer.step with ⟨bright, others, divided, there, still, longer⟩
      rcases carryOut_watched renumber (session.trans same) watched with
        ⟨shows, onward, state, parts, seen, plain, ends, watched⟩
      rcases carryOut_watched renumber (still.trans also) longer with
        ⟨again, further, last, pieces, told, -, stops, longer⟩
      have read : Scheduler.executeLine shown begin = Scheduler.executeLine first begin := by
        simp only [Scheduler.executeLine, head.text]
      rw [read] at told stops longer
      have calm := executeLine_clear first clear
      have follows := settle_insert remark tail belows calm
        (fun more _ _ same also _ _ => ih more same also calm) ends stops watched longer
      refine (follows.lead shows again parts pieces ?_).lead [lit] [bright] split divided ?_
      · rw [told, seen, ← plain]
      · simp [here, there, same, also, Sight.renumber, Point.renumber, Waypoint.notice,
          head.lineNumber]

end Remarks

/-! ## What the player sees -/

namespace Sight

def output? (sight : Sight) : Option OutputLine :=
  match sight.signal with
  | .notice (.output line) => some line
  | _ => none

def redrawn? (sight : Sight) : Option Agent :=
  match sight.signal with
  | .notice .redraw => some sight.session.world.agent
  | _ => none

end Sight

def Point.highlighted? : Point → Option Nat
  | .notice (.highlight line) => line
  | _ => none

theorem Point.highlighted?_renumber (renumber : Nat → Nat) (point : Point) :
    (point.renumber renumber).highlighted? = point.highlighted?.map renumber := by
  rcases point with notice | signal
  · cases notice <;> rfl
  · rfl

theorem Point.renumber_eq_wait {renumber : Nat → Nat} {point : Point} :
    point.renumber renumber = .notice .wait ↔ point = .notice .wait := by
  rcases point with notice | signal
  · cases notice <;> simp [Point.renumber]
  · simp [Point.renumber]

theorem Sight.output?_renumber (renumber : Nat → Nat) (sight : Sight) :
    (sight.renumber renumber).output? = sight.output? := by
  rcases sight with ⟨notice | signal, session⟩
  · cases notice <;> rfl
  · rfl

theorem Sight.redrawn?_renumber (renumber : Nat → Nat) (sight : Sight) :
    (sight.renumber renumber).redrawn? = sight.redrawn? := by
  rcases sight with ⟨notice | signal, session⟩
  · cases notice <;> rfl
  · rfl

namespace Exchange

variable (exchanges : List (Exchange Point Game Fault))

theorem outputs_sights : outputs exchanges = (sights exchanges).filterMap Sight.output? := by
  rw [sights, List.filterMap_map]
  rfl

theorem redraws_sights : redraws exchanges = (sights exchanges).filterMap Sight.redrawn? := by
  rw [sights, List.filterMap_map]
  rfl

theorem highlights_sights :
    highlights exchanges = ((sights exchanges).map (·.signal)).filterMap Point.highlighted? := by
  rw [sights, List.map_map, List.filterMap_map]
  rfl

theorem waits_sights :
    waits exchanges = ((sights exchanges).map (·.signal)).countP (· = .notice .wait) := by
  rw [sights, List.map_map, List.countP_map]
  rfl

end Exchange

namespace Detours

variable {renumber : Nat → Nat} {added : Option Nat} {seen shown : List Sight}

theorem mem_asides {point : Point} (known : point ∈ asides added) :
    (∃ line, point = .notice (.highlight line)) ∨ point = .notice .wait := by
  cases added with
  | none => cases known
  | some number =>
      rcases List.mem_cons.mp known with rfl | known
      · exact .inl ⟨_, rfl⟩
      · exact .inr (List.mem_singleton.mp known)

/-- What neither depends on line numbers nor shows in a remark is the same. -/
theorem filterMap_eq {β : Type} {read : Sight → Option β}
    (plain : ∀ sight, read (sight.renumber renumber) = read sight)
    (hidden : ∀ sight, sight.signal ∈ asides added → read sight = none)
    (detours : Detours renumber added seen shown) :
    shown.filterMap read = seen.filterMap read := by
  cases detours with
  | @intro early late detour told =>
      have nothing : detour.filterMap read = [] := by
        apply List.filterMap_eq_nil_iff.mpr
        intro sight known
        exact hidden sight (told.subset (List.mem_map_of_mem known))
      simp [List.filterMap_append, List.filterMap_map, nothing, plain]

theorem waits (detours : Detours renumber added seen shown) :
    (shown.map (·.signal)).countP (· = .notice .wait) =
      (seen.map (·.signal)).countP (· = .notice .wait) + added.toList.length := by
  cases detours with
  | @intro early late detour told =>
      have more := told.countP_eq (· = .notice .wait)
      have aside : (asides added).countP (· = .notice .wait) = added.toList.length := by
        cases added <;> rfl
      rw [aside] at more
      have same (sights : List Sight) :
          ((sights.map (·.renumber renumber)).map (·.signal)).countP (· = .notice .wait) =
            (sights.map (·.signal)).countP (· = .notice .wait) := by
        simp [List.countP_map, Function.comp_def, Sight.renumber, Point.renumber_eq_wait]
      rw [List.map_append, List.map_append, List.countP_append, List.countP_append, same, same,
        more, List.map_append, List.countP_append]
      omega

theorem highlights (detours : Detours renumber added seen shown) :
    ∃ early late, (seen.map (·.signal)).filterMap Point.highlighted? = early ++ late ∧
      (shown.map (·.signal)).filterMap Point.highlighted? =
        early.map renumber ++ added.toList ++ late.map renumber := by
  cases detours with
  | @intro early late detour told =>
      have lit := told.filterMap Point.highlighted?
      have aside : (asides added).filterMap Point.highlighted? = added.toList := by
        cases added <;> rfl
      rw [aside] at lit
      have same : (detour.map (·.signal)).filterMap Point.highlighted? = added.toList := by
        cases added with
        | none => exact List.perm_nil.mp lit
        | some number => exact List.perm_singleton.mp lit
      have renamed (sights : List Sight) :
          ((sights.map (·.renumber renumber)).map (·.signal)).filterMap Point.highlighted? =
            ((sights.map (·.signal)).filterMap Point.highlighted?).map renumber := by
        simp [List.filterMap_map, List.map_filterMap, Function.comp_def, Sight.renumber,
          Point.highlighted?_renumber]
      refine ⟨_, _, by rw [List.map_append, List.filterMap_append], ?_⟩
      rw [List.map_append, List.map_append, List.filterMap_append, List.filterMap_append, same,
        renamed, renamed]

end Detours

/-- The second run shows what the first one shows with other line numbers, and one remark more if
one was added. -/
structure Retold (renumber : Nat → Nat) (added : Option Nat)
    (one two : Ending Point Game Fault Unit) : Prop extends one.Follows renumber added two where
  outputs : outputs two.exchanges = outputs one.exchanges
  redraws : redraws two.exchanges = redraws one.exchanges
  waits : waits two.exchanges = waits one.exchanges + added.toList.length
  highlights : ∃ early late, highlights one.exchanges = early ++ late ∧
    highlights two.exchanges = early.map renumber ++ added.toList ++ late.map renumber

theorem Ending.Follows.retold {renumber : Nat → Nat} {added : Option Nat}
    {one two : Ending Point Game Fault Unit} (follows : one.Follows renumber added two) :
    Retold renumber added one two where
  toFollows := follows
  outputs := by
    rw [outputs_sights, outputs_sights]
    refine follows.sights.filterMap_eq (Sight.output?_renumber renumber) ?_
    intro sight known
    rcases Detours.mem_asides known with ⟨line, told⟩ | told <;> simp [Sight.output?, told]
  redraws := by
    rw [redraws_sights, redraws_sights]
    refine follows.sights.filterMap_eq (Sight.redrawn?_renumber renumber) ?_
    intro sight known
    rcases Detours.mem_asides known with ⟨line, told⟩ | told <;> simp [Sight.redrawn?, told]
  waits := by
    rw [waits_sights, waits_sights]
    exact follows.sights.waits
  highlights := by
    rw [highlights_sights, highlights_sights]
    exact follows.sights.highlights

/-! ## Whole runs -/

/-- After its start is told, a run that nobody disturbs goes on with its first line. -/
theorem execute_watched {environment : Environment Point Game Fault} (quiet : environment.Quiet)
    (lines : List SourceLine) (game : Game) :
    let ending := (Scheduler.execute lines game).under environment []
    ∃ started rest, ending.exchanges = started :: rest ∧
      started.sight = ⟨.notice .started, game.session⟩ ∧ started.after.session = game.session ∧
      runMachine.Watched (RunTurn.dispatch lines started.after) { ending with exchanges := rest } := by
  rcases ((run_follows lines game).watched quiet).step with ⟨started, rest, split, watched⟩
  exact ⟨started, rest, split, watched⟩

section Whole

variable {one two : Environment Point Game Fault} (quiet : one.Quiet) (also : two.Quiet)
  {lines others : List SourceLine} {renumber : Nat → Nat} (game : Game)

include quiet also

/-- Runs of lines that match show the same but for the line numbers. -/
theorem execute_renumbered (all : List.Forall₂ (SourceLine.Renumbered renumber) lines others) :
    Retold renumber none ((Scheduler.execute lines game).under one [])
      ((Scheduler.execute others game).under two []) := by
  rcases execute_watched quiet lines game with ⟨started, rest, split, here, same, watched⟩
  rcases execute_watched also others game with ⟨begun, tail, divided, there, still, longer⟩
  have follows := (runMachine_inStep renumber).follows
    (RunTurn.dispatch_renumbered (still.trans same.symm) all) watched longer
  apply Ending.Follows.retold
  refine follows.lead [started] [begun] split divided ?_
  simp [here, there, Sight.renumber, Point.renumber]

/-- The run of a program with a remark put in. -/
theorem execute_insert (line : SourceLine) {text : Text}
    (remark : Statement.parse line.text = .ok (.remark text))
    {early moved late lower : List SourceLine}
    (aboves : List.Forall₂ (SourceLine.Renumbered renumber) early moved)
    (belows : List.Forall₂ (SourceLine.Renumbered renumber) late lower)
    (filled : early ++ late ≠ []) (clear : game.session.stopRequested = false) :
    Retold renumber (if game.getsPast early then some line.lineNumber else none)
      ((Scheduler.execute (early ++ late) game).under one [])
      ((Scheduler.execute (moved ++ line :: lower) game).under two []) := by
  rcases execute_watched quiet (early ++ late) game with ⟨started, rest, split, here, same, watched⟩
  rcases execute_watched also (moved ++ line :: lower) game with
    ⟨begun, tail, divided, there, still, longer⟩
  have follows := RunTurn.dispatch_insert remark aboves belows filled same still clear watched longer
  apply Ending.Follows.retold
  refine follows.lead [started] [begun] split divided ?_
  simp [here, there, Sight.renumber, Point.renumber]

/-- A run that nobody disturbs shows the same whatever the layout of its program, but for the
numbers of the highlighted lines, which are those of the same statements. A line that is no
statement moves the lines behind it down. If it is not blank, and if the run comes past all lines
above it, it also shows in one highlight and one wait. -/
theorem layout_retold {source : Text} (filled : SourceLine.ofSource source ≠ []) {game : Game}
    (free : game.Free) (runner : Thread) :
    Scheduler.claim runner game = .done (.ok true) (game.claimed runner) ∧
    let run (environment : Environment Point Game Fault) (text : Text) :=
      (Scheduler.execute (SourceLine.ofSource text) (game.claimed runner)).under environment []
    (∀ other, Relaid source other → ∃ renumber,
      List.Forall₂ (SourceLine.Renumbered renumber) (SourceLine.ofSource source)
        (SourceLine.ofSource other) ∧
      Retold renumber none (run one source) (run two other)) ∧
    ∀ above line below other text, FallsInto source (above ++ below) →
      FallsInto other (above ++ line :: below) →
      Statement.parse (trim line) = .ok (.remark text) →
      let number := above.length
      let before := (SourceLine.ofSource source).filter (·.lineNumber < number)
      let reached := trim line ≠ [] ∧ (game.claimed runner).getsPast before
      Retold (SourceLine.past number) (if reached then some number else none) (run one source)
        (run two other) := by
  refine ⟨Scheduler.claim_free free, ?_, ?_⟩
  · intro other relaid
    rcases SourceLine.ofSource_relaid relaid with ⟨renumber, all⟩
    exact ⟨renumber, all, execute_renumbered quiet also _ all⟩
  · intro above line below other text falls further remark number before reached
    by_cases blank : trim line = []
    · have all := SourceLine.ofSource_blank falls further blank
      have never : ¬ reached := fun both => both.1 blank
      rw [if_neg never]
      exact execute_renumbered quiet also _ all
    · rcases SourceLine.ofSource_insert falls further blank with
        ⟨early, late, moved, whole, same, longer, aboves, belows⟩
      have exactly : reached ↔ (game.claimed runner).getsPast early = true := by
        simp [reached, before, number, blank, same]
      have put := execute_insert quiet also (game.claimed runner)
        ⟨early.length, above.length, trim line⟩ remark aboves belows (whole ▸ filled) rfl
      simpa only [exactly, whole, longer] using put

end Whole

/-- Two lines with a blank line and another separator between them show the same as without; a
remark between them is highlighted, and the movement waits once more. -/
theorem layout_retold_walk :
    let source : Text := "x = 2\nmove_right(x)"
    let spaced : Text := "x = 2\r\n \n\tmove_right(x)"
    let remarked : Text := "x = 2\n# two steps\nmove_right(x)"
    let run (text : Text) := (Scheduler.execute (SourceLine.ofSource text)
      ((Game.onGrass 4).claimed .worker)).under .silent []
    SourceLine.ofSource source ≠ [] ∧ (Game.onGrass 4).Free ∧ Environment.silent.Quiet ∧
      Relaid source spaced ∧ FallsInto source ["x = 2", "move_right(x)"] ∧
      FallsInto remarked ["x = 2", "# two steps", "move_right(x)"] ∧
      (∃ renumber, Retold renumber none (run source) (run spaced)) ∧
      Retold (SourceLine.past 1) (some 1) (run source) (run remarked) ∧
      highlights (run source).exchanges = [0, 1] ∧ highlights (run spaced).exchanges = [0, 2] ∧
      highlights (run remarked).exchanges = [0, 1, 2] ∧ waits (run remarked).exchanges = 4 := by
  intro source spaced remarked run
  have filled : SourceLine.ofSource source ≠ [] := by decide +kernel
  have free : (Game.onGrass 4).Free := by decide
  have relaid : Relaid source spaced := by
    have exchanged : Relayout source ("x = 2" ++ "\r\n" ++ "move_right(x)") :=
      .exchange "x = 2" "move_right(x)" (.single (by decide)) .pair
    have border : ∀ point ∈ ("x = 2\r\n" : Text).getLast?, isLineBreak point = true := by decide
    have blank : Within isBlank " \n\t" := by decide
    have moved : Relayout ("x = 2\r\n" ++ "move_right(x)") spaced :=
      .lead "move_right(x)" border blank
    exact .trans _ _ _ (.rel _ _ exchanged) (.rel _ _ moved)
  have falls : FallsInto source ["x = 2", "move_right(x)"] := fallsInto_iff.mpr (by decide)
  have further : FallsInto remarked ["x = 2", "# two steps", "move_right(x)"] :=
    fallsInto_iff.mpr (by decide)
  have quiet := Environment.silent_quiet
  rcases (layout_retold quiet quiet filled free .worker).2 with ⟨relays, inserts⟩
  rcases relays spaced relaid with ⟨renumber, -, retold⟩
  have remark : Statement.parse (trim "# two steps") = .ok (.remark "# two steps") := by rfl
  have inserted := inserts ["x = 2"] "# two steps" ["move_right(x)"] remarked _ falls further remark
  refine ⟨filled, free, quiet, relaid, falls, further, ⟨renumber, retold⟩, ?_, ?_, ?_, ?_, ?_⟩
  · exact inserted
  all_goals decide +kernel

end TileWalk
