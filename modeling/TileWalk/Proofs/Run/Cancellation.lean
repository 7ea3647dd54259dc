import TileWalk.Proofs.Activity.Environment
import TileWalk.Proofs.Run.Control

/-!
# Cancellation

A run looks at the flag that asks it to stop before each statement, before each
step and after each wait. So it can go on for a little after it was asked to
stop: it coasts. A run that coasts gives the notices that it would have given
anyway, but no more than one line, one redraw and one wait, and the world does
not change any more.
-/

namespace TileWalk

open Exchange

def Session.asked (session : Session) : Session :=
  { session with state := .stopping, stopRequested := true }

/-! ## Coasting -/

/-- The notices that a run may still give after another one when it has been
asked to stop there, before it closes. -/
inductive Waypoint.Coasts : Waypoint → Waypoint → Prop
  | said (line : SourceLine) (rest : List SourceLine) (text : Text) :
    Coasts (.highlighted line rest) (.within line rest (.said text))
  | failed (line : SourceLine) (rest : List SourceLine) (error : StatementError) :
    Coasts (.highlighted line rest) (.failed error)
  | silent (line : SourceLine) (rest : List SourceLine) :
    Coasts (.highlighted line rest) (.between rest)
  | complete (line : SourceLine) (rest : List SourceLine) (text : Text) :
    Coasts (.within line rest (.said text)) (.between rest)
  | won (line : SourceLine) (rest : List SourceLine) (walk : Walk) :
    Coasts (.within line rest (.stepped walk)) (.within line rest .won)
  | rested (line : SourceLine) (rest : List SourceLine) (walk : Walk) :
    Coasts (.within line rest (.stepped walk)) (.within line rest (.rested walk))
  | fallen (line : SourceLine) (rest : List SourceLine) (message : String) :
    Coasts (.within line rest (.obstructed message)) (.within line rest .fallen)

theorem Waypoint.Coasts.going {waypoint place : Waypoint} (coasts : waypoint.Coasts place) :
    place.Open := by
  cases coasts <;> trivial

/-- Where a run goes on from a waypoint, beside the same run that has been asked
to stop: the latter closes, or it coasts and the former does the same. -/
inductive Coasting (waypoint : Waypoint) (world : World) : RunTurn → RunTurn → Prop
  | close (turn : RunTurn) (result : Except Fault Unit) {later : Game} :
    later.session.world = world → Coasting waypoint world turn (RunTurn.close result later)
  | along {place : Waypoint} {later other : Game} :
    waypoint.Coasts place → other.session = later.session.asked → later.session.world = world →
    Coasting waypoint world (.pause place later) (.pause place other)

namespace Coasting

variable {waypoint : Waypoint} {game other : Game}

theorem settled {world : World} (line : SourceLine) {rest : List SourceLine}
    (coasts : waypoint.Coasts (.between rest)) (asked : other.session = game.session.asked)
    (same : game.session.world = world) :
    Coasting waypoint world (RunTurn.settle line rest (.ok true) game)
      (RunTurn.settle line rest (.ok true) other) := by
  simp only [RunTurn.settle]
  split
  · exact .close _ _ (by rw [asked]; exact same)
  · exact .along coasts asked same

theorem carryOut {line : SourceLine} {rest : List SourceLine}
    (asked : other.session = game.session.asked) :
    Coasting (.highlighted line rest) game.session.world (RunTurn.carryOut line rest game)
      (RunTurn.carryOut line rest other) := by
  have bindings : other.session.bindings = game.session.bindings := by rw [asked]; rfl
  have world : other.session.world = game.session.world := by rw [asked]; rfl
  have stop : other.session.stopRequested = true := by rw [asked]; rfl
  simp only [RunTurn.carryOut]
  cases Statement.parse line.text with
  | error error => exact .along (.failed line rest error) asked rfl
  | ok statement =>
      cases statement with
      | assign name value =>
          simp only [StatementTurn.begin, bindings]
          cases Interpreter.valueOf game.session.bindings name value with
          | error fault =>
              cases fault with
              | statement error => exact .along (.failed line rest error) asked rfl
              | _ => exact .close _ _ world
          | ok number =>
              refine settled line (.silent line rest) ?_ rfl
              simp [Game.onSession, asked, Session.asked]
      | print token quoted =>
          simp only [StatementTurn.begin, bindings]
          exact .along (.said line rest _) asked rfl
      | move direction argument =>
          simp only [StatementTurn.begin, bindings]
          cases resolved : Interpreter.resolveSteps game.session.bindings argument with
          | error cause => exact .close _ _ world
          | ok steps =>
              obtain ⟨left, count⟩ : ∃ left, steps.toNat = left + 1 :=
                ⟨steps.toNat - 1, by have := Interpreter.resolveSteps_pos resolved; omega⟩
              simp only [count, StatementTurn.walk, stop, Bool.true_or, if_true]
              exact .close _ _ world
      | remark text => exact settled line (.silent line rest) asked rfl

theorem within {line : SourceLine} {rest : List SourceLine} {moment : Moment}
    (asked : other.session = game.session.asked) :
    Coasting (.within line rest moment) game.session.world
      (RunTurn.ofStatement line rest (moment.next (.ok ()) game))
      (RunTurn.ofStatement line rest (moment.next (.ok ()) other)) := by
  have world : other.session.world = game.session.world := by rw [asked]; rfl
  have stop : other.session.stopRequested = true := by rw [asked]; rfl
  cases moment with
  | said text => exact settled line (.complete line rest text) asked rfl
  | stepped walk =>
      simp only [Moment.next, world]
      cases game.session.world.isGoal walk.place with
      | error error => exact .close _ _ world
      | ok reached =>
          cases reached with
          | true => exact .along (.won line rest walk) asked rfl
          | false => exact .along (.rested line rest walk) asked rfl
  | rested walk =>
      simp only [Moment.next, stop, if_true]
      exact .close _ _ world
  | obstructed message => exact .along (.fallen line rest message) asked rfl
  | fallen => exact .close _ _ world
  | won => exact .close _ _ world

/-- A run that has been asked to stop closes or coasts, wherever it stands. -/
theorem next (going : waypoint.Open) (asked : other.session = game.session.asked) :
    Coasting waypoint game.session.world (waypoint.next (.ok ()) game)
      (waypoint.next (.ok ()) other) := by
  have world : other.session.world = game.session.world := by rw [asked]; rfl
  have stop : other.session.stopRequested = true := by rw [asked]; rfl
  cases waypoint with
  | begun lines =>
      simp only [Waypoint.next, RunTurn.dispatch_stopped lines stop]
      exact .close _ _ world
  | highlighted line rest => exact carryOut asked
  | within line rest moment => exact within asked
  | failed error => exact .close _ _ world
  | between rest =>
      simp only [Waypoint.next, RunTurn.dispatch_stopped rest stop]
      exact .close _ _ world
  | closing result => exact going.elim
  | ended result => exact going.elim

end Coasting

/-! ## The end of a run -/

/-- A run ends with two notices: the highlight is cleared, and its end is told in
the idle state and only once. -/
structure Concludes (exchanges : List (Exchange Point Game Fault)) (final : Game) : Prop where
  notices : ∃ body closing ended, exchanges = body ++ [closing, ended] ∧
    closing.signal = .notice (.highlight none) ∧ ended.signal = .notice .ended ∧
    ended.before.session.state = .idle ∧ ∀ exchange ∈ body, exchange.signal ≠ .notice .ended
  free : final.Free

theorem Concludes.cons {exchange : Exchange Point Game Fault}
    {exchanges : List (Exchange Point Game Fault)} {final : Game}
    (earlier : exchange.signal ≠ .notice .ended) (concludes : Concludes exchanges final) :
    Concludes (exchange :: exchanges) final := by
  rcases concludes.notices with ⟨body, closing, ended, rfl, cleared, told, idle, before⟩
  exact ⟨⟨exchange :: body, closing, ended, rfl, cleared, told, idle, by
    simpa [earlier] using before⟩, concludes.free⟩

/-- A run concludes when no error is raised and an idle session stays idle. -/
theorem Waypoint.concludes {turn : RunTurn} {exchanges : List (Exchange Point Game Fault)}
    {result : Except Fault Unit} {final : Game}
    (plays : runMachine.Plays turn exchanges result final)
    (early : turn.Meets (fun waypoint _ => waypoint.BeforeEnd) fun _ _ => False)
    (replies : ∀ exchange ∈ exchanges, exchange.reply = .ok ())
    (idle : ∀ exchange ∈ exchanges, exchange.before.session.state = .idle →
      exchange.after.session.state = .idle) : Concludes exchanges final := by
  induction exchanges generalizing turn with
  | nil =>
      cases plays
      exact early.elim
  | cons exchange exchanges ih =>
      rcases plays.head with ⟨waypoint, rfl, told, onward⟩
      have early : waypoint.BeforeEnd := early
      rw [replies exchange (List.mem_cons_self ..)] at onward
      replace replies := (List.forall_mem_cons.mp replies).2
      replace idle := (List.forall_mem_cons.mp idle).2
      by_cases going : waypoint.Open
      · have earlier : exchange.signal ≠ .notice .ended := by
          rw [← told]
          cases waypoint with
          | within line rest moment =>
              cases moment <;> simp [runMachine, Waypoint.notice, Moment.notice]
          | ended => exact going.elim
          | _ => simp [runMachine, Waypoint.notice]
        have keeps := next_keeps going (.ok ()) exchange.after
        exact (ih onward (keeps.imp (fun _ _ facts => facts.1) fun _ _ => id) replies idle).cons
          earlier
      · cases waypoint with
        | closing ending =>
            cases onward with
            | pause place before reply after onward =>
                cases onward
                have still := idle _ (List.mem_cons_self ..) rfl
                exact ⟨⟨[], exchange, _, rfl, told.symm, rfl, rfl, by simp⟩, still, rfl⟩
        | ended => exact early.elim
        | _ => exact absurd trivial going

/-! ## Comparing a run with its stopped one -/

def Exchange.view (exchange : Exchange Point Game Fault) : Point × World :=
  (exchange.signal, exchange.before.session.world)

/-- The exchanges are notices that a run gives while it coasts. -/
inductive Waypoint.Glides : Waypoint → List (Exchange Point Game Fault) → Prop
  | rest (waypoint : Waypoint) : Glides waypoint []
  | coast {waypoint place : Waypoint} {exchange : Exchange Point Game Fault}
      {exchanges : List (Exchange Point Game Fault)} :
    waypoint.Coasts place → .notice place.notice = exchange.signal → Glides place exchanges →
    Glides waypoint (exchange :: exchanges)

/-- The notices of a run that has been asked to stop, beside those of the same
run when it is not. -/
structure Winding (waypoint : Waypoint) (world : World)
    (tail full : List (Exchange Point Game Fault)) (final : Game) : Prop where
  notices : ∃ coast closing ended, tail = coast ++ [closing, ended] ∧ waypoint.Glides coast ∧
    coast.map view <+: full.map view ∧ closing.signal = .notice (.highlight none) ∧
    ended.signal = .notice .ended
  still : ∀ exchange ∈ tail, exchange.before.session.world = world
  final : final.session.world = world

theorem Winding.close {waypoint : Waypoint} {tail full : List (Exchange Point Game Fault)}
    {result ending : Except Fault Unit} {later final : Game}
    (plays : runMachine.Plays (RunTurn.close result later) tail ending final)
    (quiet : ∀ exchange ∈ tail, exchange.Quiet) :
    Winding waypoint later.session.world tail full final := by
  rcases RunTurn.close_quiet plays quiet with
    ⟨-, closing, ended, rfl, cleared, told, first, last, world⟩
  constructor
  · exact ⟨[], closing, ended, rfl, .rest waypoint, List.nil_prefix, cleared, told⟩
  · simp [first, last]
  · rw [world]

/-- A run that has been asked to stop winds down, and shows nothing that it would
not have shown anyway. -/
theorem Coasting.winds {waypoint : Waypoint} {world : World} {turn other : RunTurn}
    {tail full : List (Exchange Point Game Fault)} {ending result : Except Fault Unit}
    {final last : Game} (coasting : Coasting waypoint world turn other)
    (plays : runMachine.Plays other tail ending final) (quiet : ∀ exchange ∈ tail, exchange.Quiet)
    (whole : runMachine.Plays turn full result last)
    (watched : ∀ exchange ∈ full, exchange.Quiet) : Winding waypoint world tail full final := by
  induction tail generalizing waypoint turn other full with
  | nil => cases coasting <;> cases plays
  | cons exchange tail ih =>
      cases coasting with
      | close turn result same => exact same ▸ Winding.close plays quiet
      | along coasts asked same =>
          rcases plays.quietly quiet with ⟨_, _, here, told, first, still, onward, quiet⟩
          cases here
          rcases whole.quietly watched with
            ⟨shown, full, rfl, seen, second, unchanged, further, watched⟩
          have again : exchange.after.session = shown.after.session.asked := by
            rw [still, asked, unchanged]
          have world : shown.after.session.world = world := by rw [unchanged, same]
          have winds := ih (world ▸ Coasting.next coasts.going again) onward quiet further watched
          rcases winds.notices with ⟨coast, closing, ended, rfl, glides, views, cleared, finished⟩
          have view : exchange.view = shown.view := by
            simp [view, told, seen, first, second, asked, Session.asked]
          have longer : (exchange :: coast).map Exchange.view <+:
              (shown :: full).map Exchange.view := by
            simpa [view] using views
          constructor
          · exact ⟨exchange :: coast, closing, ended, rfl, .coast coasts told.symm glides, longer,
              cleared, finished⟩
          · rw [List.forall_mem_cons]
            constructor
            · rw [first, asked]
              exact same
            · exact winds.still
          · exact winds.final

/-- What is shown in one run is a beginning of what is shown in another. -/
structure Shortens (cut full : List (Exchange Point Game Fault)) : Prop where
  outputs : Exchange.outputs cut <+: Exchange.outputs full
  redraws : Exchange.redraws cut <+: Exchange.redraws full
  highlights : Exchange.highlights cut <+: Exchange.highlights full

/-- What is still seen of a run after the exchange at which it was asked to stop. -/
structure WindsDown (point : Exchange Point Game Fault)
    (tail : List (Exchange Point Game Fault)) : Prop where
  /-- No step is made. -/
  still : ∀ exchange ∈ tail, exchange.before.session.world = point.before.session.world
  highlights : Exchange.highlights tail = []
  outputs : (Exchange.outputs tail).length ≤ 1
  /-- The line is that of the highlighted statement, or the victory of the last step. -/
  line : ∀ line ∈ Exchange.outputs tail,
    (∃ number, point.signal = .notice (.highlight (some number))) ∨
      (point.signal = .notice .redraw ∧ line = { text := Obstacle.victory, kind := .success })
  redraws : (Exchange.redraws tail).length ≤ 1
  /-- The redraw reports a death. -/
  dead : ∀ agent ∈ Exchange.redraws tail, agent.dead = true
  waits : Exchange.waits tail ≤ 1

theorem Shortens.nil (full : List (Exchange Point Game Fault)) : Shortens [] full :=
  ⟨List.nil_prefix, List.nil_prefix, List.nil_prefix⟩

theorem Shortens.cons {one other : Exchange Point Game Fault}
    {cut full : List (Exchange Point Game Fault)} (same : one.view = other.view)
    (shortens : Shortens cut full) : Shortens (one :: cut) (other :: full) := by
  rcases Prod.mk.inj same with ⟨signal, world⟩
  constructor
  · simpa [outputs_cons, output?, signal] using shortens.outputs
  · simpa [redraws_cons, redrawn?, signal, world] using shortens.redraws
  · simpa [highlights_cons, highlighted?, signal] using shortens.highlights

theorem Shortens.of_views {cut full : List (Exchange Point Game Fault)}
    (views : cut.map view <+: full.map view) : Shortens cut full := by
  induction cut generalizing full with
  | nil => exact .nil full
  | cons one cut ih =>
      cases full with
      | nil => simp at views
      | cons other full =>
          rw [List.map_cons, List.map_cons, List.cons_prefix_cons] at views
          exact .cons views.1 (ih views.2)

theorem Shortens.append (first : List (Exchange Point Game Fault))
    {cut full : List (Exchange Point Game Fault)} (shortens : Shortens cut full) :
    Shortens (first ++ cut) (first ++ full) where
  outputs := by simpa using shortens.outputs
  redraws := by simpa using shortens.redraws
  highlights := by simpa using shortens.highlights

/-- A run that coasts gives at most two notices, and two only where a statement
has put out its line. -/
theorem Waypoint.Glides.shape {waypoint : Waypoint} {coast : List (Exchange Point Game Fault)}
    (glides : waypoint.Glides coast) :
    coast = [] ∨
    (∃ place exchange, coast = [exchange] ∧ waypoint.Coasts place ∧
      exchange.signal = .notice place.notice) ∨
    ∃ line rest text said waited, waypoint = .highlighted line rest ∧ coast = [said, waited] ∧
      said.signal = .notice (.output { text, kind := .info }) ∧
      waited.signal = .notice .wait := by
  cases glides with
  | rest => exact .inl rfl
  | coast first told more =>
      cases more with
      | rest => exact .inr (.inl ⟨_, _, rfl, first, told.symm⟩)
      | coast second waited more =>
          cases first <;> cases second
          cases more with
          | rest => exact .inr (.inr ⟨_, _, _, _, _, rfl, rfl, told.symm, waited.symm⟩)
          | coast third => cases third

/-- A run that coasts gives at most one line, one redraw and one wait. -/
theorem Waypoint.Glides.windsDown {waypoint : Waypoint} {point : Exchange Point Game Fault}
    {coast : List (Exchange Point Game Fault)} (glides : waypoint.Glides coast)
    (told : .notice waypoint.notice = point.signal) (shows : waypoint.Shows point.before)
    (still : ∀ exchange ∈ coast, exchange.before.session.world = point.before.session.world) :
    WindsDown point coast := by
  rcases glides.shape with
    rfl | ⟨place, exchange, rfl, coasts, signal⟩ |
    ⟨line, rest, text, said, waited, rfl, rfl, output, wait⟩
  · constructor <;> simp [outputs, redraws, highlights, waits]
  · have world := still exchange (List.mem_singleton_self _)
    cases coasts <;> refine ⟨still, ?_, ?_, ?_, ?_, ?_, ?_⟩ <;>
      simp_all [outputs, redraws, highlights, waits, output?, redrawn?, highlighted?, isWait,
        ← told, notice, Moment.notice, Shows, Moment.Shows]
  · refine ⟨still, ?_, ?_, ?_, ?_, ?_, ?_⟩ <;>
      simp [outputs, redraws, highlights, waits, output?, redrawn?, highlighted?, isWait, output,
        wait, ← told, notice]

structure Silent (exchanges : List (Exchange Point Game Fault)) : Prop where
  outputs : Exchange.outputs exchanges = []
  redraws : Exchange.redraws exchanges = []
  highlights : Exchange.highlights exchanges = []
  waits : Exchange.waits exchanges = 0

theorem Silent.of_signals {exchanges : List (Exchange Point Game Fault)}
    (signals : ∀ exchange ∈ exchanges, exchange.signal = .notice (.highlight none) ∨
      exchange.signal = .notice .ended) : Silent exchanges := by
  constructor
  · apply List.filterMap_eq_nil_iff.mpr
    intro exchange membership
    rcases signals exchange membership with told | told <;> simp [output?, told]
  · apply List.filterMap_eq_nil_iff.mpr
    intro exchange membership
    rcases signals exchange membership with told | told <;> simp [redrawn?, told]
  · apply List.filterMap_eq_nil_iff.mpr
    intro exchange membership
    rcases signals exchange membership with told | told <;> simp [highlighted?, told]
  · apply List.countP_eq_zero.mpr
    intro exchange membership
    rcases signals exchange membership with told | told <;> simp [isWait, told]

section Silent

variable {point : Exchange Point Game Fault} {shown full more : List (Exchange Point Game Fault)}

theorem Shortens.silent (shortens : Shortens shown full) (silent : Silent more) :
    Shortens (shown ++ more) full where
  outputs := by simpa [silent.outputs] using shortens.outputs
  redraws := by simpa [silent.redraws] using shortens.redraws
  highlights := by simpa [silent.highlights] using shortens.highlights

theorem WindsDown.silent (winds : WindsDown point shown) (silent : Silent more)
    (still : ∀ exchange ∈ more, exchange.before.session.world = point.before.session.world) :
    WindsDown point (shown ++ more) where
  still := List.forall_mem_append.mpr ⟨winds.still, still⟩
  highlights := by simp [silent.highlights, winds.highlights]
  outputs := by simpa [silent.outputs] using winds.outputs
  line := by simpa [silent.outputs] using winds.line
  redraws := by simpa [silent.redraws] using winds.redraws
  dead := by simpa [silent.redraws] using winds.dead
  waits := by simpa [silent.waits] using winds.waits

end Silent

/-- What is seen of a run after it was asked to stop, beside what is seen of it
when it is not. -/
theorem Waypoint.Fits.stopped {waypoint : Waypoint} {point other : Exchange Point Game Fault}
    {tail rest : List (Exchange Point Game Fault)} {ending result : Except Fault Unit}
    {final last : Game} (fits : waypoint.Fits point.before)
    (told : .notice waypoint.notice = point.signal) (watched : point.Quiet)
    (replied : other.reply = .ok ()) (stopped : other.after = point.after.stopped)
    (plays : runMachine.Plays (waypoint.next other.reply other.after) tail ending final)
    (quiet : ∀ exchange ∈ tail, exchange.Quiet)
    (whole : runMachine.Plays (waypoint.next point.reply point.after) rest result last)
    (others : ∀ exchange ∈ rest, exchange.Quiet) :
    Shortens tail rest ∧ WindsDown point tail ∧
      final.session.world = point.before.session.world := by
  have same : point.after.session = point.before.session := watched.undisturbed.session
  have world : point.after.stopped.session.world = point.before.session.world := by
    simp only [Game.stopped]
    split <;> exact watched.undisturbed.world
  rw [replied, stopped] at plays
  rw [watched.reply] at whole
  by_cases going : waypoint.Open
  · have running : point.after.session.state = .running := by
      rw [same, fits.state]
      cases waypoint <;> first | rfl | exact going.elim
    have asked : point.after.stopped.session = point.after.session.asked := by
      simp [Game.stopped, running, Game.push, Game.onSession, Session.asked]
    have winds := (Coasting.next going asked).winds plays quiet whole others
    rw [same] at winds
    rcases winds.notices with ⟨coast, closing, ended, rfl, glides, views, cleared, finished⟩
    rcases List.forall_mem_append.mp winds.still with ⟨still, late⟩
    have silent : Silent [closing, ended] := .of_signals (by simp [cleared, finished])
    exact ⟨(Shortens.of_views views).silent silent,
      (glides.windsDown told fits.shows still).silent silent late, winds.final⟩
  · have shown := (Glides.rest waypoint).windsDown told fits.shows (by simp)
    cases waypoint with
    | closing ending =>
        cases plays with
        | pause _ _ reply after onward =>
            cases onward
            have last := (List.forall_mem_singleton.mp quiet).undisturbed.world
            have silent (exchange : Exchange Point Game Fault)
                (told : exchange.signal = .notice .ended) : Silent [exchange] :=
              .of_signals (List.forall_mem_singleton.mpr (.inr told))
            exact ⟨(Shortens.nil _).silent (silent _ rfl),
              shown.silent (silent _ rfl) (List.forall_mem_singleton.mpr world), last.trans world⟩
    | ended ending =>
        cases plays
        exact ⟨Shortens.nil _, shown, world⟩
    | _ => exact absurd trivial going

/-! ## Stopping a run -/

theorem execute_stopped {environment : Environment Point Game Fault} (quiet : environment.Quiet)
    {game : Game} {lines : List SourceLine}
    (fits : (Waypoint.begun lines).Fits (game.begun lines)) {index : Nat}
    {point : Exchange Point Game Fault} :
    let full := (Scheduler.execute lines game).under environment []
    let cut := (Scheduler.execute lines game).under (environment.calling index Scheduler.stop) []
    full.exchanges[index]? = some point →
      Shortens cut.exchanges full.exchanges ∧
      WindsDown point (cut.exchanges.drop (index + 1)) ∧
      cut.final.session.world = point.before.session.world ∧
      Concludes cut.exchanges cut.final := by
  intro full cut found
  rcases execute_interrupted quiet fits Scheduler.stop found with
    ⟨waypoint, first, other, rest, tail, count, -, call⟩
  have early : ∀ exchange ∈ first, exchange.Quiet := by
    intro exchange membership
    exact call.watched exchange (by simp [call.long, membership])
  have placed : point.Quiet := call.watched point (by simp [call.long])
  have others : ∀ exchange ∈ rest, exchange.Quiet := by
    intro exchange membership
    exact call.watched exchange (by simp [call.long, membership])
  have replied : other.reply = .ok () := by rw [call.reply, Scheduler.stop_apply]; rfl
  have stopped : other.after = point.after.stopped := by
    rw [call.after, Scheduler.stop_apply]; rfl
  rcases call.fits.stopped call.told placed replied stopped call.plays
    call.quiet call.whole others with
    ⟨shortens, winds, world⟩
  have same : other.view = point.view := by simp [view, call.signal, call.before]
  refine ⟨?_, ?_, world, ?_⟩
  · show Shortens cut.exchanges full.exchanges
    rw [call.made, call.long]
    exact (shortens.cons same).append first
  · have after : cut.exchanges.drop (index + 1) = tail := by rw [call.made]; simp [← count]
    exact after ▸ winds
  · apply Waypoint.concludes ((run_follows lines game).plays _ []) trivial
    · show ∀ exchange ∈ cut.exchanges, exchange.reply = .ok ()
      rw [call.made]
      simp only [List.forall_mem_append, List.forall_mem_cons]
      exact ⟨fun exchange membership => (early exchange membership).reply, replied,
        fun exchange membership => (call.quiet exchange membership).reply⟩
    · show ∀ exchange ∈ cut.exchanges, _
      rw [call.made]
      have kept (exchange : Exchange Point Game Fault) (quiet : exchange.Quiet)
          (idle : exchange.before.session.state = .idle) :
          exchange.after.session.state = .idle := by rw [quiet.undisturbed.session, idle]
      simp only [List.forall_mem_append, List.forall_mem_cons]
      refine ⟨fun exchange membership => kept exchange (early exchange membership), ?_,
        fun exchange membership => kept exchange (call.quiet exchange membership)⟩
      intro idle
      rw [call.before] at idle
      have resting := kept point placed idle
      rw [stopped, Game.stopped, if_neg (by simp [resting])]
      exact resting

/-- Cancellation is prompt truncation. A run that is asked to stop shows a
beginning of what it would have shown otherwise, winds down, and concludes. A stop
at any other time changes nothing, and a flag that was left behind by one does not
change what a later run does. -/
theorem stop_truncates {environment : Environment Point Game Fault} (quiet : environment.Quiet)
    (source : Text) (game : Game) (index : Nat) :
    let full := (Scheduler.run source game).under environment []
    let cut := (Scheduler.run source game).under (environment.calling index Scheduler.stop) []
    (∀ point, full.exchanges[index]? = some point →
      Shortens cut.exchanges full.exchanges ∧
      WindsDown point (cut.exchanges.drop (index + 1)) ∧
      cut.final.session.world = point.before.session.world ∧
      Concludes cut.exchanges cut.final) ∧
    (∀ other : Game, other.session.state ≠ .running →
      Scheduler.stop other = .done (.ok ()) other) ∧
    ∀ (other : Game) (later : Text) (flag : Bool),
      other.Free → SourceLine.ofSource later ≠ [] →
      let flagged := other.onSession fun session => { session with stopRequested := flag }
      Scheduler.run later flagged = Scheduler.run later other ∧
        Scheduler.runAsync later flagged = Scheduler.runAsync later other := by
  intro full cut
  refine ⟨?_, ?_, ?_⟩
  · intro point found
    rcases Scheduler.run_pauses found with ⟨filled, free⟩
    simp only [full, cut, Scheduler.run_under filled free] at found ⊢
    exact execute_stopped quiet (game.claimed_fits _) found
  · intro other rests
    rw [Scheduler.stop_apply, Game.stopped, if_neg rests]
  · intro other later flag free filled flagged
    have freed : flagged.Free := ⟨free.state, free.idle⟩
    constructor
    · rw [Scheduler.run_free filled freed, Scheduler.run_free filled free]
      rfl
    · rw [Scheduler.runAsync_free filled freed, Scheduler.runAsync_free filled free]
      rfl

/-- A movement of two steps is cut off after the first. -/
theorem stop_truncates_first_step :
    let full := (Scheduler.run "move_right(2)" (Game.onGrass 4)).under .silent []
    let cut := (Scheduler.run "move_right(2)" (Game.onGrass 4)).under
      (Environment.silent.calling 2 Scheduler.stop) []
    Exchange.redraws full.exchanges = [⟨⟨1, 0⟩, ⟨1, 0⟩, false⟩, ⟨⟨2, 0⟩, ⟨2, 0⟩, false⟩] ∧
    Exchange.redraws cut.exchanges = [⟨⟨1, 0⟩, ⟨1, 0⟩, false⟩] ∧
    ∃ point, full.exchanges[2]? = some point ∧ Shortens cut.exchanges full.exchanges ∧
      WindsDown point (cut.exchanges.drop 3) ∧
      cut.final.session.world = point.before.session.world ∧
      Concludes cut.exchanges cut.final := by
  have truncates := (stop_truncates Environment.silent_quiet "move_right(2)" (Game.onGrass 4) 2).1
  rcases Option.isSome_iff_exists.mp
    (by decide +kernel : (((Scheduler.run "move_right(2)" (Game.onGrass 4)).under
      .silent []).exchanges[2]?).isSome = true) with
    ⟨point, found⟩
  exact ⟨by decide +kernel, by decide +kernel, point, found, truncates point found⟩

end TileWalk
