import TileWalk.Proofs.Program.Evaluation
import TileWalk.Proofs.Run.Control

/-!
# Resets within a run

A reset asks the run that is under way to stop and waits for its end, but not on
the thread that drives the run. There it goes on to forget the request, so that
the run never sees it: the rest of the program is carried out in the fresh
session. The run is over only where nothing was left to be done anyway.
-/

namespace TileWalk

open Process Course

/-- The calls that reset a game. -/
inductive Scheduler.Resets : Course Unit → Prop
  | position : Resets resetPosition
  | full (grid : Option Grid) (draws : Option Random.Draws) : Resets (fullReset grid draws)

/-- The session is as a reset leaves it. -/
structure Session.Fresh (session : Session) : Prop where
  agent : session.world.agent = {}
  bindings : session.bindings = .empty
  state : session.state = .idle
  clear : session.stopRequested = false

/-- After a reset nothing is left of a run but its end. -/
structure Finished (session : Session) (tail : List (Exchange Point Game Fault))
    (final : Game) : Prop where
  highlights : Exchange.highlights tail = []
  outputs : Exchange.outputs tail = []
  still : ∀ exchange ∈ tail, exchange.before.session.world = session.world
  final : final.session = session

/-! ## The calls -/

section Calls

variable {environment : Environment Point Game Fault} (quiet : environment.Quiet)
  (past : List (Exchange Point Game Fault)) {game : Game}

include quiet

theorem announce_quiet : ((Scheduler.announce game).under environment past).final.session =
    game.session := by
  have first := quiet past (.notice (.highlight none)) game
  have second := quiet (past ++ [environment.exchange past (.notice (.highlight none)) game])
    (.notice .redraw) (environment.exchange past (.notice (.highlight none)) game).after
  simp only [Scheduler.announce, bind_apply, notify_apply, Activity.andThen_paused,
    Activity.andThen_done, Activity.under, first.reply]
  exact second.undisturbed.session.trans first.undisturbed.session

/-- A reset on the thread that drives the run leaves a fresh session behind. -/
theorem Scheduler.Resets.fresh {call : Course Unit} (resets : Scheduler.Resets call)
    (own : game.runner = some game.current)
    (succeeds : ((call game).under environment past).result = .ok ()) :
    ((call game).under environment past).final.session.Fresh := by
  cases resets with
  | position =>
      rw [Scheduler.resetPosition_own own, announce_quiet quiet]
      exact ⟨rfl, rfl, rfl, rfl⟩
  | full grid draws =>
      have threads := game.stopped_threads
      have still : game.stopped.runner = some game.stopped.current := by
        rw [threads.runner, own, threads.current]
      rcases Scheduler.resetSession_ends grid game.stopped.usesLibrary draws game.stopped with
        ⟨result, last, ends, -, session⟩
      cases result with
      | error fault =>
          simp [Scheduler.fullReset, Scheduler.stop_apply, Scheduler.join_own still, ends]
            at succeeds
      | ok =>
          have run : Scheduler.fullReset grid draws game = Scheduler.announce last := by
            simp [Scheduler.fullReset, Scheduler.stop_apply, Scheduler.join_own still, ends]
          rcases session with ⟨fresh, same⟩ | ⟨-, failed⟩
          · rw [run, announce_quiet quiet, same]
            exact ⟨rfl, rfl, rfl, rfl⟩
          · exact absurd rfl failed

end Calls

/-! ## Where nothing is left to be done -/

/-- A highlighted line does nothing any more: it is the last one and a remark, or
it cannot be read. -/
def SourceLine.Spent (line : SourceLine) (rest : List SourceLine) : Prop :=
  match Statement.parse line.text with
  | .ok (.remark _) => rest = []
  | .ok (.assign _ value) => Numeral.Overlong value
  | .ok (.move _ (some token)) => Numeral.Overlong token
  | _ => False

/-- The step was the only one of the last line. -/
def Walk.Spent (walk : Walk) (rest : List SourceLine) : Prop :=
  walk.left = 0 ∧ walk.total ≤ 1 ∧ rest = []

def Moment.Spent (world : World) (rest : List SourceLine) : Moment → Prop
  | .said _ => rest = []
  | .stepped walk =>
    match world.isGoal walk.place with
    | .error _ => True
    | .ok true => False
    | .ok false => walk.Spent rest
  | .rested walk => walk.Spent rest
  | .obstructed _ | .fallen | .won => True

/-- A program does nothing any more. -/
def Waypoint.Spent (world : World) : Waypoint → Prop
  | .begun lines => lines = []
  | .highlighted line rest => line.Spent rest
  | .within _ rest moment => moment.Spent world rest
  | .between rest => rest = []
  | .failed _ | .closing _ | .ended _ => True

/-! ## What the run still does -/

/-- The rest of a run from a turn is nothing but its end exactly on a condition. -/
def RunTurn.FinishesIff (session : Session) (condition : Prop) (turn : RunTurn) : Prop :=
  ∀ tail result final, runMachine.Plays turn tail result final →
    (∀ exchange ∈ tail, exchange.Quiet) → (Finished session tail final ↔ condition)

namespace RunTurn

variable {session : Session} {condition : Prop} {game : Game}

/-- A run that closes finishes if nothing but the state of the run has changed. -/
theorem close_finishes (result : Except Fault Unit)
    (world : game.session.world = session.world)
    (same : { game.session with state := .idle } = session ↔ condition) :
    FinishesIff session condition (close result game) := by
  intro tail ending final plays quiet
  rcases close_quiet plays quiet with
    ⟨-, closing, ended, rfl, cleared, told, first, last, remains⟩
  rw [← same]
  constructor
  · intro finished
    rw [← remains, finished.final]
  · intro same
    constructor
    · simp [Exchange.highlights_cons, Exchange.highlighted?, cleared, told]
    · simp [Exchange.outputs_cons, Exchange.output?, cleared, told]
    · simp [first, last, world]
    · exact remains.trans same

theorem told_finishes {waypoint : Waypoint} {line : OutputLine}
    (told : waypoint.notice = .output line) :
    FinishesIff session False (.pause waypoint game) := by
  intro tail ending final plays quiet
  rcases plays.quietly quiet with ⟨exchange, rest, rfl, signal, -⟩
  apply iff_false_intro
  intro finished
  have none := finished.outputs
  simp [Exchange.outputs_cons, Exchange.output?, signal, told] at none

theorem highlighted_finishes (line : SourceLine) (rest : List SourceLine) :
    FinishesIff session False (.pause (.highlighted line rest) game) := by
  intro tail ending final plays quiet
  rcases plays.quietly quiet with ⟨exchange, tail, rfl, signal, -⟩
  apply iff_false_intro
  intro finished
  have none := finished.highlights
  simp [Exchange.highlights_cons, Exchange.highlighted?, signal, Waypoint.notice] at none

theorem moved_finishes (waypoint : Waypoint) (moved : game.session.world ≠ session.world) :
    FinishesIff session False (.pause waypoint game) := by
  intro tail ending final plays quiet
  rcases plays.quietly quiet with ⟨exchange, tail, rfl, -, first, -⟩
  apply iff_false_intro
  intro finished
  apply moved
  rw [← first]
  exact finished.still exchange (List.mem_cons_self ..)

theorem pause_finishes {waypoint : Waypoint}
    (silent : waypoint.notice = .wait ∨ waypoint.notice = .redraw)
    (world : game.session.world = session.world)
    (onward : ∀ later : Game, later.session = game.session →
      FinishesIff session condition (waypoint.next (.ok ()) later)) :
    FinishesIff session condition (.pause waypoint game) := by
  intro tail ending final plays quiet
  rcases plays.quietly quiet with ⟨exchange, rest, rfl, signal, first, same, plays, quiet⟩
  rw [← onward exchange.after same rest ending final plays quiet]
  have outputs : Exchange.outputs (exchange :: rest) = Exchange.outputs rest := by
    rcases silent with told | told <;>
      simp [Exchange.outputs_cons, Exchange.output?, signal, told]
  have highlights : Exchange.highlights (exchange :: rest) = Exchange.highlights rest := by
    rcases silent with told | told <;>
      simp [Exchange.highlights_cons, Exchange.highlighted?, signal, told]
  constructor
  · intro finished
    exact ⟨highlights ▸ finished.highlights, outputs ▸ finished.outputs,
      (List.forall_mem_cons.mp finished.still).2, finished.final⟩
  · intro finished
    exact ⟨highlights ▸ finished.highlights, outputs ▸ finished.outputs,
      List.forall_mem_cons.mpr ⟨by rw [first, world], finished.still⟩, finished.final⟩

theorem FinishesIff.congr {other : Prop} {turn : RunTurn}
    (finishes : FinishesIff session condition turn) (same : condition ↔ other) :
    FinishesIff session other turn := by
  intro tail result final plays quiet
  exact (finishes tail result final plays quiet).trans same

section Fresh

variable (fresh : session.Fresh) (same : game.session = session)

include fresh same

theorem close_fresh (result : Except Fault Unit) :
    FinishesIff session True (close result game) := by
  apply close_finishes result (by rw [same])
  apply iff_true_intro
  rw [same, ← fresh.state]

theorem dispatch_fresh (lines : List SourceLine) :
    FinishesIff session (lines = []) (dispatch lines game) := by
  cases lines with
  | nil => exact (close_fresh fresh same _).congr (by simp)
  | cons line rest =>
      simp only [dispatch, same, fresh.clear, Bool.false_eq_true, if_false]
      exact (highlighted_finishes line rest).congr (by simp)

/-- After a complete statement the run is over if there is no other line. -/
theorem settle_fresh (line : SourceLine) (rest : List SourceLine) :
    FinishesIff session (rest = []) (settle line rest (.ok true) game) := by
  simp only [settle]
  split
  · next last => exact (close_fresh fresh same _).congr (by simpa using last)
  · apply pause_finishes (.inl rfl) (by rw [same])
    intro later still
    exact dispatch_fresh fresh (still.trans same) rest

/-- An agent that was put back makes its next step, or dies in it. -/
theorem walk_fresh (square : session.world.grid.WellFormed session.world.size)
    (line : SourceLine) (rest : List SourceLine) (direction : Direction) (total : Int)
    (left : Nat) :
    FinishesIff session (left = 0 ∧ total ≤ 1 ∧ rest = [])
      (ofStatement line rest (StatementTurn.walk direction total left game)) := by
  cases left with
  | zero =>
      simp only [StatementTurn.walk]
      split
      · next several => exact (told_finishes rfl).congr (by simp; omega)
      · next single =>
          exact (settle_fresh fresh same line rest).congr (by simp; omega)
  | succ left =>
      refine FinishesIff.congr ?_ (by simp : False ↔ _)
      have place : (Position.origin.shift direction.delta) ≠ Position.origin := by
        cases direction <;> decide
      simp only [StatementTurn.walk, same, fresh.clear, fresh.agent, Bool.false_or,
        Bool.false_eq_true, if_false]
      cases outside : session.world.isOutOfBounds (Position.origin.shift direction.delta) with
      | true => exact told_finishes rfl
      | false =>
          rcases World.cellAt_inside square outside with ⟨tile, found⟩
          simp only [Bool.false_eq_true, if_false, found]
          split
          · exact told_finishes rfl
          · apply moved_finishes
            intro unmoved
            apply place
            have agent := congrArg (fun world => world.agent.position) unmoved
            simpa [Game.onWorld, World.place, fresh.agent] using agent

theorem bound_fresh (line : SourceLine) (rest : List SourceLine) (name : Text) (value : Int) :
    FinishesIff session False (settle line rest (.ok true) (game.onSession fun session =>
      { session with bindings := session.bindings.set name value })) := by
  have bound : session.bindings.set name value ≠ session.bindings := by
    simp [fresh.bindings, Bindings.set, Bindings.setEntry, Bindings.empty]
  simp only [settle]
  split
  · apply close_finishes _ (by simp [Game.onSession, same])
    apply iff_false_intro
    intro equal
    have bindings := congrArg Session.bindings equal
    simp only [Game.onSession, same] at bindings
    exact bound bindings
  · next more =>
      apply pause_finishes (.inl rfl) (by simp [Game.onSession, same])
      intro later still
      obtain ⟨first, lines, rfl⟩ : ∃ first lines, rest = first :: lines :=
        List.exists_cons_of_ne_nil (by simpa using more)
      have clear : later.session.stopRequested = false := by
        rw [still]
        simp [Game.onSession, same, fresh.clear]
      simp only [Waypoint.next, dispatch, clear, Bool.false_eq_true, if_false]
      exact highlighted_finishes first lines

theorem carryOut_fresh (square : session.world.grid.WellFormed session.world.size)
    (line : SourceLine) (rest : List SourceLine) :
    FinishesIff session (line.Spent rest) (carryOut line rest game) := by
  simp only [carryOut, SourceLine.Spent]
  cases Statement.parse line.text with
  | error error => exact told_finishes rfl
  | ok statement =>
      cases statement with
      | assign name value =>
          simp only [StatementTurn.begin, Interpreter.valueOf, same, fresh.bindings,
            Bindings.get?_empty]
          by_cases overlong : Numeral.Overlong value
          · simp only [overlong.1, if_true, Numeral.unsigned_overlong overlong]
            exact (close_fresh fresh same _).congr (by simp [overlong])
          · cases numeral : Numeral.isUnsigned value with
            | true =>
                simp only [if_true, Numeral.unsigned_readable numeral overlong]
                exact (bound_fresh fresh same line rest name _).congr (by simp [overlong])
            | false => exact (told_finishes rfl).congr (by simp [overlong])
      | print token quoted => exact told_finishes rfl
      | move direction argument =>
          simp only [StatementTurn.begin, same, fresh.bindings]
          have walks (steps : Int)
              (resolved : Interpreter.resolveSteps .empty argument = .ok steps) :
              FinishesIff session False (ofStatement line rest
                (StatementTurn.walk direction steps steps.toNat game)) := by
            have positive := Interpreter.resolveSteps_pos resolved
            exact (walk_fresh fresh same square line rest direction steps steps.toNat).congr
              (iff_false_intro fun spent => by omega)
          cases argument with
          | none => exact walks 1 rfl
          | some token =>
              by_cases overlong : Numeral.Overlong token
              · simp only [Interpreter.resolveSteps, Bindings.get?_empty, overlong.1, if_true,
                  Numeral.unsigned_overlong overlong]
                exact (close_fresh fresh same _).congr (by simp [overlong])
              · have resolved : Interpreter.resolveSteps .empty (some token) = _ :=
                  Interpreter.resolveSteps_eq .empty (by simpa using overlong)
                simp only [resolved]
                exact (walks _ resolved).congr (by simp [overlong])
      | remark text => exact settle_fresh fresh same line rest

theorem within_fresh (square : session.world.grid.WellFormed session.world.size)
    (line : SourceLine) (rest : List SourceLine) (moment : Moment) :
    FinishesIff session (moment.Spent session.world rest)
      (ofStatement line rest (moment.next (.ok ()) game)) := by
  cases moment with
  | said text => exact settle_fresh fresh same line rest
  | stepped walk =>
      simp only [Moment.next, Moment.Spent, same]
      cases session.world.isGoal walk.place with
      | error error => exact close_fresh fresh same _
      | ok reached =>
          cases reached with
          | true => exact told_finishes rfl
          | false =>
              apply pause_finishes (.inl rfl) (by rw [same])
              intro later still
              have same := still.trans same
              simp only [Waypoint.next, Moment.next, same, fresh.clear, Bool.false_eq_true,
                if_false]
              exact walk_fresh fresh same square line rest walk.direction walk.total walk.left
  | rested walk =>
      simp only [Moment.next, same, fresh.clear, Bool.false_eq_true, if_false]
      exact walk_fresh fresh same square line rest walk.direction walk.total walk.left
  | obstructed message =>
      apply pause_finishes (.inr rfl) (by rw [same])
      intro later still
      exact close_fresh fresh (still.trans same) _
  | fallen => exact close_fresh fresh same _
  | won => exact close_fresh fresh same _

end Fresh

end RunTurn

/-- Wherever a run stands when the session is fresh, it is over exactly if nothing
was left to be done. -/
theorem Waypoint.next_fresh {session : Session} (fresh : session.Fresh)
    (square : session.world.grid.WellFormed session.world.size) {waypoint : Waypoint}
    (going : waypoint.Open) {game : Game} (same : game.session = session) :
    RunTurn.FinishesIff session (waypoint.Spent session.world) (waypoint.next (.ok ()) game) := by
  cases waypoint with
  | begun lines => exact RunTurn.dispatch_fresh fresh same lines
  | highlighted line rest => exact RunTurn.carryOut_fresh fresh same square line rest
  | within line rest moment => exact RunTurn.within_fresh fresh same square line rest moment
  | failed error => exact RunTurn.close_fresh fresh same _
  | between rest => exact RunTurn.dispatch_fresh fresh same rest
  | closing result => exact going.elim
  | ended result => exact going.elim

/-! ## Resetting within a run -/

theorem execute_reset {environment : Environment Point Game Fault} (quiet : environment.Quiet)
    {reset : Course Unit} (resets : Scheduler.Resets reset) {game : Game}
    {lines : List SourceLine} (fits : (Waypoint.begun lines).Fits (game.begun lines))
    {index : Nat} {point other : Exchange Point Game Fault} :
    let full := (Scheduler.execute lines game).under environment []
    let cut := (Scheduler.execute lines game).under (environment.calling index reset) []
    full.exchanges[index]? = some point → cut.exchanges[index]? = some other →
    other.reply = .ok () →
    other.after.session.world.grid.WellFormed other.after.session.world.size →
    point.signal ≠ .notice (.highlight none) → point.signal ≠ .notice .ended →
    ∃ waypoint, runMachine.after (.pause (.begun lines) (game.begun lines))
        (full.exchanges.take index) = .pause waypoint point.before ∧
      other.after.session.Fresh ∧
      (Finished other.after.session (cut.exchanges.drop (index + 1)) cut.final ↔
        waypoint.Spent other.after.session.world) := by
  intro full cut found made succeeds square uncleared unended
  rcases execute_interrupted quiet fits reset found with
    ⟨waypoint, first, place, rest, tail, count, reached, call⟩
  have long : full.exchanges = first ++ point :: rest := call.long
  have short : cut.exchanges = first ++ place :: tail := call.made
  obtain rfl : place = other := by simpa [short, ← count] using made
  have watched : point.Quiet := call.watched point (by simp [call.long])
  have own := (call.fits.after watched.undisturbed).runner
  have result := call.reply.symm.trans succeeds
  have fresh : place.after.session.Fresh := by
    rw [call.after]
    exact resets.fresh quiet first own result
  have going : waypoint.Open := by
    cases waypoint with
    | closing => exact (uncleared call.told.symm).elim
    | ended => exact (unended call.told.symm).elim
    | _ => trivial
  have plays := call.plays
  rw [succeeds] at plays
  refine ⟨waypoint, ?_, fresh, ?_⟩
  · simpa [long, ← count] using reached
  · have after : cut.exchanges.drop (index + 1) = tail := by simp [short, ← count]
    rw [after]
    exact Waypoint.next_fresh fresh square going rfl tail _ _ plays call.quiet

/-- A reset within a run does not end the run. The session is fresh after it, but
the run goes on from where it was told, so that it is over and leaves the fresh
session behind exactly if the program had nothing left to do there. -/
theorem inner_reset_ends_run_iff {environment : Environment Point Game Fault}
    (quiet : environment.Quiet) {reset : Course Unit} (resets : Scheduler.Resets reset)
    (source : Text) (game : Game) (index : Nat) {point other : Exchange Point Game Fault} :
    let lines := SourceLine.ofSource source
    let full := (Scheduler.run source game).under environment []
    let cut := (Scheduler.run source game).under (environment.calling index reset) []
    full.exchanges[index]? = some point → cut.exchanges[index]? = some other →
    other.reply = .ok () →
    other.after.session.world.grid.WellFormed other.after.session.world.size →
    point.signal ≠ .notice (.highlight none) → point.signal ≠ .notice .ended →
    ∃ waypoint, runMachine.after
        (.pause (.begun lines) ((game.claimed game.current).begun lines))
        (full.exchanges.take index) = .pause waypoint point.before ∧
      other.after.session.Fresh ∧
      (Finished other.after.session (cut.exchanges.drop (index + 1)) cut.final ↔
        waypoint.Spent other.after.session.world) := by
  intro lines full cut found
  rcases Scheduler.run_pauses found with ⟨filled, free⟩
  simp only [full, cut, Scheduler.run_under filled free] at found ⊢
  exact execute_reset quiet resets (game.claimed_fits _) found

/-- A reset at the very beginning of a run does not keep it from its only line. -/
theorem inner_reset_at_start :
    let full := (Scheduler.run "print('a')" (Game.onGrass 1)).under .silent []
    let cut := (Scheduler.run "print('a')" (Game.onGrass 1)).under
      (Environment.silent.calling 0 Scheduler.resetPosition) []
    Exchange.outputs (cut.exchanges.drop 1) = [⟨"a", .info⟩] ∧
    ∃ point other, full.exchanges[0]? = some point ∧ cut.exchanges[0]? = some other ∧
      point.signal = .notice .started ∧ other.after.session.Fresh ∧
      ¬ Finished other.after.session (cut.exchanges.drop 1) cut.final := by
  rcases Option.isSome_iff_exists.mp
    (by decide +kernel : (((Scheduler.run "print('a')" (Game.onGrass 1)).under
      .silent []).exchanges[0]?).isSome = true) with
    ⟨point, found⟩
  rcases Option.isSome_iff_exists.mp
    (by decide +kernel : (((Scheduler.run "print('a')" (Game.onGrass 1)).under
      (Environment.silent.calling 0 Scheduler.resetPosition) []).exchanges[0]?).isSome = true) with
    ⟨other, made⟩
  have told : point.signal = .notice .started := Option.some.inj <|
    (congrArg (Option.map Exchange.signal) found).symm.trans (by decide +kernel)
  have answered : other.reply.toBool = true := Option.some.inj <|
    (congrArg (Option.map fun exchange : Exchange Point Game Fault => exchange.reply.toBool)
      made).symm.trans (by decide +kernel)
  have succeeds : other.reply = .ok () := by
    cases reply : other.reply with
    | error fault => simp [reply, Except.toBool] at answered
    | ok => rfl
  have world : other.after.session.world = (Game.onGrass 1).session.world := Option.some.inj <|
    (congrArg (Option.map fun exchange : Exchange Point Game Fault => exchange.after.session.world)
      made).symm.trans (by decide +kernel)
  rcases inner_reset_ends_run_iff Environment.silent_quiet .position "print('a')" (Game.onGrass 1) 0
      found made succeeds (by rw [world]; exact Grid.empty_square 1) (by simp [told])
      (by simp [told]) with
    ⟨waypoint, reached, fresh, finished⟩
  refine ⟨by decide +kernel, point, other, found, made, told, fresh, ?_⟩
  intro ends
  rcases (Turn.pause.inj reached).1 with rfl
  exact absurd (finished.mp ends) (by decide : SourceLine.ofSource "print('a')" ≠ [])

end TileWalk
