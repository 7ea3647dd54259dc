import TileWalk.Proofs.Run.Exclusion

/-!
# Back to idle

However a program ends, its run closes: it clears the highlight, puts the session
back to idle, tells its end, and leaves an idle game behind. An error at a notice
is no hindrance, with one exception. If the highlight cannot be cleared, nothing
of this is done: no run is under way any more, and none is ever accepted again.
-/

namespace TileWalk

open Process Course

/-! ## What others do at the pauses of a run -/

/-- Whoever is told may raise an error and make calls, but does nothing else that
governs runs. -/
def Exchange.Steady (exchange : Exchange Point Game Fault) : Prop :=
  exchange.before.Steady exchange.after

def Environment.Steady (environment : Environment Point Game Fault) : Prop :=
  ∀ past point game, (environment.exchange past point game).Steady

section Steady

variable {environment : Environment Point Game Fault} {α : Type}

theorem Activity.Steady.under {activity : Activity Point Game Fault α} {game : Game}
    (steady : activity.Steady game) (others : environment.Steady)
    (past : List (Exchange Point Game Fault)) :
    game.Steady (activity.under environment past).final := by
  induction activity generalizing game past with
  | done result after => exact steady
  | paused point after resume ih =>
      rcases steady with ⟨earlier, -, onward⟩
      exact earlier.trans ((others past point after).trans (ih _ _ (onward _ _) _))

/-- A call at a notice does only what may happen besides runs. -/
theorem Environment.Steady.calling (steady : environment.Steady) (index : Nat)
    {call : Course Unit} (guest : call.Steady) : (environment.calling index call).Steady := by
  intro past point game
  have answered := steady past point game
  simp only [Exchange.Steady, Environment.exchange, Environment.calling] at answered ⊢
  split
  · exact answered.trans ((guest _).under steady past)
  · exact answered

end Steady

/-! ## Free and stuck games -/

namespace Game

/-- A run of the program begins: it pauses to tell so. -/
def Accepts (game : Game) (source : Text) : Prop :=
  ∃ later resume, Scheduler.run source game = .paused (.notice .started) later resume

/-- Nobody has to wait for a run, and every program with statements is accepted. -/
structure Ready (game : Game) : Prop where
  free : game.Free
  joins : ∀ thread, Scheduler.join { game with current := thread } =
    .done (.ok ()) { game with current := thread }
  accepts : ∀ thread source, SourceLine.ofSource source ≠ [] →
    Accepts { game with current := thread } source

/-- Whatever is called later, no run is accepted, and a thread that waits for the
end of the run goes on waiting. -/
structure Stuck (game : Game) : Prop where
  refuses : ∀ later, game.Steady later → ∀ source,
    (∃ last, Scheduler.run source later = .done (.ok false) last ∧
      last.session = later.session) ∧
    ∃ last, Scheduler.runAsync source later = .done (.ok false) last ∧
      last.session = later.session
  waits : ∀ later, game.Steady later → later.runner ≠ some later.current →
    ∃ resume, Scheduler.join later = .paused (.signal .await) later resume

theorem Free.ready {game : Game} (free : game.Free) : game.Ready where
  free := free
  joins thread := by simp [Scheduler.join, free.idle]
  accepts thread source filled := by
    have turned : Free { game with current := thread } := ⟨free.state, free.idle⟩
    rw [Accepts, Scheduler.run_free filled turned]
    exact ⟨_, _, rfl⟩

theorem stuck_of_busy {game : Game} (busy : game.idle = false) : game.Stuck where
  refuses later steady source := by
    have busy : ¬ later.Free := by
      intro free
      have idle := steady.idle.symm.trans free.idle
      simp [busy] at idle
    rcases Scheduler.run_refused source busy with ⟨last, refused, same, -⟩
    rcases Scheduler.runAsync_refused source busy with ⟨other, refusedToo, sameToo, -⟩
    exact ⟨⟨last, refused, same⟩, other, refusedToo, sameToo⟩
  waits later steady foreign := by
    have busy : later.idle = false := steady.idle.trans busy
    simp only [Scheduler.join, bind_apply, state_apply, Activity.andThen_done, foreign, busy,
      Bool.false_eq_true, if_false]
    exact ⟨_, rfl⟩

end Game

/-! ## How a run leaves the game -/

theorem Waypoint.Open.uncleared {waypoint : Waypoint} (going : waypoint.Open) :
    waypoint.notice ≠ .highlight none := by
  cases waypoint with
  | within line rest moment => cases moment <;> simp [notice, Moment.notice]
  | closing => exact going.elim
  | _ => simp [notice]

/-- What a run comes to after it has begun: it clears the highlight once, and the game
is free afterwards if that was possible, and never again idle otherwise. -/
structure Leaves (exchanges : List (Exchange Point Game Fault)) (result : Except Fault Unit)
    (final : Game) : Prop where
  closes : ∃ body closing rest, exchanges = body ++ closing :: rest ∧
    closing.signal = .notice (.highlight none) ∧
    (∀ exchange ∈ body, exchange.signal ≠ .notice (.highlight none)) ∧
    (closing.reply = .ok () → final.Free ∧ ∃ told, rest = [told] ∧
      told.signal = .notice .ended ∧ told.before.session.state = .idle) ∧
    ∀ fault, closing.reply = .error fault →
      rest = [] ∧ result = .error fault ∧ final.idle = false

theorem Leaves.cons {exchange : Exchange Point Game Fault}
    {exchanges : List (Exchange Point Game Fault)} {result : Except Fault Unit} {final : Game}
    (earlier : exchange.signal ≠ .notice (.highlight none))
    (leaves : Leaves exchanges result final) : Leaves (exchange :: exchanges) result final := by
  rcases leaves.closes with ⟨body, closing, rest, rfl, cleared, before, facts⟩
  exact ⟨exchange :: body, closing, rest, rfl, cleared, by simpa [earlier] using before, facts⟩

/-- A run leaves, wherever its program stands and whichever errors it meets. -/
theorem Waypoint.leaves {turn : RunTurn} {exchanges : List (Exchange Point Game Fault)}
    {result : Except Fault Unit} {final : Game}
    (plays : runMachine.Plays turn exchanges result final)
    (early : turn.Meets (fun waypoint game => waypoint.BeforeEnd ∧ game.idle = false)
      fun _ _ => False)
    (steady : ∀ exchange ∈ exchanges, exchange.Steady) :
    Leaves exchanges result final := by
  induction exchanges generalizing turn with
  | nil =>
      cases plays
      exact early.elim
  | cons exchange exchanges ih =>
      rcases plays.head with ⟨waypoint, rfl, told, onward⟩
      rcases early with ⟨early, busy⟩
      rcases List.forall_mem_cons.mp steady with ⟨here, later⟩
      have busy : exchange.after.idle = false := here.idle.trans busy
      by_cases going : waypoint.Open
      · have keeps := next_keeps going exchange.reply exchange.after
        have again := ih onward (keeps.imp
          (fun _ _ facts => ⟨facts.1, facts.2.1.idle.trans busy⟩) fun _ _ => id) later
        apply again.cons
        rw [← told]
        simpa using going.uncleared
      · cases waypoint with
        | closing ending =>
            refine ⟨[], exchange, exchanges, rfl, told.symm, by simp, ?_, ?_⟩
            · intro cleared
              rw [cleared] at onward
              cases onward with
              | pause place before reply after onward =>
                  cases onward
                  have resting := (later _ (List.mem_cons_self ..)).resting rfl
                  exact ⟨⟨resting, rfl⟩, _, rfl, rfl, rfl⟩
            · intro fault refused
              rw [refused] at onward
              cases onward
              exact ⟨rfl, rfl, busy⟩
        | ended => exact early.elim
        | _ => exact absurd trivial going

/-- A run that was accepted, on whichever thread, clears the highlight exactly once.
If that succeeds, it tells its end in the idle state, and whatever errors it met on
the way and meets then, the game is ready for the next run. If it does not, the
run ends with that error, and the game is stuck. -/
theorem recovers_unless_uncleared {environment : Environment Point Game Fault}
    (steady : environment.Steady) {game : Game} (free : game.Free) (runner : Thread)
    (lines : List SourceLine) :
    Scheduler.claim runner game = .done (.ok true) (game.claimed runner) ∧
    let ending := (Scheduler.execute lines (game.claimed runner)).under environment []
    ∃ body closing rest, ending.exchanges = body ++ closing :: rest ∧
      closing.signal = .notice (.highlight none) ∧
      (∀ exchange ∈ body, exchange.signal ≠ .notice (.highlight none)) ∧
      (closing.reply = .ok () → ending.final.Ready ∧ ∃ told, rest = [told] ∧
        told.signal = .notice .ended ∧ told.before.session.state = .idle) ∧
      ∀ fault, closing.reply = .error fault →
        rest = [] ∧ ending.result = .error fault ∧ ending.final.Stuck := by
  refine ⟨Scheduler.claim_free free, ?_⟩
  intro ending
  have plays := (run_follows lines (game.claimed runner)).plays environment []
  have given := (environment.gave_under (Scheduler.execute lines (game.claimed runner)) []).all
    steady
  rcases (Waypoint.leaves plays ⟨trivial, rfl⟩ given).closes with
    ⟨body, closing, rest, seen, cleared, before, recovers, fails⟩
  refine ⟨body, closing, rest, seen, cleared, before, ?_, ?_⟩
  · intro succeeds
    rcases recovers succeeds with ⟨free, told⟩
    exact ⟨free.ready, told⟩
  · intro fault refused
    rcases fails fault refused with ⟨finished, result, busy⟩
    exact ⟨finished, result, Game.stuck_of_busy busy⟩

/-- Whoever is told gives up with an error at every notice of one kind. -/
def Environment.refusing (notice : Notice) (fault : Fault) : Environment Point Game Fault :=
  fun _ point game => (if point = .notice notice then .error fault else .ok (), game)

/-- A run that is stopped at once and cannot clear the highlight leaves a stuck game. -/
theorem recovers_unless_uncleared_stopped :
    let environment := (Environment.refusing (.highlight none) (.raised "boom")).calling 0
      Scheduler.stop
    let ending := (Scheduler.execute (SourceLine.ofSource "print('a')")
      ((Game.onGrass 1).claimed .controller)).under environment []
    environment.Steady ∧ (Game.onGrass 1).Free ∧
      ending.exchanges.map (fun exchange => (exchange.signal, exchange.reply.toBool)) =
        [(.notice .started, true), (.notice (.highlight none), false)] ∧
      ending.final.Stuck := by
  intro environment ending
  have refusing : (Environment.refusing (.highlight none) (.raised "boom")).Steady :=
    fun _ _ game => Game.Steady.refl game
  have steady : environment.Steady := refusing.calling 0 Scheduler.stop_steady
  have free : (Game.onGrass 1).Free := by decide
  have seen : ending.exchanges.map (fun exchange => (exchange.signal, exchange.reply.toBool)) =
      [(.notice .started, true), (.notice (.highlight none), false)] := by decide +kernel
  rcases recovers_unless_uncleared steady free .controller
      (SourceLine.ofSource "print('a')") with
    ⟨-, body, closing, rest, exchanges, cleared, -, -, fails⟩
  have told : (closing.signal, closing.reply.toBool) ∈
      ending.exchanges.map fun exchange => (exchange.signal, exchange.reply.toBool) :=
    List.mem_map_of_mem (exchanges ▸ List.mem_append_right _ List.mem_cons_self)
  cases reply : closing.reply with
  | ok =>
      rw [seen, cleared, reply] at told
      simp [Except.toBool] at told
  | error fault => exact ⟨steady, free, seen, (fails fault reply).2.2⟩

end TileWalk
