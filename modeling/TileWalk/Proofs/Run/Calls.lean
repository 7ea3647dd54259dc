import TileWalk.Run.Scheduler

/-!
# Calls of the scheduler

Each call is described once by what it does to a game. A run is accepted only by
a game that is free; whatever else is asked for while a run is under way, only
stopping and resetting change its session.
-/

namespace TileWalk

open Process Course

namespace Game

/-- No run is under way. -/
structure Free (game : Game) : Prop where
  state : game.session.state = .idle
  idle : game.idle = true

instance (game : Game) : Decidable game.Free :=
  decidable_of_iff (game.session.state = .idle ∧ game.idle = true)
    ⟨fun both => ⟨both.1, both.2⟩, fun free => ⟨free.state, free.idle⟩⟩

/-- A new game on a meadow. -/
def onGrass (size : Nat) : Game where
  session := { world := { grid := Grid.empty size, size } }
  library := { folder := ⟨.workingFolder, []⟩, user := Library.defaultUser }

/-- The session that a run starts with. -/
def claimed (game : Game) (runner : Thread) : Game :=
  { game with
    session := { game.session with state := .running, stopRequested := false, bindings := .empty }
    runner := some runner
    idle := false }

def refused (game : Game) : Game :=
  game.push (.logged ⟨.debug, .scheduler, "Run ignored; a program is already running."⟩)

/-- The game in which the run, if one is running, has been asked to stop. -/
def stopped (game : Game) : Game :=
  if game.session.state = .running then
    (game.onSession fun session => { session with state := .stopping, stopRequested := true }).push
      (.logged ⟨.info, .scheduler, "Stop requested."⟩)
  else game

/-- The marks of the thread that drives a run, and of the one whose turn it is. -/
structure SameThreads (game other : Game) : Prop where
  idle : other.idle = game.idle
  runner : other.runner = game.runner
  current : other.current = game.current

theorem stopped_threads (game : Game) : game.SameThreads game.stopped := by
  simp only [stopped]
  split <;> exact ⟨rfl, rfl, rfl⟩

/-- The game after its reset, before this is told. -/
def restarted (game : Game) : Game :=
  game.stopped.onSession Session.resetPosition

end Game

namespace Scheduler

variable {game : Game} {runner : Thread} {source : Text}

theorem claim_free (free : game.Free) :
    claim runner game = .done (.ok true) (game.claimed runner) := by
  simp [claim, free.state, free.idle, Game.claimed]

theorem claim_busy (busy : ¬ game.Free) :
    claim runner game = .done (.ok false) game.refused := by
  have taken : game.session.state ≠ .idle ∨ game.idle = false := by
    by_cases rest : game.session.state = .idle
    · cases idle : game.idle with
      | false => exact .inr rfl
      | true => exact absurd ⟨rest, idle⟩ busy
    · exact .inl rest
  simp [claim, taken, Game.refused]

theorem run_blank (blank : SourceLine.ofSource source = []) :
    run source game = .done (.ok false) game := by
  simp [run, blank]

theorem run_busy (filled : SourceLine.ofSource source ≠ []) (busy : ¬ game.Free) :
    run source game = .done (.ok false) game.refused := by
  simp [run, filled, claim_busy busy]

/-- An accepted run carries out its lines in the claimed session. -/
theorem run_free (filled : SourceLine.ofSource source ≠ []) (free : game.Free) :
    run source game =
      (execute (SourceLine.ofSource source) (game.claimed game.current)).andThen
        fun result last => .done (result.map fun _ => true) last := by
  simp only [run, bind_apply, state_apply, claim_free free, Activity.andThen_done,
    List.isEmpty_iff, filled, if_false, if_true]
  congr 1
  funext result last
  cases result <;> rfl

/-- While the game is not free, a run is refused and the session is left alone. -/
theorem run_refused (source : Text) (busy : ¬ game.Free) :
    ∃ last, run source game = .done (.ok false) last ∧ last.session = game.session ∧
      game.SameThreads last := by
  by_cases blank : SourceLine.ofSource source = []
  · exact ⟨game, run_blank blank, rfl, rfl, rfl, rfl⟩
  · exact ⟨game.refused, run_busy blank busy, rfl, rfl, rfl, rfl⟩

theorem runAsync_refused (source : Text) (busy : ¬ game.Free) :
    ∃ last, runAsync source game = .done (.ok false) last ∧ last.session = game.session ∧
      game.SameThreads last := by
  by_cases blank : SourceLine.ofSource source = []
  · exact ⟨game, by simp [runAsync, blank], rfl, rfl, rfl, rfl⟩
  · exact ⟨game.refused, by simp [runAsync, blank, claim_busy busy], rfl, rfl, rfl, rfl⟩

/-- A program that is accepted for the worker is handed over in the claimed session. -/
theorem runAsync_free (filled : SourceLine.ofSource source ≠ []) (free : game.Free) :
    runAsync source game =
      (yield (.start (SourceLine.ofSource source)) (game.claimed .worker)).andThen
        fun result last => .done (result.map fun _ => true) last := by
  simp only [runAsync, bind_apply, claim_free free, Activity.andThen_done,
    List.isEmpty_iff, filled, if_false, if_true]
  congr 1
  funext result last
  cases result <;> rfl

theorem stop_apply : stop game = .done (.ok ()) game.stopped := by
  by_cases running : game.session.state = .running <;> simp [stop, Game.stopped, running]

theorem join_own (own : game.runner = some game.current) :
    join game = .done (.ok ()) game := by
  simp [join, own]

/-- On the thread that drives the run the agent is put back at once. -/
theorem resetPosition_own (own : game.runner = some game.current) :
    resetPosition game = announce game.restarted := by
  have threads := game.stopped_threads
  have still : game.stopped.runner = some game.stopped.current := by
    rw [threads.runner, own, threads.current]
  simp [resetPosition, stop_apply, join_own still, Game.restarted]

theorem chooseGrid_ends (grid : Option Grid) (useLibrary : Bool) (game : Game) :
    ∃ result last, chooseGrid grid useLibrary game = .done result last ∧
      game.SameThreads last ∧ last.session = game.session := by
  cases grid with
  | some grid => exact ⟨_, _, rfl, ⟨rfl, rfl, rfl⟩, rfl⟩
  | none =>
      cases useLibrary with
      | false => exact ⟨_, _, rfl, ⟨rfl, rfl, rfl⟩, rfl⟩
      | true =>
          simp only [chooseGrid, if_true, bind_apply, state_apply, Activity.andThen_done,
            withArchive]
          split <;> exact ⟨_, _, rfl, ⟨rfl, rfl, rfl⟩, rfl⟩

theorem drawGrid_ends (draws : Option Random.Draws) (game : Game) :
    ∃ result last, drawGrid draws game = .done result last ∧
      game.SameThreads last ∧ last.session = game.session := by
  simp only [drawGrid]
  split <;> refine ⟨_, _, rfl, ?_, ?_⟩ <;> cases draws <;> first | rfl | exact ⟨rfl, rfl, rfl⟩

/-- A full reset puts the agent back on some map, or fails before it has changed
the session. -/
theorem resetSession_ends (grid : Option Grid) (useLibrary : Bool) (draws : Option Random.Draws)
    (game : Game) :
    ∃ result last, resetSession grid useLibrary draws game = .done result last ∧
      game.SameThreads last ∧
      ((∃ fresh, last.session = game.session.resetPosition.load fresh) ∨
        (last.session = game.session ∧ result ≠ .ok ())) := by
  rcases chooseGrid_ends grid useLibrary game with ⟨chosen, later, choice, threads, session⟩
  simp only [resetSession, bind_apply, choice, Activity.andThen_done]
  cases chosen with
  | error fault => exact ⟨_, _, rfl, threads, .inr ⟨session, by simp⟩⟩
  | ok chosen =>
      cases chosen with
      | some fresh =>
          refine ⟨_, _, rfl, ⟨threads.idle, threads.runner, threads.current⟩, .inl ⟨fresh, ?_⟩⟩
          simp [Game.onSession, session]
      | none =>
          rcases drawGrid_ends draws (later.onSession Session.resetPosition) with
            ⟨drawn, last, draw, marks, same⟩
          simp only [bind_apply, update_apply, Activity.andThen_done, draw]
          have marked : game.SameThreads last :=
            ⟨marks.idle.trans threads.idle, marks.runner.trans threads.runner,
              marks.current.trans threads.current⟩
          have restarted : last.session = game.session.resetPosition := by
            rw [same]
            simp [Game.onSession, session]
          cases drawn with
          | error fault => exact ⟨_, _, rfl, marked, .inl ⟨game.session.world.grid, restarted⟩⟩
          | ok fresh =>
              refine ⟨_, _, rfl, ⟨marked.idle, marked.runner, marked.current⟩, .inl ⟨fresh, ?_⟩⟩
              simp [Game.onSession, restarted]

end Scheduler

end TileWalk
