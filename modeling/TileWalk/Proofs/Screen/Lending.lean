import TileWalk.Proofs.Screen.Desk

/-!
# The library while games are played

Runs never write to the disk, and the orders of the screen only read the library. So whatever the
player does, and however far the worker has come, the library is the same one with the same file,
unless someone else changes the files.
-/

namespace TileWalk

open Process Course

/-! ## Courses that are carried out at once -/

/-- A course that is carried out at once and leaves the library and the disk alone. -/
def Course.Frugal {α : Type} (course : Course α) : Prop :=
  ∀ game, ∃ result last, course game = .done result last ∧ game.SameHolding last

namespace Course.Frugal

variable {α β : Type} {course : Course α}

theorem pure (value : α) : Frugal (Pure.pure value : Course α) :=
  fun game => ⟨_, game, rfl, .refl game⟩

theorem bind {next : α → Course β} (first : Frugal course) (onward : ∀ value, Frugal (next value)) :
    Frugal (course >>= next) := by
  intro game
  rcases first game with ⟨result, middle, done, same⟩
  rw [bind_apply, done, Activity.andThen_done]
  cases result with
  | error fault => exact ⟨_, middle, rfl, same⟩
  | ok value =>
      rcases onward value middle with ⟨ending, last, done, still⟩
      exact ⟨ending, last, done, same.trans still⟩

theorem state_bind {next : Game → Course β} (onward : ∀ game, Frugal (next game)) :
    Frugal (Process.state >>= next) :=
  fun present => onward present present

theorem onSession (change : Session → Session) : Frugal (Process.update (Game.onSession change)) :=
  fun _ => ⟨_, _, rfl, ⟨rfl, rfl, rfl⟩⟩

theorem withArchive {use : Archive → Archived α}
    (reads : ∀ archive, (use archive).2.disk = archive.disk) : Frugal (Course.withArchive use) :=
  fun game => ⟨_, _, Course.withArchive_apply use game, ⟨rfl, rfl, reads _⟩⟩

end Course.Frugal

namespace Scheduler

open Course

theorem stop_frugal : Frugal stop :=
  fun game => ⟨_, _, stop_apply, game.stopped_holding⟩

theorem chooseGrid_frugal (grid : Option Grid) (useLibrary : Bool) :
    Frugal (chooseGrid grid useLibrary) := by
  simp only [chooseGrid]
  split
  · exact .pure _
  split
  · exact .state_bind fun game => .withArchive game.library.first_disk
  · exact .pure none

theorem drawGrid_frugal (draws : Option Random.Draws) : Frugal (drawGrid draws) := by
  intro game
  simp only [drawGrid]
  split <;> exact ⟨_, _, rfl, by split <;> exact ⟨rfl, rfl, rfl⟩⟩

theorem resetSession_frugal (grid : Option Grid) (useLibrary : Bool)
    (draws : Option Random.Draws) : Frugal (resetSession grid useLibrary draws) := by
  apply (chooseGrid_frugal grid useLibrary).bind
  intro chosen
  apply (Frugal.onSession _).bind
  intro _
  split
  · exact (Frugal.pure _).bind fun _ => .onSession _
  · exact (drawGrid_frugal draws).bind fun _ => .onSession _

end Scheduler

/-! ## Orders -/

namespace Stage

open Observer

variable {α : Type} {stage : Stage} {before : List ScreenMessage} {game : Game} {held : Held}

/-- A worker that goes on leaves the library alone up to its next notice or its end. -/
theorem Underway.lends (underway : Underway before game held) :
    ∃ (activity : Activity Point Game Fault Unit) (turn : RunTurn),
      held game = activity.attend posting ∧ activity.Follows runMachine turn ∧
      turn.Meets (fun _ later => game.SameHolding later) fun _ later => game.SameHolding later := by
  cases underway with
  | begins lines due => exact ⟨_, _, rfl, run_follows lines game, ⟨rfl, rfl, rfl⟩⟩
  | stands waypoint resume given follows =>
      exact ⟨_, _, rfl, follows game, waypoint.next_holding (.ok ()) game⟩

theorem goOn_holding (posts : stage.Posts before) : stage.game.SameHolding stage.goOn.game := by
  simp only [goOn]
  split
  · next held standing =>
      have handed : stage.game.SameTelling (handTo stage.game) := ⟨rfl, rfl, rfl, rfl⟩
      rcases ((posts.underway held standing).moved handed).lends with
        ⟨activity, turn, resumed, follows, same⟩
      have kept := workerTurn_holding posting_watches follows same
      rw [← resumed] at kept
      exact ⟨kept.library, kept.usesLibrary, kept.disk⟩
  · exact .refl stage.game

/-- The run that is under way leaves the library alone up to its end. -/
theorem Posts.ended_holding (posts : stage.Posts before) :
    stage.game.SameHolding stage.ended := by
  cases standing : stage.held with
  | none =>
      have unmoved : stage.ended = stage.game.stopped := by
        simp [ended, finish, standing]
      rw [unmoved]
      exact stage.game.stopped_holding
  | some held =>
      have asked : stage.game.SameTelling (handTo stage.game.stopped) :=
        stage.game.stopped_telling.trans ⟨rfl, rfl, rfl, rfl⟩
      rcases ((posts.underway held standing).moved asked).lends with
        ⟨activity, turn, resumed, follows, same⟩
      have kept := workerEnd_holding posting_watches follows same
      rw [← resumed, ← ended_held standing] at kept
      have handed : stage.game.SameHolding (handTo stage.game.stopped) :=
        stage.game.stopped_holding.trans ⟨rfl, rfl, rfl⟩
      exact handed.trans kept

theorem announced_holding (game : Game) :
    game.SameHolding ((game.record (.highlight none)).record .redraw) :=
  (game.record_holding _).trans (Game.record_holding _ _)

/-- An order leaves the library and the disk alone. -/
def Lends (course : Course α) : Prop :=
  ∀ stage before, Posts before stage → stage.game.SameHolding (order course stage).2.game

theorem frugal_lends {course : Course α} (frugal : course.Frugal) : Lends course := by
  intro stage before posts
  rcases frugal stage.game with ⟨result, last, done, same⟩
  rw [order_done done]
  exact same

theorem handOver_lends (source : Text) (holdIn : Option Nat) :
    Lends (Command.handOver source holdIn) := by
  intro stage before posts
  by_cases accepted : SourceLine.ofSource source ≠ [] ∧ stage.game.Free
  · rcases Command.handOver_signals posting accepted.1 accepted.2 holdIn with
      ⟨resume, pauses, onward⟩
    simp only [order, pauses, conduct, onward]
    exact ⟨rfl, rfl, rfl⟩
  · rcases Command.handOver_refused accepted holdIn with ⟨last, refused, -, same⟩
    rw [order_done refused]
    exact same

theorem resetPosition_lends : Lends Scheduler.resetPosition := by
  intro stage before posts
  rcases posts.rests with ⟨rests, -, -⟩
  rw [order, Scheduler.resetPosition_eq, attend_bind, conduct_bind rests]
  simp only [Course.attend, bind_apply, update_apply, Activity.andThen_done, conduct_announced]
  have restarted : stage.game.SameHolding (stage.ended.onSession Session.resetPosition) :=
    posts.ended_holding.trans ⟨rfl, rfl, rfl⟩
  exact restarted.trans (announced_holding _)

theorem fullReset_lends (grid : Option Grid) (draws : Option Random.Draws) :
    Lends (Scheduler.fullReset grid draws) := by
  intro stage before posts
  rcases posts.rests with ⟨rests, -, -⟩
  rcases Scheduler.resetSession_frugal grid stage.ended.usesLibrary draws stage.ended with
    ⟨result, last, reset, same⟩
  have kept := posts.ended_holding.trans same
  rw [order, Scheduler.fullReset_eq, attend_bind, conduct_bind rests]
  simp only [Scheduler.renew, Course.attend, bind_apply, state_apply, Activity.andThen_done, reset]
  cases result with
  | error fault => exact kept
  | ok =>
      simp only [conduct_announced]
      exact kept.trans (announced_holding last)

end Stage

end TileWalk
