import TileWalk.Proofs.Library.Failing
import TileWalk.Proofs.Screen.Desk

/-!
# New maps that cannot be had

A full reset ends the run that is under way before it reads the library, and changes nothing before
it has read it. So an error in the library leaves the game as that run has left it, and nothing is
told but the end of the run. With a map that is given the library is not asked at all.
-/

namespace TileWalk

open Process Course

namespace Stage

variable {observer : Observer} {stage : Stage}

theorem underway_pauses (watches : observer.Watches) {game : Game} (free : game.Free)
    {source : Text} {turns : List (Option Nat)} {held : Held}
    (waiting : (underway observer game source turns).held = some held) :
    (underway observer game source turns).Pauses observer := by
  refine ⟨fun none => ?_, fun later known => ?_⟩
  · cases waiting.symm.trans none
  · exact ⟨game, false, underway_halts watches free source turns later known⟩

/-- How a run that is under way has ended: it has told so, and has left the map and the pace alone.
Where no run is under way nothing happens. -/
structure Ends (stage : Stage) : Prop where
  free : stage.ended.Free
  idle : stage.held = none → stage.ended = stage.game
  spared : stage.game.Spared stage.ended
  holding : stage.game.SameHolding stage.ended
  told : stage.held ≠ none → stage.game.attended = true →
    ∃ earlier, stage.ended.told = .ended .idle :: earlier

theorem Pauses.ends (watches : observer.Watches) (pauses : stage.Pauses observer) : stage.Ends := by
  cases waiting : stage.held with
  | none =>
      have free := pauses.free waiting
      have still := ended_idle free waiting
      constructor
      · rw [still]
        exact free
      · exact fun _ => still
      · rw [still]
        exact .refl stage.game
      · rw [still]
        exact .refl stage.game
      · exact fun busy => absurd waiting busy
  | some held =>
      rcases pauses.halted held waiting with ⟨base, asked, halted⟩
      rcases halted.ends watches waiting with ⟨closed, holding⟩
      rcases halted.point with ⟨waypoint, -, -, -, reached⟩
      rcases reached.continued.spared with ⟨⟨grid, size⟩, speed, attended⟩
      constructor
      · exact closed.free
      · intro none
        cases waiting.symm.trans none
      · exact ⟨⟨closed.spared.map.grid.trans grid.symm, closed.spared.map.size.trans size.symm⟩,
          closed.spared.speed.trans speed.symm, closed.spared.attended.trans attended.symm⟩
      · exact holding
      · intro _ listening
        rcases closed.told (attended.symm.trans listening) with ⟨earlier, told, -⟩
        exact ⟨earlier, told⟩

/-- What a full reset answers when the library has an error: that error, in the game in which the
run has ended. -/
theorem Pauses.fullReset_error (watches : observer.Watches) (pauses : stage.Pauses observer)
    (lent : stage.game.usesLibrary = true) {error : LibraryError}
    (failed : (stage.game.library.first { disk := stage.game.disk }).1 = .error error)
    (draws : Option Random.Draws) :
    stage.perform observer (Scheduler.fullReset none draws) =
      (.error (.library error), { game := stage.ended }) := by
  rcases pauses.rests watches with ⟨rests, -, same⟩
  rw [← same.library, ← same.disk] at failed
  rw [← same.usesLibrary] at lent
  rw [Scheduler.fullReset_eq, rests.perform, Course.attend, Scheduler.renew_error lent failed]
  rfl

theorem Pauses.fullReset_some (watches : observer.Watches) (pauses : stage.Pauses observer)
    (grid : Grid) (draws : Option Random.Draws) :
    let loaded := stage.ended.onSession fun session => session.resetPosition.load grid
    stage.perform observer (Scheduler.fullReset (some grid) draws) =
      (.ok (), { game := (loaded.record (.highlight none)).record .redraw }) := by
  rcases pauses.rests watches with ⟨rests, -, -⟩
  rw [Scheduler.fullReset_some, rests.perform]
  simp only [Scheduler.renewWith, Course.attend, bind_apply, update_apply, Activity.andThen_done,
    conduct_announce watches]
  rfl

end Stage

/-- Carries out a course with an observer that is told of it and of the worker's runs. -/
def GameScreen.playing (observer : Observer) : Player := fun _ screen course =>
  let (result, stage) := screen.stage.perform observer course
  (result, { screen with stage })

/-- The key that makes the new map of a screen is pressed. -/
theorem GameScreen.press_newMap (screen : GameScreen) :
    Key.newMap.press (playing observer) screen = screen.newMap := rfl

/-- Wherever a run is paused, or when there is none, a full reset without a map ends it, and raises
the error that it then finds in the library: the game is just as the run has left it, the session
as well as all that has been told. The key for a new map makes one line on the console of it, and
clears nothing. A full reset to a given map has no library in it, and always succeeds. -/
theorem failed_reset_only_ends_run {observer : Observer} (watches : observer.Watches) {stage : Stage}
    (pauses : stage.Pauses observer) :
    stage.Ends ∧
    (∀ error, stage.game.usesLibrary = true →
      (stage.game.library.first { disk := stage.game.disk }).1 = .error error →
      (∀ draws, stage.perform observer (Scheduler.fullReset none draws) =
        (.error (.library error), { game := stage.ended })) ∧
      ∀ screen : GameScreen, screen.stage = stage → screen.mounted = true →
        error.isBadValue = true → Key.newMap.press (GameScreen.playing observer) screen =
          (.ok (), { screen with
            stage := { game := stage.ended }
            calls := GameScreen.complaint error :: screen.calls })) ∧
    ∀ grid draws,
      Scheduler.fullReset (some grid) draws = (Scheduler.rest >>= fun _ => Scheduler.renewWith grid) ∧
      ∃ final, stage.perform observer (Scheduler.fullReset (some grid) draws) =
          (.ok (), { game := final }) ∧
        final.session = stage.ended.session.resetPosition.load grid := by
  refine ⟨pauses.ends watches, ?_, ?_⟩
  · intro error lent failed
    have performed := pauses.fullReset_error watches lent failed
    refine ⟨performed, ?_⟩
    rintro screen rfl mounted bad
    have blamed : (Fault.library error).isBadValue = true := bad
    simp only [Key.press, Player.newMap, GameScreen.playing, performed, GameScreen.refuse, blamed,
      if_true]
    simp [GameScreen.reportLibraryError, GameScreen.writeOutput, GameScreen.call, mounted,
      GameScreen.complaint, Fault.message]
  · intro grid draws
    refine ⟨Scheduler.fullReset_some grid draws, _, pauses.fullReset_some watches grid draws, ?_⟩
    rw [(Game.record_undisturbed _ _).session, (Game.record_undisturbed _ _).session]
    rfl

/-- A game with a library whose file is no JSON. The worker is held at its first wait. -/
def brokenGame : Game :=
  { Game.onGrass 2 with
    library := .atHome "ada"
    usesLibrary := true
    disk := Library.brokenArchive.disk
    holdIn := some 1 }

/-- A run is held after its first line. The key for a new map ends it, and its variable is still
there; a given map is loaded all the same. -/
theorem failed_reset_only_ends_run_broken :
    let stage := Stage.underway GameScreen.observer brokenGame "x = 1\nmove_right(x)" []
    let screen : GameScreen := { stage, source := [], mounted := true }
    GameScreen.observer.Watches ∧ stage.held.isSome = true ∧ stage.Pauses GameScreen.observer ∧
    (∃ earlier, stage.ended.told = .ended .idle :: earlier) ∧
    stage.ended.session.bindings.get? "x" = some 1 ∧
    screen.newMap = (.ok (), { screen with
      stage := { game := stage.ended }
      calls := [GameScreen.complaint (.notJson (Library.atHome "ada").path)] }) ∧
    ∃ final, stage.perform GameScreen.observer (Scheduler.fullReset (some (Grid.empty 2)) none) =
        (.ok (), { game := final }) ∧
      final.session.bindings.get? "x" = none := by
  intro stage screen
  have watches := GameScreen.observer_watches
  have free : brokenGame.Free := by decide
  have waits : stage.held.isSome = true := by decide +kernel
  rcases Option.isSome_iff_exists.mp waits with ⟨held, waiting⟩
  have pauses : stage.Pauses GameScreen.observer := Stage.underway_pauses watches free waiting
  have failed : (stage.game.library.first { disk := stage.game.disk }).1 =
      .error (.notJson (Library.atHome "ada").path) := by decide +kernel
  have lent : stage.game.usesLibrary = true := by decide +kernel
  have listening : stage.game.attended = true := by decide +kernel
  have bound : stage.ended.session.bindings.get? "x" = some 1 := by decide +kernel
  rcases failed_reset_only_ends_run watches pauses with ⟨ends, refused, given⟩
  rcases refused _ lent failed with ⟨-, pressed⟩
  rcases given (Grid.empty 2) none with ⟨-, final, loaded, session⟩
  have told := ends.told (by rw [waiting]; nofun) listening
  have newMap := (GameScreen.press_newMap screen).symm.trans (pressed screen rfl rfl rfl)
  have forgotten : final.session.bindings.get? "x" = none := by
    rw [session]
    exact Bindings.get?_empty "x"
  exact ⟨watches, waits, pauses, told, bound, newMap, final, loaded, forgotten⟩

end TileWalk
