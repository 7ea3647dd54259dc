import TileWalk.Proofs.Library.Report
import TileWalk.Proofs.Run.Rest
import TileWalk.Screen.Game

/-!
# Keys of the game screen

Whatever has been asked of the screen, its keys find a run that ends when it is asked to, or none.
The keys for another map then tell what is wrong with the library in one line on the console,
unless the library derails.
-/

namespace TileWalk

open Process Course

/-! ## Orders that use the library -/

section Archive

variable {game : Game} {octets : ByteArray}

/-- A reading of the library that leaves no trace. -/
theorem Course.withArchive_traceless {α : Type} {use : Archive → Archived α}
    (traceless : (use { disk := game.disk }).2 = { disk := game.disk }) :
    withArchive use game =
      .done ((use { disk := game.disk }).1.mapError .library) game := by
  rw [withArchive_apply, traceless]
  rfl

variable (lent : game.usesLibrary = true)

include lent

theorem Scheduler.chooseGrid_library
    (traceless : (game.library.first { disk := game.disk }).2 = { disk := game.disk }) :
    chooseGrid none game.usesLibrary game =
      .done ((game.library.first { disk := game.disk }).1.mapError .library) game := by
  rw [lent]
  exact Course.withArchive_traceless traceless

/-- A library with an error stops a full reset before anything is changed. -/
theorem Scheduler.renew_error {error : LibraryError}
    (failed : (game.library.first { disk := game.disk }).1 = .error error)
    (draws : Option Random.Draws) :
    renew none draws game = .done (.error (.library error)) game := by
  have chosen := chooseGrid_library lent (game.library.firstWithin_error_archive failed)
  simp only [renew, resetSession, bind_apply, state_apply, Activity.andThen_done, chosen, failed]
  rfl

variable (file : game.disk.read game.library.path = .ok octets)

include file

/-- Without an error a new map is announced, unless it is a random one and the draws run out. -/
theorem Scheduler.renew_ok {found : Option Grid}
    (answered : (game.library.first { disk := game.disk }).1 = .ok found)
    (draws : Option Random.Draws) :
    ∃ last, renew none draws game = announce last ∨
      renew none draws game = .done (.error (.generation .drawsExhausted)) last := by
  have chosen := chooseGrid_library lent (game.library.firstWithin_archive file)
  simp only [renew, resetSession, bind_apply, state_apply, Activity.andThen_done, chosen, answered,
    Except.mapError]
  cases found with
  | some grid => exact ⟨_, .inl rfl⟩
  | none =>
      simp only [bind_apply, update_apply, Activity.andThen_done, drawGrid]
      split
      · exact ⟨_, .inl rfl⟩
      · next generated =>
          obtain rfl := MapPlan.generate_error generated
          exact ⟨_, .inr rfl⟩

end Archive

/-! ## Requests to the screen -/

namespace GameScreen

theorem observer_watches : observer.Watches :=
  Observer.holding_watches fun game notice =>
    notice = .wait && game.current = .worker && game.holdIn = some 0

theorem observer_releases : observer.Releases :=
  Observer.holding_releases fun game notice =>
    notice = .wait && game.current = .worker && game.holdIn = some 0

section Stage

variable (screen : GameScreen)

@[simp] theorem call_stage (request : WidgetCall) : (screen.call request).stage = screen.stage := by
  simp only [call]
  split <;> rfl

@[simp] theorem refreshStatus_stage : screen.refreshStatus.stage = screen.stage := by
  simp [refreshStatus]

@[simp] theorem refreshMap_stage : screen.refreshMap.stage = screen.stage := by
  simp [refreshMap]

@[simp] theorem writeOutput_stage (line : OutputLine) :
    (screen.writeOutput line).stage = screen.stage := by
  simp [writeOutput]

@[simp] theorem clearConsole_stage : screen.clearConsole.stage = screen.stage := by
  simp [clearConsole]

@[simp] theorem highlightLine_stage (line : Option Int) :
    (screen.highlightLine line).stage = screen.stage := by
  simp only [highlightLine, refreshStatus_stage]
  split
  · simp
  · split <;> simp

@[simp] theorem setRunning_stage (running : Bool) :
    (screen.setRunning running).stage = screen.stage := by
  simp [setRunning]

@[simp] theorem refuse_stage (fault : Fault) : (screen.refuse fault).2.stage = screen.stage := by
  simp only [refuse]
  split <;> simp [reportLibraryError]

@[simp] theorem mount_stage : screen.mount.stage = screen.stage := by
  simp [mount]

/-- Handling messages only concerns the widgets. -/
@[simp] theorem handle_stage (message : ScreenMessage) :
    (screen.handle message).stage = screen.stage := by
  cases message <;> simp [handle]

theorem handleAll_stage (messages : List ScreenMessage) :
    (messages.foldl handle screen).stage = screen.stage := by
  induction messages generalizing screen with
  | nil => rfl
  | cons message rest ih => simp [ih]

end Stage

/-- No run is under way, or it has not been asked to stop. -/
def Stands (screen : GameScreen) : Prop :=
  screen.stage.Stands observer

variable {screen : GameScreen}

theorem Stands.of_stage {other : GameScreen} (stands : screen.Stands)
    (same : other.stage = screen.stage) : other.Stands := by
  rw [Stands, same]
  exact stands

theorem Stands.play {α : Type} {order : Course α} (stands : screen.Stands)
    (keeps : Stage.Keeps observer order) : (screen.play order).2.Stands :=
  keeps screen.stage stands

/-- A screen that only differs in its widgets from what an order leaves behind. -/
theorem Stands.played {α : Type} {order : Course α} {result : Except Fault α}
    {after other : GameScreen} (stands : screen.Stands) (keeps : Stage.Keeps observer order)
    (played : screen.play order = (result, after)) (same : other.stage = after.stage) :
    other.Stands := by
  have kept := stands.play keeps
  rw [played] at kept
  exact kept.of_stage same

theorem Stands.stop (stands : screen.Stands) : screen.stop.2.Stands :=
  stands.play (Stage.stop_keeps observer_releases)

theorem Stands.restart (stands : screen.Stands) : (silent screen.restart).2.Stands := by
  have keeps := Stage.resetPosition_keeps observer_watches
  rw [silent, GameScreen.restart, Player.restart, player_apply]
  split
  · next played => exact stands.played keeps played (by simp)
  · exact stands.play keeps

theorem Stands.quit (stands : screen.Stands) : (silent screen.quit).2.Stands := by
  rw [silent, GameScreen.quit]
  split
  · next stopped => exact stands.played (Stage.stop_keeps observer_releases) stopped rfl
  · exact stands.stop

/-- What does not concern the run may be changed from outside. -/
theorem Stands.onGame (stands : screen.Stands) {change : Game → Game}
    (same : screen.stage.game.SameRun (change screen.stage.game)) :
    (screen.onGame change).Stands :=
  Stage.Stands.moved stands same

theorem Stands.changeSpeed (stands : screen.Stands) (change : Float) :
    (screen.changeSpeed change).Stands := by
  have changed : (screen.onGame (Game.onSession fun session =>
      session.setSpeed (session.speed + change))).Stands :=
    stands.onGame ⟨rfl, rfl, ⟨rfl, rfl, rfl⟩, rfl, rfl⟩
  exact changed.of_stage (by simp [GameScreen.changeSpeed])

theorem Stands.newMap (stands : screen.Stands) : screen.newMap.2.Stands := by
  have keeps := Stage.fullReset_keeps observer_watches none none
  rw [GameScreen.newMap, Player.newMap, player_apply]
  split <;> next played => exact stands.played keeps played (by simp)

theorem Stands.nextSavedMap (stands : screen.Stands) : screen.nextSavedMap.2.Stands := by
  have lists : Stage.Keeps observer (Course.withArchive screen.stage.game.library.list) :=
    Stage.withArchive_keeps _
  rw [GameScreen.nextSavedMap, Player.nextSavedMap]
  simp only [player_apply]
  split
  · next listed => exact stands.played lists listed (by simp)
  next names after listed =>
  split
  · exact stands.played lists listed (by simp)
  generalize nextIndex names.length after.mapIndex = index
  have chosen : Stands { after with mapIndex := some index } := stands.played lists listed rfl
  have loads : Stage.Keeps observer
      (Course.withArchive (screen.stage.game.library.load (names[index]?.getD ""))) :=
    Stage.withArchive_keeps _
  split
  · next loaded => exact chosen.played loads loaded (by simp)
  next grid later loaded =>
  have stood : later.Stands := chosen.played loads loaded rfl
  have resets := Stage.fullReset_keeps observer_watches (some grid) none
  split
  · next reset => exact stood.played resets reset (by simp)
  · exact stood.play resets

/-- Nothing that can be asked of the screen leaves a run behind that does not end. -/
theorem Stands.perform (stands : screen.Stands) (request : Request) :
    (screen.perform request).2.Stands := by
  cases request with
  | mount => exact stands.of_stage (by simp [GameScreen.perform])
  | unmount => exact stands.stop
  | edit source => exact stands.of_stage rfl
  | run holdIn =>
      have kept := stands.play (Stage.handOver_keeps observer_watches screen.source holdIn)
      simp only [GameScreen.perform, GameScreen.run, Player.run, player_apply]
      split
      · exact kept
      · exact stands
  | resume holdIn => exact stands.play (Stage.giveTurn_keeps observer_watches holdIn)
  | stop => exact stands.stop
  | restart => exact stands.restart
  | newMap => exact stands.newMap
  | nextSavedMap => exact stands.nextSavedMap
  | slower => exact stands.changeSpeed _
  | faster => exact stands.changeSpeed _
  | quit => exact stands.quit
  | highlight line => exact stands.of_stage (by simp [GameScreen.perform])
  | status => exact stands
  | saveMap name grid => exact stands.play (Stage.withArchive_keeps _)
  | writeFile path text =>
      simp only [GameScreen.perform]
      split
      · exact stands.onGame ⟨rfl, rfl, ⟨rfl, rfl, rfl⟩, rfl, rfl⟩
      · exact stands

/-- Whatever has been asked of the screen, a run that is under way ends when it is asked to. -/
theorem Stands.respondAll (stands : screen.Stands) (requests : List Request) :
    ∀ response ∈ screen.respondAll requests, response.screen.Stands := by
  induction requests generalizing screen with
  | nil => simp [GameScreen.respondAll]
  | cons request rest ih =>
      have responded : (screen.respond request).screen.Stands := by
        have performed := stands.perform request
        rw [GameScreen.respond]
        exact performed.of_stage (handleAll_stage _ _)
      rw [GameScreen.respondAll]
      intro response given
      rcases List.mem_cons.mp given with rfl | later
      · exact responded
      · exact ih responded response later

theorem stands_ofGame {game : Game} (free : game.Free) (source : Text) :
    (ofGame game source).Stands :=
  Stage.stands_free free

end GameScreen

/-! ## Keys for another map -/

namespace GameScreen

/-- The line on the console that tells what is wrong with the library. -/
def complaint (error : LibraryError) : WidgetCall :=
  .write .console
    ({ text := "Map library error: " ++ error.message, kind := .error } : OutputLine).draw

/-- What a key makes of the answer of the library: an error is told in one line, or the
library derails. -/
structure Tells {α : Type} (screen : GameScreen) (octets : ByteArray)
    (answer : Except LibraryError α) (outcome : Except Fault Unit × GameScreen) : Prop where
  told : ∀ error, answer = .error error → error.isBadValue = true →
    outcome.1 = .ok () ∧ outcome.2.calls = complaint error :: screen.calls
  derailed : ∀ error, outcome.1 = .error (.library error) ↔ Library.Derailed 1 octets error
  others : ∀ fault, outcome.1 = .error fault →
    (∃ error, fault = .library error) ∨ fault = .generation .drawsExhausted

section Tells

variable {α : Type} {screen : GameScreen} {octets : ByteArray} {answer : Except LibraryError α}
  {outcome : Except Fault Unit × GameScreen}
  (derails : ∀ error, Derails answer error ↔ Library.Derailed 1 octets error)

include derails

theorem tells_refused (mounted : screen.mounted = true) {error : LibraryError}
    (failed : answer = .error error) (known : ∀ name user, error ≠ .unknownMap name user)
    (stage : Stage)
    (refused : outcome = ({ screen with stage } : GameScreen).refuse (.library error)) :
    screen.Tells octets answer outcome := by
  subst failed
  have unforeseen (other : LibraryError) :
      Library.Derailed 1 octets other ↔ error = other ∧ error.isBadValue = false := by
    rw [← derails]
    constructor
    · rintro ⟨⟨⟩, unforeseen⟩
      exact ⟨rfl, unforeseen.1⟩
    · rintro ⟨rfl, good⟩
      exact ⟨rfl, good, known⟩
  cases bad : (Fault.library error).isBadValue with
  | true =>
      rw [refuse, if_pos bad] at refused
      subst refused
      constructor
      · rintro _ ⟨⟩ -
        exact ⟨rfl, by simp [reportLibraryError, writeOutput, call, mounted, complaint,
          Fault.message]⟩
      · intro other
        simp only [unforeseen, reduceCtorEq, false_iff, not_and, Bool.not_eq_false]
        exact fun _ => bad
      · simp
  | false =>
      rw [refuse, if_neg (by simp [bad])] at refused
      subst refused
      constructor
      · rintro _ ⟨⟩ other
        cases other.symm.trans bad
      · intro other
        simp only [unforeseen, Except.error.injEq, Fault.library.injEq, iff_self_and]
        exact fun _ => bad
      · rintro _ ⟨⟩
        exact .inl ⟨error, rfl⟩

theorem tells_answered {value : α} (answered : answer = .ok value)
    (ends : outcome.1 = .ok () ∨ outcome.1 = .error (.generation .drawsExhausted)) :
    screen.Tells octets answer outcome := by
  subst answered
  rcases ends with ends | ends
  all_goals
    constructor
    · simp
    · simp [← derails, Derails, ends]
    · simp [ends]

end Tells

variable {screen : GameScreen} {octets : ByteArray}

theorem newMap_tells (mounted : screen.mounted = true) (stands : screen.Stands)
    (lent : screen.stage.game.usesLibrary = true)
    (file : screen.stage.game.disk.read screen.stage.game.library.path = .ok octets) :
    screen.Tells octets
      (screen.stage.game.library.first { disk := screen.stage.game.disk }).1 screen.newMap := by
  rcases Stage.Stands.rests observer_watches stands with ⟨ended, rests, -, same⟩
  rw [← same.library, ← same.disk] at file ⊢
  rw [← same.usesLibrary] at lent
  have derails (error : LibraryError) :
      Derails (ended.library.first { disk := ended.disk }).1 error ↔
        Library.Derailed 1 octets error :=
    ended.library.derails_firstWithin file
  have performed := rests.perform (Scheduler.renew none none)
  rw [← Scheduler.fullReset_eq] at performed
  cases answer : (ended.library.first { disk := ended.disk }).1 with
  | error error =>
      have known := ended.library.firstWithin_known answer
      rw [← answer]
      apply tells_refused derails mounted answer known
      rw [newMap, Player.newMap, player_apply, play, performed, Course.attend, Scheduler.renew_error lent answer]
      rfl
  | ok found =>
      rw [← answer]
      apply tells_answered derails answer
      rcases Scheduler.renew_ok lent file answer none with ⟨last, announced | exhausted⟩
      · rw [Course.attend, announced, Stage.conduct_announce observer_watches] at performed
        rw [newMap, Player.newMap, player_apply, play, performed]
        exact .inl rfl
      · rw [newMap, Player.newMap, player_apply, play, performed, Course.attend, exhausted]
        exact .inr rfl

/-- Asking the library without leaving a trace in it does not change the screen. -/
theorem play_withArchive (stands : screen.Stands) {α : Type} {use : Archive → Archived α}
    (traceless : (use { disk := screen.stage.game.disk }).2 = { disk := screen.stage.game.disk }) :
    screen.play (Course.withArchive use) =
      ((use { disk := screen.stage.game.disk }).1.mapError .library, screen) := by
  rw [play, Stage.perform_done (Course.withArchive_traceless traceless), Stage.Stands.settled stands]

theorem nextIndex_lt {count : Nat} (positive : 0 < count) (index : Option Nat) :
    nextIndex count index < count := by
  cases index with
  | none => exact Nat.mod_lt _ positive
  | some index => exact Nat.mod_lt _ positive

/-- A map that is given is always put in place. -/
theorem play_fullReset (stands : screen.Stands) (grid : Grid) :
    ∃ after, screen.play (Scheduler.fullReset (some grid) none) = (.ok (), after) := by
  rcases Stage.Stands.rests observer_watches stands with ⟨ended, rests, -, -⟩
  have renewed : ∃ last, Scheduler.renew (some grid) none ended = Scheduler.announce last :=
    ⟨_, rfl⟩
  rcases renewed with ⟨last, renewed⟩
  rw [play, Scheduler.fullReset_eq, rests.perform, Course.attend, renewed,
    Stage.conduct_announce observer_watches]
  exact ⟨_, rfl⟩

/-- Where the library lists its maps, the next one is put in place. -/
theorem nextSavedMap_ok (stands : screen.Stands)
    (file : screen.stage.game.disk.read screen.stage.game.library.path = .ok octets)
    {names : List String}
    (answer : (screen.stage.game.library.list { disk := screen.stage.game.disk }).1 = .ok names) :
    screen.nextSavedMap.1 = .ok () := by
  have listed := play_withArchive stands (screen.stage.game.library.list_archive file)
  rw [answer] at listed
  rw [nextSavedMap, Player.nextSavedMap, player_apply, listed]
  cases names with
  | nil => rfl
  | cons first others =>
      have within := nextIndex_lt (List.length_pos_of_ne_nil (List.cons_ne_nil first others))
        screen.mapIndex
      simp only [Except.mapError, List.isEmpty_cons, Bool.false_eq_true, if_false]
      generalize nextIndex (first :: others).length screen.mapIndex = index at within ⊢
      have named : (first :: others)[index]?.getD "" ∈ first :: others := by
        rw [List.getElem?_eq_getElem within]
        exact List.getElem_mem within
      generalize (first :: others)[index]?.getD "" = name at named ⊢
      rcases Library.load_of_list answer named with ⟨grid, loaded⟩
      have chosen : Stands { screen with mapIndex := some index } := stands.of_stage rfl
      have traceless : (screen.stage.game.library.load name
          { disk := screen.stage.game.disk }).2 = { disk := screen.stage.game.disk } :=
        screen.stage.game.library.loadWithin_archive file name
      have asked := play_withArchive chosen traceless
      rcases play_fullReset chosen grid with ⟨after, reset⟩
      rw [loaded] at asked
      rw [player_apply, asked]
      dsimp only [Except.mapError]
      rw [player_apply, reset]

theorem nextSavedMap_tells (mounted : screen.mounted = true) (stands : screen.Stands)
    (file : screen.stage.game.disk.read screen.stage.game.library.path = .ok octets) :
    screen.Tells octets
      (screen.stage.game.library.list { disk := screen.stage.game.disk }).1
      screen.nextSavedMap := by
  have derails (error : LibraryError) :
      Derails (screen.stage.game.library.list { disk := screen.stage.game.disk }).1 error ↔
        Library.Derailed 1 octets error :=
    screen.stage.game.library.derails_list file
  cases answer : (screen.stage.game.library.list { disk := screen.stage.game.disk }).1 with
  | error error =>
      have known := screen.stage.game.library.list_known answer
      have listed := play_withArchive stands (screen.stage.game.library.list_archive file)
      rw [answer] at listed
      rw [← answer]
      apply tells_refused derails mounted answer known screen.stage
      rw [nextSavedMap, Player.nextSavedMap, player_apply, listed]
      rfl
  | ok names =>
      rw [← answer]
      exact tells_answered derails answer (.inl (nextSavedMap_ok stands file answer))

end GameScreen

end TileWalk
