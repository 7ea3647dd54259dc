import Mathlib.Data.List.Rotate
import TileWalk.Proofs.Screen.Lending

/-!
# The key for saved maps

Each press of the key lists the maps of the library anew, takes the place after the one that was
taken last, and looks the map up again by its name. While the file of the library stays as it is, the
presses go through all maps in their order and start over after the last, whatever the player does
in between.
-/

namespace TileWalk

open Process Course

/-! ## The place in the library -/

namespace GameScreen

section Widgets

variable (screen : GameScreen)

@[simp] theorem call_mapIndex (request : WidgetCall) :
    (screen.call request).mapIndex = screen.mapIndex := by
  simp only [call]
  split <;> rfl

@[simp] theorem refreshStatus_mapIndex : screen.refreshStatus.mapIndex = screen.mapIndex := by
  simp [refreshStatus]

@[simp] theorem refreshMap_mapIndex : screen.refreshMap.mapIndex = screen.mapIndex := by
  simp [refreshMap]

@[simp] theorem writeOutput_mapIndex (line : OutputLine) :
    (screen.writeOutput line).mapIndex = screen.mapIndex := by
  simp [writeOutput]

@[simp] theorem clearConsole_mapIndex : screen.clearConsole.mapIndex = screen.mapIndex := by
  simp [clearConsole]

@[simp] theorem refuse_mapIndex (fault : Fault) :
    (screen.refuse fault).2.mapIndex = screen.mapIndex := by
  simp only [refuse]
  split <;> simp [reportLibraryError]

@[simp] theorem handle_mapIndex (message : ScreenMessage) :
    (screen.handle message).mapIndex = screen.mapIndex := by
  cases message with
  | runOutput line => simp [handle]
  | mapChanged => simp [handle]
  | runStateChanged running => simp [handle, setRunning]
  | lineHighlighted line =>
      simp only [handle, highlightLine, refreshStatus_mapIndex]
      split
      · simp
      · split <;> simp

end Widgets

/-! ## One press -/

/-- The maps that the library of a screen lists. -/
def listing (screen : GameScreen) : Except LibraryError (List String) :=
  (screen.stage.game.library.list { disk := screen.stage.game.disk }).1

/-- The name of the map that is due next, where the library lists any. -/
def nextMap? (screen : GameScreen) : Option String :=
  match screen.listing with
  | .ok names => names[nextIndex names.length screen.mapIndex]?
  | .error _ => none

/-- A saved map has been put in place: no run is under way, the agent is alive at the start, and
there is one more line on the console. -/
structure Loads (screen : GameScreen) (name : String) (outcome : Except Fault Unit × GameScreen) :
    Prop where
  succeeds : outcome.1 = .ok ()
  grid : (screen.stage.game.library.load name { disk := screen.stage.game.disk }).1 =
    .ok outcome.2.session.world.grid
  agent : outcome.2.session.world.agent = { position := .origin, dead := false }
  free : outcome.2.stage.game.Free
  unheld : outcome.2.stage.held = none
  told : outcome.2.calls =
    .write .console ({ text := s!"Loaded map {name}." } : OutputLine).draw :: screen.calls

/-- What a press of the key leads to. Only a map that is loaded moves the place in the library on. -/
structure Turns (screen : GameScreen) (outcome : Except Fault Unit × GameScreen) : Prop where
  loads : ∀ names, screen.listing = .ok names → names ≠ [] →
    ∃ name, screen.nextMap? = some name ∧ name ∈ names ∧ screen.Loads name outcome ∧
      outcome.2.mapIndex = some (nextIndex names.length screen.mapIndex)
  empty : screen.listing = .ok [] → outcome.1 = .ok () ∧ outcome.2.mapIndex = screen.mapIndex ∧
    outcome.2.session = screen.session ∧
    outcome.2.calls = .write .console ({ text := "No saved maps." } : OutputLine).draw :: screen.calls
  refused : ∀ error, screen.listing = .error error →
    outcome.2.mapIndex = screen.mapIndex ∧ outcome.2.stage = screen.stage ∧
    (error.isBadValue = true → outcome.1 = .ok () ∧
      outcome.2.calls = complaint error :: screen.calls) ∧
    (error.isBadValue = false → outcome.1 = .error (.library error))

variable {α : Type} {before : List ScreenMessage} {names : List String}

/-- Asking the library without leaving a trace in it does not change the screen. -/
theorem order_withArchive (screen : GameScreen) {use : Archive → Archived α}
    (traceless : (use { disk := screen.stage.game.disk }).2 = { disk := screen.stage.game.disk }) :
    order α screen (Course.withArchive use) =
      ((use { disk := screen.stage.game.disk }).1.mapError .library, screen) := by
  rw [order, Stage.order_done (Course.withArchive_traceless traceless)]

/-- A map that is given is put in place when the run has ended. -/
theorem order_fullReset (screen : GameScreen) (posts : screen.stage.Posts before) (grid : Grid) :
    ∃ game : Game, order Unit screen (Scheduler.fullReset (some grid) none) =
        (.ok (), { screen with stage := { game } }) ∧
      game.session = screen.stage.ended.session.resetPosition.load grid ∧ game.idle = true ∧
      screen.stage.game.SameHolding game := by
  rcases posts.rests with ⟨rests, resting, -⟩
  let loaded := screen.stage.ended.onSession fun session => session.resetPosition.load grid
  have shown := (loaded.record (.highlight none)).record_undisturbed .redraw
  have cleared := loaded.record_undisturbed (.highlight none)
  refine ⟨(loaded.record (.highlight none)).record .redraw, ?_, ?_, ?_, ?_⟩
  · rw [order, Stage.order, Scheduler.fullReset_some, attend_bind, Stage.conduct_bind rests]
    simp only [Scheduler.renewWith, Course.attend, bind_apply, update_apply, Activity.andThen_done,
      Stage.conduct_announced]
    rfl
  · rw [shown.session, cleared.session]
    rfl
  · rw [shown.idle, cleared.idle]
    exact resting.idle
  · have kept : screen.stage.game.SameHolding loaded :=
      posts.ended_holding.trans ⟨rfl, rfl, rfl⟩
    exact kept.trans (Stage.announced_holding loaded)

variable {screen : GameScreen}

theorem order_list (found : screen.listing ≠ .ok []) :
    order _ screen (Course.withArchive screen.stage.game.library.list) =
      (screen.listing.mapError .library, screen) :=
  order_withArchive screen (screen.stage.game.library.list_traceless found)

/-- Where the library lists maps, the one that is due is put in place. -/
theorem press_listed (posts : screen.stage.Posts before) (listed : screen.listing = .ok names)
    (filled : names ≠ []) :
    ∃ name grid game, names[nextIndex names.length screen.mapIndex]? = some name ∧
      (screen.stage.game.library.load name { disk := screen.stage.game.disk }).1 = .ok grid ∧
      Key.nextSavedMap.press order screen = (.ok (), ({ screen with
        stage := { game }
        mapIndex := some (nextIndex names.length screen.mapIndex) } : GameScreen).writeOutput
          { text := s!"Loaded map {name}." }) ∧
      game.session = screen.stage.ended.session.resetPosition.load grid ∧ game.idle = true ∧
      screen.stage.game.SameHolding game := by
  have within := nextIndex_lt (List.length_pos_of_ne_nil filled) screen.mapIndex
  have list := order_list fun none => filled (Except.ok.inj (listed.symm.trans none))
  rw [listed] at list
  generalize known : nextIndex names.length screen.mapIndex = index at within ⊢
  have named : names[index]? = some names[index] := List.getElem?_eq_getElem within
  rcases Library.load_of_list listed (List.getElem_mem within) with ⟨grid, loaded⟩
  let chosen : GameScreen := { screen with mapIndex := some index }
  have load : order _ chosen (Course.withArchive (screen.stage.game.library.load names[index])) =
      (.ok grid, chosen) := by
    have traceless := screen.stage.game.library.load_traceless loaded
    exact (order_withArchive chosen traceless).trans (by rw [loaded]; rfl)
  rcases order_fullReset chosen posts grid with ⟨game, reset, session, idle, holding⟩
  refine ⟨names[index], grid, game, named, loaded, ?_, session, idle, holding⟩
  have lists : names.isEmpty = false := by simpa using filled
  simp only [Key.press, Player.nextSavedMap, list, Except.mapError, lists, known, named,
    Option.getD_some, Bool.false_eq_true, if_false]
  rw [load]
  dsimp only
  rw [reset]

/-- Where it lists none, this is told. -/
theorem press_empty (listed : screen.listing = .ok []) :
    ∃ trace, Key.nextSavedMap.press order screen = (.ok (), ({ screen with
      stage := { screen.stage with game := { screen.stage.game with trace } } } :
        GameScreen).writeOutput { text := "No saved maps." }) := by
  have list := Course.withArchive_apply screen.stage.game.library.list screen.stage.game
  generalize logged : (screen.stage.game.library.list
    { disk := screen.stage.game.disk }).2.logged.map Event.logged ++ screen.stage.game.trace = trace
    at list
  rw [← listing, listed, screen.stage.game.library.list_disk] at list
  refine ⟨trace, ?_⟩
  rw [Key.press, Player.nextSavedMap, order, Stage.order_done list]
  rfl

theorem press_error {error : LibraryError} (failed : screen.listing = .error error) :
    Key.nextSavedMap.press order screen = screen.refuse (.library error) := by
  have list := order_list fun none => by cases failed.symm.trans none
  rw [Key.press, Player.nextSavedMap, list, failed]
  rfl

/-- A press of the key, whatever has become of the library. -/
theorem nextSavedMap_turns (posts : screen.stage.Posts before) (mounted : screen.mounted = true) :
    screen.Turns (Key.nextSavedMap.press order screen) := by
  constructor
  · intro names listed filled
    rcases press_listed posts listed filled with
      ⟨name, grid, game, named, loaded, pressed, session, idle, -⟩
    refine ⟨name, ?_, List.mem_of_getElem? named, ?_, by rw [pressed]; simp⟩
    · rw [nextMap?, listed]
      exact named
    · rw [pressed]
      constructor
      · rfl
      · rw [loaded, GameScreen.session, writeOutput_stage, session]
        rfl
      · rw [GameScreen.session, writeOutput_stage, session]
        rfl
      · rw [writeOutput_stage]
        exact ⟨congrArg (·.state) session, idle⟩
      · exact congrArg Stage.held (writeOutput_stage ..)
      · simp [writeOutput, call, mounted]
  · intro listed
    rcases press_empty listed with ⟨trace, pressed⟩
    rw [pressed]
    refine ⟨rfl, by simp, ?_, by simp [writeOutput, call, mounted]⟩
    rw [GameScreen.session, writeOutput_stage]
    rfl
  · intro error failed
    rw [press_error failed]
    refine ⟨by simp, by simp, ?_, ?_⟩
    · intro bad
      have blamed : (Fault.library error).isBadValue = true := bad
      rw [refuse, if_pos blamed]
      exact ⟨rfl, by simp [reportLibraryError, writeOutput, call, mounted, complaint, Fault.message]⟩
    · intro good
      have spared : ¬ (Fault.library error).isBadValue = true := by simp [Fault.isBadValue, good]
      rw [refuse, if_neg spared]

/-! ## The other keys -/

/-- The place in the library is the same, and so are the library and the disk. -/
structure Stays (screen after : GameScreen) : Prop where
  mapIndex : after.mapIndex = screen.mapIndex
  holding : screen.stage.game.SameHolding after.stage.game

variable {after other : GameScreen}

/-- The widgets may show something else. -/
theorem Stays.shown (stays : screen.Stays after) (stage : other.stage = after.stage)
    (mapIndex : other.mapIndex = after.mapIndex) : screen.Stays other :=
  ⟨mapIndex.trans stays.mapIndex, stage ▸ stays.holding⟩

theorem order_stays {course : Course α} (posts : screen.stage.Posts before)
    (lends : Stage.Lends course) : screen.Stays (order α screen course).2 :=
  ⟨rfl, lends _ _ posts⟩

theorem Stays.of_order {course : Course α} {result : Except Fault α}
    (posts : screen.stage.Posts before) (lends : Stage.Lends course)
    (ordered : order α screen course = (result, after)) : screen.Stays after := by
  have stays := order_stays posts lends
  rw [ordered] at stays
  exact stays

theorem changeSpeed_stays (screen : GameScreen) (change : Float) :
    screen.Stays (screen.changeSpeed change) := by
  have changed : screen.Stays (screen.onGame (Game.onSession fun session =>
      session.setSpeed (session.speed + change))) := ⟨rfl, rfl, rfl, rfl⟩
  exact changed.shown (by simp [changeSpeed]) (by simp [changeSpeed])

theorem press_stays (posts : screen.stage.Posts before) {key : Key} (other : key ≠ .nextSavedMap) :
    screen.Stays (key.press order screen).2 := by
  cases key with
  | nextSavedMap => exact absurd rfl other
  | run =>
      simp only [Key.press, Player.run]
      split
      · exact order_stays posts (Stage.handOver_lends screen.source none)
      · exact ⟨rfl, .refl _⟩
  | stop => exact order_stays posts (Stage.frugal_lends Scheduler.stop_frugal)
  | restart =>
      simp only [Key.press, Player.restart]
      split
      · next ordered =>
          exact (Stays.of_order posts Stage.resetPosition_lends ordered).shown (by simp) (by simp)
      · exact order_stays posts Stage.resetPosition_lends
  | newMap =>
      have resets := Stage.fullReset_lends none none
      simp only [Key.press, Player.newMap]
      split <;> next ordered =>
        exact (Stays.of_order posts resets ordered).shown (by simp) (by simp)
  | slower => exact changeSpeed_stays screen _
  | faster => exact changeSpeed_stays screen _

end GameScreen

/-! ## Many presses -/

namespace Desk

/-- The desks at which the key for the next saved map is pressed, in order. -/
def presses (desk : Desk) : List Move → List Desk
  | [] => []
  | .press .nextSavedMap :: rest => desk :: (desk.move (.press .nextSavedMap)).presses rest
  | move :: rest => (desk.move move).presses rest

theorem presses_press (desk : Desk) (rest : List Move) :
    desk.presses (.press .nextSavedMap :: rest) =
      desk :: (desk.move (.press .nextSavedMap)).presses rest := rfl

theorem presses_other (desk : Desk) {move : Move} (other : move ≠ .press .nextSavedMap)
    (rest : List Move) : desk.presses (move :: rest) = (desk.move move).presses rest := by
  cases move with
  | press key =>
      cases key with
      | nextSavedMap => exact absurd rfl other
      | _ => rfl
  | _ => rfl

/-- At a desk with the library of a game, and with its file, the key has been pressed some times. -/
structure Counts (game : Game) (names : List String) (count : Nat) (desk : Desk) : Prop where
  sound : desk.Sound
  library : desk.screen.stage.game.library = game.library
  file : desk.screen.stage.game.disk.read game.library.path = game.disk.read game.library.path
  place : GameScreen.nextIndex names.length desk.screen.mapIndex = count % names.length

variable {desk : Desk} {game : Game} {names : List String} {count : Nat}

theorem Sound.mounted (sound : desk.Sound) : desk.screen.mounted = true :=
  congrArg Marks.mounted sound.shown

/-- Whatever becomes of the library, each press of the key has its turn. -/
theorem Sound.turns (sound : desk.Sound) (moves : List Move) :
    ∀ later ∈ desk.presses moves,
      later.screen.Turns (Key.nextSavedMap.press GameScreen.order later.screen) := by
  induction moves generalizing desk with
  | nil => simp [Desk.presses]
  | cons move rest ih =>
      have moved := sound.move move
      by_cases next : move = .press .nextSavedMap
      · subst next
        rw [presses_press, List.forall_mem_cons]
        exact ⟨GameScreen.nextSavedMap_turns sound.posts sound.mounted, ih moved⟩
      · rw [presses_other desk next]
        exact ih moved

namespace Counts

theorem unchanged (counts : desk.Counts game names count) :
    game.library.Unchanged { disk := game.disk } { disk := desk.screen.stage.game.disk } :=
  Library.unchanged_of_read counts.file

theorem listing (counts : desk.Counts game names count)
    (listed : (game.library.list { disk := game.disk }).1 = .ok names) :
    desk.screen.listing = .ok names := by
  rw [GameScreen.listing, counts.library, counts.unchanged.list, listed]

/-- What leaves the library alone and moves the place on, or leaves it, goes on with the count. -/
theorem moved (counts : desk.Counts game names count) {move : Move} {later : Nat}
    (holding : desk.screen.stage.game.SameHolding (desk.move move).screen.stage.game)
    (place : GameScreen.nextIndex names.length (desk.move move).screen.mapIndex =
      later % names.length) : (desk.move move).Counts game names later :=
  ⟨counts.sound.move move, holding.library.trans counts.library, by rw [holding.disk, counts.file],
    place⟩

/-- A press of the key is counted. -/
theorem press (counts : desk.Counts game names count)
    (listed : (game.library.list { disk := game.disk }).1 = .ok names) (filled : names ≠ []) :
    (desk.move (.press .nextSavedMap)).Counts game names (count + 1) := by
  rcases GameScreen.press_listed counts.sound.posts (counts.listing listed) filled with
    ⟨name, grid, later, -, -, pressed, -, -, holding⟩
  have index : (desk.move (.press .nextSavedMap)).screen.mapIndex =
      some (GameScreen.nextIndex names.length desk.screen.mapIndex) := by
    simp [Desk.move, Desk.after, pressed]
  apply counts.moved
  · simpa [Desk.move, Desk.after, pressed] using holding
  · rw [index, counts.place]
    exact Nat.mod_add_mod count names.length 1

/-- Nothing else is, as long as nobody changes the file. -/
theorem other (counts : desk.Counts game names count) {move : Move}
    (other : move ≠ .press .nextSavedMap)
    (kept : ∀ disk, move = .refile disk →
      disk.read game.library.path = game.disk.read game.library.path) :
    (desk.move move).Counts game names count := by
  cases move with
  | press key =>
      have another : key ≠ .nextSavedMap := fun same => other (congrArg Move.press same)
      have stays := GameScreen.press_stays counts.sound.posts another
      exact counts.moved stays.holding (by rw [← counts.place, ← stays.mapIndex]; rfl)
  | edit source => exact counts.moved (.refl _) counts.place
  | refile disk =>
      exact ⟨counts.sound.move (.refile disk), counts.library, kept disk rfl, counts.place⟩
  | work => exact counts.moved (Stage.goOn_holding counts.sound.posts) counts.place
  | handle =>
      have kept : (desk.move .handle).screen.stage = desk.screen.stage ∧
          (desk.move .handle).screen.mapIndex = desk.screen.mapIndex := by
        simp only [Desk.move]
        split <;> simp
      exact counts.moved (by rw [kept.1]; exact .refl _) (by rw [kept.2]; exact counts.place)

/-- Each press finds the presses before it counted. -/
theorem presses (counts : desk.Counts game names count)
    (listed : (game.library.list { disk := game.disk }).1 = .ok names) (filled : names ≠ [])
    {moves : List Move} (kept : ∀ disk, .refile disk ∈ moves →
      disk.read game.library.path = game.disk.read game.library.path) :
    ∀ (k : Nat) (later : Desk), (desk.presses moves)[k]? = some later →
      later.Counts game names (count + k) := by
  induction moves generalizing desk count with
  | nil => simp [Desk.presses]
  | cons move rest ih =>
      have onward := fun disk (later : .refile disk ∈ rest) => kept disk (List.mem_cons_of_mem _ later)
      by_cases next : move = .press .nextSavedMap
      · subst next
        rw [presses_press]
        intro k later found
        cases k with
        | zero =>
            cases found
            exact counts
        | succ k =>
            have counted := ih (counts.press listed filled) onward k later found
            rwa [Nat.add_assoc, Nat.add_comm 1] at counted
      · rw [presses_other desk next]
        refine ih (counts.other next ?_) onward
        rintro disk rfl
        exact kept disk (List.mem_cons_self ..)

/-- The map that is due where the key has been pressed some times. -/
theorem nextMap? (counts : desk.Counts game names count)
    (listed : (game.library.list { disk := game.disk }).1 = .ok names) :
    desk.screen.nextMap? = names[count % names.length]? := by
  rw [GameScreen.nextMap?, counts.listing listed, ← counts.place]

/-- The press that comes next loads the map that is due, just as the game finds it in its library. -/
theorem loads (counts : desk.Counts game names count)
    (listed : (game.library.list { disk := game.disk }).1 = .ok names) (filled : names ≠ [])
    {outcome : Except Fault Unit × GameScreen} (turns : desk.screen.Turns outcome) :
    ∃ name, names[count % names.length]? = some name ∧ desk.screen.nextMap? = some name ∧
      desk.screen.Loads name outcome ∧
      (game.library.load name { disk := game.disk }).1 = .ok outcome.2.session.world.grid := by
  rcases turns.loads names (counts.listing listed) filled with ⟨name, due, -, loads, -⟩
  have named := due
  rw [counts.nextMap? listed] at named
  have loaded := loads.grid
  rw [counts.library, counts.unchanged.load] at loaded
  exact ⟨name, named, due, loads, loaded⟩

/-- As many presses in a row as there are maps go round all of them, from the one that is due at the
first. -/
theorem nextMaps_rotate {presses : List Desk}
    (counted : ∀ (k : Nat) (desk : Desk), presses[k]? = some desk → desk.Counts game names k)
    (listed : (game.library.list { disk := game.disk }).1 = .ok names) {start : Nat}
    (enough : start + names.length ≤ presses.length) :
    ((presses.drop start).take names.length).map (·.screen.nextMap?) =
      (names.rotate start).map some := by
  apply List.ext_getElem?
  intro offset
  by_cases within : offset < names.length
  · have inside : start + offset < presses.length := by omega
    have due := (counted _ _ (List.getElem?_eq_getElem inside)).nextMap? listed
    have positive : (start + offset) % names.length < names.length := Nat.mod_lt _ (by omega)
    rw [List.getElem?_eq_getElem positive] at due
    rw [List.getElem?_map, List.getElem?_map, List.getElem?_take_of_lt within, List.getElem?_drop,
      List.getElem?_eq_getElem inside, List.getElem?_rotate within, Nat.add_comm offset,
      List.getElem?_eq_getElem positive, Option.map_some, Option.map_some, due]
  · rw [List.getElem?_eq_none, List.getElem?_eq_none]
    · simpa using within
    · simp only [List.length_map, List.length_take, List.length_drop]
      omega

end Counts

theorem opened_counts (game : Game) (source : Text) (names : List String) :
    (opened game source).Counts game names 0 :=
  ⟨opened_sound game source, by simp [opened, GameScreen.ofGame],
    by simp [opened, GameScreen.ofGame], rfl⟩

end Desk

/-- The key for saved maps goes through the maps of a library that stays as it is, in their order,
and starts over after the last, whatever the player does in between and however far the worker has
come: as many presses in a row as there are maps load each of them once. Each press loads the map that
is due, ends the run that is under way, and makes one line on the console. Where the file is changed
meanwhile, in any way, the map that is due is still one that is listed; where no map is listed, or
the library has an error, the place in the library stays. -/
theorem saved_maps_take_turns (game : Game) (source : Text) (moves : List Move) :
    let presses := (Desk.opened game source).presses moves
    (∀ desk ∈ presses,
      desk.screen.Turns (Key.nextSavedMap.press GameScreen.order desk.screen)) ∧
    ∀ names, (game.library.list { disk := game.disk }).1 = .ok names → names ≠ [] →
      (∀ disk, .refile disk ∈ moves →
        disk.read game.library.path = game.disk.read game.library.path) →
      names.Nodup ∧
      (∀ (k : Nat) (desk : Desk), presses[k]? = some desk →
        ∃ name, names[k % names.length]? = some name ∧ desk.screen.nextMap? = some name ∧
          let outcome := Key.nextSavedMap.press GameScreen.order desk.screen
          desk.screen.Loads name outcome ∧
          (game.library.load name { disk := game.disk }).1 = .ok outcome.2.session.world.grid) ∧
      ∀ start, start + names.length ≤ presses.length →
        (((presses.drop start).take names.length).map (·.screen.nextMap?)).Perm
          (names.map some) := by
  intro presses
  have turns := (Desk.opened_sound game source).turns moves
  refine ⟨turns, ?_⟩
  intro names listed filled kept
  have counted (k : Nat) (desk : Desk) (found : presses[k]? = some desk) :
      desk.Counts game names k := by
    have counts := (Desk.opened_counts game source names).presses listed filled kept k desk found
    rwa [Nat.zero_add] at counts
  refine ⟨Library.list_nodup listed, ?_, ?_⟩
  · intro k desk found
    exact (counted k desk found).loads listed filled (turns desk (List.mem_of_getElem? found))
  · intro start enough
    rw [Desk.Counts.nextMaps_rotate counted listed enough]
    exact (List.rotate_perm names start).map some

/-- A game with a library of its own on a disk. -/
def borrowing (disk : Storage.Disk) : Game :=
  { Game.onGrass 2 with library := .atHome "ada", usesLibrary := true, disk }

/-- In a library of two maps, a run, a new map and a third press come after the first two: both maps
have been loaded, and the first one is loaded again. -/
theorem saved_maps_take_turns_pair :
    ∃ document after, (Library.atHome "ada").save (.text "pond")
        (MapDocument.encodeGrid (Library.coveredGrid .water)) Library.annotatedArchive =
          (.ok document, after) ∧
      let game := borrowing after.disk
      let moves : List Move := [.press .nextSavedMap, .press .run, .work, .press .nextSavedMap,
        .handle, .press .newMap, .press .nextSavedMap]
      let presses := (Desk.opened game "print('a')").presses moves
      (game.library.list { disk := game.disk }).1 = .ok ["meadow", "pond"] ∧
      presses.length = 3 ∧
      ((presses.take 2).map (·.screen.nextMap?)).Perm [some "meadow", some "pond"] ∧
      ∃ desk, presses[2]? = some desk ∧
        desk.screen.Loads "meadow" (Key.nextSavedMap.press GameScreen.order desk.screen) := by
  rcases Library.annotated_holds.save (by decide : "pond" ≠ "") (Library.coveredGrid_square .water)
    with ⟨document, after, stored, saved, named, -, holds, -⟩
  refine ⟨document, after, saved, ?_⟩
  intro game moves presses
  have listed : (game.library.list { disk := game.disk }).1 = .ok ["meadow", "pond"] := by
    have shared : (Library.atHome "ada").Unchanged after { disk := after.disk } :=
      Library.unchanged_of_read rfl
    have names : (Shelf.put [⟨"meadow", Library.covered .grass⟩] document).names =
        ["meadow", "pond"] := by
      simp [Shelf.names, Shelf.put, named]
    exact shared.list.trans (by rw [holds.answers.list, names])
  have three : presses.length = 3 := by
    simp only [presses, moves, Desk.presses, List.length_cons, List.length_nil]
  have kept : ∀ disk, .refile disk ∈ moves →
      disk.read game.library.path = game.disk.read game.library.path := by
    simp [moves]
  rcases (saved_maps_take_turns game "print('a')" moves).2 _ listed (by decide) kept with
    ⟨-, each, rows⟩
  have enough : 0 + ["meadow", "pond"].length ≤ presses.length := by
    rw [three]
    decide
  have row := rows 0 enough
  have inside : 2 < presses.length := by omega
  rcases each 2 _ (List.getElem?_eq_getElem inside) with ⟨name, turn, -, loads, -⟩
  have meadow : name = "meadow" := (Option.some.inj turn).symm
  rw [meadow] at loads
  exact ⟨listed, three, row, _, List.getElem?_eq_getElem inside, loads⟩

end TileWalk
