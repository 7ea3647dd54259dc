import TileWalk.Proofs.Library.Saving
import TileWalk.Proofs.Map.Goal
import TileWalk.Screen.Editor

/-!
# Editing maps

Whatever is done in the editor, its map stays a square with the cursor on it, and goals
do not become more than one, unless there were more before. From the first goal that is
painted, or the first new map, there is at most one, and the agent does not start on it.
Only a save touches the disk: it writes the map with its one goal, or leaves the file of
the library alone.
-/

namespace TileWalk

open TileWalk.Random TileWalk.Storage

/-! ## Places and grids -/

/-- The place lies on a map of the usual size. -/
structure Position.Inside (place : Position) : Prop where
  left : 0 ≤ place.x
  right : place.x < Grid.standardSize
  top : 0 ≤ place.y
  bottom : place.y < Grid.standardSize

theorem Position.Inside.off_origin {place : Position} (inside : place.Inside)
    (off : place ≠ .origin) : (place.x.toNat, place.y.toNat) ≠ (0, 0) := by
  rcases place with ⟨column, row⟩
  rcases inside with ⟨left, -, top, -⟩
  intro same
  apply off
  simp only [Prod.mk.injEq, origin, mk.injEq] at same left top ⊢
  omega

namespace Grid

variable {grid after : Grid}

/-- Goals become no more than one, or no more than before, and the agent does not come
to start on one. -/
structure Restrained (grid after : Grid) : Prop where
  goals : after.count .goal ≤ max 1 (grid.count .goal)
  start : after.GoalAtStart → grid.GoalAtStart

theorem Restrained.refl (grid : Grid) : grid.Restrained grid :=
  ⟨by omega, id⟩

theorem Restrained.trans {last : Grid} (first : grid.Restrained after)
    (second : after.Restrained last) : grid.Restrained last :=
  ⟨by have := first.goals; have := second.goals; omega, first.start ∘ second.start⟩

theorem Tidy.restrained (tidy : after.Tidy) : grid.Restrained after :=
  ⟨by have := tidy.single; omega, fun start => (tidy.start start).elim⟩

theorem Restrained.tidy (restrained : grid.Restrained after) (tidy : grid.Tidy) : after.Tidy :=
  ⟨by have := restrained.goals; have := tidy.single; omega,
    fun start => tidy.start (restrained.start start)⟩

theorem write_inside (square : grid.WellFormed standardSize) {place : Position}
    (inside : place.Inside) (cell : Cell) :
    grid.write place cell = .ok (grid.put place.x.toNat place.y.toNat cell) :=
  square.write inside.left inside.right inside.top inside.bottom cell

theorem withoutGoals_square {size : Nat} (square : grid.WellFormed size) :
    (EditorState.withoutGoals grid).WellFormed size := by
  rcases square with ⟨rows, columns⟩
  refine ⟨by rw [EditorState.withoutGoals, List.length_map, rows], ?_⟩
  intro row membership
  rcases List.mem_map.mp membership with ⟨cells, known, rfl⟩
  rcases columns cells known with ⟨width, tiles⟩
  refine ⟨by rw [List.length_map, width], ?_⟩
  intro cell membership
  rcases List.mem_map.mp membership with ⟨old, inside, rfl⟩
  split
  · exact ⟨.grass, rfl⟩
  · exact tiles old inside

theorem count_withoutGoals (grid : Grid) : (EditorState.withoutGoals grid).count .goal = 0 := by
  rw [count_goal_eq_zero_iff]
  intro row membership goal
  rcases List.mem_map.mp membership with ⟨cells, -, rfl⟩
  rcases List.mem_map.mp goal with ⟨cell, -, same⟩
  split at same
  · cases same
  · next other => exact other same

end Grid

/-! ## The state of the editor -/

namespace EditorState

variable {editor : EditorState}

/-- The map has the usual size, and the cursor is on it. -/
structure Framed (editor : EditorState) : Prop where
  square : editor.grid.WellFormed Grid.standardSize
  cursor : editor.cursor.Inside

/-- What an edit does to an editor: it stays in its frame, keeps its name, and restrains
the goals of its map. -/
structure Edits (editor after : EditorState) : Prop where
  framed : after.Framed
  name : after.name = editor.name
  goals : editor.grid.Restrained after.grid

theorem Edits.of_grid {after : EditorState} (framed : editor.Framed)
    (name : after.name = editor.name) (grid : after.grid = editor.grid)
    (inside : after.cursor.Inside) : editor.Edits after where
  framed := ⟨by rw [grid]; exact framed.square, inside⟩
  name := name
  goals := by rw [grid]; exact .refl editor.grid

theorem Edits.of_tidy {after : EditorState} (framed : after.Framed)
    (name : after.name = editor.name) (tidy : after.grid.Tidy) : editor.Edits after :=
  ⟨framed, name, tidy.restrained⟩

theorem keepInside_inside (coordinate : Int) :
    0 ≤ keepInside Grid.standardSize coordinate ∧
      keepInside Grid.standardSize coordinate < Grid.standardSize := by
  simp only [keepInside, Grid.standardSize]
  omega

theorem moveCursor_edits (framed : editor.Framed) (dx dy : Int) :
    editor.Edits (editor.moveCursor dx dy) := by
  refine Edits.of_grid framed rfl rfl ?_
  simp only [moveCursor, framed.square.1]
  have column := keepInside_inside (editor.cursor.x + dx)
  have row := keepInside_inside (editor.cursor.y + dy)
  exact ⟨column.1, column.2, row.1, row.2⟩

/-- A cell is painted, or it is refused as the start. A goal that is painted is the only
one. -/
theorem paint_edits (framed : editor.Framed) (cell : Option Position)
    (inside : (cell.getD editor.cursor).Inside) :
    editor.Edits (editor.paint cell).2 ∧
      (editor.brush = .goal → cell.getD editor.cursor ≠ .origin →
        (editor.paint cell).2.grid.Tidy) := by
  rw [paint]
  generalize cell.getD editor.cursor = place at inside ⊢
  dsimp only
  split
  · next refused =>
      exact ⟨.of_grid framed rfl rfl framed.cursor, fun _ off => absurd refused.2 off⟩
  next allowed =>
  by_cases goal : editor.brush = .goal
  · have off := inside.off_origin fun origin => allowed ⟨goal, origin⟩
    have none := Grid.count_withoutGoals editor.grid
    have tidy := Grid.tidy_put_goal none (Grid.not_goalAtStart none) off
    have ground := Grid.withoutGoals_square framed.square
    rw [goal, if_pos rfl, Grid.write_inside ground inside]
    exact ⟨.of_tidy ⟨ground.put _ _ .goal, framed.cursor⟩ rfl tidy, fun _ _ => tidy⟩
  · rw [if_neg goal, Grid.write_inside framed.square inside]
    refine ⟨⟨⟨framed.square.put _ _ editor.brush, framed.cursor⟩, rfl, ?_, ?_⟩,
      fun painted => absurd painted goal⟩
    · have fewer := Grid.count_put_le editor.grid place.x.toNat place.y.toNat editor.brush .goal
      rw [if_neg goal] at fewer
      dsimp only
      omega
    · exact fun start => (Grid.goalAtStart_of_put start).resolve_right fun painted => goal painted.1

end EditorState

/-! ## Actions on the screen -/

/-- What an action ends with, and the screen after it. -/
def EditorAction.perform {α : Type} (action : EditorAction α) (screen : EditorScreen) :
    Except EditorFault α × EditorScreen :=
  (action.run.run screen).run

namespace EditorAction

variable {α β : Type} (screen : EditorScreen)

@[simp] theorem perform_pure (value : α) :
    (pure value : EditorAction α).perform screen = (.ok value, screen) := rfl

@[simp] theorem perform_throw (fault : EditorFault) :
    (throw fault : EditorAction α).perform screen = (.error fault, screen) := rfl

@[simp] theorem perform_get :
    (get : EditorAction EditorScreen).perform screen = (.ok screen, screen) := rfl

@[simp] theorem perform_set (other : EditorScreen) :
    (set other : EditorAction PUnit).perform screen = (.ok ⟨⟩, other) := rfl

@[simp] theorem perform_modify (change : EditorScreen → EditorScreen) :
    (modify change : EditorAction PUnit).perform screen = (.ok ⟨⟩, change screen) := rfl

@[simp] theorem perform_onEditor (change : EditorState → EditorState) :
    (EditorScreen.onEditor change).perform screen =
      (.ok (), { screen with editor := change screen.editor }) := rfl

@[simp] theorem perform_bind (action : EditorAction α) (next : α → EditorAction β) :
    (action >>= next).perform screen =
      match action.perform screen with
      | (.ok value, after) => (next value).perform after
      | (.error fault, after) => (.error fault, after) := by
  change (ExceptT.bindCont next (action.run.run screen).run.1).run (action.run.run screen).run.2 = _
  rw [perform]
  generalize (action.run.run screen).run = ran
  rcases ran with ⟨result, after⟩
  cases result <;> rfl

end EditorAction

/-- What is done in the editor, by keys and by clicks. -/
inductive Edit where
  | arrow (dx dy : Int)
  | space
  | click (offset : Option (Int × Int))
  | brush (key : Text)
  | randomize (draws : Draws)
  | clear
  | save

namespace Edit

def action : Edit → EditorAction Unit
  | .arrow dx dy => EditorScreen.arrow dx dy
  | .space => EditorScreen.space
  | .click offset => do let _ ← EditorScreen.click offset
  | .brush key => EditorScreen.chooseBrush key
  | .randomize draws => EditorScreen.randomize draws
  | .clear => EditorScreen.clear
  | .save => EditorScreen.saveKey

/-- The screen after an edit, which may have failed. -/
def after (edit : Edit) (screen : EditorScreen) : EditorScreen :=
  (edit.action.perform screen).2

/-- The cell that is painted by an edit, if one is. -/
def painted? (edit : Edit) (screen : EditorScreen) : Option Position :=
  match edit with
  | .space => some screen.editor.cursor
  | .click offset => offset.bind fun (column, row) => screen.widget.cellAt? column row
  | _ => none

/-- The edit paints a goal, or puts a new map in place of the old one. -/
def Renews (edit : Edit) (screen : EditorScreen) : Prop :=
  (screen.editor.brush = .goal ∧ ∃ cell, edit.painted? screen = some cell ∧ cell ≠ .origin) ∨
    edit = .clear ∨
    ∃ draws made, edit = .randomize draws ∧
      MapPlan.generate { size := screen.editor.grid.length } draws = .ok made

end Edit

namespace EditorScreen

/-- The screen after some edits. -/
def afterAll (edits : List Edit) (screen : EditorScreen) : EditorScreen :=
  edits.foldl (fun screen edit => edit.after screen) screen

theorem refresh_perform (screen : EditorScreen) :
    ∃ calls, refresh.perform screen = (.ok (), { screen with calls }) := by
  simp only [refresh, EditorAction.perform_modify]
  split <;> exact ⟨_, rfl⟩

theorem paint_perform (cell : Option Position) (screen : EditorScreen) :
    ∃ result, (paint cell).perform screen =
      (result, { screen with editor := (screen.editor.paint cell).2 }) := by
  rw [paint]
  simp only [EditorAction.perform_bind, EditorAction.perform_get, EditorAction.perform_onEditor]
  cases (screen.editor.paint cell).1 with
  | ok => exact ⟨_, rfl⟩
  | error error => exact ⟨_, rfl⟩

/-- The screen is as another one but for its editor and the calls to the widgets. -/
def Redone (screen after : EditorScreen) (editor : EditorState) : Prop :=
  ∃ calls, after = { screen with editor, calls }

theorem redone_refresh (screen : EditorScreen) (editor : EditorState) :
    screen.Redone (refresh.perform { screen with editor }).2 editor := by
  rcases refresh_perform { screen with editor } with ⟨calls, refreshed⟩
  exact ⟨calls, by rw [refreshed]⟩

section Edits

variable (screen : EditorScreen)

theorem arrow_after (dx dy : Int) :
    screen.Redone ((Edit.arrow dx dy).after screen) (screen.editor.moveCursor dx dy) := by
  simp only [Edit.after, Edit.action, arrow, EditorAction.perform_bind,
    EditorAction.perform_onEditor]
  exact redone_refresh screen _

theorem space_after :
    screen.Redone (Edit.space.after screen) (screen.editor.paint none).2 := by
  rcases paint_perform none screen with ⟨result, painted⟩
  simp only [Edit.after, Edit.action, space, EditorAction.perform_bind, painted]
  cases result with
  | ok => exact redone_refresh screen _
  | error fault => exact ⟨screen.calls, rfl⟩

theorem click_after (offset : Option (Int × Int)) :
    screen.Redone ((Edit.click offset).after screen)
      (match (Edit.click offset).painted? screen with
        | none => screen.editor
        | some cell => ({ screen.editor with cursor := cell }.paint (some cell)).2) := by
  simp only [Edit.after, Edit.action, click, EditorAction.perform_bind, EditorAction.perform_get,
    Edit.painted?]
  cases offset.bind fun (column, row) => screen.widget.cellAt? column row with
  | none => exact ⟨screen.calls, rfl⟩
  | some cell =>
      rcases paint_perform (some cell)
        { screen with editor := { screen.editor with cursor := cell } } with ⟨result, painted⟩
      simp only [EditorAction.perform_bind, EditorAction.perform_onEditor, painted]
      cases result with
      | error fault => exact ⟨screen.calls, rfl⟩
      | ok =>
          rcases refresh_perform { screen with
            editor := ({ screen.editor with cursor := cell }.paint (some cell)).2 } with
            ⟨calls, refreshed⟩
          exact ⟨calls, by simp only [refreshed, EditorAction.perform_pure]⟩

theorem brush_after (key : Text) :
    ∃ brush lastMessage, screen.Redone ((Edit.brush key).after screen)
      { screen.editor with brush, lastMessage } := by
  simp only [Edit.after, Edit.action, chooseBrush]
  cases brushOf? key with
  | none => exact ⟨_, _, screen.calls, rfl⟩
  | some brush =>
      simp only [EditorAction.perform_bind, EditorAction.perform_onEditor]
      exact ⟨brush, _, redone_refresh screen _⟩

theorem clear_after :
    ∃ lastMessage, screen.Redone (Edit.clear.after screen)
      { screen.editor with grid := Grid.empty screen.editor.grid.length, lastMessage } := by
  simp only [Edit.after, Edit.action, clear, EditorAction.perform_bind,
    EditorAction.perform_onEditor]
  exact ⟨_, redone_refresh screen _⟩

theorem randomize_after (draws : Draws) :
    ∃ lastMessage, screen.Redone ((Edit.randomize draws).after screen)
      (match MapPlan.generate { size := screen.editor.grid.length } draws with
        | .error _ => screen.editor
        | .ok made => { screen.editor with grid := made.grid, lastMessage }) := by
  simp only [Edit.after, Edit.action, randomize, EditorAction.perform_bind,
    EditorAction.perform_get]
  cases MapPlan.generate { size := screen.editor.grid.length } draws with
  | error error => exact ⟨[], screen.calls, rfl⟩
  | ok made =>
      simp only [EditorAction.perform_bind, EditorAction.perform_onEditor]
      exact ⟨_, redone_refresh screen _⟩

theorem save_perform {result : Except LibraryError Bool} {editor : EditorState} {archive : Archive}
    (saved : screen.editor.save screen.library { disk := screen.disk } =
      (result, editor, archive)) :
    save.perform screen =
      (result.mapError .library, { screen with editor, disk := archive.disk }) := by
  simp only [save, EditorAction.perform_bind, EditorAction.perform_get, saved]
  cases result <;> rfl

/-- The key for a save does no more than a save. -/
theorem save_after : ∃ calls, Edit.save.after screen = { (save.perform screen).2 with calls } := by
  simp only [Edit.after, Edit.action, saveKey, EditorAction.perform_bind]
  generalize save.perform screen = saved
  rcases saved with ⟨result, after⟩
  cases result with
  | error fault => exact ⟨after.calls, rfl⟩
  | ok saved =>
      rcases refresh_perform after with ⟨calls, refreshed⟩
      exact ⟨calls, by simp only [refreshed]⟩

end Edits

/-! ## One edit -/

variable {screen after : EditorScreen} {editor : EditorState}

/-- The editor is in its frame, and the widget shows just the cells of its map. -/
structure Framed (screen : EditorScreen) : Prop where
  editor : screen.editor.Framed
  widget : screen.widget.size = Grid.standardSize

/-- What an edit does to the screen: it edits, and keeps the library and the widget. -/
structure Steps (screen after : EditorScreen) : Prop where
  edits : screen.editor.Edits after.editor
  library : after.library = screen.library
  widget : after.widget = screen.widget

theorem Steps.framed (steps : screen.Steps after) (framed : screen.Framed) : after.Framed :=
  ⟨steps.edits.framed, by rw [steps.widget]; exact framed.widget⟩

theorem Redone.steps (redone : screen.Redone after editor) (edits : screen.editor.Edits editor) :
    screen.Steps after := by
  rcases redone with ⟨calls, rfl⟩
  exact ⟨edits, rfl, rfl⟩

/-- A cell that is clicked lies on the map. -/
theorem cellAt?_inside {column row : Int} {cell : Position} (framed : screen.Framed)
    (clicked : screen.widget.cellAt? column row = some cell) : cell.Inside := by
  rw [GridWidget.cellAt?, framed.widget] at clicked
  split at clicked
  · next inside =>
      cases clicked
      simp only [Bool.and_eq_true, decide_eq_true_eq] at inside
      rcases inside with ⟨⟨⟨⟨-, left⟩, right⟩, top⟩, bottom⟩
      exact ⟨left, right, top, bottom⟩
  · cases clicked

/-- Every edit but a save only redoes the editor, and one that renews its map leaves it tidy. -/
theorem after_redone (framed : screen.Framed) {edit : Edit} (other : edit ≠ .save) :
    ∃ editor, screen.Redone (edit.after screen) editor ∧ screen.editor.Edits editor ∧
      (edit.Renews screen → editor.grid.Tidy) := by
  rcases framed.editor with ⟨square, cursor⟩
  cases edit with
  | save => exact absurd rfl other
  | arrow dx dy =>
      refine ⟨_, arrow_after screen dx dy, EditorState.moveCursor_edits framed.editor dx dy, ?_⟩
      rintro (⟨-, _, ⟨⟩, -⟩ | ⟨⟨⟩⟩ | ⟨_, _, ⟨⟩, -⟩)
  | space =>
      have painted := EditorState.paint_edits framed.editor none
        (by rw [Option.getD_none]; exact cursor)
      refine ⟨_, space_after screen, painted.1, ?_⟩
      rintro (⟨goal, _, ⟨⟩, off⟩ | ⟨⟨⟩⟩ | ⟨_, _, ⟨⟩, -⟩)
      exact painted.2 goal off
  | click offset =>
      refine ⟨_, click_after screen offset, ?_⟩
      cases clicked : (Edit.click offset).painted? screen with
      | none =>
          refine ⟨.of_grid framed.editor rfl rfl cursor, ?_⟩
          rintro (⟨-, _, same, -⟩ | ⟨⟨⟩⟩ | ⟨_, _, ⟨⟩, -⟩)
          cases clicked.symm.trans same
      | some cell =>
          rcases Option.bind_eq_some_iff.mp clicked with ⟨⟨column, row⟩, -, shown⟩
          have inside := cellAt?_inside framed shown
          have moved : EditorState.Framed { screen.editor with cursor := cell } :=
            ⟨square, inside⟩
          have painted := EditorState.paint_edits moved (some cell)
            (by rw [Option.getD_some]; exact inside)
          refine ⟨⟨painted.1.framed, painted.1.name, painted.1.goals⟩, ?_⟩
          rintro (⟨goal, place, same, off⟩ | ⟨⟨⟩⟩ | ⟨_, _, ⟨⟩, -⟩)
          cases clicked.symm.trans same
          exact painted.2 goal off
  | brush key =>
      rcases brush_after screen key with ⟨brush, lastMessage, redone⟩
      refine ⟨_, redone, .of_grid framed.editor rfl rfl cursor, ?_⟩
      rintro (⟨-, _, ⟨⟩, -⟩ | ⟨⟨⟩⟩ | ⟨_, _, ⟨⟩, -⟩)
  | randomize draws =>
      rcases randomize_after screen draws with ⟨lastMessage, redone⟩
      refine ⟨_, redone, ?_⟩
      cases generated : MapPlan.generate { size := screen.editor.grid.length } draws with
      | error error =>
          refine ⟨.of_grid framed.editor rfl rfl cursor, ?_⟩
          rintro (⟨-, _, ⟨⟩, -⟩ | ⟨⟨⟩⟩ | ⟨_, made, ⟨⟩, done⟩)
          cases generated.symm.trans done
      | ok made =>
          have tidy := MapPlan.generate_tidy generated
          have same := MapPlan.generate_square generated
          rw [square.1] at same
          exact ⟨.of_tidy ⟨same, cursor⟩ rfl tidy, fun _ => tidy⟩
  | clear =>
      rcases clear_after screen with ⟨lastMessage, redone⟩
      have none := Grid.count_goal_empty screen.editor.grid.length
      have tidy : (Grid.empty screen.editor.grid.length).Tidy :=
        ⟨by omega, Grid.not_goalAtStart none⟩
      have same := Grid.empty_square screen.editor.grid.length
      rw [square.1] at same
      refine ⟨_, redone, .of_tidy ⟨?_, cursor⟩ rfl tidy, fun _ => tidy⟩
      dsimp only
      rw [square.1]
      exact same

/-! ## Saving -/

/-- The file of the library holds the map of the editor under its name, in the object that
it held before. -/
def Written (screen after : EditorScreen) : Prop :=
  ∃ document record maps, Text.ofString document.name = screen.editor.name ∧
    document.grid = screen.editor.grid ∧
    (screen.library.readRecord 0 { disk := screen.disk }).1 = .ok record ∧
    Library.storedMaps record = .ok maps ∧
    after.disk.read screen.library.path = .ok (Text.Utf8.encode
      (Library.encodeRecord (Library.storeDocument.stored document record maps)))

/-- What a save leads to, by its answer. A save that fails leaves the disk alone, unless it
is the disk that cannot be written. -/
def Saves (screen after : EditorScreen) : Except EditorFault Bool → Prop
  | .ok true => screen.editor.grid.count .goal = 1 ∧ screen.Written after
  | .ok false => screen.editor.grid.count .goal ≠ 1 ∧ after.disk = screen.disk
  | .error fault => after.disk = screen.disk ∨
      ∃ stored cause, fault = .library (.disk cause) ∧
        screen.library.writeRecord stored screen.disk = (.error cause, after.disk)

/-- A map that has not just one goal is not given to the library; another one is. -/
theorem save_cases (screen : EditorScreen) :
    (screen.editor.grid.count .goal ≠ 1 ∧ ∃ lastMessage, save.perform screen =
      (.ok false, { screen with editor := { screen.editor with lastMessage } })) ∨
    screen.editor.grid.count .goal = 1 ∧ ∃ result archive,
      screen.library.save (.text screen.editor.name) (MapDocument.encodeGrid screen.editor.grid)
        { disk := screen.disk } = (result, archive) ∧
      ∃ lastMessage, save.perform screen = ((result.map fun _ => true).mapError .library,
        { screen with editor := { screen.editor with lastMessage }, disk := archive.disk }) := by
  have tried := EditorState.save.eq_1 screen.editor screen.library { disk := screen.disk }
  by_cases other : screen.editor.grid.count .goal ≠ 1
  · rw [if_pos other] at tried
    exact .inl ⟨other, _, save_perform screen tried⟩
  · rcases saved : screen.library.save (.text screen.editor.name)
      (MapDocument.encodeGrid screen.editor.grid) { disk := screen.disk } with ⟨result, archive⟩
    refine .inr ⟨not_not.mp other, result, archive, rfl, ?_⟩
    rw [if_neg other, saved] at tried
    cases result with
    | error error => exact ⟨screen.editor.lastMessage, save_perform screen tried⟩
    | ok document => exact ⟨_, save_perform screen tried⟩

theorem save_saves (framed : screen.Framed) :
    screen.Saves (save.perform screen).2 (save.perform screen).1 := by
  rcases save_cases screen with ⟨other, _, same⟩ | ⟨single, result, archive, saved, _, same⟩
  · rw [same]
    exact ⟨other, rfl⟩
  rw [same]
  cases result with
  | error error =>
      rcases Library.kept_of_save saved with kept | ⟨stored, cause, rfl, writes⟩
      · exact .inl kept
      · exact .inr ⟨stored, cause, rfl, writes⟩
  | ok document =>
      refine ⟨single, document, ?_⟩
      rcases Library.written_of_save saved with ⟨read, record, maps, looked, found, written⟩
      rcases framed.editor.square.rows with ⟨rows, tiles, -⟩
      rw [tiles, MapDocument.encodeGrid_tiles] at read
      refine ⟨record, maps, (MapDocument.name_of_ofParts read).symm, ?_, looked, found, written⟩
      rw [MapDocument.grid, MapDocument.rows_of_ofParts read, tiles]

/-- In a library that holds a shelf, a map with one goal and a name is saved, and is there. -/
theorem save_shelves {record : Json.Fields} {shelf : Shelf} {name : String}
    (framed : screen.Framed)
    (holds : screen.library.Holds { disk := screen.disk } record shelf) (some : name ≠ "")
    (named : screen.editor.name = Text.ofString name)
    (single : screen.editor.grid.count .goal = 1) :
    (save.perform screen).1 = .ok true ∧
      (screen.library.load name { disk := (save.perform screen).2.disk }).1 =
        .ok screen.editor.grid := by
  rcases holds.save some framed.editor.square with
    ⟨document, later, stored, stores, rfl, grid, shelved, -⟩
  rcases save_cases screen with ⟨other, -⟩ | ⟨-, result, archive, saved, _, same⟩
  · exact absurd single other
  rw [named, stores] at saved
  cases saved
  have shared : screen.library.Unchanged later { disk := later.disk } :=
    Library.unchanged_of_read rfl
  rw [same]
  refine ⟨rfl, ?_⟩
  rw [shared.load, shelved.answers.load, Shelf.grid?_put_self, grid]
  rfl

theorem save_edits (framed : screen.Framed) :
    screen.Steps (Edit.save.after screen) := by
  rcases save_after screen with ⟨calls, pressed⟩
  rw [pressed]
  rcases save_cases screen with ⟨-, _, same⟩ | ⟨-, _, _, -, _, same⟩
  all_goals
    rw [same]
    exact ⟨.of_grid framed.editor rfl rfl framed.editor.cursor, rfl, rfl⟩

/-! ## Any number of edits -/

theorem after_steps (framed : screen.Framed) (edit : Edit) : screen.Steps (edit.after screen) := by
  by_cases other : edit ≠ .save
  · rcases after_redone framed other with ⟨editor, redone, edits, -⟩
    exact redone.steps edits
  · rw [not_not] at other
    rw [other]
    exact save_edits framed

theorem after_disk (framed : screen.Framed) {edit : Edit} (other : edit ≠ .save) :
    (edit.after screen).disk = screen.disk := by
  rcases after_redone framed other with ⟨editor, ⟨calls, redone⟩, -⟩
  rw [redone]

theorem after_renews (framed : screen.Framed) {edit : Edit} (renews : edit.Renews screen) :
    (edit.after screen).editor.grid.Tidy := by
  have other : edit ≠ .save := by
    rintro rfl
    rcases renews with ⟨-, _, ⟨⟩, -⟩ | ⟨⟨⟩⟩ | ⟨_, _, ⟨⟩, -⟩
  rcases after_redone framed other with ⟨editor, ⟨calls, redone⟩, -, tidy⟩
  rw [redone]
  exact tidy renews

/-- The screen stays framed, with its name and its library, and the goals are restrained from
the start on. -/
structure Edited (screen after : EditorScreen) : Prop where
  framed : after.Framed
  name : after.editor.name = screen.editor.name
  library : after.library = screen.library
  goals : screen.editor.grid.Restrained after.editor.grid

theorem afterAll_edited (framed : screen.Framed) (edits : List Edit) :
    screen.Edited (screen.afterAll edits) := by
  induction edits generalizing screen with
  | nil => exact ⟨framed, rfl, rfl, .refl screen.editor.grid⟩
  | cons edit edits ih =>
      have first := after_steps framed edit
      have later := ih (first.framed framed)
      exact ⟨later.framed, later.name.trans first.edits.name, later.library.trans first.library,
        first.edits.goals.trans later.goals⟩

theorem afterAll_append (first rest : List Edit) (screen : EditorScreen) :
    screen.afterAll (first ++ rest) = (screen.afterAll first).afterAll rest := by
  rw [afterAll, List.foldl_append]
  rfl

/-- Whatever is done in the editor, its map stays a square with the cursor on it. No edit makes the
agent start on a goal, or makes the goals more than one and more than they were, and from the first
goal that is painted, or the first new map, there is at most one goal and none at the start. Only a
save changes the disk: it writes the map with its one goal under the name of the editor, or it does
not succeed and leaves the disk alone. -/
theorem editing_keeps_one_goal (framed : screen.Framed) (edits : List Edit) :
    let here := screen.afterAll edits
    screen.Edited here ∧
      (∀ edit : Edit, here.editor.grid.Restrained (edit.after here).editor.grid ∧
        (edit ≠ .save → (edit.after here).disk = here.disk)) ∧
      (∀ first edit rest, edits = first ++ edit :: rest → edit.Renews (screen.afterAll first) →
        here.editor.grid.Tidy) ∧
      (Edit.save.after here).disk = (save.perform here).2.disk ∧
      here.Saves (save.perform here).2 (save.perform here).1 ∧
      ∀ record shelf name, here.library.Holds { disk := here.disk } record shelf → name ≠ "" →
        here.editor.name = Text.ofString name → here.editor.grid.count .goal = 1 →
        (save.perform here).1 = .ok true ∧
          (here.library.load name { disk := (save.perform here).2.disk }).1 =
            .ok here.editor.grid := by
  intro here
  have edited : screen.Edited here := afterAll_edited framed edits
  refine ⟨edited, ?_, ?_, ?_, save_saves edited.framed, ?_⟩
  · intro edit
    exact ⟨(after_steps edited.framed edit).edits.goals, after_disk edited.framed⟩
  · rintro first edit rest rfl renews
    have before := afterAll_edited framed first
    have tidy := after_renews before.framed renews
    have later := afterAll_edited ((after_steps before.framed edit).framed before.framed) rest
    change Grid.Tidy (screen.afterAll (first ++ edit :: rest)).editor.grid
    rw [afterAll_append]
    exact later.goals.tidy tidy
  · rcases save_after here with ⟨calls, pressed⟩
    rw [pressed]
  · intro record shelf name holds some named single
    exact save_shelves edited.framed holds some named single

/-- An editor on a map that is nothing but goals. -/
def crowded : EditorScreen where
  editor := { name := "meadow", grid := Library.coveredGrid .goal }
  library := .atHome "ada"
  disk := Library.annotatedArchive.disk
  widget := { size := Grid.standardSize, reportsClicks := true }

/-- A goal is refused where the agent starts, and painted in the corner, from where the cursor does
not get any further. -/
theorem editing_keeps_one_goal_crowded :
    crowded.Framed ∧ crowded.editor.grid.count .goal = 144 ∧ crowded.editor.grid.GoalAtStart ∧
    let here := crowded.afterAll [.brush "4", .space, .arrow 20 0, .space]
    here.editor.grid.Tidy ∧ here.editor.grid.cellAt ⟨11, 0⟩ = .ok (.tile .goal) ∧
      (save.perform here).1 = .ok true ∧
      ((Library.atHome "ada").load "meadow" { disk := (save.perform here).2.disk }).1 =
        .ok here.editor.grid := by
  have framed : crowded.Framed :=
    ⟨⟨Library.coveredGrid_square .goal, by constructor <;> decide⟩, rfl⟩
  rcases editing_keeps_one_goal framed [.brush "4", .space, .arrow 20 0, .space] with
    ⟨-, -, tidy, -, -, saves⟩
  refine ⟨framed, by decide +kernel, by decide +kernel, ?_, by decide +kernel, ?_⟩
  · refine tidy [.brush "4", .space, .arrow 20 0] .space [] rfl (.inl ⟨rfl, ⟨11, 0⟩, ?_, ?_⟩)
    · decide +kernel
    · decide
  · exact saves _ _ "meadow" Library.annotated_holds (by decide) rfl (by decide +kernel)

end EditorScreen

end TileWalk
