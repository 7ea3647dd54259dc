import TileWalk.CommandLine.Execution
import TileWalk.Proofs.Drawing.Markup
import TileWalk.Proofs.Library.Report
import TileWalk.Proofs.Run.Recording

/-!
# How commands end

A command that uses a library tells what is wrong with it, unless the library derails. A
program that is run on a chosen map cannot make the command end in any other way. What a command
shows may still be refused: the names of maps, of the player and of variables are shown as markup.
-/

namespace TileWalk.CommandLine

open TileWalk.Storage TileWalk.Random

/-- A command fails, and nobody is told why. -/
def Ending.Unforeseen (ending : Ending) : Prop :=
  ∃ failure, ending = .failed failure ∧ failure.told? = none

theorem unforeseen_failed {failure : Failure} :
    (Ending.failed failure).Unforeseen ↔ failure.told? = none := by
  simp [Ending.Unforeseen]

theorem not_unforeseen_done : ¬ Ending.done.Unforeseen := by
  simp [Ending.Unforeseen]

theorem told?_library {error : LibraryError} :
    (Failure.game (.library error)).told? = none ↔ error.Unforeseen := by
  cases error with
  | disk error =>
      cases bad : error.isBadPath <;>
        simp [Failure.told?, Failure.isBadValue, Fault.isBadValue, LibraryError.Unforeseen,
          LibraryError.isBadValue, bad]
  | _ =>
      simp [Failure.told?, Failure.isBadValue, Fault.isBadValue, LibraryError.Unforeseen,
        LibraryError.isBadValue]

/-- The texts in an item that are taken as markup. The game screen opens with its world. -/
def Item.markups : Item → List Text
  | .line text => [text]
  | .drawing content => content.markups
  | .pause _ => []
  | .game screen => (drawWorldPanel screen.session.world).markups
  | .editor state => state.table.markups

/-- A command fails without a word: nobody is told why it ends, or the console refuses something
that is shown on the way. -/
def Outcome.Fails (markup : Markup) (outcome : Outcome) : Prop :=
  outcome.ending.Unforeseen ∨ ∃ item ∈ outcome.items, markup.Refuses item.markups

variable {library : Library} {disk : Disk} {octets : ByteArray} {markup : Markup}

@[simp] theorem fails_failed {failure : Failure} :
    (Outcome.mk [] (.failed failure)).Fails markup ↔ failure.told? = none := by
  simp [Outcome.Fails, unforeseen_failed]

@[simp] theorem fails_done {items : List Item} :
    (Outcome.mk items .done).Fails markup ↔ ∃ item ∈ items, markup.Refuses item.markups := by
  simp [Outcome.Fails, not_unforeseen_done]

/-- Nothing that is shown while a program runs is markup. -/
theorem not_refuses_events (events : List Event) :
    ¬ ∃ item ∈ events.filterMap Item.ofEvent?, markup.Refuses item.markups := by
  rintro ⟨item, shown, refused⟩
  rcases List.mem_filterMap.mp shown with ⟨event, -, shown⟩
  have plain : item.markups = [] := by
    cases event <;> cases shown <;> rfl
  exact markup.refuses_nil (plain ▸ refused)

/-! ## Listing and editing -/

/-- The console refuses a listed name, or the word that there are none. -/
def ListsRefused (markup : Markup) (library : Library) (disk : Disk) : Prop :=
  ∃ names, (library.list { disk }).1 = .ok names ∧
    ((∃ name ∈ names, ¬ markup.accepts (Text.ofString name)) ∨
      names = [] ∧ ¬ markup.accepts ("No saved maps for " ++ library.user ++ "."))

theorem listing_fails (file : disk.read library.path = .ok octets) :
    (Outcome.listing library disk).Fails markup ↔
      (∃ error, Library.Derailed 1 octets error) ∨ ListsRefused markup library disk := by
  have derails (error : LibraryError) :
      Derails (library.list { disk }).1 error ↔ Library.Derailed 1 octets error :=
    library.derails_list file
  simp only [← derails, Outcome.listing, ListsRefused]
  cases (library.list { disk }).1 with
  | error error => simp [Derails, told?_library]
  | ok names => cases names <;> simp [Derails, Item.markups]

theorem editing_fails (file : disk.read library.path = .ok octets) {name : Text}
    (accepted : markup.accepts name) :
    (Outcome.editing library name disk).Fails markup ↔
      ∃ error, Library.Derailed 1 octets error := by
  have derails (error : LibraryError) :
      Derails (EditorState.ofLibrary library name { disk }).1 error ↔
        Library.Derailed 1 octets error :=
    EditorState.derails_ofLibrary file name
  simp only [← derails, Outcome.editing]
  cases opened : (EditorState.ofLibrary library name { disk }).1 with
  | error error => simp [Derails, told?_library]
  | ok state =>
      have fresh : state.name = name ∧ state.lastMessage = [] := by
        rw [EditorState.ofLibrary] at opened
        split at opened <;> cases opened <;> exact ⟨rfl, rfl⟩
      simp [Derails, Item.markups, markup.refuses_table, fresh, accepted]

/-! ## Running programs -/

/-- There is no map to be chosen, and the draws for a random one run out. -/
def Exhausts (plan : RunPlan) (disk : Disk) : Prop :=
  (plan.library.choose plan.mapName plan.draws { disk }).1 =
    .error (.generation .drawsExhausted)

section Program

variable {plan : RunPlan}

/-- No game comes about, and nobody is told why, if the library derails or the draws run out. -/
theorem game_unforeseen (file : disk.read plan.library.path = .ok octets) :
    (∃ fault, plan.game disk = .error fault ∧ (Failure.game fault).told? = none) ↔
      (∃ error, Library.Derailed 2 octets error) ∨ Exhausts plan disk := by
  have derails (error : LibraryError) :
      (plan.library.choose plan.mapName plan.draws { disk }).1 = .error (.library error) ∧
        error.Unforeseen ↔ Library.Derailed 2 octets error :=
    plan.library.derails_choose file plan.mapName plan.draws
  have generation (error : GenerationError) :
      (plan.library.choose plan.mapName plan.draws { disk }).1 = .error (.generation error) →
        error = .drawsExhausted :=
    Library.choose_generation
  simp only [← derails, Exhausts, RunPlan.game]
  generalize plan.library.choose plan.mapName plan.draws { disk } = chosen at generation ⊢
  rcases chosen with ⟨result, archive⟩
  cases result with
  | ok chosen => simp
  | error error =>
      cases error with
      | library error => simp [told?_library]
      | generation error =>
          obtain rfl := generation error rfl
          simp [Failure.told?, Failure.isBadValue, Fault.isBadValue]

theorem game_square {game : Game} (made : plan.game disk = .ok game) : game.Square := by
  rw [RunPlan.game] at made
  split at made
  · cases made
  · cases made
  · next chosen =>
      cases made
      exact Library.choose_square (congrArg Prod.fst chosen)

/-- A run on a chosen map does not fail without a word. -/
theorem run_told {game : Game} (made : plan.game disk = .ok game) {fault : Fault}
    (failed : (plan.run game).1 = .error fault) : (Failure.game fault).told? ≠ none := by
  rcases Stage.run_recorded (game_square made) failed with ⟨cause, rfl⟩
  simp [Failure.told?, Failure.isBadValue, Fault.isBadValue]

variable {arguments : Arguments} {source : Text} {place : Surroundings}

theorem game_planned (planned : arguments.plan source place = .ok plan)
    (paced : arguments.speed ≠ some .empty) :
    arguments.game source place =
      ((plan.game place.disk).map fun game => (plan, game)).mapError .game := by
  rw [Arguments.game, planned]
  cases made : plan.game place.disk with
  | error fault => simp [bind, Except.bind, made, Except.map, Except.mapError]
  | ok game => simp [bind, Except.bind, made, Except.map, Except.mapError]

theorem opening_fails (planned : arguments.plan source place = .ok plan)
    (paced : arguments.speed ≠ some .empty)
    (file : place.disk.read plan.library.path = .ok octets) :
    (arguments.opening source place).Fails markup ↔
      (∃ error, Library.Derailed 2 octets error) ∨ Exhausts plan place.disk := by
  have titled : markup.accepts "World" := markup.accepts_ofString (by decide)
  rw [← game_unforeseen file, Arguments.opening, game_planned planned paced]
  cases plan.game place.disk with
  | error fault => simp [Except.map, Except.mapError]
  | ok game =>
      simp [Except.map, Except.mapError, Item.markups, Drawing.markups_drawWorldPanel, titled]

/-- The program runs to its end and leaves variables that the console refuses to show. -/
def LeavesRefused (markup : Markup) (plan : RunPlan) (disk : Disk) : Prop :=
  ∃ game, plan.game disk = .ok game ∧ (∃ accepted, (plan.run game).1 = .ok accepted) ∧
    ¬ markup.accepts (plan.run game).2.session.bindings.summary

theorem running_fails (planned : arguments.plan source place = .ok plan)
    (paced : arguments.speed ≠ some .empty)
    (file : place.disk.read plan.library.path = .ok octets) :
    (arguments.running source place).Fails markup ↔
      ((∃ error, Library.Derailed 2 octets error) ∨ Exhausts plan place.disk) ∨
        LeavesRefused markup plan place.disk := by
  rw [← game_unforeseen file, Arguments.running, game_planned planned paced, LeavesRefused]
  cases made : plan.game place.disk with
  | error fault => simp [Except.map, Except.mapError]
  | ok game =>
      simp only [Except.map, Except.mapError]
      rcases ran : plan.run game with ⟨result, after⟩
      cases result with
      | error fault =>
          have told : (Failure.game fault).told? ≠ none := run_told made (congrArg Prod.fst ran)
          simp only [Outcome.Fails, unforeseen_failed, told, not_refuses_events]
          simp [ran]
      | ok accepted =>
          simp only [fails_done, List.mem_append, or_and_right, exists_or, not_refuses_events]
          simp [ran, Item.markups, markup.refuses_draw]

end Program

end TileWalk.CommandLine
