import TileWalk.Proofs.CommandLine.Ending
import TileWalk.Proofs.Screen.Game

/-!
# Telling what is wrong with a library

Whoever asks a library whose file can be read gets an answer or is told what is wrong, unless the
library derails: the commands end with a word for the player, and the game screen writes a line.
-/

namespace TileWalk

open TileWalk.Storage TileWalk.CommandLine

/-- What is asked of the library on a disk derails just where its file does. -/
structure Library.Tells (library : Library) (disk : Disk) (octets : ByteArray) : Prop where
  listing : ∀ error, Derails (library.list { disk }).1 error ↔ Derailed 1 octets error
  choosing : ∀ name draws error,
    (library.choose name draws { disk }).1 = .error (.library error) ∧ error.Unforeseen ↔
      Derailed 2 octets error
  drawing : ∀ name draws error,
    (library.choose name draws { disk }).1 = .error (.generation error) → error = .drawsExhausted
  editing : ∀ name error,
    Derails (EditorState.ofLibrary library name { disk }).1 error ↔ Derailed 1 octets error

/-- A command fails without a word just where the file of its library derails, where the draws for
a random map run out, or where the console refuses the name of a map, of the player or of a variable
that the command shows. -/
structure CommandLine.Arguments.Tells (markup : Markup) (arguments : Arguments)
    (place : Surroundings) (octets : ByteArray) : Prop where
  listing : arguments.listMaps = true →
    ((arguments.execute place).Fails markup ↔
      (∃ error, Library.Derailed 1 octets error) ∨
        ListsRefused markup (arguments.library place.settings) place.disk)
  editing : arguments.listMaps = false → ∀ name, arguments.editMap = some name → name ≠ [] →
    markup.accepts name →
    ((arguments.execute place).Fails markup ↔ ∃ error, Library.Derailed 1 octets error)
  running : arguments.listMaps = false → arguments.editMap.filter (· ≠ []) = none →
    ∀ source plan, Arguments.readProgram arguments.program place.disk = .ok source →
      arguments.plan source place = .ok plan → arguments.speed ≠ some .empty →
      ((arguments.execute place).Fails markup ↔
        (arguments.play = true ∨ source ≠ []) ∧
          ((∃ error, Library.Derailed 2 octets error) ∨ Exhausts plan place.disk) ∨
        (arguments.play = false ∧ source ≠ []) ∧ LeavesRefused markup plan place.disk)

section

variable {library : Library} {disk : Disk} {octets : ByteArray}

theorem Library.tells (file : disk.read library.path = .ok octets) : library.Tells disk octets where
  listing _ := library.derails_list file
  choosing name draws _ := library.derails_choose file name draws
  drawing _ _ _ := Library.choose_generation
  editing name _ := EditorState.derails_ofLibrary file name

theorem CommandLine.Arguments.library_of_plan {arguments : Arguments} {source : Text}
    {place : Surroundings} {plan : RunPlan} (planned : arguments.plan source place = .ok plan) :
    plan.library = arguments.library place.settings := by
  rw [Arguments.plan] at planned
  cases seed : arguments.seed with
  | none =>
      rw [seed] at planned
      cases planned
      rfl
  | some given =>
      rw [seed] at planned
      cases given with
      | number seed =>
          cases planned
          rfl
      | empty => cases planned

theorem CommandLine.Arguments.tells {arguments : Arguments} {place : Surroundings}
    (markup : Markup)
    (file : place.disk.read (arguments.library place.settings).path = .ok octets) :
    arguments.Tells markup place octets where
  listing listed := by
    rw [execute, listed]
    exact listing_fails file
  editing unlisted name named filled accepted := by
    have kept : arguments.editMap.filter (· ≠ []) = some name := by
      simp [named, filled]
    simp only [execute, unlisted, kept]
    exact editing_fails file accepted
  running unlisted unnamed source plan readable planned paced := by
    have file : place.disk.read plan.library.path = .ok octets := by
      rw [library_of_plan planned, file]
    simp only [execute, unlisted, unnamed, readable, Bool.false_eq_true, if_false]
    cases opens : arguments.play with
    | true => simp [opening_fails planned paced file]
    | false =>
        by_cases blank : source = []
        · simp [blank, Outcome.Fails, Ending.Unforeseen]
        · simp [blank, running_fails planned paced file]

/-- Whoever asks a library whose file can be read is answered or told what is wrong, unless the
file derails: the requests themselves, the commands that make them, on any console that accepts what
they show, and the keys of the game screen, whatever has been asked of the screen before. -/
theorem told_unless_derailed (file : disk.read library.path = .ok octets) :
    library.Tells disk octets ∧
    (∀ texts arguments place, Arguments.ofTexts texts = .ok arguments → place.disk = disk →
      arguments.library place.settings = library →
      execute texts place = arguments.execute place ∧
      ∀ markup, arguments.Tells markup place octets) ∧
    ∀ (game : Game) source requests, game.Free →
      ∀ response ∈ (GameScreen.ofGame game source).respondAll requests,
        let screen := response.screen
        screen.mounted = true → screen.stage.game.usesLibrary = true →
        screen.stage.game.library = library → screen.stage.game.disk = disk →
        screen.Tells octets (library.first { disk }).1 screen.newMap ∧
        screen.Tells octets (library.list { disk }).1 screen.nextSavedMap := by
  refine ⟨Library.tells file, ?_, ?_⟩
  · rintro texts arguments place read rfl rfl
    exact ⟨by rw [execute, read], fun markup => Arguments.tells markup file⟩
  · intro game source requests free response given screen mounted lent held placed
    have stands : screen.Stands := (GameScreen.stands_ofGame free source).respondAll requests
      response given
    subst held placed
    exact ⟨GameScreen.newMap_tells mounted stands lent file,
      GameScreen.nextSavedMap_tells mounted stands file⟩

end

/-! ## A library that derails -/

/-- The object of a library with a list where its maps should be. -/
def Library.misplaced : Json.Fields := [(mapsKey, .array [])]

/-- A disk with the misplaced maps in the file of the default user. -/
def misplacedDisk : Disk :=
  ((⟨[]⟩ : Disk).put (Place.start .workingFolder ++ [("maps" : Text)]) .folder).put
    (Place.start .workingFolder ++ [("maps" : Text), "maps_default.json"])
    (.file (Text.Utf8.encode (Library.encodeRecord Library.misplaced)))

theorem Library.derailed_misplaced {requests : Nat} (few : requests ≤ 2) :
    Derailed requests (Text.Utf8.encode (encodeRecord misplaced)) (.mapsNotListed "list") := by
  have storable : Json.Storable Json.ReadsBack (983 + 1) (.object misplaced) :=
    Json.storable_empty.set (Json.joinPairs_ofString "maps") (.array (by simp))
  have deep : 983 + 1 ≤ maxNesting requests := by
    simp only [maxNesting]
    omega
  exact .maps storable.decodeText_pretty (storable.mono deep).read_pretty rfl (by simp)

/-- A game that uses the library with the misplaced maps. -/
def misplacedGame : Game :=
  { Game.onGrass 1 with
    library := Library.amongMaps Library.defaultUser, usesLibrary := true, disk := misplacedDisk }

theorem ofTexts_listing : Arguments.ofTexts ["--list-maps"] = .ok { listMaps := true } := by
  have words : Word.ofTexts ["--list-maps"] = .ok [.option .listMaps none] := by decide +kernel
  simp [Arguments.ofTexts, words, Reading.use, Switch.takesValue, Reading.takeFlag,
    Arguments.setFlag]
  rfl

/-- A user whose name closes a tag that was never opened. -/
def untaggedUser : Text := "[/x]"

/-- A disk with a library of that user that holds no maps. The slash makes a folder of its path. -/
def untaggedDisk : Disk :=
  (((⟨[]⟩ : Disk).put (Place.start .workingFolder ++ [("maps" : Text)]) .folder).put
    (Place.start .workingFolder ++ [("maps" : Text), "maps_["]) .folder).put
    (Place.start .workingFolder ++ [("maps" : Text), "maps_[", "x].json"])
    (.file (Text.Utf8.encode "\x7b\x7d"))

/-- Listing the maps fails without a word when they are misplaced, on the command line as on the
game screen; and on the command line also where none are listed for a name that is refused. -/
theorem told_unless_derailed_misplaced :
    let library := Library.amongMaps Library.defaultUser
    let octets := Text.Utf8.encode (Library.encodeRecord Library.misplaced)
    misplacedDisk.read library.path = .ok octets ∧
    Derails (library.list { disk := misplacedDisk }).1 (.mapsNotListed "list") ∧
    (execute ["--list-maps"] { disk := misplacedDisk }).Fails .tagless ∧
    (∃ response ∈ (GameScreen.ofGame misplacedGame "").respondAll [.mount],
      response.screen.newMap.1 = .error (.library (.mapsNotListed "list")) ∧
      response.screen.nextSavedMap.1 = .error (.library (.mapsNotListed "list"))) ∧
    untaggedDisk.read (Library.amongMaps untaggedUser).path = .ok (Text.Utf8.encode "\x7b\x7d") ∧
    (execute ["--list-maps"]
      { disk := untaggedDisk, settings := { user := untaggedUser } }).Fails .tagless := by
  intro library octets
  have file : misplacedDisk.read library.path = .ok octets := by decide +kernel
  have derailed : Library.Derailed 1 octets (.mapsNotListed "list") :=
    Library.derailed_misplaced (by decide)
  rcases told_unless_derailed file with ⟨requests, commands, screens⟩
  rcases commands ["--list-maps"] _ { disk := misplacedDisk } ofTexts_listing rfl rfl with
    ⟨executed, tells⟩
  have free : misplacedGame.Free := by decide
  have told := screens misplacedGame "" [.mount] free _ (List.mem_singleton_self _) rfl rfl rfl rfl
  have empty : untaggedDisk.read (Library.amongMaps untaggedUser).path =
      .ok (Text.Utf8.encode "\x7b\x7d") := by decide +kernel
  have tagged : ¬ Text.Tagless ("No saved maps for " ++ untaggedUser ++ ".") := by decide +kernel
  have none : ListsRefused .tagless (Library.amongMaps untaggedUser) untaggedDisk :=
    ⟨[], by decide +kernel, .inr ⟨rfl, tagged⟩⟩
  rcases (told_unless_derailed empty).2.1 ["--list-maps"] _
    { disk := untaggedDisk, settings := { user := untaggedUser } } ofTexts_listing rfl rfl with
    ⟨listed, refuses⟩
  refine ⟨file, (requests.listing _).mpr derailed, ?_, ⟨_, List.mem_singleton_self _,
    (told.1.derailed _).mpr derailed, (told.2.derailed _).mpr derailed⟩, empty, ?_⟩
  · rw [executed]
    exact ((tells .tagless).listing rfl).mpr (.inl ⟨_, derailed⟩)
  · rw [listed]
    exact ((refuses .tagless).listing rfl).mpr (.inr none)

end TileWalk
