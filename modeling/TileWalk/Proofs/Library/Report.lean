import TileWalk.Application
import TileWalk.Proofs.Library.Saving
import TileWalk.Proofs.Map.Generation
import TileWalk.Screen.Editor

/-!
# What is wrong with a library

Whatever is in the file of a library, a request either succeeds or is told what is wrong,
with two exceptions: JSON that is nested too deeply, and an object whose maps are no object.
-/

namespace TileWalk

open TileWalk.Text TileWalk.Storage TileWalk.Random

/-! ## Errors that nobody is told of -/

/-- The error is about no value that is not as it should be, and about no missing map. -/
def LibraryError.Unforeseen (error : LibraryError) : Prop :=
  error.isBadValue = false ∧ ∀ name user, error ≠ .unknownMap name user

theorem LibraryError.foreseen_of_bad {error : LibraryError} (bad : error.isBadValue = true) :
    ¬ error.Unforeseen := by
  intro unforeseen
  rw [unforeseen.1] at bad
  cases bad

theorem LibraryError.Unforeseen.tooDeep (shape : Json.Shape) :
    (LibraryError.tooDeep shape).Unforeseen :=
  ⟨rfl, nofun⟩

theorem LibraryError.Unforeseen.mapsNotListed (kind : String) :
    (LibraryError.mapsNotListed kind).Unforeseen :=
  ⟨rfl, nofun⟩

/-- A request ends with an error that is not foreseen. -/
def Derails {α : Type} (result : Except LibraryError α) (error : LibraryError) : Prop :=
  result = .error error ∧ error.Unforeseen

section Derails

variable {α β : Type} {result : Except LibraryError α} {error : LibraryError}

theorem map_eq_error_iff {change : α → β} :
    result.map change = .error error ↔ result = .error error := by
  cases result <;> simp [Except.map]

theorem derails_map (change : α → β) :
    Derails (result.map change) error ↔ Derails result error := by
  rw [Derails, map_eq_error_iff, Derails]

/-- A request that goes on derails where its first part does, or later on. -/
theorem derails_bind {next : α → Except LibraryError β} :
    Derails (result.bind next) error ↔
      Derails result error ∨ ∃ value, result = .ok value ∧ Derails (next value) error := by
  cases result <;> simp [Derails, Except.bind]

end Derails

namespace Library

variable {library : Library} {archive : Archive} {octets : ByteArray} {requests : Nat}
  {error : LibraryError}

/-- What is unforeseen in the file of a library, for a reading as a part of some requests. -/
inductive Derailed (requests : Nat) (octets : ByteArray) : LibraryError → Prop
  | deep {text : String} {shape : Json.Shape} (decoded : decodeText octets = .ok text)
    (nested : Json.read (maxNesting requests) text = .error (.tooDeep shape)) :
    Derailed requests octets (.tooDeep shape)
  | maps {text : String} {record : Json.Fields} {value : Json}
    (decoded : decodeText octets = .ok text)
    (read : Json.read (maxNesting requests) text = .ok (.object record))
    (held : record.get? mapsKey = some value) (other : ∀ maps, value ≠ .object maps) :
    Derailed requests octets (.mapsNotListed value.kindName)

/-! ## Reading the file -/

/-- The octets spell an object, or what is wrong with them is foreseen, but for the nesting. -/
theorem derails_decodeRecord (path : Path) :
    Derails (decodeRecord path requests octets) error ↔
      ∃ text shape, decodeText octets = .ok text ∧
        Json.read (maxNesting requests) text = .error (.tooDeep shape) ∧
        error = .tooDeep shape := by
  constructor
  · rintro ⟨failed, unforeseen⟩
    rw [decodeRecord] at failed
    split at failed
    · cases failed
      exact absurd unforeseen (LibraryError.foreseen_of_bad rfl)
    next text decoded =>
    split at failed
    · cases failed
      exact absurd unforeseen (LibraryError.foreseen_of_bad rfl)
    · next shape nested =>
        cases failed
        exact ⟨text, shape, decoded, nested, rfl⟩
    · cases failed
      exact absurd unforeseen (LibraryError.foreseen_of_bad rfl)
    · cases failed
    · cases failed
      exact absurd unforeseen (LibraryError.foreseen_of_bad rfl)
  · rintro ⟨text, shape, decoded, nested, rfl⟩
    refine ⟨?_, .tooDeep shape⟩
    simp only [decodeRecord, decoded, nested]

theorem decodeRecord_eq_ok_iff {path : Path} {record : Json.Fields} :
    decodeRecord path requests octets = .ok record ↔
      ∃ text, decodeText octets = .ok text ∧
        Json.read (maxNesting requests) text = .ok (.object record) := by
  constructor
  · intro decoded
    rw [decodeRecord] at decoded
    split at decoded
    · cases decoded
    next text spelled =>
    split at decoded
    · cases decoded
    · cases decoded
    · cases decoded
    · next read =>
        cases decoded
        exact ⟨text, spelled, read⟩
    · cases decoded
  · rintro ⟨text, spelled, read⟩
    simp only [decodeRecord, spelled, read]

theorem documentsOf_error {record : Json.Fields} (failed : documentsOf record = .error error) :
    (∃ value, record.get? mapsKey = some value ∧ (∀ maps, value ≠ .object maps) ∧
      error = .mapsNotListed value.kindName) ∨ ∃ invalid, error = .invalidMap invalid := by
  rw [documentsOf] at failed
  cases found : storedMaps record with
  | ok maps =>
      rw [found] at failed
      rcases mapM_eq_error failed with ⟨⟨name, grid⟩, failed⟩
      dsimp only at failed
      split at failed
      · cases failed
      · next invalid _ =>
          cases failed
          exact .inr ⟨invalid, rfl⟩
  | error other =>
      rw [found] at failed
      cases failed
      rw [storedMaps] at found
      split at found
      · cases found
      · cases found
      · next value other held =>
          cases found
          exact .inl ⟨value, held, other, rfl⟩

/-- Whatever stands where the maps should be, only its being no object is unforeseen. -/
theorem derails_documentsOf (record : Json.Fields) :
    Derails (documentsOf record) error ↔
      ∃ value, record.get? mapsKey = some value ∧ (∀ maps, value ≠ .object maps) ∧
        error = .mapsNotListed value.kindName := by
  constructor
  · rintro ⟨failed, unforeseen⟩
    rcases documentsOf_error failed with amiss | ⟨invalid, rfl⟩
    · exact amiss
    · exact absurd unforeseen (LibraryError.foreseen_of_bad rfl)
  · rintro ⟨value, held, other, rfl⟩
    refine ⟨?_, .mapsNotListed _⟩
    have found : storedMaps record = .error (.mapsNotListed value.kindName) := by
      rw [storedMaps, held]
      cases value with
      | object maps => exact absurd rfl (other maps)
      | _ => rfl
    rw [documentsOf, found]
    rfl

variable (library)

/-- What there is in the file of a library is unforeseen just in these two cases. -/
theorem derails_loadAllWithin (file : archive.disk.read library.path = .ok octets) :
    Derails (library.loadAllWithin requests archive).1 error ↔ Derailed requests octets error := by
  have read : (library.readRecord requests archive).1 =
      decodeRecord library.path requests octets := by
    rw [readRecord, file]
  rw [loadAllWithin_eq, read, derails_bind, derails_decodeRecord]
  simp only [decodeRecord_eq_ok_iff, derails_documentsOf]
  constructor
  · rintro (⟨text, shape, decoded, nested, rfl⟩ |
      ⟨record, ⟨text, decoded, read⟩, value, held, other, rfl⟩)
    · exact .deep decoded nested
    · exact .maps decoded read held other
  · rintro (⟨decoded, nested⟩ | ⟨decoded, read, held, other⟩)
    · exact .inl ⟨_, _, decoded, nested, rfl⟩
    · exact .inr ⟨_, ⟨_, decoded, read⟩, _, held, other, rfl⟩

/-- Where there is a file, reading it leaves no trace. -/
theorem loadAllWithin_archive (requests : Nat)
    (file : archive.disk.read library.path = .ok octets) :
    (library.loadAllWithin requests archive).2 = archive := by
  rw [loadAllWithin_after, readRecord, file]

/-- A reading leaves a trace only where there is no file, and so no map either. -/
theorem loadAllWithin_traceless (found : (library.loadAllWithin requests archive).1 ≠ .ok []) :
    (library.loadAllWithin requests archive).2 = archive := by
  rw [loadAllWithin_eq, readRecord] at found
  rw [loadAllWithin_after, readRecord]
  split at found
  · rfl
  · exact absurd rfl found
  · rfl

/-- A library is not asked for a map of a name while it is read. -/
theorem loadAllWithin_known (failed : (library.loadAllWithin requests archive).1 = .error error) :
    ∀ name user, error ≠ .unknownMap name user := by
  rintro name user rfl
  rw [loadAllWithin_eq] at failed
  cases read : (library.readRecord requests archive).1 with
  | ok record =>
      rw [read] at failed
      rcases documentsOf_error failed with ⟨value, -, -, same⟩ | ⟨invalid, same⟩ <;> cases same
  | error error =>
      rw [read] at failed
      cases failed
      rw [readRecord] at read
      split at read
      · rw [decodeRecord] at read
        split at read
        · cases read
        · split at read <;> cases read
      · cases read
      · cases read

/-! ## What is asked of a library -/

theorem derails_list (file : archive.disk.read library.path = .ok octets) :
    Derails (library.list archive).1 error ↔ Derailed 1 octets error := by
  rw [list_eq, derails_map, library.derails_loadAllWithin file]

theorem list_known (failed : (library.list archive).1 = .error error) :
    ∀ name user, error ≠ .unknownMap name user := by
  rw [list_eq, map_eq_error_iff] at failed
  exact library.loadAllWithin_known failed

/-- A listing leaves a trace only where there is no file, and so no map either. -/
theorem list_traceless (found : (library.list archive).1 ≠ .ok []) :
    (library.list archive).2 = archive := by
  rw [list_after]
  apply library.loadAllWithin_traceless
  intro none
  apply found
  rw [list_eq, none]
  rfl

theorem firstWithin_known (failed : (library.firstWithin requests archive).1 = .error error) :
    ∀ name user, error ≠ .unknownMap name user := by
  rw [firstWithin_eq, map_eq_error_iff] at failed
  exact library.loadAllWithin_known failed

theorem list_archive (file : archive.disk.read library.path = .ok octets) :
    (library.list archive).2 = archive := by
  rw [list_after, library.loadAllWithin_archive 1 file]

/-- A library whose first map cannot be told is left as it is. -/
theorem firstWithin_error_archive (failed : (library.firstWithin requests archive).1 = .error error) :
    (library.firstWithin requests archive).2 = archive := by
  rw [firstWithin_eq, map_eq_error_iff] at failed
  rw [firstWithin_after]
  apply library.loadAllWithin_traceless
  rw [failed]
  nofun

theorem firstWithin_archive (file : archive.disk.read library.path = .ok octets) :
    (library.firstWithin requests archive).2 = archive := by
  rw [firstWithin_after, library.loadAllWithin_archive (requests + 1) file]

theorem loadWithin_archive (file : archive.disk.read library.path = .ok octets) (name : Text) :
    (library.loadWithin requests name archive).2 = archive := by
  rw [loadWithin_after, library.loadAllWithin_archive (requests + 1) file]

/-- A library in which a map is found is left as it is. -/
theorem load_traceless {name : Text} {grid : Grid}
    (found : (library.load name archive).1 = .ok grid) : (library.load name archive).2 = archive := by
  rw [load, loadWithin_after]
  apply library.loadAllWithin_traceless
  intro none
  rw [load_eq, none] at found
  cases found

theorem derails_firstWithin (file : archive.disk.read library.path = .ok octets) :
    Derails (library.firstWithin requests archive).1 error ↔
      Derailed (requests + 1) octets error := by
  rw [firstWithin_eq, derails_map, library.derails_loadAllWithin file]

/-- Missing maps are foreseen. -/
theorem derails_loadWithin (file : archive.disk.read library.path = .ok octets) (name : Text) :
    Derails (library.loadWithin requests name archive).1 error ↔
      Derailed (requests + 1) octets error := by
  rw [loadWithin_eq, derails_bind, library.derails_loadAllWithin file, or_iff_left]
  rintro ⟨shelf, -, failed, unforeseen⟩
  cases found : Shelf.grid? shelf name with
  | some grid => simp [found] at failed
  | none =>
      rw [found] at failed
      cases failed
      exact unforeseen.2 name library.user rfl

end Library

/-- The editor opens unless the library derails. -/
theorem EditorState.derails_ofLibrary {library : Library} {archive : Archive} {octets : ByteArray}
    {error : LibraryError} (file : archive.disk.read library.path = .ok octets) (name : Text) :
    Derails (ofLibrary library name archive).1 error ↔ Library.Derailed 1 octets error := by
  rw [← library.derails_loadWithin file name, ofLibrary]
  split
  · next loaded =>
      rw [Library.load] at loaded
      simp [Derails, loaded]
  · next missing user _ loaded =>
      rw [Library.load] at loaded
      have foreseen : ¬ (LibraryError.unknownMap missing user).Unforeseen :=
        fun unforeseen => unforeseen.2 missing user rfl
      rw [loaded]
      simp only [Derails, Except.error.injEq, reduceCtorEq, false_and, false_iff, not_and]
      rintro rfl
      exact foreseen
  · next loaded =>
      rw [Library.load] at loaded
      simp [Derails, loaded]

/-! ## Choosing a map -/

theorem MapPlan.generate_error {draws : Draws} {error : GenerationError}
    (failed : MapPlan.generate {} draws = .error error) : error = .drawsExhausted := by
  rw [generate] at failed
  split at failed
  · next unfit => exact absurd unfit (by decide)
  dsimp only at failed
  split at failed
  · cases failed
    rfl
  split at failed
  · cases failed
    rfl
  · cases failed

namespace Library

variable {library : Library} {archive : Archive} {name : Option Text} {draws : Draws}

/-- A map is chosen unless the library derails, has no map of the name, or is not as it should
be; or unless it has no maps and the draws run out. -/
theorem derails_choose {octets : ByteArray} {error : LibraryError}
    (file : archive.disk.read library.path = .ok octets) (name : Option Text) (draws : Draws) :
    (library.choose name draws archive).1 = .error (.library error) ∧ error.Unforeseen ↔
      Derailed 2 octets error := by
  rw [choose]
  cases name.filter (· ≠ []) with
  | some name =>
      rw [← library.derails_loadWithin file name]
      dsimp only
      split <;> next loaded => simp [Derails, loaded]
  | none =>
      rw [← library.derails_firstWithin file]
      dsimp only
      split
      · next loaded => simp [Derails, loaded]
      · next loaded => simp [Derails, loaded]
      · next loaded => split <;> simp [Derails, loaded]

theorem choose_generation {error : GenerationError}
    (failed : (library.choose name draws archive).1 = .error (.generation error)) :
    error = .drawsExhausted := by
  rw [choose] at failed
  split at failed
  · split at failed <;> cases failed
  · split at failed
    · cases failed
    · cases failed
    · split at failed
      · next generated =>
          cases failed
          exact MapPlan.generate_error generated
      · cases failed

theorem choose_square {chosen : ChosenMap}
    (picked : (library.choose name draws archive).1 = .ok chosen) :
    chosen.grid.WellFormed Grid.standardSize := by
  rw [choose] at picked
  split at picked
  · split at picked
    · next loaded =>
        cases picked
        exact loadWithin_square (congrArg Prod.fst loaded)
    · cases picked
  · split at picked
    · cases picked
    · next loaded =>
        cases picked
        exact firstWithin_square (congrArg Prod.fst loaded)
    · split at picked
      · cases picked
      · next generated =>
          cases picked
          exact MapPlan.generate_square generated

end Library

end TileWalk
