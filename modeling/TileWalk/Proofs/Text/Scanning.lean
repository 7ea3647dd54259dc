import TileWalk.Text.Scan
import TileWalk.Text.Word

/-!
# What scanning a text finds

Runs of one class of code points, the blanks around a text, and the first place where a pattern
fits, each said about how the text is put together.
-/

namespace TileWalk.Text

/-! ## Runs of one class -/

section Runs

variable {α : Type} {kind : α → Bool} {text run rest : List α} {point : α}

/-- Everything in the text is of one class. -/
def Within (kind : α → Bool) (text : List α) : Prop :=
  ∀ point ∈ text, kind point = true

instance : Decidable (Within kind text) :=
  inferInstanceAs (Decidable (∀ point ∈ text, kind point = true))

/-- The text does not begin with anything of the class. -/
def Stops (kind : α → Bool) (text : List α) : Prop :=
  ∀ point ∈ text.head?, kind point = false

@[simp] theorem within_nil : Within kind [] := by
  simp [Within]

@[simp] theorem within_cons :
    Within kind (point :: text) ↔ kind point = true ∧ Within kind text := by
  simp [Within]

@[simp] theorem stops_nil : Stops kind [] := by
  simp [Stops]

@[simp] theorem stops_cons : Stops kind (point :: text) ↔ kind point = false := by
  simp [Stops]

theorem within_reverse : Within kind text.reverse ↔ Within kind text := by
  simp [Within]

theorem stops_of_append (stops : Stops kind (text ++ rest)) : Stops kind text := by
  cases text with
  | nil => simp
  | cons point text => simpa using stops

/-- A text falls in one way only into a run of one class and what comes after it. -/
theorem takeWhile_dropWhile_iff :
    text.takeWhile kind = run ∧ text.dropWhile kind = rest ↔
      text = run ++ rest ∧ Within kind run ∧ Stops kind rest := by
  constructor
  · rintro ⟨rfl, rfl⟩
    refine ⟨List.takeWhile_append_dropWhile.symm, ?_, ?_⟩
    · exact List.all_eq_true.mp List.all_takeWhile
    · intro point first
      have stops := List.head?_dropWhile_not kind text
      rw [Option.mem_def.mp first] at stops
      exact stops
  · rintro ⟨rfl, within, stops⟩
    rw [List.takeWhile_append_of_pos within, List.dropWhile_append_of_pos within]
    cases rest with
    | nil => simp
    | cons point rest => simp [stops_cons.mp stops]

/-- Every text begins with a run of a class. -/
theorem exists_run (kind : α → Bool) (text : List α) :
    ∃ run rest, text = run ++ rest ∧ Within kind run ∧ Stops kind rest :=
  ⟨_, _, takeWhile_dropWhile_iff.mp ⟨rfl, rfl⟩⟩

theorem dropWhile_eq_iff :
    text.dropWhile kind = rest ↔
      ∃ run, text = run ++ rest ∧ Within kind run ∧ Stops kind rest := by
  constructor
  · intro dropped
    exact ⟨_, takeWhile_dropWhile_iff.mp ⟨rfl, dropped⟩⟩
  · rintro ⟨run, parts⟩
    exact (takeWhile_dropWhile_iff.mpr parts).2

/-- A run does not go on into what begins with something else. -/
theorem takeWhile_dropWhile_append (text : List α) (stops : Stops kind rest) :
    (text ++ rest).takeWhile kind = text.takeWhile kind ∧
      (text ++ rest).dropWhile kind = text.dropWhile kind ++ rest := by
  induction text with
  | nil => exact takeWhile_dropWhile_iff.mpr ⟨rfl, within_nil, stops⟩
  | cons point text ih =>
      by_cases here : kind point = true
      · simpa [here] using ih
      · simp [here]

end Runs

variable {text : Text}

/-! ## Blanks around a text -/

/-- `part` is the text without the blanks around it. -/
structure Trims (text part : Text) : Prop where
  around : ∃ lead trail, text = lead ++ part ++ trail ∧
    Within isBlank lead ∧ Within isBlank trail
  starts : Stops isBlank part
  ends : Stops isBlank part.reverse

theorem strip_eq_iff {kind : CodePoint → Bool} {part : Text} :
    strip kind text = part ↔
      (∃ lead trail, text = lead ++ part ++ trail ∧ Within kind lead ∧ Within kind trail) ∧
        Stops kind part ∧ Stops kind part.reverse := by
  have inner : strip kind text = part ↔
      (text.dropWhile kind).reverse.dropWhile kind = part.reverse := by
    rw [← List.reverse_eq_iff]
    rfl
  rw [inner, dropWhile_eq_iff]
  constructor
  · rintro ⟨trail, left, outer, ends⟩
    have left : text.dropWhile kind = part ++ trail.reverse := by
      simpa using congrArg List.reverse left
    rcases dropWhile_eq_iff.mp left with ⟨lead, whole, before, starts⟩
    refine ⟨⟨lead, trail.reverse, by simpa using whole, before, within_reverse.mpr outer⟩, ?_, ends⟩
    exact stops_of_append starts
  · rintro ⟨⟨lead, trail, whole, before, after⟩, starts, ends⟩
    cases part with
    | nil =>
        -- Nothing is left: all of the text is taken away from the front.
        have outer : Within kind text := by
          rw [whole]
          simpa [Within, or_imp, forall_and] using And.intro before after
        have left : text.dropWhile kind = [] := by
          rw [dropWhile_eq_iff]
          exact ⟨text, by simp, outer, stops_nil⟩
        exact ⟨[], by simp [left]⟩
    | cons point part =>
        have left : text.dropWhile kind = point :: part ++ trail := by
          rw [dropWhile_eq_iff]
          exact ⟨lead, by simpa using whole, before, by simpa using starts⟩
        exact ⟨trail.reverse, by simp [left], within_reverse.mpr after, ends⟩

theorem trim_eq_iff {part : Text} : trim text = part ↔ Trims text part := by
  rw [trim, strip_eq_iff]
  constructor
  · rintro ⟨around, starts, ends⟩
    exact ⟨around, starts, ends⟩
  · rintro ⟨around, starts, ends⟩
    exact ⟨around, starts, ends⟩

/-! ## The first place -/

theorem search?_eq_some_iff {α : Type} {pattern : Text → Option α} {found : α} :
    search? pattern text = some found ↔
      ∃ before after, text = before ++ after ∧ pattern after = some found ∧
        ∀ earlier later, text = earlier ++ later → (pattern later).isSome →
          before.length ≤ earlier.length := by
  constructor
  · intro finds
    induction text with
    | nil => exact ⟨[], [], rfl, finds, by simp⟩
    | cons point text ih =>
        rw [search?] at finds
        cases here : pattern (point :: text) with
        | some other =>
            rw [here] at finds
            exact ⟨[], _, rfl, here.trans finds, by simp⟩
        | none =>
            rw [here] at finds
            rcases ih finds with ⟨before, after, rfl, fits, least⟩
            refine ⟨point :: before, after, rfl, fits, ?_⟩
            intro earlier later split earlierFits
            cases earlier with
            | nil =>
                rw [← show _ = later from split, here] at earlierFits
                cases earlierFits
            | cons first earlier =>
                have split : before ++ after = earlier ++ later := (List.cons.inj split).2
                simpa using least earlier later split earlierFits
  · rintro ⟨before, after, rfl, fits, least⟩
    induction before with
    | nil =>
        cases after with
        | nil => exact fits
        | cons point after => simp [search?, show pattern (point :: after) = some found from fits]
    | cons point before ih =>
        have misses : pattern (point :: (before ++ after)) = none := by
          rw [← Option.not_isSome_iff_eq_none]
          intro early
          simpa using least [] _ rfl early
        rw [List.cons_append, search?, misses]
        apply ih
        intro earlier later split earlierFits
        have further := least (point :: earlier) later (by rw [List.cons_append, split]; rfl)
          earlierFits
        simpa using further

theorem search?_eq_none_iff {α : Type} {pattern : Text → Option α} :
    search? pattern text = none ↔
      ∀ before after, text = before ++ after → pattern after = none := by
  induction text with
  | nil => simp [search?]
  | cons point text ih =>
      rw [search?]
      constructor
      · intro misses before after split
        cases here : pattern (point :: text) with
        | some found => simp [here] at misses
        | none =>
            rw [here] at misses
            cases before with
            | nil => exact (show _ = after from split) ▸ here
            | cons first before => exact ih.mp misses before after (List.cons.inj split).2
      · intro misses
        rw [misses [] _ rfl]
        apply ih.mpr
        intro before after split
        exact misses (point :: before) after (by rw [split]; rfl)

theorem hasDouble_iff {point : CodePoint} :
    hasDouble point text = true ↔ [point, point] <:+: text := by
  induction text with
  | nil => simp [hasDouble]
  | cons first text ih =>
      have here : [point, point] <+: first :: text ↔ first = point ∧ text.head? = some point := by
        cases text with
        | nil => simp
        | cons second text => simp [eq_comm]
      rw [List.infix_cons_iff, here, ← ih]
      simp [hasDouble]

/-! ## Classes that exclude each other -/

/-- The ranges that the blank characters lie in. -/
def blankRanges : Ranges :=
  [(0x09, 0x0D), (0x1C, 0x20), (0x85, 0x85), (0xA0, 0xA0), (0x1680, 0x1680), (0x2000, 0x200A),
   (0x2028, 0x2029), (0x202F, 0x202F), (0x205F, 0x205F), (0x3000, 0x3000)]

theorem blankRanges_covers {point : CodePoint} (blank : isBlank point = true) :
    blankRanges.covers point.code = true := by
  simp only [isBlank, Bool.or_eq_true, Bool.and_eq_true, decide_eq_true_eq, beq_iff_eq] at blank
  simp only [Ranges.covers, blankRanges, List.any_cons, List.any_nil, Bool.or_eq_true,
    Bool.and_eq_true, decide_eq_true_eq]
  omega

/-- Ranges of which none meets one of the others. -/
def Ranges.apart (some others : Ranges) : Bool :=
  some.all fun one => others.all fun other => one.2 < other.1 || other.2 < one.1

theorem Ranges.apart_covers {some others : Ranges} (apart : some.apart others = true)
    {code : Nat} (covered : some.covers code = true) : others.covers code = false := by
  rw [← Bool.not_eq_true, covers_iff]
  rintro ⟨other, membership, low, high⟩
  rcases covers_iff.mp covered with ⟨one, found, above, below⟩
  have separate := List.all_eq_true.mp (List.all_eq_true.mp apart one found) other membership
  simp only [Bool.or_eq_true, decide_eq_true_eq] at separate
  omega

theorem isWord_of_isBlank {point : CodePoint} (blank : isBlank point = true) :
    isWord point = false := by
  have letters : isAlphanumeric point = false :=
    Ranges.apart_covers (by decide +kernel) (blankRanges_covers blank)
  have underscore : point ≠ '_' := by
    rintro rfl
    exact absurd blank (by decide)
  simp [isWord, letters, underscore]

end TileWalk.Text
