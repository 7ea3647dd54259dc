import TileWalk.Map.Document
import TileWalk.Proofs.Numeral.Spelling

/-!
# The whole numbers that texts spell

A text spells a whole number by figures, with blanks around them, a sign, zeros in front and a
fraction of zeros behind. Single underscores may stand between the figures; among the zeros in
front they may stand anywhere, and a minus sign may also stand behind these zeros. The texts that
spell a number are those that are read as it.
-/

namespace TileWalk

open TileWalk.Text

namespace Numeral

/-- A sign, and whether it is a minus sign. -/
inductive Sign : Text → Bool → Prop where
  | none : Sign [] false
  | plus : Sign [.char '+'] false
  | minus : Sign [.char '-'] true

/-- A zero or an underscore. -/
def isPadding (point : CodePoint) : Bool :=
  point == .char '0' || point == .char '_'

/-- Zeros in front of a number, with underscores behind the first one. -/
inductive Padding : Text → Prop where
  | none : Padding []
  | zeros {rest : Text} (within : Within isPadding rest) : Padding (.char '0' :: rest)

/-- An underscore, or nothing. -/
inductive Gap : Text → Prop where
  | none : Gap []
  | underscore : Gap [.char '_']

/-- What stands in front of the figures of a number, and whether the number is negative. -/
inductive Front : Text → Bool → Prop where
  | early {sign zeros : Text} {negative : Bool} (signed : Sign sign negative)
      (padding : Padding zeros) : Front (sign ++ zeros) negative
  /-- A minus sign behind zeros. -/
  | late {sign zeros gap : Text} (unsigned : Sign sign false) (padding : Padding zeros)
      (filled : zeros ≠ []) (apart : Gap gap) : Front (sign ++ zeros ++ .char '-' :: gap) true

/-- Figures with single underscores between them, and the figures alone. -/
inductive Grouped : Text → Text → Prop where
  | last {point : CodePoint} (figure : isFigure point = true) : Grouped [point] [point]
  | next {point : CodePoint} {text figures : Text} (figure : isFigure point = true)
      (rest : Grouped text figures) : Grouped (point :: text) (point :: figures)
  | apart {point : CodePoint} {text figures : Text} (figure : isFigure point = true)
      (rest : Grouped text figures) : Grouped (point :: .char '_' :: text) (point :: figures)

/-- Figures, grouped or not, that spell a number without a zero in front, and are not too many. -/
def Figures (text : Text) (size : Nat) : Prop :=
  ∃ figures, Grouped text figures ∧ Canonical figures size ∧ figures.length ≤ maxDigits

/-- A fraction that is zero, if there is one. -/
inductive ZeroFraction : Text → Prop where
  | none : ZeroFraction []
  | zeros {rest : Text} (filled : rest ≠ []) (within : Within (· == .char '0') rest) :
      ZeroFraction (.char '.' :: rest)

/-- A text spells a whole number. -/
inductive SpellsWhole : Text → Int → Prop where
  | intro {lead front figures fraction trail : Text} {negative : Bool} {size : Nat}
      (before : Within isSpace lead) (signed : Front front negative)
      (spelled : Figures figures size) (zero : ZeroFraction fraction)
      (behind : Within isSpace trail) :
      SpellsWhole (lead ++ (front ++ figures ++ fraction) ++ trail)
        (if negative then -(size : Int) else size)

/-! ## Figures -/

variable {text figures : Text} {size : Nat} {number : Int}

theorem isFigure_ne {point other : CodePoint} (figure : isFigure point = true)
    (no : isFigure other = false) : point ≠ other := by
  rintro rfl
  rw [figure] at no
  cases no

/-- How grouped figures are made up. -/
structure Grouped.Facts (text figures : Text) : Prop where
  starts : ∃ point rest, text = point :: rest ∧ isFigure point = true
  ends : text.getLast? ≠ some (.char '_')
  single : hasDouble (.char '_') text = false
  bare : text.filter (· != .char '_') = figures
  plain : Within isFigure figures

theorem Grouped.facts (grouped : Grouped text figures) : Grouped.Facts text figures := by
  induction grouped with
  | @last point figure =>
      have other : point ≠ .char '_' := isFigure_ne figure (by decide)
      exact ⟨⟨point, [], rfl, figure⟩, by simpa using other, by simp [hasDouble],
        by simp [other], by simpa using figure⟩
  | @next point text figures figure rest ih =>
      have other : point ≠ .char '_' := isFigure_ne figure (by decide)
      rcases ih with ⟨⟨first, more, rfl, -⟩, ends, single, bare, plain⟩
      refine ⟨⟨point, _, rfl, figure⟩, by simpa using ends, ?_, ?_, by simp [figure, plain]⟩
      · rw [hasDouble, single]
        simp [other]
      · rw [List.filter_cons, bare]
        simp [other]
  | @apart point text figures figure rest ih =>
      have other : point ≠ .char '_' := isFigure_ne figure (by decide)
      rcases ih with ⟨⟨first, more, rfl, leads⟩, ends, single, bare, plain⟩
      have far : first ≠ .char '_' := isFigure_ne leads (by decide)
      refine ⟨⟨point, _, rfl, figure⟩, by simpa using ends, ?_, ?_, by simp [figure, plain]⟩
      · rw [hasDouble, hasDouble, single]
        simp [other, far]
      · rw [List.filter_cons, List.filter_cons, bare]
        simp [other]

/-- What is left between underscores is grouped figures, but for an underscore in front of them. -/
theorem exists_grouped (ends : text.getLast? ≠ some (.char '_'))
    (single : hasDouble (.char '_') text = false) (bare : text.filter (· != .char '_') = figures)
    (filled : figures ≠ []) (plain : Within isFigure figures) :
    ∃ gap grouped, text = gap ++ grouped ∧ Gap gap ∧ Grouped grouped figures := by
  induction text generalizing figures with
  | nil => exact absurd bare.symm filled
  | cons point rest ih =>
      rw [hasDouble, Bool.or_eq_false_iff] at single
      by_cases under : point = .char '_'
      · subst under
        have bare : rest.filter (· != .char '_') = figures := by simpa using bare
        have more : rest ≠ [] := by
          rintro rfl
          exact filled bare.symm
        rw [List.getLast?_cons_of_ne_nil more] at ends
        rcases ih ends single.2 bare filled plain with ⟨gap, grouped, rfl, apart, groups⟩
        cases apart with
        | none => exact ⟨[.char '_'], grouped, rfl, .underscore, groups⟩
        | underscore => simp at single
      · rw [List.filter_cons_of_pos (by simpa using under)] at bare
        subst bare
        rcases within_cons.mp plain with ⟨figure, plain⟩
        by_cases alone : rest.filter (· != .char '_') = []
        · have none : rest = [] := by
            rcases List.eq_nil_or_concat rest with none | ⟨before, last, rfl⟩
            · exact none
            · have kept := List.filter_eq_nil_iff.mp alone last (by simp)
              simp only [bne_iff_ne, ne_eq, not_not] at kept
              subst kept
              rw [List.concat_eq_append, ← List.cons_append, List.getLast?_concat] at ends
              exact absurd rfl ends
          subst none
          exact ⟨[], [point], rfl, .none, .last figure⟩
        · have more : rest ≠ [] := by
            rintro rfl
            exact alone rfl
          rw [List.getLast?_cons_of_ne_nil more] at ends
          rcases ih ends single.2 rfl alone plain with ⟨gap, grouped, rfl, apart, groups⟩
          cases apart with
          | none => exact ⟨[], _, rfl, .none, .next figure groups⟩
          | underscore => exact ⟨[], _, rfl, .none, .apart figure groups⟩

theorem Figures.starts (figures : Figures text size) : text = [.char '0'] ∨
    ∃ point more, text = point :: more ∧ isFigure point = true ∧ point ≠ .char '0' := by
  rcases figures with ⟨bare, grouped, canonical, -⟩
  rcases grouped.facts.starts with ⟨point, more, rfl, figure⟩
  by_cases zero : point = .char '0'
  · subst zero
    have alone : bare = [.char '0'] := canonical.leading (by cases grouped <;> rfl)
    subst alone
    cases grouped with
    | last => exact .inl rfl
    | next _ rest => cases rest
    | apart _ rest => cases rest
  · exact .inr ⟨point, more, rfl, figure, zero⟩

theorem ZeroFraction.stops {fraction : Text} (zero : ZeroFraction fraction)
    {kind : CodePoint → Bool} (other : kind (.char '.') = false) : Stops kind fraction := by
  cases zero with
  | none => exact stops_nil
  | zeros => exact stops_cons.mpr other

end Numeral

namespace MapDocument

open Numeral

variable {text rest bare zeros fraction : Text} {size : Nat} {number : Int} {negative : Bool}

theorem dropUnderscores?_eq_some_iff : dropUnderscores? text = some bare ↔
    text.head? ≠ some (.char '_') ∧ text.getLast? ≠ some (.char '_') ∧
      hasDouble (.char '_') text = false ∧ text.filter (· != .char '_') = bare := by
  simp [dropUnderscores?, and_assoc]

theorem dropUnderscores?_grouped (grouped : Grouped text bare) :
    dropUnderscores? text = some bare := by
  rcases grouped.facts with ⟨⟨point, rest, rfl, figure⟩, ends, single, bare, -⟩
  refine dropUnderscores?_eq_some_iff.mpr ⟨?_, ends, single, bare⟩
  have other : point ≠ .char '_' := isFigure_ne figure (by decide)
  simpa using other

theorem plainNatural?_eq_some_iff : plainNatural? text = some size ↔
    Canonical text size ∧ text.length ≤ maxDigits := by
  cases text with
  | nil =>
      constructor
      · rintro ⟨⟩
      · rintro ⟨canonical, -⟩
        exact absurd rfl canonical.spells.filled
  | cons first rest =>
      simp only [plainNatural?, convert]
      constructor
      · intro read
        split at read
        · cases read
        next leading =>
        split at read
        next figures =>
          have plain : Within isFigure (first :: rest) := List.all_eq_true.mp figures
          split at read
          · cases read
          · next short =>
              cases read
              refine ⟨⟨spells_valueOf (by simp) (within_isDigit plain), plain, ?_⟩,
                Nat.le_of_not_lt short⟩
              intro zero
              have zero : first = .char '0' := by simpa using zero
              have alone : rest = [] := by
                by_contra more
                exact leading ⟨zero, more⟩
              rw [zero, alone]
        · cases read
      · rintro ⟨canonical, short⟩
        have leading : ¬ (first = .char '0' ∧ rest ≠ []) := by
          rintro ⟨rfl, more⟩
          exact more (List.cons.inj (canonical.leading rfl)).2
        rw [if_neg leading, if_pos (List.all_eq_true.mpr canonical.plain), if_neg (by omega),
          canonical.spells.valueOf]
        rfl

theorem plainInteger?_eq_some_iff : plainInteger? text = some number ↔ ∃ size : Nat,
    (∃ figures, text = .char '-' :: figures ∧ plainNatural? figures = some size ∧
      number = -(size : Int)) ∨ plainNatural? text = some size ∧ number = size := by
  rw [plainInteger?.eq_def]
  split
  · next figures =>
      have unread (size : Nat) : plainNatural? (.char '-' :: figures) ≠ some size := by
        rw [ne_eq, plainNatural?_eq_some_iff]
        rintro ⟨canonical, -⟩
        exact absurd (within_cons.mp canonical.plain).1 (by decide)
      rw [Option.map_eq_some_iff]
      constructor
      · rintro ⟨size, read, rfl⟩
        exact ⟨size, .inl ⟨figures, rfl, read, rfl⟩⟩
      · rintro ⟨size, ⟨_, ⟨⟩, read, rfl⟩ | ⟨read, -⟩⟩
        · exact ⟨size, read, rfl⟩
        · exact absurd read (unread size)
  · next unsigned =>
      rw [Option.map_eq_some_iff]
      constructor
      · rintro ⟨size, read, rfl⟩
        exact ⟨size, .inr ⟨read, rfl⟩⟩
      · rintro ⟨size, ⟨figures, rfl, -, -⟩ | ⟨read, rfl⟩⟩
        · exact absurd rfl (unsigned figures)
        · exact ⟨size, read, rfl⟩

/-- What is left of a number without a sign and the zeros in front: figures, or a minus sign and
figures. -/
inductive Significant (negative : Bool) : Text → Int → Prop where
  | figures {text : Text} {size : Nat} (spelled : Figures text size) :
      Significant negative text (if negative then -(size : Int) else size)
  | late {gap text : Text} {size : Nat} (unsigned : negative = false) (apart : Gap gap)
      (spelled : Figures text size) :
      Significant negative (.char '-' :: (gap ++ text)) (-(size : Int))

theorem grouped_of_dropUnderscores? (dropped : dropUnderscores? text = some bare)
    (filled : bare ≠ []) (plain : Within isFigure bare) : Grouped text bare := by
  rcases dropUnderscores?_eq_some_iff.mp dropped with ⟨starts, ends, single, kept⟩
  rcases exists_grouped ends single kept filled plain with ⟨gap, grouped, rfl, apart, groups⟩
  cases apart with
  | none => exact groups
  | underscore => simp at starts

theorem late_of_dropUnderscores? (dropped : dropUnderscores? text = some (.char '-' :: bare))
    (filled : bare ≠ []) (plain : Within isFigure bare) :
    ∃ gap grouped, text = .char '-' :: (gap ++ grouped) ∧ Gap gap ∧ Grouped grouped bare := by
  rcases dropUnderscores?_eq_some_iff.mp dropped with ⟨starts, ends, single, kept⟩
  cases text with
  | nil => cases kept
  | cons point rest =>
      have other : point ≠ .char '_' := by simpa using starts
      rw [List.filter_cons_of_pos (by simpa using other), List.cons.injEq] at kept
      rcases kept with ⟨rfl, kept⟩
      have more : rest ≠ [] := by
        rintro rfl
        exact filled kept.symm
      rw [List.getLast?_cons_of_ne_nil more] at ends
      rw [hasDouble, Bool.or_eq_false_iff] at single
      rcases exists_grouped ends single.2 kept filled plain with ⟨gap, grouped, rfl, apart, groups⟩
      exact ⟨gap, grouped, rfl, apart, groups⟩

theorem dropUnderscores?_late {gap : Text} (apart : Gap gap) (grouped : Grouped text bare) :
    dropUnderscores? (.char '-' :: (gap ++ text)) = some (.char '-' :: bare) := by
  rcases grouped.facts with ⟨⟨point, rest, rfl, figure⟩, ends, single, kept, -⟩
  have other : point ≠ .char '_' := isFigure_ne figure (by decide)
  refine dropUnderscores?_eq_some_iff.mpr ⟨by simp, ?_, ?_, ?_⟩
  · cases apart <;> simpa using ends
  · cases apart <;> simp [hasDouble, other] at single ⊢ <;> exact single
  · rw [← kept]
    cases apart <;> simp

/-- Without its underscores, what is left of a number is a plain whole number. -/
theorem significant_iff : (∃ bare, dropUnderscores? text = some bare ∧
    plainInteger? (if negative then .char '-' :: bare else bare) = some number) ↔
      Significant negative text number := by
  constructor
  · rintro ⟨bare, dropped, read⟩
    rcases plainInteger?_eq_some_iff.mp read with
      ⟨size, ⟨figures, signed, natural, rfl⟩ | ⟨natural, rfl⟩⟩
    · rcases plainNatural?_eq_some_iff.mp natural with ⟨canonical, short⟩
      cases negative with
      | true =>
          obtain rfl := (List.cons.inj signed).2
          have grouped : Grouped text _ :=
            grouped_of_dropUnderscores? dropped canonical.spells.filled canonical.plain
          exact .figures ⟨_, grouped, canonical, short⟩
      | false =>
          subst signed
          rcases late_of_dropUnderscores? dropped canonical.spells.filled canonical.plain with
            ⟨gap, grouped, rfl, apart, groups⟩
          exact .late rfl apart ⟨_, groups, canonical, short⟩
    · rcases plainNatural?_eq_some_iff.mp natural with ⟨canonical, short⟩
      cases negative with
      | true => exact absurd (within_cons.mp canonical.plain).1 (by decide)
      | false =>
          have grouped : Grouped text _ :=
            grouped_of_dropUnderscores? dropped canonical.spells.filled canonical.plain
          exact .figures ⟨_, grouped, canonical, short⟩
  · intro significant
    cases significant with
    | @figures _ size spelled =>
        rcases spelled with ⟨bare, grouped, canonical, short⟩
        have natural := plainNatural?_eq_some_iff.mpr ⟨canonical, short⟩
        refine ⟨bare, dropUnderscores?_grouped grouped, plainInteger?_eq_some_iff.mpr ⟨size, ?_⟩⟩
        cases negative with
        | true => exact .inl ⟨bare, rfl, natural, rfl⟩
        | false => exact .inr ⟨natural, rfl⟩
    | @late gap _ size unsigned apart spelled =>
        rcases spelled with ⟨bare, grouped, canonical, short⟩
        have natural := plainNatural?_eq_some_iff.mpr ⟨canonical, short⟩
        subst unsigned
        exact ⟨_, dropUnderscores?_late apart grouped,
          plainInteger?_eq_some_iff.mpr ⟨size, .inl ⟨bare, rfl, natural, rfl⟩⟩⟩

/-! ## The fraction -/

theorem dropZeroFraction?_eq_some_iff : dropZeroFraction? text = some rest ↔
    .char '.' ∉ rest ∧ ∃ fraction, ZeroFraction fraction ∧ text = rest ++ fraction := by
  have before {whole : Text} : Within (· != .char '.') whole ↔ .char '.' ∉ whole := by
    simp [Within, List.forall_mem_ne']
  have parts := takeWhile_dropWhile_iff.mp
    ⟨rfl, (rfl : text.dropWhile (· != .char '.') = text.dropWhile (· != .char '.'))⟩
  rw [dropZeroFraction?]
  constructor
  · intro dropped
    split at dropped
    · next ends =>
        cases dropped
        refine ⟨?_, [], .none, (List.append_nil _).symm⟩
        rw [ends, List.append_nil] at parts
        exact before.mp (parts.1 ▸ parts.2.1)
    · cases dropped
    · next point fraction filled left =>
        split at dropped
        · next zeros =>
            cases dropped
            rw [left] at parts
            have dot : point = .char '.' := by simpa using parts.2.2
            subst dot
            exact ⟨before.mp parts.2.1, _, .zeros filled (List.all_eq_true.mp zeros), parts.1⟩
        · cases dropped
  · rintro ⟨whole, fraction, zero, rfl⟩
    have stops : Stops (· != .char '.') fraction := by
      cases zero with
      | none => exact stops_nil
      | zeros filled within => exact stops_cons.mpr (by simp)
    rcases takeWhile_dropWhile_iff.mpr ⟨rfl, before.mpr whole, stops⟩ with ⟨taken, left⟩
    rw [left, taken]
    cases zero with
    | none => rw [List.append_nil]
    | zeros filled within =>
        rcases List.exists_cons_of_ne_nil filled with ⟨first, more, rfl⟩
        exact if_pos (List.all_eq_true.mpr within)

/-! ## Zeros in front -/

/-- The last of the zeros in front can be told apart from the others. -/
theorem exists_last_zero (within : Within isPadding zeros) : ∃ first last, Padding first ∧
    zeros.getLast?.getD (.char '0') = last ∧ isPadding last = true ∧
      .char '0' :: zeros = first ++ [last] := by
  rcases List.eq_nil_or_concat zeros with rfl | ⟨before, last, rfl⟩
  · exact ⟨[], .char '0', .none, rfl, by decide, rfl⟩
  · refine ⟨.char '0' :: before, last, .zeros ?_, by simp, within last (by simp), by simp⟩
    intro point known
    exact within point (by simp [known])

theorem dropLeadingZeros?_zeros (within : Within isPadding zeros) (stops : Stops isPadding rest) :
    dropLeadingZeros? (.char '0' :: (zeros ++ rest)) =
      behindZeros? (zeros.getLast?.getD (.char '0')) rest := by
  have taken : (zeros ++ rest).takeWhile isPadding = zeros :=
    (takeWhile_dropWhile_iff.mpr ⟨rfl, within, stops⟩).1
  have same : (fun point => point == .char '0' || point == .char '_') = isPadding := rfl
  simp only [dropLeadingZeros?, same, taken, List.drop_left]

theorem padded_of_behindZeros? (within : Within isPadding zeros)
    (kept : behindZeros? (zeros.getLast?.getD (.char '0')) text = some rest) :
    ∃ padding, Padding padding ∧ .char '0' :: (zeros ++ text) = padding ++ rest ∧
      (rest.head? = some (.char '-') → padding ≠ []) := by
  rcases exists_last_zero within with ⟨first, last, padding, same, zero, parts⟩
  rw [same] at kept
  have other : last ≠ .char '-' := by
    rintro rfl
    exact absurd zero (by decide)
  cases text with
  | nil =>
      cases kept
      exact ⟨first, padding, by simpa using parts, by simp [other]⟩
  | cons point more =>
      rw [behindZeros?.eq_def] at kept
      split at kept
      · next none => cases none
      · next fraction same =>
          cases same
          cases kept
          refine ⟨first, padding, ?_, by simp [other]⟩
          rw [← List.cons_append, parts, List.append_assoc]
          rfl
      · next same =>
          cases same
          split at kept
          · cases kept
            exact ⟨.char '0' :: zeros, .zeros within, rfl, by simp⟩
          · cases kept

theorem padded_of_dropLeadingZeros? (dropped : dropLeadingZeros? text = some rest) :
    ∃ zeros, Padding zeros ∧ text = zeros ++ rest ∧
      (rest.head? = some (.char '-') → zeros ≠ []) := by
  rw [dropLeadingZeros?.eq_def] at dropped
  split at dropped
  · next behind =>
      rcases exists_run isPadding behind with ⟨zeros, text, rfl, within, stops⟩
      rw [← dropLeadingZeros?, dropLeadingZeros?_zeros within stops] at dropped
      exact padded_of_behindZeros? within dropped
  · split at dropped
    · next figure =>
        cases dropped
        refine ⟨[], .none, rfl, ?_⟩
        intro minus
        rw [minus] at figure
        exact absurd figure (by decide)
    · cases dropped

/-- What is left of a number is a single zero, or it begins with something else. -/
theorem Significant.starts (significant : Significant negative text number) : text = [.char '0'] ∨
    ∃ point more, text = point :: more ∧ isPadding point = false ∧
      (isFigure point = true ∨ point = .char '-') := by
  cases significant with
  | figures spelled =>
      rcases spelled.starts with alone | ⟨point, more, rfl, figure, zero⟩
      · exact .inl alone
      · have other : point ≠ .char '_' := isFigure_ne figure (by decide)
        exact .inr ⟨point, more, rfl, by simp [isPadding, zero, other], .inl figure⟩
  | late => exact .inr ⟨_, _, rfl, by decide, .inr rfl⟩

theorem behindZeros?_fraction (zero : ZeroFraction fraction) (last : CodePoint) :
    behindZeros? last fraction = some (last :: fraction) := by
  cases zero <;> rfl

theorem dropLeadingZeros?_zero (padding : Padding zeros) (zero : ZeroFraction fraction) :
    dropLeadingZeros? (zeros ++ .char '0' :: fraction) = some (.char '0' :: fraction) := by
  have stops : Stops isPadding fraction := zero.stops (by decide)
  cases padding with
  | none =>
      have dropped := dropLeadingZeros?_zeros within_nil stops
      rw [behindZeros?_fraction zero] at dropped
      exact dropped
  | @zeros rest within =>
      have within : Within isPadding (rest ++ [.char '0']) := by
        simpa [Within, or_imp, forall_and, isPadding] using within
      have dropped := dropLeadingZeros?_zeros within stops
      rw [behindZeros?_fraction zero] at dropped
      simpa using dropped

/-- Behind its sign a number begins with a figure. -/
theorem exists_figure (padding : Padding zeros) (significant : Significant negative text number)
    (late : text.head? = some (.char '-') → zeros ≠ []) :
    ∃ point more, zeros ++ (text ++ fraction) = point :: more ∧ isFigure point = true := by
  cases padding with
  | zeros => exact ⟨_, _, rfl, by decide⟩
  | none =>
      rcases significant.starts with rfl | ⟨point, more, rfl, -, figure | rfl⟩
      · exact ⟨_, _, rfl, by decide⟩
      · exact ⟨point, _, rfl, figure⟩
      · exact absurd rfl (late rfl)

theorem dropLeadingZeros?_padded (padding : Padding zeros)
    (significant : Significant negative text number) (zero : ZeroFraction fraction)
    (late : text.head? = some (.char '-') → zeros ≠ []) :
    dropLeadingZeros? (zeros ++ (text ++ fraction)) = some (text ++ fraction) := by
  rcases significant.starts with rfl | ⟨point, more, rfl, other, starts⟩
  · exact dropLeadingZeros?_zero padding zero
  · cases padding with
    | none =>
        have figure : isFigure point = true := by
          rcases starts with figure | rfl
          · exact figure
          · exact absurd rfl (late rfl)
        rw [List.nil_append, List.cons_append, dropLeadingZeros?.eq_def]
        split
        · next same =>
            cases same
            exact absurd other (by decide)
        · simp [figure]
    | @zeros rest within =>
        rw [List.cons_append, List.cons_append,
          dropLeadingZeros?_zeros within (stops_cons.mpr other), behindZeros?.eq_def]
        split
        · next same => cases same
        · next same =>
            cases same
            exact absurd starts (by decide)
        · next same =>
            cases same
            exact if_pos (by simpa using starts)

/-! ## Signs -/

theorem signed_of_splitSign? (split : splitSign? text = some (negative, rest)) :
    ∃ sign, Sign sign negative ∧ text = sign ++ rest := by
  rw [splitSign?.eq_def] at split
  split at split
  · cases split
  · cases split
    exact ⟨_, .plus, rfl⟩
  · cases split
    exact ⟨_, .minus, rfl⟩
  · cases split
    exact ⟨_, .none, rfl⟩

theorem splitSign?_signed {sign : Text} (signed : Sign sign negative) {point : CodePoint}
    (figure : isFigure point = true) :
    splitSign? (sign ++ point :: rest) = some (negative, point :: rest) := by
  have plus : point ≠ .char '+' := isFigure_ne figure (by decide)
  have minus : point ≠ .char '-' := isFigure_ne figure (by decide)
  cases signed <;> simp [splitSign?, plus, minus]

/-! ## The whole text -/

/-- A code point that a number may be written with, but for the point of its fraction. -/
def isMark (point : CodePoint) : Bool :=
  isFigure point || point == .char '_' || point == .char '-' || point == .char '+'

theorem isSpace_of_isMark {point : CodePoint} (mark : isMark point = true) :
    isSpace point = false := by
  simp only [isMark, Bool.or_eq_true, beq_iff_eq] at mark
  rcases mark with ((figure | rfl) | rfl) | rfl
  · rcases isFigure_iff.mp figure with ⟨low, high⟩
    simp [isSpace, isBlank]
    omega
  all_goals decide

theorem Significant.marks (significant : Significant negative text number) :
    Within isMark text := by
  have figures {text : Text} {size : Nat} (spelled : Figures text size) : Within isMark text := by
    rcases spelled with ⟨bare, grouped, -⟩
    induction grouped with
    | last figure => simp [isMark, figure]
    | next figure rest ih => simp [isMark, figure, ih]
    | apart figure rest ih => simp [isMark, figure, ih]
  cases significant with
  | figures spelled => exact figures spelled
  | late unsigned apart spelled => cases apart <;> simpa [isMark] using figures spelled

/-- No blanks are within what spells a number. -/
theorem isSpace_of_spelling {sign : Text} (signed : Sign sign negative) (padding : Padding zeros)
    (significant : Significant negative text number) (zero : ZeroFraction fraction) :
    ∀ point ∈ sign ++ (zeros ++ (text ++ fraction)), isSpace point = false := by
  have before : Within isMark sign := by
    cases signed <;> decide
  have leading : Within isMark zeros := by
    cases padding with
    | none => exact within_nil
    | zeros within =>
        refine within_cons.mpr ⟨by decide, fun point known => ?_⟩
        have kind := within point known
        simp only [isPadding, Bool.or_eq_true, beq_iff_eq] at kind
        rcases kind with rfl | rfl <;> decide
  have behind : ∀ point ∈ fraction, isSpace point = false := by
    cases zero with
    | none => simp
    | zeros _ within =>
        refine List.forall_mem_cons.mpr ⟨by decide, fun point known => ?_⟩
        obtain rfl : point = .char '0' := by simpa using within point known
        decide
  intro point known
  simp only [List.mem_append] at known
  rcases known with known | known | known | known
  · exact isSpace_of_isMark (before point known)
  · exact isSpace_of_isMark (leading point known)
  · exact isSpace_of_isMark (significant.marks point known)
  · exact behind point known

theorem stops_of_forall {kind : CodePoint → Bool} (none : ∀ point ∈ text, kind point = false) :
    Stops kind text :=
  fun point first => none point (List.mem_of_mem_head? first)

theorem textInteger?_parts {lead sign trail : Text} (before : Within isSpace lead)
    (signed : Sign sign negative) (padding : Padding zeros)
    (significant : Significant negative text number)
    (late : text.head? = some (.char '-') → zeros ≠ []) (zero : ZeroFraction fraction)
    (behind : Within isSpace trail) :
    textInteger? (lead ++ (sign ++ (zeros ++ (text ++ fraction))) ++ trail) = some number := by
  have inked := isSpace_of_spelling signed padding significant zero
  have stripped : strip isSpace (lead ++ (sign ++ (zeros ++ (text ++ fraction))) ++ trail) =
      sign ++ (zeros ++ (text ++ fraction)) := by
    refine strip_eq_iff.mpr ⟨⟨lead, trail, rfl, before, behind⟩, stops_of_forall inked, ?_⟩
    exact stops_of_forall fun point known => inked point (List.mem_reverse.mp known)
  have dropped := dropLeadingZeros?_padded padding significant zero late
  have split : splitSign? (sign ++ (zeros ++ (text ++ fraction))) =
      some (negative, zeros ++ (text ++ fraction)) := by
    rcases exists_figure padding significant late with ⟨point, more, same, figure⟩
    rw [same]
    exact splitSign?_signed signed figure
  have whole : dropZeroFraction? (text ++ fraction) = some text := by
    refine dropZeroFraction?_eq_some_iff.mpr ⟨fun point => ?_, fraction, zero, rfl⟩
    exact absurd (significant.marks _ point) (by decide)
  rcases significant_iff.mpr significant with ⟨bare, kept, read⟩
  simp only [textInteger?, stripped, split, dropped, whole, kept, read, Option.bind_eq_bind,
    Option.bind_some]

/-- The texts that spell a whole number are those that are read as it. -/
theorem textInteger?_eq_some_iff : textInteger? text = some number ↔ SpellsWhole text number := by
  constructor
  · intro read
    simp only [textInteger?, Option.bind_eq_bind, Option.bind_eq_some_iff] at read
    rcases read with ⟨⟨negative, unsigned⟩, split, padded, dropped, whole, cut, bare, kept, read⟩
    rcases (strip_eq_iff.mp (rfl : strip isSpace text = strip isSpace text)).1 with
      ⟨lead, trail, parts, before, behind⟩
    rcases signed_of_splitSign? split with ⟨sign, signed, same⟩
    rcases padded_of_dropLeadingZeros? dropped with ⟨zeros, padding, rfl, late⟩
    rcases dropZeroFraction?_eq_some_iff.mp cut with ⟨-, fraction, zero, rfl⟩
    have significant := significant_iff.mp ⟨bare, kept, read⟩
    rw [same] at parts
    rw [parts]
    cases significant with
    | figures spelled =>
        have spelling := SpellsWhole.intro before (.early signed padding) spelled zero behind
        simpa using spelling
    | late unsigned apart spelled =>
        subst unsigned
        have spelling := SpellsWhole.intro before (.late signed padding (late rfl) apart) spelled
          zero behind
        simpa using spelling
  · intro spells
    cases spells with
    | @intro _ _ figures _ _ _ _ before signed spelled zero behind =>
        cases signed with
        | early signed padding =>
            have unsigned : figures.head? ≠ some (.char '-') := by
              intro minus
              rcases spelled.starts with rfl | ⟨point, more, rfl, figure, -⟩
              · cases minus
              · cases minus
                cases figure
            have read := textInteger?_parts before signed padding (.figures spelled)
              (fun minus => absurd minus unsigned) zero behind
            simpa using read
        | late signed padding filled apart =>
            have read := textInteger?_parts before signed padding
              (.late rfl apart spelled) (fun _ => filled) zero behind
            simpa using read

end MapDocument

end TileWalk
