import TileWalk.Proofs.Json.Reading

/-!
# The texts of doubles

The text that is written for a double is read as a double. It is a word for what is
not finite; otherwise it is a number with figures after a point, with a power of ten,
or with both.
-/

namespace TileWalk.Json

open TileWalk.Text

variable {figures rest whole fraction power : List Char} {char : Char}

/-! ## The parts of a number -/

theorem takeFigures_run (within : Within Char.isDigit figures) (stops : Stops Char.isDigit rest) :
    takeFigures (figures ++ rest) = (figures, rest) := by
  rcases takeWhile_dropWhile_iff.mpr ⟨rfl, within, stops⟩ with ⟨taken, dropped⟩
  rw [takeFigures, taken, dropped]

/-- The figures before a point, with no zero in front. -/
inductive Whole : List Char → Prop
  | zero : Whole ['0']
  | figures {char : Char} {figures : List Char} (other : char ≠ '0')
    (within : Within Char.isDigit (char :: figures)) : Whole (char :: figures)

/-- A point and figures after it, if there are any. -/
inductive Fraction : List Char → Prop
  | none : Fraction []
  | figures {figures : List Char} (some : figures ≠ []) (within : Within Char.isDigit figures) :
    Fraction ('.' :: figures)

/-- A power of ten with a sign, if there is one. -/
inductive Power : List Char → Prop
  | none : Power []
  | figures {sign : Char} {figures : List Char} (signed : sign = '+' ∨ sign = '-')
    (some : figures ≠ []) (within : Within Char.isDigit figures) : Power ('e' :: sign :: figures)

theorem Whole.digit (spelled : Whole whole) :
    ∃ char rest, whole = char :: rest ∧ char.isDigit = true := by
  cases spelled with
  | zero => exact ⟨'0', [], rfl, by decide⟩
  | figures other within => exact ⟨_, _, rfl, (within_cons.mp within).1⟩

theorem Fraction.stops (spelled : Fraction fraction) (stops : Stops Char.isDigit rest) :
    Stops Char.isDigit (fraction ++ rest) := by
  cases spelled with
  | none => exact stops
  | figures some within =>
      rw [List.cons_append, stops_cons]
      decide

theorem Power.stops (spelled : Power power) : Stops Char.isDigit power := by
  cases spelled with
  | none => exact stops_nil
  | figures signed some within =>
      rw [stops_cons]
      decide

theorem Whole.take (spelled : Whole whole) (stops : Stops Char.isDigit rest) :
    takeWhole (whole ++ rest) = (whole, rest) := by
  cases spelled with
  | zero => rfl
  | figures other within => simpa [takeWhole, other] using takeFigures_run within stops

theorem Fraction.take (spelled : Fraction fraction) (tail : Power power) :
    ∃ found, takeFraction (fraction ++ power) = (found, power) ∧
      (found = .none → fraction = []) := by
  cases spelled with
  | none =>
      cases tail with
      | none => exact ⟨.none, rfl, fun _ => rfl⟩
      | figures signed some within => exact ⟨.none, rfl, fun _ => rfl⟩
  | @figures figures some within =>
      refine ⟨.some figures, ?_, by simp⟩
      simp [takeFraction, takeFigures_run within tail.stops, some]

theorem Power.take (spelled : Power power) :
    ∃ found, takePower power = (found, []) ∧ (found = .none → power = []) := by
  cases spelled with
  | none => exact ⟨.none, rfl, fun _ => rfl⟩
  | @figures sign figures signed some within =>
      have run : takeFigures figures = (figures, []) := by
        simpa using takeFigures_run within stops_nil
      rcases signed with rfl | rfl
      · exact ⟨_, by simp [takePower, takeSign, run, some]; rfl, by simp⟩
      · exact ⟨_, by simp [takePower, takeSign, run, some]; rfl, by simp⟩

/-- A number is a double if anything stands behind the figures before its point. -/
theorem readNumber_double (negative : Bool) (before : Whole whole) (middle : Fraction fraction)
    (tail : Power power) (marked : fraction ++ power ≠ []) :
    ∃ double, readNumber negative (whole ++ (fraction ++ power)) = .ok (.float double, []) := by
  rcases middle.take tail with ⟨found, fractionTaken, pointless⟩
  rcases tail.take with ⟨raised, powerTaken, plain⟩
  have some : whole ≠ [] := by
    rcases before.digit with ⟨char, rest, rfl, -⟩
    simp
  have kept : ¬ (found = .none ∧ raised = .none) := by
    rintro ⟨lost, lost'⟩
    exact marked (by rw [pointless lost, plain lost']; rfl)
  simp only [readNumber, before.take (middle.stops tail.stops), fractionTaken, powerTaken, some,
    kept, if_false]
  exact ⟨_, rfl⟩

/-! ## Doubles as they are written -/

/-- A number that is written as a double is. -/
def Spelled (chars : List Char) : Prop :=
  ∃ whole fraction power, chars = whole ++ (fraction ++ power) ∧ Whole whole ∧
    Fraction fraction ∧ Power power ∧ fraction ++ power ≠ []

/-- Zeros are only dropped behind the figures. -/
theorem dropZeros_cons (other : char ≠ '0') (within : Within Char.isDigit (char :: figures)) :
    ∃ kept, (Decimal.dropZeros (char :: figures)).1 = char :: kept ∧
      Within Char.isDigit (char :: kept) := by
  rcases within_cons.mp within with ⟨first, rest⟩
  refine ⟨(Decimal.dropZeros figures).1, ?_, within_cons.mpr ⟨first, ?_⟩⟩
  · simp only [Decimal.dropZeros, List.reverse_cons, List.dropWhile_append]
    split
    · next zeros => simp [other, List.isEmpty_iff.mp zeros]
    · simp
  · intro figure membership
    rw [Decimal.dropZeros, List.mem_reverse] at membership
    exact rest figure (List.mem_reverse.mp ((List.dropWhile_sublist _).subset membership))

theorem within_replicate (count : Nat) : Within Char.isDigit (List.replicate count '0') := by
  intro figure membership
  rw [List.eq_of_mem_replicate membership]
  decide

theorem writePositional_spelled (other : char ≠ '0')
    (within : Within Char.isDigit (char :: figures)) (point : Int) :
    Spelled (Decimal.writePositional (char :: figures) point) := by
  rw [Decimal.writePositional]
  split
  · refine ⟨['0'], '.' :: (List.replicate (-point).toNat '0' ++ char :: figures), [], by simp,
      .zero, .figures (by simp) ?_, .none, by simp⟩
    intro figure membership
    rcases List.mem_append.mp membership with zeros | digits
    · exact within_replicate _ figure zeros
    · exact within figure digits
  · split
    · refine ⟨char :: (figures ++ List.replicate (point.toNat - (char :: figures).length) '0'),
        ['.', '0'], [], by simp, .figures other ?_, .figures (by simp) (by decide), .none, by simp⟩
      intro figure membership
      rcases List.mem_append.mp (List.cons_append ▸ membership) with digits | zeros
      · exact within figure digits
      · exact within_replicate _ figure zeros
    · next after long =>
        -- The point stands between two figures.
        cases places : point.toNat with
        | zero => omega
        | succ places' =>
            rw [places] at long
            refine ⟨char :: figures.take places', '.' :: figures.drop places', [], by simp,
              .figures other ?_, .figures ?_ ?_, .none, by simp⟩
            · exact fun figure membership => within figure
                ((List.take_sublist (places' + 1) (char :: figures)).subset membership)
            · intro none
              rw [List.drop_eq_nil_iff] at none
              simp only [List.length_cons] at long
              omega
            · exact fun figure membership => within figure
                (List.mem_cons_of_mem _ (List.mem_of_mem_drop membership))

theorem writeExponent_spelled (other : char ≠ '0')
    (within : Within Char.isDigit (char :: figures)) (power : Int) :
    Spelled (Decimal.writeExponent (char :: figures) power) := by
  rcases within_cons.mp within with ⟨first, rest⟩
  have raised : ∃ sign raised, Power ('e' :: sign :: raised) ∧
      Decimal.writeExponent (char :: figures) power = [char] ++
        ((if figures = [] then [] else '.' :: figures) ++ 'e' :: sign :: raised) := by
    refine ⟨if power < 0 then '-' else '+', if (Nat.toDigits 10 power.natAbs).length < 2 then
        '0' :: Nat.toDigits 10 power.natAbs else Nat.toDigits 10 power.natAbs,
      .figures ?_ ?_ ?_, ?_⟩
    · split
      · exact .inr rfl
      · exact .inl rfl
    · split
      · simp
      · exact List.ne_nil_of_length_pos Nat.length_toDigits_pos
    · split
      · exact within_cons.mpr ⟨by decide, toDigits_within _⟩
      · exact toDigits_within _
    · cases figures <;> simp [Decimal.writeExponent]
  rcases raised with ⟨sign, raised, spelled, same⟩
  refine ⟨[char], _, _, same, .figures other (within_cons.mpr ⟨first, within_nil⟩), ?_, spelled,
    by simp⟩
  split
  · exact .none
  · next some => exact .figures some rest

theorem render_spelled (decimal : Decimal.Scaled) : Spelled decimal.render := by
  rw [Decimal.Scaled.render]
  split
  · exact ⟨['0'], ['.', '0'], [], rfl, .zero, .figures (by simp) (by decide), .none, by simp⟩
  · next positive =>
      rcases toDigits_head (Nat.pos_of_ne_zero positive) with ⟨char, rest, digits, other⟩
      have within : Within Char.isDigit (char :: rest) := digits ▸ toDigits_within decimal.digits
      rcases dropZeros_cons other within with ⟨kept, dropped, within⟩
      simp only [digits, dropped]
      split
      · exact writePositional_spelled other within _
      · exact writeExponent_spelled other within _

theorem Spelled.reads {chars : List Char} (spelled : Spelled chars) (fuel levels : Nat) :
    (∃ double, readValue (fuel + 1) levels chars = .ok (.float double, [])) ∧
      ∃ double, readValue (fuel + 1) levels ('-' :: chars) = .ok (.float double, []) := by
  rcases spelled with ⟨whole, fraction, power, rfl, before, middle, tail, marked⟩
  rcases before.digit with ⟨char, rest, rfl, digit⟩
  constructor
  · rw [List.cons_append, (readValue_digit digit).1]
    exact readNumber_double false before middle tail marked
  · rw [List.cons_append, (readValue_digit digit).2]
    exact readNumber_double true before middle tail marked

/-- The text of a double is read as a double. -/
theorem readValue_writeFloat (double : Float) :
    ∃ reread, readValue 1 0 (writeFloat double) = .ok (.float reread, []) := by
  rw [writeFloat, Decimal.renderShortest]
  split
  · next parts _ =>
      have spelled : Spelled (if parts.mantissa = 0 then ['0', '.', '0']
          else (Decimal.shortest parts.mantissa parts.exponent).render) := by
        split
        · exact render_spelled ⟨0, 0⟩
        · exact render_spelled _
      rw [String.toList_ofList]
      split
      · exact (spelled.reads 0 0).2
      · exact (spelled.reads 0 0).1
  · split <;> exact ⟨_, rfl⟩
  · exact ⟨_, rfl⟩

/-- The double that is read from the text of a double. -/
def reread (double : Float) : Float :=
  match readValue 1 0 (writeFloat double) with
  | .ok (.float back, _) => back
  | _ => double

theorem readValue_reread (double : Float) :
    readValue 1 0 (writeFloat double) = .ok (.float (reread double), []) := by
  rcases readValue_writeFloat double with ⟨back, reads⟩
  simp only [reread, reads]

end TileWalk.Json
