import Mathlib.Tactic.SplitIfs
import TileWalk.Proofs.Json.RoundTrip
import TileWalk.Storage.TextFile

/-!
# JSON in text files

A value is written without carriage returns, so that the file it is put into spells its text.
-/

namespace TileWalk.Json

open TileWalk.Text TileWalk.Storage

variable {level levels : Nat} {value : Json} {after : List Char}

theorem toDigits_returnless (size : Nat) : '\r' ∉ Nat.toDigits 10 size := by
  intro membership
  exact absurd (toDigits_within size _ membership) (by decide)

theorem writeCode_returnless (code : Nat) : '\r' ∉ writeCode code := by
  have figure (unit : Nat) : '\r' ≠ hexFigure (unit % 16) := by
    have all : ∀ value < 16, '\r' ≠ hexFigure value := by decide
    exact all _ (Nat.mod_lt _ (by decide))
  have escape (unit : Nat) : '\r' ∉ unicodeEscape unit := by
    simp [unicodeEscape, figure]
  have literal : ∀ code < 0x7F, 0x20 ≤ code → '\r' ≠ Char.ofNat code := by decide
  rw [writeCode]
  split_ifs with _ _ _ _ _ _ _ printed
  any_goals decide
  · simpa using literal code printed.2 printed.1
  · exact escape code
  · simp [escape]

theorem writeText_returnless (text : Text) : '\r' ∉ writeText text := by
  simp [writeText, writeCode_returnless]

theorem dropZeros_subset (digits : List Char) : (Decimal.dropZeros digits).1 ⊆ digits := by
  intro char membership
  rw [Decimal.dropZeros, List.mem_reverse] at membership
  exact List.mem_reverse.mp ((List.dropWhile_sublist _).subset membership)

theorem writePositional_returnless {digits : List Char} (within : '\r' ∉ digits) (point : Int) :
    '\r' ∉ Decimal.writePositional digits point := by
  have taken : '\r' ∉ digits.take point.toNat := mt List.mem_of_mem_take within
  have dropped : '\r' ∉ digits.drop point.toNat := mt List.mem_of_mem_drop within
  rw [Decimal.writePositional]
  split_ifs <;> simp [within, taken, dropped]

theorem writeExponent_returnless {digits : List Char} (within : '\r' ∉ digits) (power : Int) :
    '\r' ∉ Decimal.writeExponent digits power := by
  have taken : '\r' ∉ digits.take 1 := mt List.mem_of_mem_take within
  have dropped := mt List.mem_of_mem_tail within
  have figures := toDigits_returnless power.natAbs
  simp only [Decimal.writeExponent]
  split_ifs <;> simp [taken, dropped, figures]

theorem render_returnless (decimal : Decimal.Scaled) : '\r' ∉ decimal.render := by
  have digits : '\r' ∉ (Decimal.dropZeros (Nat.toDigits 10 decimal.digits)).1 :=
    fun membership => toDigits_returnless _ (dropZeros_subset _ membership)
  simp only [Decimal.Scaled.render]
  split_ifs
  · decide
  · exact writePositional_returnless digits _
  · exact writeExponent_returnless digits _

theorem writeFloat_returnless (double : Float) : '\r' ∉ writeFloat double := by
  rw [writeFloat, Decimal.renderShortest]
  split
  · next parts _ =>
      have shortest := render_returnless (Decimal.shortest parts.mantissa parts.exponent)
      rw [String.toList_ofList]
      split <;> split <;> simp [shortest]
  · split <;> decide
  · decide

theorem newLine_returnless (level : Nat) : '\r' ∉ newLine level := by
  simp [newLine]

theorem indentedItems_returnless {items : List Json} (level : Nat)
    (each : ∀ item ∈ items, ∀ after, '\r' ∉ after → '\r' ∉ indented level item after)
    (without : '\r' ∉ after) : '\r' ∉ indentedItems level items after := by
  induction items with
  | nil => exact without
  | cons item items ih =>
      rw [List.forall_mem_cons] at each
      simp [indentedItems, newLine_returnless, each.1 _ (ih each.2)]

theorem indentedFields_returnless {fields : Fields} (level : Nat)
    (each : ∀ field ∈ fields, ∀ after, '\r' ∉ after → '\r' ∉ indented level field.2 after)
    (without : '\r' ∉ after) : '\r' ∉ indentedFields level fields after := by
  induction fields with
  | nil => exact without
  | cons field fields ih =>
      rw [List.forall_mem_cons] at each
      simp [indentedFields, newLine_returnless, writeText_returnless, each.1 _ (ih each.2)]

/-- No carriage return is written. -/
theorem Storable.returnless {doubles : Float → Prop} (storable : Storable doubles levels value)
    (level : Nat) (without : '\r' ∉ after) : '\r' ∉ indented level value after := by
  induction storable generalizing level after with
  | null => simp [indented, writeAtom, without]
  | bool value => cases value <;> simp [indented, writeAtom, without]
  | @integer levels value short =>
      have written : '\r' ∉ writeAtom (.integer value) := by
        cases value with
        | ofNat size =>
            rw [writeAtom_natural]
            exact toDigits_returnless size
        | negSucc size => simp [writeAtom_negative, toDigits_returnless]
      simp [indented, written, without]
  | float double => simp [indented, writeAtom, writeFloat_returnless, without]
  | text joined => simp [indented, writeAtom, writeText_returnless, without]
  | @array levels items each ih =>
      cases items with
      | nil => simp [indented, writeAtom, without]
      | cons item items =>
          rw [List.forall_mem_cons] at ih
          have closing : '\r' ∉ newLine level ++ ']' :: after := by
            simp [newLine_returnless, without]
          have rest := indentedItems_returnless (level + 1)
            (fun one membership after => ih.2 one membership (level + 1)) closing
          simp [indented, newLine_returnless, ih.1 (level + 1) rest]
  | @object levels fields distinct keys each ih =>
      cases fields with
      | nil => simp [indented, writeAtom, without]
      | cons field fields =>
          rw [List.forall_mem_cons] at ih
          have closing : '\r' ∉ newLine level ++ '}' :: after := by
            simp [newLine_returnless, without]
          have rest := indentedFields_returnless (level + 1)
            (fun one membership after => ih.2 one membership (level + 1)) closing
          simp [indented, newLine_returnless, writeText_returnless, ih.1 (level + 1) rest]

/-! ## Files -/

theorem joinReturns_returnless {chars : List Char} (without : '\r' ∉ chars) :
    joinReturns chars = chars := by
  induction chars with
  | nil => rfl
  | cons char chars ih =>
      rw [List.mem_cons, not_or] at without
      rw [joinReturns.eq_3 _ _ fun _ same _ => without.1 same.symm, if_neg (Ne.symm without.1),
        ih without.2]

theorem decodeText_encode {text : String} (without : '\r' ∉ text.toList) :
    decodeText (Utf8.encode text) = .ok text := by
  have decoded : Utf8.decode (Utf8.encode text) = .ok text := by
    simp [Utf8.decode, Utf8.encode, String.fromUTF8?, String.fromUTF8, text.isValidUTF8]
  simp [decodeText, decoded, Except.map, joinReturns_returnless without]

/-- The file that a value is written into spells the value's text. -/
theorem Storable.decodeText_pretty {doubles : Float → Prop}
    (storable : Storable doubles levels value) :
    decodeText (Utf8.encode (pretty value ++ "\n")) = .ok (pretty value ++ "\n") := by
  have written : '\r' ∉ indented 0 value [] := storable.returnless 0 (by simp)
  apply decodeText_encode
  rw [String.toList_append, pretty, String.toList_ofList]
  simp [written]

end TileWalk.Json
