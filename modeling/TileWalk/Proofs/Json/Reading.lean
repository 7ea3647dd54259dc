import TileWalk.Proofs.Json.Number
import TileWalk.Proofs.Json.Text

/-!
# What is read

Every value that is read has a simple shape: it is nested no deeper than was allowed, its whole
numbers are not too long, and no key stands twice in its objects.
-/

namespace TileWalk.Json

open TileWalk.Text

variable {fuel level levels : Nat} {value : Json} {chars after rest : List Char}

theorem bind_eq_ok {ε α β : Type} {first : Except ε α} {next : α → Except ε β} {result : β} :
    first >>= next = .ok result ↔ ∃ found, first = .ok found ∧ next found = .ok result := by
  cases first <;> simp [bind, Except.bind]

/-! ## Blanks -/

/-- The blanks of the grammar. -/
def isGap (char : Char) : Bool :=
  char == ' ' || char == '\t' || char == '\n' || char == '\r'

theorem skipSpace_stops (stops : Stops isGap chars) : skipSpace chars = chars :=
  (takeWhile_dropWhile_iff.mpr ⟨rfl, within_nil, stops⟩).2

theorem skipSpace_newLine (level : Nat) (stops : Stops isGap chars) :
    skipSpace (newLine level ++ chars) = chars := by
  have gaps : Within isGap (newLine level) := by
    intro char membership
    simp only [newLine, List.mem_cons, List.mem_replicate] at membership
    rcases membership with rfl | ⟨-, rfl⟩ <;> decide
  exact (takeWhile_dropWhile_iff.mpr ⟨rfl, gaps, stops⟩).2

/-! ## The first character of a value -/

theorem digit_ne {char : Char} (digit : char.isDigit = true) :
    char ≠ '"' ∧ char ≠ '[' ∧ char ≠ '{' ∧ char ≠ '-' ∧ char ≠ ']' ∧ isGap char = false := by
  refine ⟨?_, ?_, ?_, ?_, ?_, ?_⟩
  · rintro rfl
    exact absurd digit (by decide)
  · rintro rfl
    exact absurd digit (by decide)
  · rintro rfl
    exact absurd digit (by decide)
  · rintro rfl
    exact absurd digit (by decide)
  · rintro rfl
    exact absurd digit (by decide)
  · rw [← Bool.not_eq_true]
    intro gap
    simp only [isGap, Bool.or_eq_true, beq_iff_eq] at gap
    rcases gap with ((rfl | rfl) | rfl) | rfl <;> exact absurd digit (by decide)

/-- Every word has a letter at its front, at most behind a sign. -/
theorem words_begin : ∀ word ∈ words, ∃ letter letters, letter.isDigit = false ∧
    (letter ≠ '-' ∧ word.1.toList = letter :: letters ∨
      word.1.toList = '-' :: letter :: letters) := by
  intro word membership
  simp only [words, List.mem_cons, List.not_mem_nil, or_false] at membership
  rcases membership with rfl | rfl | rfl | rfl | rfl | rfl
  · exact ⟨'n', _, by decide, .inl ⟨by decide, rfl⟩⟩
  · exact ⟨'t', _, by decide, .inl ⟨by decide, rfl⟩⟩
  · exact ⟨'f', _, by decide, .inl ⟨by decide, rfl⟩⟩
  · exact ⟨'N', _, by decide, .inl ⟨by decide, rfl⟩⟩
  · exact ⟨'I', _, by decide, .inl ⟨by decide, rfl⟩⟩
  · exact ⟨'I', _, by decide, .inr rfl⟩

theorem readWord?_eq_none (apart : ∀ word ∈ words, ¬ word.1.toList <+: chars) :
    readWord? chars = none := by
  rw [readWord?, List.findSome?_eq_none_iff]
  rintro ⟨word, value⟩ membership
  apply if_neg
  rw [List.isPrefixOf_iff_prefix]
  exact apart (word, value) membership

theorem readWord?_digit {char : Char} (digit : char.isDigit = true) :
    readWord? (char :: rest) = none ∧ readWord? ('-' :: char :: rest) = none := by
  constructor
  · apply readWord?_eq_none
    intro word membership starts
    rcases words_begin word membership with ⟨letter, letters, other, ⟨-, spelled⟩ | spelled⟩
    · rw [spelled, List.cons_prefix_cons] at starts
      rw [starts.1, digit] at other
      cases other
    · rw [spelled, List.cons_prefix_cons] at starts
      rw [← starts.1] at digit
      exact absurd digit (by decide)
  · apply readWord?_eq_none
    intro word membership starts
    rcases words_begin word membership with ⟨letter, letters, other, ⟨signless, spelled⟩ | spelled⟩
    · rw [spelled, List.cons_prefix_cons] at starts
      exact signless starts.1
    · rw [spelled, List.cons_prefix_cons, List.cons_prefix_cons] at starts
      rw [starts.2.1, digit] at other
      cases other

theorem readValue_digit {char : Char} (digit : char.isDigit = true) :
    readValue (fuel + 1) levels (char :: rest) = readNumber false (char :: rest) ∧
      readValue (fuel + 1) levels ('-' :: char :: rest) = readNumber true (char :: rest) := by
  rcases digit_ne digit with ⟨quote, bracket, brace, minus, -⟩
  constructor
  · simp [readValue, (readWord?_digit digit).1, quote, bracket, brace, minus]
  · simp [readValue, (readWord?_digit digit).2]

theorem readNumber_begins {negative : Bool} {found : Json × List Char}
    (reads : readNumber negative chars = .ok found) :
    ∃ char rest, chars = char :: rest ∧ char.isDigit = true := by
  cases chars with
  | nil => simp [readNumber, takeWhole, takeFigures] at reads
  | cons char chars =>
      refine ⟨char, chars, rfl, ?_⟩
      by_cases zero : char = '0'
      · rw [zero]
        decide
      · rw [← Bool.not_eq_false]
        intro other
        simp [readNumber, takeWhole, takeFigures, zero, other] at reads

/-- The ways in which a value is read, each with the part that is read further in. -/
inductive ValueRead (fuel : Nat) : (levels : Nat) → List Char → Json → List Char → Prop
  | word {levels : Nat} {chars rest : List Char} {value : Json}
      (found : readWord? chars = some (value, rest)) : ValueRead fuel levels chars value rest
  | text {levels : Nat} {chars rest : List Char} {text : Text}
      (body : readText chars = .ok (text, rest)) :
      ValueRead fuel levels ('"' :: chars) (.text text) rest
  | emptyArray {levels : Nat} {chars rest : List Char} (closes : skipSpace chars = ']' :: rest) :
      ValueRead fuel (levels + 1) ('[' :: chars) (.array []) rest
  | array {levels : Nat} {chars rest : List Char} {items : List Json}
      (body : readItems fuel levels (skipSpace chars) = .ok (items, rest)) :
      ValueRead fuel (levels + 1) ('[' :: chars) (.array items) rest
  | emptyObject {levels : Nat} {chars rest : List Char} (closes : skipSpace chars = '}' :: rest) :
      ValueRead fuel (levels + 1) ('{' :: chars) (.object []) rest
  | object {levels : Nat} {chars rest : List Char} {pairs : List (Text × Json)}
      (body : readFields fuel levels (skipSpace chars) = .ok (pairs, rest)) :
      ValueRead fuel (levels + 1) ('{' :: chars) (.object (Fields.ofPairs pairs)) rest
  | negative {levels : Nat} {chars rest : List Char} {value : Json}
      (body : readNumber true chars = .ok (value, rest)) :
      ValueRead fuel levels ('-' :: chars) value rest
  | number {levels : Nat} {chars rest : List Char} {value : Json}
      (body : readNumber false chars = .ok (value, rest)) : ValueRead fuel levels chars value rest

theorem valueRead_of_ok (reads : readValue (fuel + 1) levels chars = .ok (value, rest)) :
    ValueRead fuel levels chars value rest := by
  rw [readValue.eq_def] at reads
  dsimp only at reads
  split at reads
  · next found word =>
      cases reads
      exact .word word
  · next wordless =>
      split at reads
      · rcases bind_eq_ok.mp reads with ⟨found, body, same⟩
        cases same
        exact .text body
      · cases reads
      · split at reads
        · next closes =>
            cases reads
            exact .emptyArray closes
        · rcases bind_eq_ok.mp reads with ⟨found, body, same⟩
          cases same
          exact .array body
      · cases reads
      · split at reads
        · next closes =>
            cases reads
            exact .emptyObject closes
        · rcases bind_eq_ok.mp reads with ⟨found, body, same⟩
          cases same
          exact .object body
      · exact .negative reads
      · exact .number reads

theorem readWord?_eq_some (found : readWord? chars = some (value, rest)) :
    ∃ word, (word, value) ∈ words ∧ chars = word.toList ++ rest := by
  rcases List.exists_of_findSome?_eq_some found with ⟨⟨word, _⟩, membership, here⟩
  dsimp only at here
  split at here
  · next starts =>
      cases here
      refine ⟨word, membership, ?_⟩
      rcases List.isPrefixOf_iff_prefix.mp starts with ⟨tail, rfl⟩
      rw [← String.length_toList, List.drop_left]
  · cases here

/-- What can be read begins neither with a blank nor with a closing bracket. -/
theorem readValue_begins (reads : readValue fuel levels chars = .ok (value, rest)) :
    Stops isGap chars ∧ chars.head? ≠ some ']' := by
  cases fuel with
  | zero => cases reads
  | succ fuel =>
      cases valueRead_of_ok reads with
      | word found =>
          rcases readWord?_eq_some found with ⟨word, membership, rfl⟩
          simp only [words, List.mem_cons, Prod.mk.injEq, List.not_mem_nil, or_false] at membership
          rcases membership with ⟨rfl, -⟩ | ⟨rfl, -⟩ | ⟨rfl, -⟩ | ⟨rfl, -⟩ | ⟨rfl, -⟩ | ⟨rfl, -⟩ <;>
            exact ⟨stops_cons.mpr (by decide), by simp⟩
      | number body =>
          rcases readNumber_begins body with ⟨char, digits, rfl, digit⟩
          rcases digit_ne digit with ⟨-, -, -, -, bracket, gap⟩
          exact ⟨stops_cons.mpr gap, by simpa using bracket⟩
      | _ => exact ⟨stops_cons.mpr (by decide), by simp⟩

/-! ## What can be stored -/

/-- A value that is nested at most `levels` deep, with doubles of one sort. Its whole numbers are
not too long, no surrogate pair is in its texts, and no key stands twice in an object. -/
inductive Storable (doubles : Float → Prop) : (levels : Nat) → Json → Prop
  | null {levels : Nat} : Storable doubles levels .null
  | bool {levels : Nat} (value : Bool) : Storable doubles levels (.bool value)
  | integer {levels : Nat} {value : Int}
      (short : (Nat.toDigits 10 value.natAbs).length ≤ Numeral.maxDigits) :
      Storable doubles levels (.integer value)
  | float {levels : Nat} {value : Float} (double : doubles value) :
      Storable doubles levels (.float value)
  | text {levels : Nat} {value : Text} (joined : joinPairs value = value) :
      Storable doubles levels (.text value)
  | array {levels : Nat} {items : List Json}
      (each : ∀ item ∈ items, Storable doubles levels item) :
      Storable doubles (levels + 1) (.array items)
  | object {levels : Nat} {fields : Fields} (distinct : (fields.map Prod.fst).Nodup)
      (keys : ∀ field ∈ fields, joinPairs field.1 = field.1)
      (each : ∀ field ∈ fields, Storable doubles levels field.2) :
      Storable doubles (levels + 1) (.object fields)

theorem Storable.mono {doubles : Float → Prop} {more : Nat}
    (storable : Storable doubles levels value) (deeper : levels ≤ more) : Storable doubles more value := by
  induction storable generalizing more with
  | null => exact .null
  | bool value => exact .bool value
  | integer short => exact .integer short
  | float double => exact .float double
  | text joined => exact .text joined
  | array each ih =>
      cases more with
      | zero => cases deeper
      | succ more =>
          exact .array fun item membership => ih item membership (Nat.le_of_succ_le_succ deeper)
  | object distinct keys each ih =>
      cases more with
      | zero => cases deeper
      | succ more =>
          exact .object distinct keys fun field membership =>
            ih field membership (Nat.le_of_succ_le_succ deeper)

/-- A double stands somewhere in a value. -/
inductive Occurs (double : Float) : Json → Prop
  | here : Occurs double (.float double)
  | item {items : List Json} {item : Json} (membership : item ∈ items)
      (occurs : Occurs double item) : Occurs double (.array items)
  | field {fields : Fields} {field : Text × Json} (membership : field ∈ fields)
      (occurs : Occurs double field.2) : Occurs double (.object fields)

/-- Only the doubles that stand in a value matter. -/
theorem Storable.imp {doubles others : Float → Prop} (storable : Storable doubles levels value)
    (each : ∀ double, Occurs double value → others double) : Storable others levels value := by
  induction storable with
  | null => exact .null
  | bool value => exact .bool value
  | integer short => exact .integer short
  | float double => exact .float (each _ .here)
  | text joined => exact .text joined
  | array _ ih =>
      exact .array fun item membership =>
        ih item membership fun double occurs => each double (.item membership occurs)
  | object distinct keys _ ih =>
      exact .object distinct keys fun field membership =>
        ih field membership fun double occurs => each double (.field membership occurs)

theorem Storable.of_occurs {doubles : Float → Prop} {double : Float}
    (storable : Storable doubles levels value) (occurs : Occurs double value) : doubles double := by
  induction storable with
  | float known =>
      cases occurs
      exact known
  | array _ ih =>
      cases occurs with
      | item membership occurs => exact ih _ membership occurs
  | object _ _ _ ih =>
      cases occurs with
      | field membership occurs => exact ih _ membership occurs
  | _ => cases occurs

/-! ## Fields -/

theorem mem_set {fields : Fields} {key : Text} {field : Text × Json}
    (membership : field ∈ fields.set key value) : field = (key, value) ∨ field ∈ fields := by
  induction fields with
  | nil => exact .inl (List.mem_singleton.mp membership)
  | cons first fields ih =>
      rw [Fields.set] at membership
      split at membership
      · next same =>
          rcases List.mem_cons.mp membership with rfl | later
          · exact .inl (by rw [same])
          · exact .inr (List.mem_cons_of_mem _ later)
      · rcases List.mem_cons.mp membership with rfl | later
        · exact .inr (List.mem_cons_self ..)
        · exact (ih later).imp_right (List.mem_cons_of_mem _)

theorem nodup_set {fields : Fields} {key : Text} (distinct : (fields.map Prod.fst).Nodup) :
    ((fields.set key value).map Prod.fst).Nodup := by
  rw [Fields.keys_set]
  split
  · exact distinct
  · next absent =>
      refine List.nodup_append.mpr ⟨distinct, by simp, ?_⟩
      rintro old membership _ new rfl
      rw [List.mem_singleton.mp new] at membership
      exact absent membership

theorem ofPairs_induction {property : Fields → Prop} {pairs : Fields} (nil : property [])
    (set : ∀ fields, property fields → ∀ pair ∈ pairs, property (fields.set pair.1 pair.2)) :
    property (Fields.ofPairs pairs) := by
  rw [Fields.ofPairs]
  exact List.foldlRecOn pairs _ nil set

/-! ## What is read -/

theorem storable_word {word : String} (membership : (word, value) ∈ words) :
    Storable (fun _ => True) levels value := by
  simp only [words, List.mem_cons, Prod.mk.injEq, List.not_mem_nil, or_false] at membership
  rcases membership with ⟨-, rfl⟩ | ⟨-, rfl⟩ | ⟨-, rfl⟩ | ⟨-, rfl⟩ | ⟨-, rfl⟩ | ⟨-, rfl⟩
  · exact .null
  · exact .bool true
  · exact .bool false
  · exact .float trivial
  · exact .float trivial
  · exact .float trivial

theorem storable_number {negative : Bool} (reads : readNumber negative chars = .ok (value, rest)) :
    Storable (fun _ => True) levels value := by
  rcases readNumber_ok reads with ⟨double, rfl⟩ | ⟨number, rfl, short⟩
  · exact .float trivial
  · exact .integer short

theorem storable_ofPairs {doubles : Float → Prop} {pairs : Fields}
    (each : ∀ pair ∈ pairs, joinPairs pair.1 = pair.1 ∧ Storable doubles levels pair.2) :
    Storable doubles (levels + 1) (.object (Fields.ofPairs pairs)) := by
  have fields : ((Fields.ofPairs pairs).map Prod.fst).Nodup ∧
      ∀ field ∈ Fields.ofPairs pairs, field ∈ pairs := by
    refine @ofPairs_induction (fun fields => (fields.map Prod.fst).Nodup ∧
      ∀ field ∈ fields, field ∈ pairs) pairs ?_ ?_
    · simp
    · rintro fields ⟨distinct, within⟩ pair membership
      refine ⟨nodup_set distinct, ?_⟩
      intro field set
      rcases mem_set set with rfl | old
      · exact membership
      · exact within field old
  rcases fields with ⟨distinct, within⟩
  exact .object distinct (fun field membership => (each field (within field membership)).1)
    fun field membership => (each field (within field membership)).2

/-- What is read can be stored, whatever becomes of its doubles. -/
theorem storable_of_read (fuel : Nat) :
    (∀ {levels chars value rest}, readValue fuel levels chars = .ok (value, rest) →
      Storable (fun _ => True) levels value) ∧
    (∀ {levels chars items rest}, readItems fuel levels chars = .ok (items, rest) →
      ∀ item ∈ items, Storable (fun _ => True) levels item) ∧
    (∀ {levels chars pairs rest}, readFields fuel levels chars = .ok (pairs, rest) →
      ∀ pair ∈ pairs, joinPairs pair.1 = pair.1 ∧ Storable (fun _ => True) levels pair.2) := by
  induction fuel with
  | zero => simp [readValue, readItems, readFields]
  | succ fuel ih =>
      rcases ih with ⟨values, items, fields⟩
      refine ⟨?_, ?_, ?_⟩
      · intro levels chars value rest reads
        cases valueRead_of_ok reads with
        | word found =>
            rcases readWord?_eq_some found with ⟨word, membership, -⟩
            exact storable_word membership
        | text body => exact .text (readText_joined body)
        | emptyArray closes => exact .array (by simp)
        | array body => exact .array (items body)
        | emptyObject closes => exact .object (by simp) (by simp) (by simp)
        | object body => exact storable_ofPairs (fields body)
        | negative body => exact storable_number body
        | number body => exact storable_number body
      · intro levels chars found rest reads
        rw [readItems] at reads
        rcases bind_eq_ok.mp reads with ⟨⟨item, after⟩, first, reads⟩
        dsimp only at reads
        split at reads
        · cases reads
          exact List.forall_mem_singleton.mpr (values first)
        · rcases bind_eq_ok.mp reads with ⟨⟨more, final⟩, later, same⟩
          cases same
          exact List.forall_mem_cons.mpr ⟨values first, items later⟩
        · cases reads
      · intro levels chars pairs rest reads
        rw [readFields.eq_def] at reads
        dsimp only at reads
        split at reads
        · rcases bind_eq_ok.mp reads with ⟨⟨key, afterKey⟩, quoted, reads⟩
          dsimp only at reads
          split at reads
          · rcases bind_eq_ok.mp reads with ⟨⟨value, after⟩, first, reads⟩
            have one := And.intro (readText_joined quoted) (values first)
            dsimp only at reads
            split at reads
            · cases reads
              exact List.forall_mem_singleton.mpr one
            · rcases bind_eq_ok.mp reads with ⟨⟨more, final⟩, later, same⟩
              cases same
              exact List.forall_mem_cons.mpr ⟨one, fields later⟩
            · cases reads
          · cases reads
        · cases reads

theorem storable_of_ok {text : String} (reads : read levels text = .ok value) :
    Storable (fun _ => True) levels value := by
  rw [read] at reads
  rcases bind_eq_ok.mp reads with ⟨⟨found, rest⟩, whole, reads⟩
  dsimp only at reads
  split at reads
  · cases reads
    exact (storable_of_read _).1 whole
  · cases reads

end TileWalk.Json
