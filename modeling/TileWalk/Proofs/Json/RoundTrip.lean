import TileWalk.Proofs.Json.Double

/-!
# Reading back what was written

The reader takes the indented text of a value back to the value, if its whole numbers are not too
long, its doubles are read back from their own texts, and it is not nested too deeply. Doubles that
are read as others are changed in the value, and nothing else is.
-/

namespace TileWalk.Json

open TileWalk.Text

variable {fuel level levels : Nat} {value : Json} {chars after rest : List Char}
  {change : Float → Float}

/-! ## Doubles -/

/-- A double is read back from its own text. -/
def ReadsBack (double : Float) : Prop :=
  readValue 1 0 (writeFloat double) = .ok (.float double, [])

theorem readValue_word {found : Json × List Char} (word : readWord? chars = some found) :
    readValue (fuel + 1) levels chars = .ok found := by
  rw [readValue.eq_def]
  simp only [word]

/-- A double is read from its text within a longer one as it is on its own. -/
theorem readValue_float {double back : Float}
    (reads : readValue 1 0 (writeFloat double) = .ok (.float back, [])) (follows : Follows after) :
    readValue (fuel + 1) levels (writeFloat double ++ after) = .ok (.float back, after) := by
  generalize writeFloat double = chars at reads
  cases valueRead_of_ok reads with
  | word found =>
      rcases readWord?_eq_some found with ⟨word, membership, rfl⟩
      simp only [words, List.mem_cons, Prod.mk.injEq, reduceCtorEq, and_false, false_or,
        List.not_mem_nil, or_false, float.injEq] at membership
      rcases membership with ⟨rfl, rfl⟩ | ⟨rfl, rfl⟩ | ⟨rfl, rfl⟩ <;> exact readValue_word rfl
  | number body =>
      rcases readNumber_begins body with ⟨char, digits, rfl, digit⟩
      rw [List.cons_append, (readValue_digit digit).1, ← List.cons_append,
        readNumber_append _ _ follows, body]
      rfl
  | negative body =>
      rcases readNumber_begins body with ⟨char, digits, rfl, digit⟩
      rw [List.cons_append, List.cons_append, (readValue_digit digit).2, ← List.cons_append,
        readNumber_append _ _ follows, body]
      rfl

/-! ## The size of a value -/

mutual

/-- How many steps the reader takes for a value, at most. -/
def size : Json → Nat
  | .array items => 1 + itemsSize items
  | .object fields => 1 + fieldsSize fields
  | _ => 1

/-- How many steps the reader takes for the items of an array, at most. -/
def itemsSize : List Json → Nat
  | [] => 0
  | item :: items => 1 + size item + itemsSize items

/-- How many steps the reader takes for the fields of an object, at most. -/
def fieldsSize : List (Text × Json) → Nat
  | [] => 0
  | (_, value) :: fields => 1 + size value + fieldsSize fields

end

/-! ## Changed doubles -/

mutual

/-- A value with every double in it changed. -/
def mapDoubles (change : Float → Float) : Json → Json
  | .float double => .float (change double)
  | .array items => .array (mapItems change items)
  | .object fields => .object (mapFields change fields)
  | value => value

/-- Items with every double in them changed. -/
def mapItems (change : Float → Float) : List Json → List Json
  | [] => []
  | item :: items => mapDoubles change item :: mapItems change items

/-- Fields with every double in them changed. -/
def mapFields (change : Float → Float) : List (Text × Json) → List (Text × Json)
  | [] => []
  | (key, value) :: fields => (key, mapDoubles change value) :: mapFields change fields

end

theorem mapFields_keys (change : Float → Float) (fields : Fields) :
    (mapFields change fields).map Prod.fst = fields.map Prod.fst := by
  induction fields with
  | nil => rfl
  | cons field fields ih => simp [mapFields, ih]

theorem Fields.get?_mapFields (fields : Fields) (key : Text) :
    Fields.get? (mapFields change fields) key = (fields.get? key).map (mapDoubles change) := by
  induction fields with
  | nil => rfl
  | cons field fields ih =>
      rw [mapFields, Fields.get?, Fields.get?, ih]
      split <;> rfl

/-- Where no double changes, nothing does. -/
theorem Storable.mapDoubles_self {doubles : Float → Prop} (storable : Storable doubles levels value)
    (kept : ∀ double, doubles double → change double = double) :
    mapDoubles change value = value := by
  induction storable with
  | float double => rw [mapDoubles, kept _ double]
  | @array levels items each ih =>
      rw [mapDoubles]
      congr 1
      induction items with
      | nil => rfl
      | cons item items rest =>
          rw [List.forall_mem_cons] at each ih
          rw [mapItems, ih.1, rest each.2 ih.2]
  | @object levels fields distinct keys each ih =>
      clear distinct keys
      rw [mapDoubles]
      congr 1
      induction fields with
      | nil => rfl
      | cons field fields rest =>
          rw [List.forall_mem_cons] at each ih
          rw [mapFields, ih.1, rest each.2 ih.2]
  | _ => rfl

/-! ## Whole numbers, words and brackets -/

theorem writeAtom_natural (size : Nat) :
    writeAtom (.integer (Int.ofNat size)) = Nat.toDigits 10 size := by
  simp [writeAtom, Int.toString_eq_repr, Int.repr, Nat.repr]

theorem writeAtom_negative (size : Nat) :
    writeAtom (.integer (Int.negSucc size)) = '-' :: Nat.toDigits 10 (size + 1) := by
  simp [writeAtom, Int.toString_eq_repr, Int.repr, Nat.repr]

theorem toDigits_begins (size : Nat) (after : List Char) :
    ∃ char rest, Nat.toDigits 10 size ++ after = char :: rest ∧ char.isDigit = true := by
  cases figures : Nat.toDigits 10 size with
  | nil => exact absurd figures (List.ne_nil_of_length_pos Nat.length_toDigits_pos)
  | cons char rest =>
      exact ⟨char, rest ++ after, rfl, toDigits_within size char (by simp [figures])⟩

theorem readValue_integer {number : Int}
    (short : (Nat.toDigits 10 number.natAbs).length ≤ Numeral.maxDigits)
    (follows : Follows after) :
    readValue (fuel + 1) levels (writeAtom (.integer number) ++ after) =
      .ok (.integer number, after) := by
  cases number with
  | ofNat size =>
      rcases toDigits_begins size after with ⟨char, rest, begins, digit⟩
      have reads := readNumber_toDigits false size short follows
      rw [writeAtom_natural, begins, (readValue_digit digit).1, ← begins, reads]
      rfl
  | negSucc size =>
      rcases toDigits_begins (size + 1) after with ⟨char, rest, begins, digit⟩
      have reads := readNumber_toDigits true (size + 1) short follows
      rw [writeAtom_negative, List.cons_append, begins, (readValue_digit digit).2, ← begins, reads]
      rfl

theorem readValue_quote :
    readValue (fuel + 1) levels ('"' :: chars) = do
      let (body, rest) ← readText chars
      return (.text body, rest) := by
  have word : readWord? ('"' :: chars) = none := rfl
  rw [readValue.eq_def]
  simp only [word]

theorem readValue_bracket (other : (skipSpace chars).head? ≠ some ']') :
    readValue (fuel + 1) (levels + 1) ('[' :: chars) = do
      let (items, rest) ← readItems fuel levels (skipSpace chars)
      return (.array items, rest) := by
  have word : readWord? ('[' :: chars) = none := rfl
  rw [readValue.eq_def]
  simp only [word]
  split
  · next closes => simp [closes] at other
  · rfl

theorem readValue_brace (other : (skipSpace chars).head? ≠ some '}') :
    readValue (fuel + 1) (levels + 1) ('{' :: chars) = do
      let (pairs, rest) ← readFields fuel levels (skipSpace chars)
      return (.object (Fields.ofPairs pairs), rest) := by
  have word : readWord? ('{' :: chars) = none := rfl
  rw [readValue.eq_def]
  simp only [word]
  split
  · next closes => simp [closes] at other
  · rfl

/-! ## Items and fields -/

/-- A value is read back from its indented text with its doubles changed, whatever follows it. -/
def Returns (change : Float → Float) (levels : Nat) (value : Json) : Prop :=
  ∀ fuel level after, Follows after → size value ≤ fuel →
    readValue fuel levels (indented level value after) = .ok (mapDoubles change value, after)

theorem Returns.begins (returns : Returns change levels value) (level : Nat) (follows : Follows after) :
    Stops isGap (indented level value after) ∧ (indented level value after).head? ≠ some ']' :=
  readValue_begins (returns _ level after follows (Nat.le_refl _))

theorem follows_newLine (level : Nat) (rest : List Char) : Follows (newLine level ++ rest) := by
  simp [newLine]

theorem follows_items (level : Nat) (items : List Json) (outer : Nat) (rest : List Char) :
    Follows (indentedItems level items (newLine outer ++ rest)) := by
  cases items with
  | nil => exact follows_newLine outer rest
  | cons item items => simp [indentedItems]

theorem follows_fields (level : Nat) (fields : Fields) (outer : Nat) (rest : List Char) :
    Follows (indentedFields level fields (newLine outer ++ rest)) := by
  cases fields with
  | nil => exact follows_newLine outer rest
  | cons field fields => simp [indentedFields]

theorem readItems_written {item : Json} {items : List Json} (level outer : Nat)
    (each : ∀ one ∈ item :: items, Returns change levels one)
    (enough : itemsSize (item :: items) ≤ fuel) :
    readItems fuel levels
        (indented level item (indentedItems level items (newLine outer ++ ']' :: after))) =
      .ok (mapItems change (item :: items), after) := by
  induction items generalizing item fuel with
  | nil =>
      cases fuel with
      | zero => simp [itemsSize] at enough
      | succ fuel =>
          simp only [itemsSize] at enough
          have read := each item (by simp) fuel level _
            (follows_items level [] outer (']' :: after)) (by omega)
          have gap : skipSpace (newLine outer ++ ']' :: after) = ']' :: after :=
            skipSpace_newLine _ (by rw [stops_cons]; decide)
          rw [readItems, read]
          simp only [bind, Except.bind, indentedItems, gap]
          rfl
  | cons next items ih =>
      cases fuel with
      | zero => simp [itemsSize] at enough
      | succ fuel =>
          have room : itemsSize (next :: items) ≤ fuel := by
            simp only [itemsSize] at enough ⊢
            omega
          have read := each item (by simp) fuel level _
            (follows_items level (next :: items) outer (']' :: after)) (by
              simp only [itemsSize] at enough
              omega)
          have begins := (each next (by simp)).begins level
            (follows_items level items outer (']' :: after))
          have more := ih (fun one membership => each one (List.mem_cons_of_mem _ membership)) room
          rw [readItems, read]
          simp only [bind, Except.bind, indentedItems, List.cons_append]
          rw [skipSpace_stops (by rw [stops_cons]; decide)]
          simp only [skipSpace_newLine _ begins.1, more]
          rfl

theorem readText_key {key : Text} (joined : joinPairs key = key) (rest : List Char) :
    ∃ chars, writeText key ++ rest = '"' :: chars ∧ readText chars = .ok (key, rest) := by
  refine ⟨_, ?_, readText_written joined rest⟩
  simp [writeText]

theorem stops_key (key : Text) (rest : List Char) : Stops isGap (writeText key ++ rest) := by
  rw [writeText, List.cons_append, List.cons_append, stops_cons]
  decide

/-- The first field is read from its key and its value; what comes then depends on what follows. -/
theorem readFields_field {key : Text} (joined : joinPairs key = key)
    (returns : Returns change levels value) (follows : Follows after) (enough : size value ≤ fuel)
    (level : Nat) :
    readFields (fuel + 1) levels
        (writeText key ++ ':' :: ' ' :: indented level value after) =
      match skipSpace after with
      | '}' :: rest => .ok ([(key, mapDoubles change value)], rest)
      | ',' :: rest => do
        let (fields, final) ← readFields fuel levels (skipSpace rest)
        return ((key, mapDoubles change value) :: fields, final)
      | _ => .error .malformed := by
  rcases readText_key joined (':' :: ' ' :: indented level value after) with
    ⟨chars, quoted, read⟩
  have colon : skipSpace (':' :: ' ' :: indented level value after) =
      ':' :: ' ' :: indented level value after :=
    skipSpace_stops (by rw [stops_cons]; decide)
  have blank : skipSpace (' ' :: indented level value after) = indented level value after :=
    skipSpace_stops (returns.begins level follows).1
  rw [quoted, readFields, read]
  simp only [bind, Except.bind, colon, blank, returns fuel level after follows enough]
  rfl

theorem readFields_written {field : Text × Json} {fields : Fields} (level outer : Nat)
    (keys : ∀ one ∈ field :: fields, joinPairs one.1 = one.1)
    (each : ∀ one ∈ field :: fields, Returns change levels one.2)
    (enough : fieldsSize (field :: fields) ≤ fuel) :
    readFields fuel levels (writeText field.1 ++ ':' :: ' ' :: indented level field.2
        (indentedFields level fields (newLine outer ++ '}' :: after))) =
      .ok (mapFields change (field :: fields), after) := by
  induction fields generalizing field fuel with
  | nil =>
      cases fuel with
      | zero => simp [fieldsSize] at enough
      | succ fuel =>
          have room : size field.2 ≤ fuel := by
            simp only [fieldsSize] at enough
            omega
          have gap : skipSpace (newLine outer ++ '}' :: after) = '}' :: after :=
            skipSpace_newLine _ (by rw [stops_cons]; decide)
          rw [readFields_field (keys field (by simp)) (each field (by simp))
            (follows_fields level [] outer ('}' :: after)) room level]
          simp only [indentedFields, gap]
          rfl
  | cons next fields ih =>
      cases fuel with
      | zero => simp [fieldsSize] at enough
      | succ fuel =>
          have room : size field.2 ≤ fuel ∧ fieldsSize (next :: fields) ≤ fuel := by
            simp only [fieldsSize] at enough ⊢
            omega
          have more := ih (fun one membership => keys one (List.mem_cons_of_mem _ membership))
            (fun one membership => each one (List.mem_cons_of_mem _ membership)) room.2
          have gap := skipSpace_newLine level (stops_key next.1 (':' :: ' ' ::
            indented level next.2 (indentedFields level fields (newLine outer ++ '}' :: after))))
          rw [readFields_field (keys field (by simp)) (each field (by simp))
            (follows_fields level (next :: fields) outer ('}' :: after)) room.1 level]
          simp only [indentedFields, List.cons_append]
          rw [skipSpace_stops (by rw [stops_cons]; decide)]
          simp only [List.append_assoc, gap, more]
          rfl

/-! ## Whole values -/

theorem set_absent {fields : Fields} {key : Text} (absent : key ∉ fields.map Prod.fst) :
    fields.set key value = fields ++ [(key, value)] := by
  induction fields with
  | nil => rfl
  | cons field fields ih =>
      rw [List.map_cons, List.mem_cons, not_or] at absent
      rw [Fields.set, if_neg (Ne.symm absent.1), ih absent.2]
      rfl

theorem ofPairs_nodup {fields : Fields} (distinct : (fields.map Prod.fst).Nodup) :
    Fields.ofPairs fields = fields := by
  have onto (kept : Fields) (all : ((kept ++ fields).map Prod.fst).Nodup) :
      fields.foldl (fun fields pair => Fields.set fields pair.1 pair.2) kept = kept ++ fields := by
    clear distinct
    induction fields generalizing kept with
    | nil => simp
    | cons field fields ih =>
        have absent : field.1 ∉ kept.map Prod.fst := by
          rw [List.map_append, List.nodup_append] at all
          intro membership
          exact all.2.2 _ membership _ (by simp) rfl
        rw [List.foldl_cons, set_absent absent]
        have whole : kept ++ [field] ++ fields = kept ++ field :: fields := by simp
        rw [ih _ (by rwa [whole]), whole]
  exact onto [] distinct

/-- A value that can be stored is read back from its indented text, with its doubles as they are
read. -/
theorem Storable.returns
    (storable : Storable
      (fun double => readValue 1 0 (writeFloat double) = .ok (.float (change double), [])) levels
      value) : Returns change levels value := by
  induction storable with
  | null =>
      rintro (_ | fuel) level after follows enough
      · cases enough
      · exact readValue_word rfl
  | bool value =>
      rintro (_ | fuel) level after follows enough
      · cases enough
      · cases value <;> exact readValue_word rfl
  | integer short =>
      rintro (_ | fuel) level after follows enough
      · cases enough
      · exact readValue_integer short follows
  | float double =>
      rintro (_ | fuel) level after follows enough
      · cases enough
      · exact readValue_float double follows
  | text joined =>
      rintro (_ | fuel) level after follows enough
      · cases enough
      · rcases readText_key joined after with ⟨chars, quoted, read⟩
        change readValue (fuel + 1) _ (writeText _ ++ after) = _
        rw [quoted, readValue_quote, read]
        rfl
  | @array levels items each ih =>
      rintro (_ | fuel) level after follows enough
      · simp [size] at enough
      · cases items with
        | nil =>
            change readValue (fuel + 1) (levels + 1) ('[' :: ']' :: after) = _
            rw [readValue.eq_def]
            rfl
        | cons item items =>
            have begins := (ih item (by simp)).begins (level + 1)
              (follows_items (level + 1) items level (']' :: after))
            have gap := skipSpace_newLine (level + 1) begins.1
            have room : itemsSize (item :: items) ≤ fuel := by
              simp only [size] at enough
              omega
            rw [indented, List.cons_append, readValue_bracket (by rw [gap]; exact begins.2), gap,
              readItems_written (level + 1) level ih room]
            rfl
  | @object levels fields distinct keys each ih =>
      rintro (_ | fuel) level after follows enough
      · simp [size] at enough
      · cases fields with
        | nil =>
            change readValue (fuel + 1) (levels + 1) ('{' :: '}' :: after) = _
            rw [readValue.eq_def]
            rfl
        | cons field fields =>
            have gap := skipSpace_newLine (level + 1) (stops_key field.1 (':' :: ' ' ::
              indented (level + 1) field.2
                (indentedFields (level + 1) fields (newLine level ++ '}' :: after))))
            have room : fieldsSize (field :: fields) ≤ fuel := by
              simp only [size] at enough
              omega
            rw [indented, List.cons_append, List.cons_append, List.append_assoc,
              readValue_brace (by rw [gap, writeText]; simp), gap,
              readFields_written (level + 1) level keys ih room]
            rw [← mapFields_keys change] at distinct
            simp only [bind, Except.bind, ofPairs_nodup distinct]
            rfl

/-! ## The whole text -/

theorem indentedItems_append {items : List Json} (level : Nat)
    (each : ∀ item ∈ items, ∀ after more,
      indented level item (after ++ more) = indented level item after ++ more)
    (after more : List Char) :
    indentedItems level items (after ++ more) = indentedItems level items after ++ more := by
  induction items with
  | nil => rfl
  | cons item items ih =>
      rw [List.forall_mem_cons] at each
      simp only [indentedItems, ih each.2, each.1, List.cons_append, List.append_assoc]

theorem indentedFields_append {fields : Fields} (level : Nat)
    (each : ∀ field ∈ fields, ∀ after more,
      indented level field.2 (after ++ more) = indented level field.2 after ++ more)
    (after more : List Char) :
    indentedFields level fields (after ++ more) = indentedFields level fields after ++ more := by
  induction fields with
  | nil => rfl
  | cons field fields ih =>
      rw [List.forall_mem_cons] at each
      simp only [indentedFields, ih each.2, each.1, List.cons_append, List.append_assoc]

/-- What comes after a value is left as it is. -/
theorem Storable.indented_append {doubles : Float → Prop} (storable : Storable doubles levels value)
    (level : Nat) (after more : List Char) :
    indented level value (after ++ more) = indented level value after ++ more := by
  induction storable generalizing level after more with
  | @array levels items each ih =>
      cases items with
      | nil => rfl
      | cons item items =>
          rw [List.forall_mem_cons] at ih
          have rest := indentedItems_append (level + 1) fun one membership =>
            ih.2 one membership (level + 1)
          simp only [indented, List.append_assoc, List.cons_append, ← ih.1, ← rest]
  | @object levels fields distinct keys each ih =>
      cases fields with
      | nil => rfl
      | cons field fields =>
          rw [List.forall_mem_cons] at ih
          have rest := indentedFields_append (level + 1) fun one membership =>
            ih.2 one membership (level + 1)
          simp only [indented, List.append_assoc, List.cons_append, ← ih.1, ← rest]
  | _ => exact (List.append_assoc ..).symm

theorem writeFloat_nonempty (double : Float) : 0 < (writeFloat double).length := by
  rcases readValue_writeFloat double with ⟨back, reads⟩
  refine List.length_pos_iff.mpr ?_
  intro none
  rw [none] at reads
  cases reads

theorem itemsSize_le {items : List Json} (level : Nat)
    (each : ∀ item ∈ items, ∀ after, size item + after.length ≤ (indented level item after).length)
    (after : List Char) :
    itemsSize items + after.length ≤ (indentedItems level items after).length := by
  induction items with
  | nil => simp [itemsSize, indentedItems]
  | cons item items ih =>
      rw [List.forall_mem_cons] at each
      have first := each.1 (indentedItems level items after)
      have others := ih each.2
      simp only [itemsSize, indentedItems, List.length_cons, List.length_append, newLine]
      omega

theorem fieldsSize_le {fields : Fields} (level : Nat)
    (each : ∀ field ∈ fields, ∀ after,
      size field.2 + after.length ≤ (indented level field.2 after).length)
    (after : List Char) :
    fieldsSize fields + after.length ≤ (indentedFields level fields after).length := by
  induction fields with
  | nil => simp [fieldsSize, indentedFields]
  | cons field fields ih =>
      rw [List.forall_mem_cons] at each
      have first := each.1 (indentedFields level fields after)
      have others := ih each.2
      simp only [fieldsSize, indentedFields, List.length_cons, List.length_append, newLine]
      omega

/-- A value is written with as many characters as the reader takes steps, at least. -/
theorem Storable.size_le {doubles : Float → Prop} (storable : Storable doubles levels value)
    (level : Nat) (after : List Char) : size value + after.length ≤ (indented level value after).length := by
  have atom {text rest : List Char} (some : 0 < text.length) :
      1 + rest.length ≤ (text ++ rest).length := by
    rw [List.length_append]
    omega
  induction storable generalizing level after with
  | null => exact atom (by decide)
  | bool value => cases value <;> exact atom (by decide)
  | @integer levels value short =>
      refine atom ?_
      cases value with
      | ofNat size =>
          rw [writeAtom_natural]
          exact Nat.length_toDigits_pos
      | negSucc size => simp [writeAtom_negative]
  | float double => exact atom (writeFloat_nonempty _)
  | text joined => exact atom (by simp [writeAtom, writeText])
  | @array levels items each ih =>
      cases items with
      | nil => exact atom (by decide)
      | cons item items =>
          rw [List.forall_mem_cons] at ih
          have others := itemsSize_le (level + 1)
            (fun one membership => ih.2 one membership (level + 1)) (newLine level ++ ']' :: after)
          have first := ih.1 (level + 1)
            (indentedItems (level + 1) items (newLine level ++ ']' :: after))
          simp only [size, itemsSize, indented, List.length_cons, List.length_append,
            newLine] at first others ⊢
          omega
  | @object levels fields distinct keys each ih =>
      cases fields with
      | nil => exact atom (by decide)
      | cons field fields =>
          rw [List.forall_mem_cons] at ih
          have others := fieldsSize_le (level + 1)
            (fun one membership => ih.2 one membership (level + 1)) (newLine level ++ '}' :: after)
          have first := ih.1 (level + 1)
            (indentedFields (level + 1) fields (newLine level ++ '}' :: after))
          simp only [size, fieldsSize, indented, List.length_cons, List.length_append,
            newLine] at first others ⊢
          omega

/-- A value that can be stored is read from the whole text that is written for it, with its doubles
as they are read. -/
theorem Storable.read_changed
    (storable : Storable
      (fun double => readValue 1 0 (writeFloat double) = .ok (.float (change double), [])) levels
      value) : read levels (pretty value ++ "\n") = .ok (mapDoubles change value) := by
  have written : (pretty value ++ "\n").toList = indented 0 value ['\n'] := by
    rw [String.toList_append, pretty, String.toList_ofList,
      ← List.nil_append ['\n'], storable.indented_append]
    rfl
  have enough := storable.size_le 0 ['\n']
  have follows : Follows ['\n'] := by
    simp
  have begins := storable.returns.begins 0 follows
  have back := storable.returns (2 * (indented 0 value ['\n']).length + 1) 0 ['\n'] follows
    (by omega)
  rw [read]
  simp only [written, skipSpace_stops begins.1, back, bind, Except.bind]
  rfl

/-- A value that can be stored is read back from the whole text that is written for it. -/
theorem Storable.read_pretty (storable : Storable ReadsBack levels value) :
    read levels (pretty value ++ "\n") = .ok value := by
  have back : read levels (pretty value ++ "\n") = .ok (mapDoubles id value) :=
    Storable.read_changed storable
  have kept : mapDoubles id value = value := storable.mapDoubles_self fun _ _ => rfl
  rwa [kept] at back

end TileWalk.Json
