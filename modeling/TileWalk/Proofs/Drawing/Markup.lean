import TileWalk.Drawing.Console
import TileWalk.Proofs.Json.Number
import TileWalk.Screen.Editor

/-!
# Texts that are taken as markup

A console takes a plain text as markup, in a table as well as on its own, and it may refuse one in
which tags do not match. Which it refuses is up to the console; it accepts a text in which no
bracket opens. Styled texts are no markup.
-/

namespace TileWalk

open TileWalk.Text

/-- No tag begins in a text. -/
def Text.Tagless (text : Text) : Prop :=
  .char '[' ∉ text

instance (text : Text) : Decidable text.Tagless :=
  inferInstanceAs (Decidable (¬ _))

/-- What a console accepts as markup. -/
structure Markup where
  accepts : Text → Prop
  plain : ∀ {text : Text}, text.Tagless → accepts text

/-- A console that accepts no tags at all. -/
def Markup.tagless : Markup where
  accepts := Text.Tagless
  plain := id

namespace Drawing

mutual

/-- The texts in a drawing that are taken as markup. -/
def markups : Drawing → List Text
  | .plain text => [text]
  | .styled _ => []
  | .group parts => partMarkups parts
  | .columns parts => partMarkups parts
  | .panel content title => title.toList.map ofString ++ markups content
  | .table headers showHeader rows =>
    (if showHeader then headers.map ofString else []) ++ rowMarkups rows

def partMarkups : List Drawing → List Text
  | [] => []
  | part :: parts => markups part ++ partMarkups parts

def rowMarkups : List (List Drawing) → List Text
  | [] => []
  | row :: rows => partMarkups row ++ rowMarkups rows

end

theorem partMarkups_eq (parts : List Drawing) : partMarkups parts = parts.flatMap markups := by
  induction parts with
  | nil => rfl
  | cons part parts ih => rw [partMarkups, ih, List.flatMap_cons]

theorem rowMarkups_eq (rows : List (List Drawing)) :
    rowMarkups rows = rows.flatten.flatMap markups := by
  induction rows with
  | nil => rfl
  | cons row rows ih =>
      rw [rowMarkups, ih, partMarkups_eq, List.flatten_cons, List.flatMap_append]

theorem partMarkups_styled (texts : List StyledText) : partMarkups (texts.map .styled) = [] := by
  simp [partMarkups_eq, List.flatMap_map, markups]

/-- A table of fields shows their names and what stands behind them. -/
theorem markups_drawFields (fields : List (String × Drawing)) :
    (drawFields fields).markups =
      fields.flatMap fun field => ofString field.1 :: field.2.markups := by
  simp only [drawFields, markups, rowMarkups_eq, Bool.false_eq_true, if_false, List.nil_append]
  induction fields with
  | nil => rfl
  | cons field fields ih => simpa [markups] using ih

theorem markups_drawWorldPanel (world : World) :
    (drawWorldPanel world).markups = [ofString "World"] := by
  have shown : world.draw.map Drawing.styled ++ [.styled {}, .styled drawLegend] =
      (world.draw ++ [{}, drawLegend]).map .styled := by
    rw [List.map_append]
    rfl
  rw [drawWorldPanel, shown, markups, markups, partMarkups_styled]
  rfl

theorem markups_drawConsole (lines : List OutputLine) (maxLines : Int) :
    (drawConsole lines maxLines).markups = [] := by
  have kept (count : Int) (texts : List StyledText) :
      keepLast count (texts.map Drawing.styled) = (keepLast count texts).map .styled := by
    rw [keepLast, keepLast]
    split <;> simp
  rw [drawConsole]
  split
  · rfl
  · rw [← Function.comp_def, ← List.map_map, kept, markups, partMarkups_styled]

end Drawing

/-! ## Numbers are no markup -/

theorem Text.tagless_ofString {text : String} : (ofString text).Tagless ↔ '[' ∉ text.toList := by
  simp [Tagless, ofString, ofChars]

theorem not_mem_toDigits (number : Nat) : '[' ∉ Nat.toDigits 10 number := by
  intro known
  exact absurd (Json.toDigits_within number _ known) (by decide)

theorem not_mem_toString (number : Int) : '[' ∉ (toString number).toList := by
  cases number with
  | ofNat size =>
      have digits : (toString (Int.ofNat size)).toList = Nat.toDigits 10 size := Nat.toList_repr ..
      rw [digits]
      exact not_mem_toDigits size
  | negSucc size =>
      have digits : (toString (Int.negSucc size)).toList = '-' :: Nat.toDigits 10 (size + 1) := by
        simp [Int.toString_eq_repr, Int.repr, Nat.repr]
      rw [digits]
      simp [not_mem_toDigits]

theorem not_mem_renderFixed (places : Nat) (value : Float) :
    '[' ∉ (Decimal.renderFixed places value).toList := by
  have placed (units : Nat) : '[' ∉ Decimal.placePoint places units := by
    intro known
    have kept (part : List Char)
        (taken : part ⊆ List.replicate (places + 1 - (Nat.toDigits 10 units).length) '0' ++
          Nat.toDigits 10 units) : '[' ∉ part := by
      intro known
      simpa [not_mem_toDigits] using taken known
    rcases List.mem_append.mp known with whole | rest
    · exact kept _ (List.take_subset _ _) whole
    · split at rest
      · cases rest
      · rcases List.mem_cons.mp rest with point | rest
        · exact absurd point (by decide)
        · exact kept _ (List.drop_subset _ _) rest
  rw [Decimal.renderFixed]
  split
  · split <;> simp [placed]
  · split <;> decide
  · decide

/-! ## What a console refuses

Of a session only the variables can have tags in their names, and of an editor only the map and
what was said last. -/

namespace Markup

variable (markup : Markup)

/-- One of the texts is not accepted. -/
def Refuses (texts : List Text) : Prop :=
  ∃ text ∈ texts, ¬ markup.accepts text

@[simp] theorem refuses_nil : ¬ markup.Refuses [] := by
  simp [Refuses]

@[simp] theorem refuses_cons {text : Text} {texts : List Text} :
    markup.Refuses (text :: texts) ↔ ¬ markup.accepts text ∨ markup.Refuses texts := by
  simp [Refuses]

@[simp] theorem refuses_append {texts rest : List Text} :
    markup.Refuses (texts ++ rest) ↔ markup.Refuses texts ∨ markup.Refuses rest := by
  simp [Refuses, or_and_right, exists_or]

/-- A text of the program itself, without tags. -/
theorem accepts_ofString {text : String} (tagless : '[' ∉ text.toList) :
    markup.accepts (ofString text) :=
  markup.plain (tagless_ofString.mpr tagless)

theorem accepts_position (position : Position) :
    markup.accepts s!"{position.x}, {position.y}" := by
  refine markup.accepts_ofString ?_
  simp only [String.toList_append, List.mem_append, not_mem_toString, or_false, false_or]
  decide

theorem refuses_drawAgent (session : Session) :
    markup.Refuses session.drawAgent.markups ↔ ¬ markup.accepts session.bindings.summary := by
  have position := markup.accepts_position session.world.agent.position
  have status : markup.accepts (if session.world.agent.dead then "dead" else "alive") := by
    split <;> exact markup.accepts_ofString (by decide)
  have pace : markup.accepts (Speed.render session.speed) :=
    markup.accepts_ofString (by simp [Speed.render, not_mem_renderFixed])
  have names : markup.accepts "Agent" ∧ markup.accepts "Position" ∧ markup.accepts "Status" ∧
      markup.accepts "Speed" ∧ markup.accepts "Variables" := by
    refine ⟨?_, ?_, ?_, ?_, ?_⟩ <;> exact markup.accepts_ofString (by decide)
  simp [Session.drawAgent, Drawing.markups, Drawing.markups_drawFields, position, status, pace,
    names, -Int.toString_eq_repr]

theorem refuses_draw (session : Session) (lines : List OutputLine) :
    markup.Refuses (session.draw lines).markups ↔ ¬ markup.accepts session.bindings.summary := by
  have titles : markup.accepts "World" ∧ markup.accepts "Console" :=
    ⟨markup.accepts_ofString (by decide), markup.accepts_ofString (by decide)⟩
  simp [Session.draw, Drawing.markups, Drawing.partMarkups, Drawing.markups_drawWorldPanel,
    Drawing.markups_drawConsole, refuses_drawAgent, titles]

theorem refuses_table (editor : EditorState) :
    markup.Refuses editor.table.markups ↔
      ¬ markup.accepts editor.name ∨
        editor.lastMessage ≠ [] ∧ ¬ markup.accepts editor.lastMessage := by
  have cursor := markup.accepts_position editor.cursor
  have counted (tile : Tile) : markup.accepts (toString (editor.grid.count tile)) :=
    markup.accepts_ofString (not_mem_toString (editor.grid.count tile))
  have names : markup.accepts "Map" ∧ markup.accepts "Cursor" ∧ markup.accepts "Brush" ∧
      markup.accepts "Walls" ∧ markup.accepts "Water" ∧ markup.accepts "Goals" ∧
      markup.accepts "Note" := by
    refine ⟨?_, ?_, ?_, ?_, ?_, ?_, ?_⟩ <;> exact markup.accepts_ofString (by decide)
  by_cases silent : editor.lastMessage = []
  all_goals simp [EditorState.table, Drawing.markups_drawFields, Drawing.markups, cursor, counted,
    names, silent, -Int.toString_eq_repr, -Nat.toString_eq_repr]

end Markup

end TileWalk
