/-!
# Texts

A text is a list of code points. Escapes and names from outside may hold half of a surrogate pair
on its own; such a half is no character, but it is kept and shown like one.
-/

namespace TileWalk

namespace Text

/-- A character, or an unpaired surrogate, given by its place among the surrogates. -/
inductive CodePoint where
  | char (value : Char)
  | surrogate (offset : Fin 0x800)
deriving DecidableEq, Repr

namespace CodePoint

instance : Coe Char CodePoint := ⟨char⟩

instance : Inhabited CodePoint := ⟨char ' '⟩

def firstSurrogate : Nat := 0xD800

def code : CodePoint → Nat
  | char value => value.toNat
  | surrogate offset => firstSurrogate + offset

/-- The character of a code point, unless it is a lone surrogate. -/
def char? : CodePoint → Option Char
  | char value => some value
  | surrogate _ => none

/-- Whether a code point is a lone surrogate. -/
def isSurrogate (point : CodePoint) : Bool :=
  point.char?.isNone

/-- The code point with a number: a surrogate when it lies in their range, else a character. -/
def ofCode (code : Nat) : CodePoint :=
  if h : firstSurrogate ≤ code ∧ code < firstSurrogate + 0x800 then
    surrogate ⟨code - firstSurrogate, by omega⟩
  else
    char (Char.ofNat code)

end CodePoint

end Text

abbrev Text := List Text.CodePoint

namespace Text

def ofChars (chars : List Char) : Text :=
  chars.map .char

def ofString (text : String) : Text :=
  ofChars text.toList

instance : Coe String Text := ⟨ofString⟩

/-- The plain text, when there is no lone surrogate in it. -/
def toString? (text : Text) : Option String :=
  (text.mapM CodePoint.char?).map String.ofList

/-- The plain text with every lone surrogate replaced by the replacement character. -/
def toStringLossy (text : Text) : String :=
  String.ofList (text.map fun point => point.char?.getD (Char.ofNat 0xFFFD))

/-- Whether a lone surrogate is in a text. -/
def hasSurrogate (text : Text) : Bool :=
  text.any CodePoint.isSurrogate

/-- The numbers of the code points. Texts are ordered by them. -/
def codes (text : Text) : List Nat :=
  text.map CodePoint.code

/-- Texts one after another with a separator in between. -/
def join (separator : Text) : List Text → Text
  | [] => []
  | [text] => text
  | text :: texts => text ++ separator ++ join separator texts

/-- Joins each high surrogate with a low one right after it into the character they stand for. -/
def joinPairs : Text → Text
  | .surrogate high :: .surrogate low :: rest =>
    if high.val < 0x400 ∧ 0x400 ≤ low.val then
      .char (Char.ofNat (0x10000 + high.val * 0x400 + (low.val - 0x400))) :: joinPairs rest
    else
      .surrogate high :: joinPairs (.surrogate low :: rest)
  | point :: rest => point :: joinPairs rest
  | [] => []

theorem mapM_char?_char (chars : List Char) :
    chars.mapM (CodePoint.char? ∘ CodePoint.char) = some chars := by
  induction chars with
  | nil => rfl
  | cons char chars ih => simp [CodePoint.char?, ih]

@[simp] theorem toString?_ofString (text : String) : toString? (ofString text) = some text := by
  simp [toString?, ofString, ofChars, mapM_char?_char]

theorem ofString_injective {left right : String} (h : ofString left = ofString right) :
    left = right := by
  have := congrArg toString? h
  simpa using this

end Text

end TileWalk
