import TileWalk.Text.Quoted

/-!
# Text in octets

UTF-8 text is refused at the first octet that rules it out. The refusal names the octets that had
been taken for one character, and why they are none. Lone surrogates have no octets, except that
those from U+DC80 to U+DCFF stand in names of files for the octets 128 to 255.
-/

namespace TileWalk.Text.Utf8

inductive Reason where
  | invalidStart
  | invalidContinuation
  | unexpectedEnd
deriving DecidableEq, Repr

/-- Where and why reading stopped: the octets from `start` up to `stop`, the first of them `octet`. -/
structure Failure where
  octet : UInt8
  start : Nat
  stop : Nat
  reason : Reason
deriving DecidableEq, Repr

/-- The values that an octet may have. -/
abbrev Window := Nat × Nat

def continuation : Window := (0x80, 0xBF)

/-- The windows of the octets that have to follow a first one. The second octet's window shuts out
overlong forms, surrogates and numbers above the last code point. -/
def following? (first : Nat) : Option (List Window) :=
  if first < 0x80 then some []
  else if first < 0xC2 then none
  else if first < 0xE0 then some [continuation]
  else if first = 0xE0 then some [(0xA0, 0xBF), continuation]
  else if first = 0xED then some [(0x80, 0x9F), continuation]
  else if first < 0xF0 then some [continuation, continuation]
  else if first = 0xF0 then some [(0x90, 0xBF), continuation, continuation]
  else if first < 0xF4 then some [continuation, continuation, continuation]
  else if first = 0xF4 then some [(0x80, 0x8F), continuation, continuation]
  else none

/-- A character of which some octets have been taken. -/
structure Pending where
  octet : UInt8
  start : Nat
  next : Window
  later : List Window

/-- The first failure in the octets from `position` on, if there is one. -/
def findFailure (position : Nat) (pending : Option Pending) : List UInt8 → Option Failure
  | [] => pending.map fun held => ⟨held.octet, held.start, position, .unexpectedEnd⟩
  | octet :: rest =>
    match pending with
    | none =>
      match following? octet.toNat with
      | none => some ⟨octet, position, position + 1, .invalidStart⟩
      | some [] => findFailure (position + 1) none rest
      | some (next :: later) => findFailure (position + 1) (some ⟨octet, position, next, later⟩) rest
    | some held =>
      if held.next.1 ≤ octet.toNat ∧ octet.toNat ≤ held.next.2 then
        match held.later with
        | [] => findFailure (position + 1) none rest
        | next :: later =>
          findFailure (position + 1) (some ⟨held.octet, held.start, next, later⟩) rest
      else
        some ⟨held.octet, held.start, position, .invalidContinuation⟩

def decode (octets : ByteArray) : Except Failure String :=
  match String.fromUTF8? octets with
  | some text => .ok text
  | none =>
    .error ((findFailure 0 none octets.toList).getD ⟨0, 0, octets.size, .unexpectedEnd⟩)

def encode (text : String) : ByteArray :=
  text.toUTF8

def Reason.message : Reason → String
  | .invalidStart => "invalid start byte"
  | .invalidContinuation => "invalid continuation byte"
  | .unexpectedEnd => "unexpected end of data"

/-- The message of a failure names one octet, or the places of several. -/
def Failure.message (failure : Failure) : String :=
  let octets :=
    if failure.stop = failure.start + 1 then
      let figures := hexPadded 2 failure.octet.toNat
      s!"byte 0x{String.ofList figures} in position {failure.start}"
    else
      s!"bytes in position {failure.start}-{failure.stop - 1}"
  s!"'utf-8' codec can't decode {octets}: {failure.reason.message}"

/-- The octets of a code point in the name of a file. -/
def octetsInName? : CodePoint → Option (List UInt8)
  | .char value => some (String.utf8EncodeChar value)
  | .surrogate offset =>
    if 0x480 ≤ offset.val ∧ offset.val < 0x500 then some [UInt8.ofNat (offset.val - 0x400)] else none

/-- The octets of the name of a file; code points without octets are passed over. -/
def nameOctets (name : Text) : List UInt8 :=
  name.flatMap fun point => (octetsInName? point).getD []

/-- How many octets a code point takes in the name of a file. -/
def sizeInName? : CodePoint → Option Nat
  | .char value => some value.utf8Size
  | .surrogate offset => if 0x480 ≤ offset.val ∧ offset.val < 0x500 then some 1 else none

/-- How many octets a name takes; code points without octets take none. -/
def nameSize (name : Text) : Nat :=
  name.foldl (fun size point => size + (sizeInName? point).getD 0) 0

/-- Where a text cannot be written: at a code point without octets, and up to the end of the run of
surrogates that it stands in. -/
structure Unwritable where
  point : CodePoint
  start : Nat
  stop : Nat
deriving DecidableEq, Repr

/-- The first place where the name of a file cannot be written, if there is one. -/
def findUnwritable (position : Nat) : Text → Option Unwritable
  | [] => none
  | point :: rest =>
    if (sizeInName? point).isSome then findUnwritable (position + 1) rest
    else some ⟨point, position, position + 1 + (rest.takeWhile CodePoint.isSurrogate).length⟩

/-- The message names one code point, or the places of several. -/
def Unwritable.message (failure : Unwritable) : String :=
  let points :=
    if failure.stop = failure.start + 1 then
      s!"character '{String.ofList (escapeByNumber failure.point.code)}' in position {failure.start}"
    else
      s!"characters in position {failure.start}-{failure.stop - 1}"
  s!"'utf-8' codec can't encode {points}: surrogates not allowed"

end TileWalk.Text.Utf8
