import TileWalk.Validation

/-!
# Output lines

What a program tells the player is a text of one of four kinds.
-/

namespace TileWalk

open TileWalk.Text

inductive OutputKind where
  | normal
  | info
  | error
  | success
deriving DecidableEq, Repr

namespace OutputKind

def all : List OutputKind := [.normal, .info, .error, .success]

def name : OutputKind → String
  | .normal => "normal"
  | .info => "info"
  | .error => "error"
  | .success => "success"

def ofName? (name : Text) : Option OutputKind :=
  all.find? fun kind => Text.ofString kind.name = name

end OutputKind

structure OutputLine where
  text : Text
  kind : OutputKind := .normal
deriving DecidableEq, Repr

namespace OutputLine

/-- The name of the record in reports. -/
def recordName : String := "OutputLine"

/-- Reads the text of a line, which may be any text. -/
def readText : Json → Except IssueKind Text
  | .text value => .ok value
  | _ => .error .notText

/-- What is said of a kind that is none. -/
def unknownKind : IssueKind := .notOneOf "'normal', 'info', 'error' or 'success'"

/-- Reads the kind of a line by its name. -/
def readKind : Json → Except IssueKind OutputKind
  | .text value =>
    if value.hasSurrogate then .error .brokenText
    else
      match OutputKind.ofName? value with
      | some kind => .ok kind
      | none => .error unknownKind
  | _ => .error unknownKind

/-- Reads a line from the fields of a record. The kind may be left out. -/
def ofFields (fields : Json.Fields) : Except Invalid OutputLine :=
  let text : Except IssueKind Text := match fields.get? "text" with
    | none => .error .missing
    | some value => readText value
  let kind : Except IssueKind OutputKind := match fields.get? "kind" with
    | none => .ok .normal
    | some value => readKind value
  let unknown := unknownFields ["text", "kind"] fields
  match text, kind, unknown with
  | .ok text, .ok kind, [] => .ok { text, kind }
  | _, _, _ =>
    let textIssues : List Issue := match text with
      | .ok _ => []
      | .error issue => [.of [.named "text"] issue (fieldOrRecord "text" fields)]
    let kindIssues : List Issue := match kind with
      | .ok _ => []
      | .error issue => [.of [.named "kind"] issue (fieldOrRecord "kind" fields)]
    .error ⟨recordName, textIssues ++ kindIssues ++ unknown⟩

/-- Reads a line from any raw value. -/
def ofJson : Json → Except Invalid OutputLine
  | .object fields =>
    match brokenKey? recordName fields with
    | some invalid => .error invalid
    | none => ofFields fields
  | value => .error ⟨recordName, [.of [] (.notARecord recordName) value]⟩

end OutputLine

end TileWalk
