import TileWalk.Json.Excerpt

/-!
# Validation issues

Raw records are checked field by field. Every issue says where it was found, and the whole list is
reported under the name of the record. A report shows each value that is at fault.
-/

namespace TileWalk

open TileWalk.Text

/-- One step on the way into a raw value. -/
inductive PathStep where
  | field (key : Text)
  | index (place : Nat)
deriving DecidableEq, Repr

/-- The step into a field with a plain name. -/
def PathStep.named (key : String) : PathStep :=
  .field (Text.ofString key)

/-- What is wrong with a raw value. -/
inductive IssueKind where
  | notARecord (record : String)
  | missing
  | unknownField
  | notText
  | brokenText
  | emptyText
  | notAList
  /-- A whole number beyond the signed numbers of sixty-four bits. -/
  | tooLarge
  /-- The value is none of those that are listed in words. -/
  | notOneOf (expected : String)
  /-- The fields are in order one by one, but not together. -/
  | rejected (reason : String)
deriving DecidableEq, Repr

namespace IssueKind

def tag : IssueKind → String
  | .notARecord _ => "model_type"
  | .missing => "missing"
  | .unknownField => "extra_forbidden"
  | .notText => "string_type"
  | .brokenText => "string_unicode"
  | .emptyText => "string_too_short"
  | .notAList => "list_type"
  | .tooLarge => "int_parsing_size"
  | .notOneOf _ => "enum"
  | .rejected _ => "value_error"

def message : IssueKind → String
  | .notARecord record => s!"Input should be a valid dictionary or instance of {record}"
  | .missing => "Field required"
  | .unknownField => "Extra inputs are not permitted"
  | .notText => "Input should be a valid string"
  | .brokenText => "Input should be a valid string, unable to parse raw data as a unicode string"
  | .emptyText => "String should have at least 1 character"
  | .notAList => "Input should be a valid list"
  | .tooLarge => "Unable to parse input string as an integer, exceeded maximum size"
  | .notOneOf expected => s!"Input should be {expected}"
  | .rejected reason => s!"Value error, {reason}"

end IssueKind

/-- An issue, the way to the value that has it, and what is shown of that value. -/
structure Issue where
  place : List PathStep
  kind : IssueKind
  value : Json.Excerpt
deriving DecidableEq, Repr

def Issue.of (place : List PathStep) (kind : IssueKind) (value : Json) : Issue :=
  ⟨place, kind, value.excerpt⟩

/-- One issue for each field whose name is not known, in order. -/
def unknownFields (known : List String) (fields : Json.Fields) : List Issue :=
  (fields.filter fun field => !(known.map Text.ofString).contains field.1).map fun field =>
    .of [.field field.1] .unknownField field.2

/-- The value of a field, or the whole record when it has no such field. -/
def fieldOrRecord (key : String) (fields : Json.Fields) : Json :=
  (fields.get? key).getD (.object fields)

structure Invalid where
  record : String
  issues : List Issue
deriving DecidableEq, Repr

/-- The one issue of a record of which a key has a lone surrogate in it. Nothing else is looked at
in such a record. -/
def brokenKey? (record : String) (fields : Json.Fields) : Option Invalid :=
  if fields.any fun field => field.1.hasSurrogate then
    some ⟨record, [.of [] .brokenText (.object fields)]⟩
  else none

/-- The first line of a report: how many issues the record has. -/
def Invalid.headline (invalid : Invalid) : String :=
  let noun := if invalid.issues.length = 1 then "validation error" else "validation errors"
  s!"{invalid.issues.length} {noun} for {invalid.record}"

def PathStep.text : PathStep → Text
  | .field key => key
  | .index place => toString place

/-- The address of the page about an issue. -/
def IssueKind.page (kind : IssueKind) : String :=
  String.intercalate "/" ["https:", "", "errors.pydantic.dev", "2.14", "v", kind.tag]

/-- The lines of an issue: the way to the value unless it is the record itself, what is wrong and
what the value is, and where there is more about it. -/
def Issue.report (issue : Issue) : Text :=
  let way : Text :=
    if issue.place = [] then [] else Text.join "." (issue.place.map PathStep.text) ++ "\n"
  let shown := s!"input_value={issue.value.shown}, input_type={issue.value.kind}"
  way ++ Text.ofString s!"  {issue.kind.message} [type={issue.kind.tag}, {shown}]\n" ++
    Text.ofString s!"    For further information visit {issue.kind.page}"

/-- The whole report: the first line, and the lines of each issue. -/
def Invalid.report (invalid : Invalid) : Text :=
  Text.join "\n" (Text.ofString invalid.headline :: invalid.issues.map Issue.report)

end TileWalk
