/-
Whether a value fits a form.

A form either takes a value, possibly coerced and with issues of its parts, or finds that
it has the wrong structure altogether.  Rules run only in the first case.
-/
import Conform.Rule
import Conform.Schema.Basic

namespace Conform

/-- What a form makes of a value, before any rule has run. -/
inductive Fit where
  /-- The value does not have the structure. -/
  | mismatch (issues : Issues)
  /-- The value has the structure, and the rules start from here. -/
  | fits (start : Progress)

namespace Fit

/-- The value has the structure, and its parts are in order. -/
def clean (output : Output) : Fit :=
  fits ⟨output, []⟩

/-- The value is wrong for the one reason given. -/
def refuse (issue : Issue) : Fit :=
  mismatch (.single issue)

end Fit

/-- The content of a value that the form takes, and the value itself as an output: as it
is if it is of the kind, and coerced if it is to be. -/
def receive {α : Type} (coercing : Bool) (content? coerced? : Value → Option α)
    (build : α → Value) (v : Value) : Option (Output × α) :=
  match content? v with
  | some content => some (.kept, content)
  | none =>
    if coercing then (coerced? v).map fun content => (.replaced (build content), content)
    else none

namespace Settings

/-- The message for a wrong structure: the schema's own, or else the one given. -/
def structureMessage (settings : Settings) (usual : String) : String :=
  settings.typeMessage.getD usual

/-- The issue that a value is not of the expected kind. -/
def typeIssue (settings : Settings) (expected : Kind) (v : Value) : Issue :=
  .raise Code.invalidType v
    (settings.structureMessage ("expected " ++ expected.name ++ ", got " ++ v.kind.name))
    (some (.kind expected))

/-- The issue that a value is not the expected one.  Null and undefined are expected as
kinds. -/
def literalIssue (settings : Settings) (expected v : Value) : Issue :=
  match InputType.ofLiteral expected with
  | .kind k => settings.typeIssue k v
  | .literal _ =>
    .raise Code.invalidLiteral v
      (settings.structureMessage ("must be equal to " ++ expected.text))
      (some (.value expected))

/-- The issue that there is a value where there may be none. -/
def neverIssue (settings : Settings) (v : Value) : Issue :=
  .raise Code.never v (settings.structureMessage "must not be present")

/-- The issue that an array does not have as many elements as there are places. -/
def tupleLengthIssue (places length : Nat) (v : Value) : Issue :=
  .raise Code.tupleLength v
    ("must have " ++ places.repr ++ " items, got " ++ length.repr)
    (some (.value (.number (Number.ofNat places))))

/-- The issue that a field is not declared. -/
def unknownKeyIssue (name : String) (v : Value) : Issue :=
  .raise Code.unknownKey v ("unknown key " ++ name) (some (.value (.string name)))

/-- The issue that no member of a union takes the value. -/
def unionIssue (settings : Settings) (inputs : List InputType) (groups : List (List Issue))
    (v : Value) : Issue :=
  .raise Code.invalidUnion v
    (settings.structureMessage "must match one of the union members")
    (some (.union inputs (if groups.isEmpty then none else some groups)))

/-- The issue that the members of an intersection disagree on the value. -/
def intersectionIssue (settings : Settings) (v : Value) : Issue :=
  .raise Code.invalidIntersection v
    (settings.structureMessage "member outputs cannot be intersected")

end Settings

end Conform
