/-
Objects with declared properties.

The declared fields are visited first, in the order they are declared, and then the
others, in the order they were given, if anything is asked of them.
-/
import Conform.Schema.Traversal

namespace Conform

/-- The fields that the properties do not declare. -/
def undeclared {α : Type} (properties : Fields α) (fields : Fields Value) :
    List (String × Value) :=
  fields.entries.filter fun e => !properties.contains e.1

/-- The visits of the declared fields, in the order of the properties.  A missing field
is undefined. -/
def propertyVisits (properties : Fields Validator) (o : Options) (fields : Fields Value) :
    List (String × Visit) :=
  properties.entries.map fun (name, validate) =>
    (name, ⟨[.field name], (fields.get? name).getD .undefined, validate o⟩)

/-- The visits of the other fields, where they are looked at. -/
def extraVisits (extras : Extras Validator) (o : Options) (others : List (String × Value)) :
    List (String × Visit) :=
  let visits (validate : String → Value → Except Fault Outcome) :=
    others.map fun (name, v) => (name, (⟨[.field name], v, validate name⟩ : Visit))
  match extras with
  | .preserve | .strip => []
  | .exact => visits fun name v => .ok (.rejected (.single (Settings.unknownKeyIssue name v)))
  | .validate validate => visits fun _ => validate o

/-- The fields with every new output set under its name, if there are any.  They are copied
at the first one. -/
def changedFields (fields : Fields Value) (outputs : List (String × Output)) :
    Option (Fields Value) :=
  outputs.foldl (fun changed e =>
    match e.2 with
    | .kept => changed
    | .replaced v => some ((changed.getD fields).insert e.1 v)) none

/-- The object that the outputs make, if it is another one.  Of an object to be stripped
that has undeclared fields only the declared ones are left. -/
def rebuildObject {α : Type} (properties : Fields α) (extras : Extras α)
    (fields : Fields Value) (outputs : List (String × Output)) : Option (Fields Value) :=
  let changed := changedFields fields outputs
  if extras.isStrip && !(undeclared properties fields).isEmpty then
    some ((changed.getD fields).filter fun name _ => properties.contains name)
  else changed

/-- An object with declared properties. -/
def fitObject (settings : Settings) (properties : Fields Validator) (extras : Extras Validator)
    (o : Options) (v : Value) : Except Fault Fit :=
  match v with
  | .object fields =>
    let visits :=
      propertyVisits properties o fields ++ extraVisits extras o (undeclared properties fields)
    visitParts o.verbose .kept (visits.map Prod.snd) fun outputs =>
      (rebuildObject properties extras fields ((visits.map Prod.fst).zip outputs)).map .object
  | _ => .ok (.refuse (settings.typeIssue .object v))

end Conform
