/-
Maps and records: keys with values.

Of every entry first the key and then the value is visited, both under the key as it was
given.  Entries of a map stay apart even if their keys become equal, while those of a
record are fields of an object, of which there can be only one of a name.
-/
import Conform.Coercion.Collection
import Conform.Schema.Traversal

namespace Conform

/-- The visits of entries, of each its key and then its value. -/
def entryVisits (segment : Value → Segment) (key value : Validator) (o : Options)
    (entries : List (Value × Value)) : List Visit :=
  entries.flatMap fun e =>
    [⟨[segment e.1], e.1, key o⟩, ⟨[segment e.1], e.2, value o⟩]

/-- Every entry that its outputs change, as they change it. -/
def changedEntries : List Output → List (Value × Value) → List (Option (Value × Value))
  | key :: value :: outputs, e :: entries =>
    (if key.isKept && value.isKept then none else some (key.resolve e.1, value.resolve e.2)) ::
      changedEntries outputs entries
  | _, _ => []

/-- The entries of a map. -/
def mapEntries? : Value → Option (List (Value × Value))
  | .map entries => some entries
  | _ => none

/-- A map with a validator for its keys and one for its values. -/
def fitMap (settings : Settings) (key value : Validator) (o : Options) (v : Value) :
    Except Fault Fit :=
  match receive (settings.coercesUnder o) mapEntries? Coercion.toEntries? .map v with
  | none => .ok (.refuse (settings.typeIssue .map v))
  | some (base, entries) =>
    visitParts o.verbose base (entryVisits .key key value o entries)
      fun outputs => (copyOnWrite entries (changedEntries outputs entries)).map .map

/-- The name that a value becomes as a key: a string as it is, and anything else by its
text. -/
def fieldName : Value → String
  | .string s => s
  | v => v.text

/-- The name that an output makes of the name of an entry. -/
def Output.rename (output : Output) (name : String) : String :=
  match output with
  | kept => name
  | replaced v => fieldName v

/-- Rebuilds the fields of a record, of which `entries` are left from the position `i` on.
Nothing is built before the first entry that changes, and then the fields before it are
copied. -/
def rebuildFields (source : Fields Value) (built : Option (Fields Value)) (i : Nat) :
    List Output → List (String × Value) → Option (Fields Value)
  | key :: value :: outputs, e :: entries =>
    if built.isNone && key.isKept && value.isKept then
      rebuildFields source built (i + 1) outputs entries
    else
      let before := built.getD (Fields.ofList (source.entries.take i))
      let more := before.insert (key.rename e.1) (value.resolve e.2)
      rebuildFields source (some more) (i + 1) outputs entries
  | _, _ => built

/-- An object as a record, with a validator for the names, if they are validated, and
one for the values.  Names that become equal share the first place and the last value. -/
def fitRecord (settings : Settings) (key : Option Validator) (value : Validator)
    (o : Options) (v : Value) : Except Fault Fit :=
  match v with
  | .object fields =>
    let entries := fields.entries.map fun e => (Value.string e.1, e.2)
    visitParts o.verbose .kept
      (entryVisits (fun name => .field (fieldName name)) (key.getD .keep) value o entries)
      fun outputs => (rebuildFields fields none 0 outputs fields.entries).map .object
  | _ => .ok (.refuse (settings.typeIssue .object v))

end Conform
