/-
Arrays and sets: elements in a row.

Every element is visited at its index, and the new outputs take the places of the elements.
-/
import Conform.Coercion.Collection
import Conform.Schema.Traversal

namespace Conform

/-- The elements with the new outputs in their places, if there are any. -/
def rebuildItems (items : List Value) (outputs : List Output) : Option (List Value) :=
  copyOnWrite items (outputs.map Output.new?)

/-- The visits of elements, each by the validator at its place.  The first element has the
index `start`. -/
def itemVisits (o : Options) (start : Nat) : List Validator → List Value → List Visit
  | validate :: validators, item :: items =>
    ⟨[.index start], item, validate o⟩ :: itemVisits o (start + 1) validators items
  | _, _ => []

/-- The validators of the elements of an array of the given length: those of the first
ones, and the one of the rest for each that is left. -/
def placeValidators (head : List Validator) (rest : Option Validator) (length : Nat) :
    List Validator :=
  head ++ rest.elim [] (List.replicate (length - head.length))

/-- The elements of an array. -/
def arrayItems? : Value → Option (List Value)
  | .array items => some items
  | _ => none

/-- The elements of a set. -/
def setItems? : Value → Option (List Value)
  | .set items => some items
  | _ => none

/-- An array with a validator for each of the first elements and one for the rest. -/
def fitArray (settings : Settings) (head : List Validator) (rest : Option Validator)
    (o : Options) (v : Value) : Except Fault Fit :=
  match receive (settings.coercesUnder o) arrayItems?
      (fun v => some (Coercion.toItems v)) .array v with
  | none => .ok (.refuse (settings.typeIssue .array v))
  | some (base, items) =>
    let enough :=
      if rest.isSome then decide (head.length ≤ items.length)
      else decide (items.length = head.length)
    if enough then
      visitParts o.verbose base (itemVisits o 0 (placeValidators head rest items.length) items)
        fun outputs => (rebuildItems items outputs).map .array
    else .ok (.refuse (Settings.tupleLengthIssue head.length items.length v))

/-- A set with one validator for all its elements. -/
def fitSet (settings : Settings) (element : Validator) (o : Options) (v : Value) :
    Except Fault Fit :=
  match receive (settings.coercesUnder o) setItems?
      (fun v => some (Coercion.toElements v)) .set v with
  | none => .ok (.refuse (settings.typeIssue .set v))
  | some (base, items) =>
    visitParts o.verbose base (itemVisits o 0 (List.replicate items.length element) items)
      fun outputs => (rebuildItems items outputs).map .set

end Conform
