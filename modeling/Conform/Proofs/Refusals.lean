/-
With what a schema refuses a value.

A form that does not take a value says so in one issue, about the value as a whole.  There are as
many reasons as there are forms, but the words are left to the settings, which know the message of
the schema's own.  One reason is not worded by them: that a value, taken as an array, does not have
as many elements as there are places.
-/
import Conform.Proofs.Fits

namespace Conform.Schema

/-- How many places there are, and how many elements, if a value is taken as an array and the
elements do not fill the places. -/
def miscount? (schema : Schema) (o : Options) (v : Value) : Option (Nat × Nat) :=
  match schema.form with
  | .array head rest => do
    let (_, items) ← receive (schema.settings.coercesUnder o) arrayItems?
      (fun v => some (Coercion.toItems v)) .array v
    if (if rest.isSome then head.length ≤ items.length else items.length = head.length) then none
    else some (head.length, items.length)
  | _ => none

/-- The issue is one with which the schema itself refuses the value. -/
inductive Refusal (schema : Schema) (o : Options) (v : Value) : Issue → Prop
  /-- The words are those of the settings, or else the usual ones for the reason. -/
  | worded (code usual : String) (param : Option (IssueParam Issue))
      (hcount : schema.miscount? o v = none) :
      Refusal schema o v (.raise code v (schema.settings.structureMessage usual) param)
  | miscounted {places length : Nat} (hcount : schema.miscount? o v = some (places, length)) :
      Refusal schema o v (Settings.tupleLengthIssue places length v)

variable {schema : Schema} {validate : Schema → Validator} {settings : Settings} {o : Options}
  {v : Value} {issue : Issue}

theorem Refusal.path_eq_nil (h : schema.Refusal o v issue) : issue.path = [] := by
  cases h with
  | worded => rfl
  | miscounted => rfl

theorem Refusal.input_eq (h : schema.Refusal o v issue) : issue.input = v := by
  cases h with
  | worded => rfl
  | miscounted => rfl

/-! ### The reasons -/

theorem refusal_typeIssue (expected : Kind) (hcount : schema.miscount? o v = none) :
    schema.Refusal o v (schema.settings.typeIssue expected v) :=
  .worded _ _ _ hcount

theorem refusal_literalIssue (expected : Value) (hcount : schema.miscount? o v = none) :
    schema.Refusal o v (schema.settings.literalIssue expected v) := by
  unfold Settings.literalIssue
  split
  · exact refusal_typeIssue _ hcount
  · exact .worded _ _ _ hcount

/-- A value that is not taken as an array has nothing to count. -/
theorem miscount?_of_not_received {head : List Schema} {rest : Option Schema}
    (h : receive (settings.coercesUnder o) arrayItems? (fun v => some (Coercion.toItems v)) .array
      v = none) : miscount? ⟨settings, .array head rest⟩ o v = none := by
  rw [miscount?, h]
  rfl

theorem fillsPlaces_map_iff {head : List Schema} {rest : Option Schema} {length : Nat} :
    FillsPlaces (head.map validate) (rest.map validate) length ↔
      if rest.isSome then head.length ≤ length else length = head.length := by
  rw [FillsPlaces, List.length_map, Option.isSome_map]

theorem miscount?_of_not_fills {head : List Schema} {rest : Option Schema} {base : Output}
    {items : List Value}
    (hreceive : receive (settings.coercesUnder o) arrayItems? (fun v => some (Coercion.toItems v))
      .array v = some (base, items))
    (hfills : ¬ FillsPlaces (head.map validate) (rest.map validate) items.length) :
    miscount? ⟨settings, .array head rest⟩ o v = some (head.length, items.length) := by
  rw [miscount?, hreceive]
  exact if_neg (mt fillsPlaces_map_iff.2 hfills)

end Conform.Schema
