/-
Unions and intersections that coerce.

Whatever its form, a schema that coerces claims the inputs that it takes in a call that coerces.  A
union keeps this promise: it has its members coerce, and so the flag of the schema and the option
of the call come to the same.  An intersection does not keep it.  Its members are called with the
options of the call and never learn of the flag, and what they do not take uncoerced the
intersection does not take either, whatever it claims.
-/
import Conform.Proofs.EntryPoints
import Conform.Schema.Build

namespace Conform.Schema

variable {schema other : Schema} {validate : Schema → Validator} {settings : Settings}
  {members : List Schema} {o o' : Options} {v : Value}

theorem isAsync_coercing (schema : Schema) : schema.coercing.isAsync = schema.isAsync := by
  rw [isAsync_eq, isAsync_eq]
  rfl

theorem inputTypes_coercing (schema : Schema) (coerce : Bool) :
    schema.coercing.inputTypes coerce = schema.inputTypes true := by
  rw [inputTypes_eq, inputTypes_eq, Bool.or_true]
  rfl

theorem eq_of_fittedBy (hvalidate : validate = apply ∨ validate = applyAsync)
    (hasync : schema.isAsync = other.isAsync) (hrules : schema.settings.rules = [])
    (hrules' : other.settings.rules = [])
    (hfitted : schema.fittedBy validate o v = other.fittedBy validate o' v) :
    validate schema o v = validate other o' v := by
  by_cases hrefused : validate = apply ∧ schema.isAsync = true
  · obtain ⟨rfl, hwaits⟩ := hrefused
    rw [apply_eq, apply_eq, if_pos hwaits, if_pos (hasync ▸ hwaits)]
  · have happlied : schema.AppliedBy validate :=
      hvalidate.imp_left fun happly => ⟨happly, Bool.eq_false_iff.2 fun h => hrefused ⟨happly, h⟩⟩
    have happlied' : other.AppliedBy validate :=
      happlied.imp_left fun hsync => ⟨hsync.1, hasync ▸ hsync.2⟩
    rw [happlied.eq_outcome hrules, happlied'.eq_outcome hrules', hfitted]

theorem fittedBy_coercing_union :
    (coercing ⟨settings, .union members⟩).fittedBy validate o v =
      fittedBy validate ⟨settings, .union members⟩ { o with coerce := true } v := by
  have hcoerces : settings.coercesUnder { o with coerce := true } = true := Bool.or_true _
  have hoptions : settings.memberOptions { o with coerce := true } = { o with coerce := true } := by
    rw [Settings.memberOptions, hcoerces]
  have hinputs : inputTypes ⟨{ settings with coerces := true }, .union members⟩ true =
      inputTypes ⟨settings, .union members⟩ true := inputTypes_coercing ⟨settings, _⟩ true
  rw [fittedBy_union, hoptions, hcoerces, ← hinputs, coercing, fittedBy_union]
  rfl

/-- To the members of an intersection it makes no difference whether it coerces. -/
theorem fittedBy_coercing_intersection :
    (coercing ⟨settings, .intersection members⟩).fittedBy validate o v =
      fittedBy validate ⟨settings, .intersection members⟩ o v :=
  rfl

/-- **What a union or an intersection does with a flag of its own.**  One that coerces claims the
inputs it takes in a call that coerces.  A union without rules is then as good as its word: it ends
as it would in such a call, with the same output, issues or fault.  An intersection without rules
ends as if it did not coerce. -/
theorem coercing_choice (hvalidate : validate = apply ∨ validate = applyAsync)
    (hrules : settings.rules = []) (members : List Schema) (o : Options) (v : Value) :
    let union : Schema := ⟨settings, .union members⟩
    let intersection : Schema := ⟨settings, .intersection members⟩
    (∀ coerce, union.coercing.inputTypes coerce = union.inputTypes true ∧
        intersection.coercing.inputTypes coerce = intersection.inputTypes true) ∧
      validate union.coercing o v = validate union { o with coerce := true } v ∧
      validate intersection.coercing o v = validate intersection o v := by
  intro union intersection
  refine ⟨fun coerce => ⟨inputTypes_coercing union coerce, inputTypes_coercing intersection coerce⟩,
    ?_, ?_⟩
  · exact eq_of_fittedBy hvalidate (isAsync_coercing union) hrules hrules fittedBy_coercing_union
  · exact eq_of_fittedBy hvalidate (isAsync_coercing intersection) hrules hrules
      fittedBy_coercing_intersection

/-- Of null, a union makes a boolean where an intersection refuses it. -/
theorem coercing_choice_boolean :
    let boolean : Schema := scalar .boolean
    (bare (.union [boolean])).coercing.apply {} .null =
        .ok (.accepted (.replaced (.bool false))) ∧
      (bare (.intersection [boolean])).coercing.apply {} .null =
        .ok (.rejected (.single (({} : Settings).typeIssue .boolean .null))) := by
  intro boolean
  obtain ⟨-, hunion, hintersection⟩ :=
    coercing_choice (Or.inl rfl) (rfl : ({} : Settings).rules = []) [boolean] {} .null
  exact ⟨hunion.trans rfl, hintersection.trans rfl⟩

/-- A call that coerces makes a boolean of null, and an intersection of booleans claims null when
it coerces.  But it does not take it. -/
theorem coercing_intersection_ne :
    let both : Schema := bare (.intersection [scalar .boolean])
    both.settings.rules = [] ∧ both.settings.inputOverride = none ∧
      (both.coercing.inputTypes false).any (·.admits .null) = true ∧
      both.coercing.apply {} .null ≠ both.apply { coerce := true } .null := by
  refine ⟨rfl, rfl, rfl, fun h => ?_⟩
  cases h

end Conform.Schema
