/-
Applying a schema to a value.

The form looks at the structure, with its children validating the parts, and then the
rules run on what it accepted.  A schema that has to wait for something is applied
asynchronously only.  Nothing here suspends: to wait for a rule is to take its answer
before the next rule runs.
-/
import Conform.Schema.Choice
import Conform.Schema.Entries
import Conform.Schema.InputTypes
import Conform.Schema.Object
import Conform.Schema.Sequence

namespace Conform

/-- A scalar, coerced if it is to be. -/
def fitScalar (settings : Settings) (target : Scalar) (o : Options) (v : Value) : Fit :=
  match receive (settings.coercesUnder o)
      (fun v => if target.accepts v then some v else none) (Coercion.toScalar? target) id v with
  | some (output, _) => .clean output
  | none => .refuse (settings.typeIssue target.kind v)

namespace Schema

/-- What the form of a schema makes of a value, each child being given with the
validator to use for it. -/
def fit (settings : Settings) (form : Form (Schema × Validator)) (o : Options) (v : Value) :
    Except Fault Fit :=
  match form with
  | .scalar target => .ok (fitScalar settings target o v)
  | .literal expected =>
    .ok (if v == expected then .clean .kept else .refuse (settings.literalIssue expected v))
  | .unknown => .ok (.clean .kept)
  | .never => .ok (.refuse (settings.neverIssue v))
  | .array head rest => fitArray settings (head.map (·.2)) (rest.map (·.2)) o v
  | .object properties extras =>
    fitObject settings (properties.map fun _ => Prod.snd) (extras.map Prod.snd) o v
  | .record key value => fitRecord settings (key.map (·.2)) value.2 o v
  | .map key value => fitMap settings key.2 value.2 o v
  | .set element => fitSet settings element.2 o v
  | .union members =>
    let o := { o with coerce := settings.coercesUnder o }
    let self : Schema := ⟨settings, .union (members.map Prod.fst)⟩
    fitUnion settings (self.inputTypes o.coerce)
      (members.map fun member => (member.1.inputTypes, member.2)) o v
  | .intersection members => fitIntersection settings (members.map (·.2)) o v

/-- Validates a value synchronously. -/
def apply : Schema → Validator :=
  fold fun settings form o v =>
    let self : Schema := ⟨settings, form.mapChildren Prod.fst⟩
    if self.isAsync then .error .asyncSchema
    else
      match fit settings form o v with
      | .error fault => .error fault
      | .ok (.mismatch issues) => .ok (.rejected issues)
      | .ok (.fits start) => (settings.rules.run o v start).map Progress.outcome

/-- Validates a value and waits for what is asynchronous. -/
def applyAsync : Schema → Validator :=
  fold fun settings form o v =>
    let self : Schema := ⟨settings, form.mapChildren Prod.fst⟩
    if !self.isAsync then self.apply o v
    else
      match fit settings form o v with
      | .error fault => .error fault
      | .ok (.mismatch issues) => .ok (.rejected issues)
      | .ok (.fits start) => (settings.rules.runAsync o v start).map Progress.outcome

/-- Applying a schema is fitting the value to its form, with each child applied in place,
and then running its rules. -/
theorem apply_eq (schema : Schema) (o : Options) (v : Value) :
    schema.apply o v =
      if schema.isAsync then .error .asyncSchema
      else
        match fit schema.settings
          (schema.form.mapChildren fun child => (child, child.apply)) o v with
        | .error fault => .error fault
        | .ok (.mismatch issues) => .ok (.rejected issues)
        | .ok (.fits start) => (schema.settings.rules.run o v start).map Progress.outcome := by
  obtain ⟨settings, form⟩ := schema
  rw [apply, fold_eq]
  simp only [Form.mapChildren_mapChildren, Form.mapChildren_self]

/-- Waiting for a schema is the same, and no different from applying it where nothing in it
has to be waited for. -/
theorem applyAsync_eq (schema : Schema) (o : Options) (v : Value) :
    schema.applyAsync o v =
      if !schema.isAsync then schema.apply o v
      else
        match fit schema.settings
          (schema.form.mapChildren fun child => (child, child.applyAsync)) o v with
        | .error fault => .error fault
        | .ok (.mismatch issues) => .ok (.rejected issues)
        | .ok (.fits start) => (schema.settings.rules.runAsync o v start).map Progress.outcome := by
  obtain ⟨settings, form⟩ := schema
  rw [applyAsync, fold_eq]
  simp only [Form.mapChildren_mapChildren, Form.mapChildren_self]

/-! ### Entry points -/

/-- The value that comes out, or the issues. -/
def valueOf (v : Value) : Outcome → Except Issues Value
  | .accepted output => .ok (output.resolve v)
  | .rejected issues => .error issues

/-- The value that comes out, or the issues; only a fault is an error. -/
def tryParse (schema : Schema) (o : Options) (v : Value) : Except Fault (Except Issues Value) :=
  (schema.apply o v).map (valueOf v)

/-- `tryParse` for a schema that may have to be waited for. -/
def tryParseAsync (schema : Schema) (o : Options) (v : Value) :
    Except Fault (Except Issues Value) :=
  (schema.applyAsync o v).map (valueOf v)

/-- A validation as a value or a failure. -/
def parsed : Except Fault (Except Issues Value) → Except Failure Value
  | .error fault => .error (.fault fault)
  | .ok (.error issues) => .error (.invalid issues)
  | .ok (.ok v) => .ok v

/-- The value that comes out, or why there is none. -/
def parse (schema : Schema) (o : Options) (v : Value) : Except Failure Value :=
  parsed (schema.tryParse o v)

/-- `parse` for a schema that may have to be waited for. -/
def parseAsync (schema : Schema) (o : Options) (v : Value) : Except Failure Value :=
  parsed (schema.tryParseAsync o v)

/-- The value is accepted without any option. -/
def isValid (schema : Schema) (v : Value) : Except Fault Bool :=
  (schema.apply {} v).map Outcome.isAccepted

/-- `isValid` for a schema that may have to be waited for. -/
def isValidAsync (schema : Schema) (v : Value) : Except Fault Bool :=
  (schema.applyAsync {} v).map Outcome.isAccepted

end Schema

end Conform
