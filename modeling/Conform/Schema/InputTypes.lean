/-
The inputs a schema may take, and whether it has to wait.

Both follow from the form and the settings alone, without validating anything.  Unions
choose the members worth trying by the input types.
-/
import Conform.Schema.Basic

namespace Conform

namespace Form

/-- The inputs that a form takes, from those of its children: as it is, or when
coercing. -/
def inputTypes (coercing : Bool) : Form (List InputType) → List InputType
  | scalar target =>
    if coercing then target.sources.map .kind else [.kind target.kind]
  | literal v => [.ofLiteral v]
  | unknown => [.unknown]
  | never => [.never]
  | array _ _ => [if coercing then .unknown else .kind .array]
  | object _ _ => [.kind .object]
  | record _ _ => [.kind .object]
  | map _ _ =>
    if coercing then [.kind .map, .kind .object, .kind .array] else [.kind .map]
  | set _ => [if coercing then .unknown else .kind .set]
  | union members => InputType.unite members.flatten
  | intersection members => InputType.distribute members

end Form

namespace Schema

/-- The least types of the inputs a schema takes, `coerce` saying whether the call
coerces. -/
def inputTypes : (schema : Schema) → (coerce : Bool) → List InputType :=
  fold fun settings form coerce =>
    match settings.inputOverride with
    | some types => InputType.unite types
    | none =>
      let coercing := settings.coerces || coerce
      InputType.unite <|
        (form.mapChildren fun child => child.2 coercing).inputTypes coercing

/-- The types of the inputs the form takes by itself, neither overridden nor reduced. -/
def declaredTypes (schema : Schema) : List InputType :=
  (schema.form.mapChildren fun child => child.inputTypes false).inputTypes false

/-- The schema, a rule of it or a schema inside it has to be waited for. -/
def isAsync (schema : Schema) : Bool :=
  schema.fold fun settings form =>
    settings.markedAsync || settings.rules.isAsync || form.children.any (·.2)

/-- A schema inside the schema has to be waited for. -/
def hasAsyncChildren (schema : Schema) : Bool :=
  schema.form.children.any isAsync

theorem isAsync_eq (schema : Schema) :
    schema.isAsync =
      (schema.settings.markedAsync || schema.settings.rules.isAsync ||
        schema.hasAsyncChildren) := by
  rw [isAsync, fold_eq]
  simp [hasAsyncChildren, Form.children_mapChildren, List.any_map, Function.comp_def]
  rfl

/-- Nothing was added to the form, coercion apart. -/
def isPlain (schema : Schema) : Bool :=
  schema.settings.rules.isEmpty && !schema.settings.markedAsync &&
    schema.settings.inputOverride.isNone && schema.settings.typeMessage.isNone

/-- The inputs of a schema are those it claims, or else those its form takes. -/
theorem inputTypes_eq (schema : Schema) (coerce : Bool) :
    schema.inputTypes coerce =
      match schema.settings.inputOverride with
      | some types => InputType.unite types
      | none =>
        let coercing := schema.settings.coerces || coerce
        InputType.unite <|
          (schema.form.mapChildren fun child => child.inputTypes coercing).inputTypes coercing := by
  rw [inputTypes, fold_eq]
  simp only [Form.mapChildren_mapChildren]

theorem inputTypes_of_claimed {schema : Schema} {types : List InputType}
    (h : schema.settings.inputOverride = some types) (coerce : Bool) :
    schema.inputTypes coerce = InputType.unite types := by
  rw [inputTypes_eq, h]

theorem inputTypes_of_unclaimed {schema : Schema} (h : schema.settings.inputOverride = none)
    (coerce : Bool) :
    schema.inputTypes coerce =
      InputType.unite ((schema.form.mapChildren fun child =>
        child.inputTypes (schema.settings.coerces || coerce)).inputTypes
          (schema.settings.coerces || coerce)) := by
  rw [inputTypes_eq, h]

end Schema

end Conform
