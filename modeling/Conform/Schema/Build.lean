/-
Building schemas.

A schema starts as a bare form and is refined by functions that return a new schema.
Those that concern one form only leave every other form as it is.
-/
import Conform.Schema.InputTypes

namespace Conform.Schema

/-! ### Forms -/

/-- A schema of the form with nothing added. -/
def bare (form : Form Schema) : Schema :=
  ⟨{}, form⟩

/-- Values of a scalar type. -/
def scalar (target : Scalar) : Schema :=
  bare (.scalar target)

/-- One value only. -/
def literal (v : Value) : Schema :=
  bare (.literal v)

/-- Any value. -/
def unknown : Schema :=
  bare .unknown

/-- No value. -/
def never : Schema :=
  bare .never

/-- Arrays of any length. -/
def array (item : Schema) : Schema :=
  bare (.array [] (some item))

/-- Arrays with one schema for each of their elements. -/
def tuple (head : List Schema) : Schema :=
  bare (.array head none)

/-- Objects with no declared properties. -/
def object : Schema :=
  bare (.object .empty .preserve)

/-- Objects with values, and perhaps names, of a schema. -/
def record (key : Option Schema) (value : Schema) : Schema :=
  bare (.record key value)

/-- Maps with keys and values of two schemas. -/
def map (key value : Schema) : Schema :=
  bare (.map key value)

/-- Sets with elements of a schema. -/
def set (element : Schema) : Schema :=
  bare (.set element)

/-- The members that a schema stands for in a union: those of a union to which nothing
was added and that does not coerce, and otherwise the schema itself. -/
def members (schema : Schema) : List Schema :=
  match schema.form with
  | .union inner => if schema.isPlain && !schema.settings.coerces then inner else [schema]
  | _ => [schema]

/-- Values of any of the schemas, tried in order. -/
def union (schemas : List Schema) : Schema :=
  bare (.union (schemas.flatMap members))

/-- Values of all of the schemas. -/
def intersection (schemas : List Schema) : Schema :=
  bare (.intersection schemas)

/-- The schema, or undefined, which is tried first. -/
def optional (schema : Schema) : Schema :=
  union [literal .undefined, schema]

/-- The schema, or null, which is tried first. -/
def nullable (schema : Schema) : Schema :=
  union [literal .null, schema]

/-- The schema is a union, whatever was added to it. -/
def isUnion (schema : Schema) : Bool :=
  match schema.form with
  | .union _ => true
  | _ => false

/-! ### Settings -/

/-- Adds a rule, which takes the place of one with the same key. -/
def addRule (schema : Schema) (rule : Rule) : Schema :=
  { schema with settings.rules := schema.settings.rules.push rule }

/-- Sets the message of the last rule, or of a wrong structure if there is no rule. -/
def withMessage (schema : Schema) (message : String) : Schema :=
  if schema.settings.rules.isEmpty then { schema with settings.typeMessage := some message }
  else
    { schema with
      settings.rules := schema.settings.rules.modifyLast fun rule =>
        { rule with message := some message } }

/-- The schema that coerces values before it looks at them. -/
def coercing (schema : Schema) : Schema :=
  { schema with settings.coerces := true }

/-- The schema that has to be waited for even if nothing in it does. -/
def markAsync (schema : Schema) : Schema :=
  { schema with settings.markedAsync := true }

/-- Sets the inputs the schema claims to take. -/
def claimInputs (schema : Schema) (types : List InputType) : Schema :=
  { schema with settings.inputOverride := some types }

/-! ### Arrays -/

/-- Sets the schema of the elements after the first ones. -/
def withRest (schema rest : Schema) : Schema :=
  match schema.form with
  | .array head _ => { schema with form := .array head (some rest) }
  | _ => schema

/-! ### Objects -/

/-- Declares a property.  One that is declared already keeps its place. -/
def field (schema : Schema) (name : String) (property : Schema) : Schema :=
  match schema.form with
  | .object properties extras =>
    { schema with form := .object (properties.insert name property) extras }
  | _ => schema

/-- Declares a property that may be missing. -/
def optionalField (schema : Schema) (name : String) (property : Schema) : Schema :=
  schema.field name property.optional

/-- Sets what is done with undeclared fields. -/
def withExtras (schema : Schema) (extras : Extras Schema) : Schema :=
  match schema.form with
  | .object properties _ => { schema with form := .object properties extras }
  | _ => schema

end Conform.Schema
