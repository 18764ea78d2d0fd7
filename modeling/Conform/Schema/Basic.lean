/-
Schemas.

A schema is a form, which says what structure a value must have, with settings that
every form takes: the rules to run on what has that structure, and how to treat
values on the way in.  The type `Form` leaves open what stands in the place of the
child schemas, so that one definition of what a form does serves every way of
validating them.
-/
import Conform.Coercion.Scalar
import Conform.InputType
import Conform.Rule

namespace Conform

/-- What a schema says whatever its form. -/
structure Settings where
  rules : Rules := []
  /-- Coerces the values it is given. -/
  coerces : Bool := false
  /-- Is to be applied asynchronously even if nothing in it has to wait. -/
  markedAsync : Bool := false
  /-- The inputs to claim, in place of those that follow from the form. -/
  inputOverride : Option (List InputType) := none
  /-- The message of the issue that the structure is wrong. -/
  typeMessage : Option String := none

/-- Values are coerced in a call with these options. -/
def Settings.coercesUnder (settings : Settings) (o : Options) : Bool :=
  settings.coerces || o.coerce

/-- What an object does with the fields it does not declare. -/
inductive Extras (α : Type) where
  | preserve
  | strip
  /-- They are issues. -/
  | exact
  /-- Their values are validated. -/
  | validate (schema : α)

/-- The structure that a value must have, with children `α`. -/
inductive Form (α : Type) where
  | scalar (target : Scalar)
  | literal (v : Value)
  | unknown
  | never
  /-- An array with a child for each of its first elements and one for the rest.  If
  there is none for the rest, there is no rest. -/
  | array (head : List α) (rest : Option α)
  | object (properties : Fields α) (extras : Extras α)
  /-- An object whose names and values are each validated by one child. -/
  | record (key : Option α) (value : α)
  | map (key value : α)
  | set (element : α)
  | union (members : List α)
  | intersection (members : List α)

/-- A schema. -/
structure Schema where
  settings : Settings
  form : Form Schema

variable {α β : Type}

/-- The children of an `Extras`. -/
def Extras.children : Extras α → List α
  | validate schema => [schema]
  | _ => []

/-- Undeclared fields are dropped. -/
def Extras.isStrip : Extras α → Bool
  | strip => true
  | _ => false

/-- Changes the schema of the undeclared fields. -/
def Extras.map (f : α → β) : Extras α → Extras β
  | preserve => preserve
  | strip => strip
  | exact => exact
  | validate schema => validate (f schema)

@[simp] theorem Extras.isStrip_map (f : α → β) (extras : Extras α) :
    (extras.map f).isStrip = extras.isStrip := by
  cases extras <;> rfl

@[simp] theorem Extras.children_map (f : α → β) (extras : Extras α) :
    (extras.map f).children = extras.children.map f := by
  cases extras <;> rfl

namespace Form

/-- The children of a form, in order. -/
def children : Form α → List α
  | scalar _ | literal _ | unknown | never => []
  | array head rest => head ++ rest.toList
  | object properties extras => properties.values ++ extras.children
  | record key value => key.toList ++ [value]
  | map key value => [key, value]
  | set element => [element]
  | union members => members
  | intersection members => members

/-- The form with its children replaced. -/
def mapChildren (f : α → β) : Form α → Form β
  | scalar target => scalar target
  | literal v => literal v
  | unknown => unknown
  | never => never
  | array head rest => array (head.map f) (rest.map f)
  | object properties extras => object (properties.map fun _ => f) (extras.map f)
  | record key value => record (key.map f) (f value)
  | map key value => map (f key) (f value)
  | set element => set (f element)
  | union members => union (members.map f)
  | intersection members => intersection (members.map f)

theorem mapChildren_mapChildren {γ : Type} (f : α → β) (g : β → γ) (form : Form α) :
    (form.mapChildren f).mapChildren g = form.mapChildren fun child => g (f child) := by
  cases form with
  | object properties extras => cases extras <;> simp [mapChildren, Extras.map]
  | _ => simp [mapChildren, List.map_map, Option.map_map, Function.comp_def]

@[simp] theorem mapChildren_self (form : Form α) :
    (form.mapChildren fun child => child) = form := by
  cases form with
  | object properties extras => cases extras <;> simp [mapChildren, Extras.map]
  | _ => simp [mapChildren]

theorem children_mapChildren (f : α → β) (form : Form α) :
    (form.mapChildren f).children = form.children.map f := by
  cases form with
  | array head rest => cases rest <;> simp [mapChildren, children]
  | object properties extras => simp [mapChildren, children, Fields.values]
  | record key value => cases key <;> simp [mapChildren, children]
  | _ => simp [mapChildren, children]

end Form

namespace Schema

/-- What holds of a schema whenever it holds of its children holds of every schema. -/
@[elab_as_elim] theorem induction {P : Schema → Prop}
    (step : ∀ schema : Schema, (∀ child ∈ schema.form.children, P child) → P schema)
    (schema : Schema) : P schema := by
  have single {child other : Schema} (h : P other) (mem : child ∈ [other]) : P child :=
    List.mem_singleton.1 mem ▸ h
  refine Schema.rec (motive_1 := P)
    (motive_2 := fun form => ∀ child ∈ form.children, P child)
    (motive_3 := fun children => ∀ child ∈ children, P child)
    (motive_4 := fun optional => ∀ child ∈ optional.toList, P child)
    (motive_5 := fun fields => ∀ child ∈ fields.values, P child)
    (motive_6 := fun extras => ∀ child ∈ extras.children, P child)
    (motive_7 := fun _ row => ∀ e ∈ row.toList, P e.2)
    ?schema ?scalar ?literal ?unknown ?never ?array ?object ?record ?map ?set ?union
    ?intersection ?nil ?cons ?none ?some ?fields ?preserve ?strip ?exact ?validate ?emptyRow
    ?consRow schema
  case schema => exact fun settings form ih => step ⟨settings, form⟩ ih
  case array => exact fun _ _ head rest child h => (List.mem_append.1 h).elim (head _) (rest _)
  case object =>
    exact fun _ _ fields extras child h => (List.mem_append.1 h).elim (fields _) (extras _)
  case record =>
    exact fun _ _ key value child h => (List.mem_append.1 h).elim (key _) (single value)
  case map =>
    exact fun _ _ key value child h => (List.mem_cons.1 h).elim (fun e => e ▸ key) (single value)
  case set => exact fun _ element child => single element
  case union => exact fun _ members => members
  case intersection => exact fun _ members => members
  case cons => exact fun _ _ first rest => List.forall_mem_cons.2 ⟨first, rest⟩
  case some => exact fun _ value child => single value
  case fields =>
    intro _ _ row ih child h
    obtain ⟨e, he, rfl⟩ := List.mem_map.1 h
    exact ih e he
  case validate => exact fun _ value child => single value
  case consRow => exact fun _ _ _ value rest => List.forall_mem_cons.2 ⟨value, rest⟩
  all_goals
    intros
    rename_i h
    exact absurd h List.not_mem_nil

variable (step : Settings → Form (Schema × α) → α)

mutual

/-- Computes a result for a schema from the results for its children, which `step` is
given beside the children themselves. -/
def fold : Schema → α
  | ⟨settings, form⟩ => step settings (foldForm form)

/-- The form with a result beside every child. -/
def foldForm : Form Schema → Form (Schema × α)
  | .scalar target => .scalar target
  | .literal v => .literal v
  | .unknown => .unknown
  | .never => .never
  | .array head rest => .array (foldList head) (foldOption rest)
  | .object ⟨names, distinct, row⟩ extras =>
    .object ⟨names, distinct, foldRow row⟩ (foldExtras extras)
  | .record key value => .record (foldOption key) (value, fold value)
  | .map key value => .map (key, fold key) (value, fold value)
  | .set element => .set (element, fold element)
  | .union members => .union (foldList members)
  | .intersection members => .intersection (foldList members)

/-- The list with a result beside every child. -/
def foldList : List Schema → List (Schema × α)
  | [] => []
  | child :: rest => (child, fold child) :: foldList rest

/-- The child, if there is one, with its result. -/
def foldOption : Option Schema → Option (Schema × α)
  | none => none
  | some child => some (child, fold child)

/-- The row with a result beside every child. -/
def foldRow {names : List String} : Row Schema names → Row (Schema × α) names
  | .nil => .nil
  | .cons name child rest => .cons name (child, fold child) (foldRow rest)

/-- The extras with a result beside the child. -/
def foldExtras : Extras Schema → Extras (Schema × α)
  | .preserve => .preserve
  | .strip => .strip
  | .exact => .exact
  | .validate child => .validate (child, fold child)

end

theorem foldList_eq (children : List Schema) :
    foldList step children = children.map fun child => (child, fold step child) := by
  induction children with
  | nil => rfl
  | cons child rest ih => simp [foldList, ih]

theorem foldOption_eq (child : Option Schema) :
    foldOption step child = child.map fun child => (child, fold step child) := by
  cases child <;> rfl

theorem foldRow_eq : {names : List String} → (row : Row Schema names) →
    foldRow step row = row.map fun _ child => (child, fold step child)
  | _, .nil => rfl
  | _, .cons _ _ rest => by simp [foldRow, Row.map, foldRow_eq rest]

theorem foldExtras_eq (extras : Extras Schema) :
    foldExtras step extras = extras.map fun child => (child, fold step child) := by
  cases extras <;> rfl

/-- A fold is its step, with every child folded in place. -/
theorem fold_eq (schema : Schema) :
    schema.fold step = step schema.settings
      (schema.form.mapChildren fun child => (child, child.fold step)) := by
  obtain ⟨settings, form⟩ := schema
  simp only [fold]
  congr 1
  cases form <;>
    simp [foldForm, Form.mapChildren, foldList_eq, foldOption_eq, foldExtras_eq, foldRow_eq,
      Fields.map]

end Schema

end Conform
