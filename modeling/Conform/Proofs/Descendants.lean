/-
The schemas inside a schema.

A property that a schema tree has throughout is a property of every schema inside it, the
tree itself included.  Where it matters whether a value is coerced, being inside is not
enough: a coercing union hands its members options that coerce, whatever it was called
with, and so a schema is followed down together with the options that reach it.
-/
import Conform.Proofs.Rules
import Conform.Schema.Apply

namespace Conform

variable {α β : Type}

/-- Only what is done to the children matters to a form with its children replaced. -/
theorem Form.mapChildren_congr {f g : α → β} {form : Form α}
    (h : ∀ child ∈ form.children, f child = g child) : form.mapChildren f = form.mapChildren g := by
  cases form with
  | array head rest =>
      simp only [children, List.forall_mem_append] at h
      rw [mapChildren, mapChildren, List.map_congr_left h.1]
      cases rest with
      | none => rfl
      | some child => rw [Option.map_some, Option.map_some, h.2 child (by simp)]
  | object properties extras =>
      simp only [children, List.forall_mem_append] at h
      have hproperties : (properties.map fun _ => f) = properties.map fun _ => g := by
        refine Fields.ext ?_
        rw [Fields.entries_map, Fields.entries_map]
        refine List.map_congr_left fun e he => ?_
        rw [h.1 e.2 (List.mem_map_of_mem he)]
      rw [mapChildren, mapChildren, hproperties]
      cases extras with
      | validate child => rw [Extras.map, Extras.map, h.2 child (by simp [Extras.children])]
      | _ => rfl
  | record key value =>
      simp only [children, List.forall_mem_append] at h
      rw [mapChildren, mapChildren, h.2 value (by simp)]
      cases key with
      | none => rfl
      | some child => rw [Option.map_some, Option.map_some, h.1 child (by simp)]
  | map key value =>
      rw [mapChildren, mapChildren, h key (by simp [children]), h value (by simp [children])]
  | set element => rw [mapChildren, mapChildren, h element (by simp [children])]
  | union members => exact congrArg union (List.map_congr_left h)
  | intersection members => exact congrArg intersection (List.map_congr_left h)
  | _ => rfl

namespace Schema

/-- `inner` is the schema or lies inside it. -/
inductive Inside (inner : Schema) : Schema → Prop
  | here : Inside inner inner
  | deeper {child schema : Schema} (hchild : child ∈ schema.form.children)
      (h : Inside inner child) : Inside inner schema

/-- `P` holds of the schema and of every schema inside it. -/
def Everywhere (P : Schema → Prop) (schema : Schema) : Prop :=
  ∀ inner, Inside inner schema → P inner

variable {P : Schema → Prop} {schema : Schema}

theorem Everywhere.here (h : Everywhere P schema) : P schema :=
  h schema .here

theorem Everywhere.child {child : Schema} (h : Everywhere P schema)
    (hchild : child ∈ schema.form.children) :
    Everywhere P child :=
  fun inner hinner => h inner (.deeper hchild hinner)

/-- What holds everywhere holds here and everywhere in the children. -/
theorem everywhere_iff :
    Everywhere P schema ↔ P schema ∧ ∀ child ∈ schema.form.children, Everywhere P child := by
  constructor
  · exact fun h => ⟨h.here, fun child hchild => h.child hchild⟩
  · intro h inner hinner
    obtain ⟨hhere, hbelow⟩ := h
    cases hinner with
    | here => exact hhere
    | deeper hchild h => exact hbelow _ hchild inner h

theorem everywhere_of_childless (hchildren : schema.form.children = []) (h : P schema) :
    Everywhere P schema := by
  refine everywhere_iff.2 ⟨h, ?_⟩
  rw [hchildren]
  exact List.forall_mem_nil _

/-- The children are called with coercion, where the schema is called with or without. -/
def handsDown (schema : Schema) (coerce : Bool) : Bool :=
  match schema.form with
  | .union _ => schema.settings.coerces || coerce
  | _ => coerce

/-- A call of `schema`, with coercion or without, reaches `inner` with `coerce'`. -/
inductive Reaches (inner : Schema) (coerce' : Bool) : Schema → Bool → Prop
  | here : Reaches inner coerce' inner coerce'
  | deeper {child schema : Schema} {coerce : Bool} (hchild : child ∈ schema.form.children)
      (h : Reaches inner coerce' child (schema.handsDown coerce)) :
      Reaches inner coerce' schema coerce

theorem Reaches.inside {inner : Schema} {coerce coerce' : Bool}
    (h : Reaches inner coerce' schema coerce) : Inside inner schema := by
  induction h with
  | here => exact .here
  | deeper hchild _ ih => exact .deeper hchild ih

/-- The inputs of the schema are those of its form. -/
def KeepsInputs (schema : Schema) : Prop :=
  schema.settings.inputOverride = none

/-- The rules of the schema only look at values. -/
def OnlyChecks (schema : Schema) : Prop :=
  ∀ rule ∈ schema.settings.rules, rule.IsCheck

end Schema

end Conform
