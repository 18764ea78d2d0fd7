/-
Waiting changes no answer.

`synchronous` is the schema in which nothing has to be waited for: every rule gives its
answer at once, and no schema is marked.  Applying the one asynchronously and the other
synchronously comes to the same.  The two walks meet at every schema: where something has
to be waited for, the asynchronous walk goes down to the children as the synchronous one
does, and where nothing has, it stops being asynchronous, on a schema that is its own
synchronous form.
-/
import Conform.Proofs.Acceptance

namespace Conform

/-- The rule that gives the same answers without being waited for. -/
def Rule.synchronous (rule : Rule) : Rule :=
  { rule with isAsync := false }

/-- The settings with nothing to wait for. -/
def Settings.synchronous (settings : Settings) : Settings :=
  { settings with rules := settings.rules.map Rule.synchronous, markedAsync := false }

namespace Schema

/-- The schema with nothing to wait for, at any depth. -/
def synchronous : Schema → Schema :=
  fold fun settings form => ⟨settings.synchronous, form.mapChildren Prod.snd⟩

theorem synchronous_eq (schema : Schema) :
    schema.synchronous = ⟨schema.settings.synchronous, schema.form.mapChildren synchronous⟩ := by
  rw [synchronous, fold_eq, Form.mapChildren_mapChildren]

theorem settings_synchronous (schema : Schema) :
    schema.synchronous.settings = schema.settings.synchronous := by
  rw [synchronous_eq]

theorem form_synchronous (schema : Schema) :
    schema.synchronous.form = schema.form.mapChildren synchronous := by
  rw [synchronous_eq]

end Schema

/-! ### Rules -/

variable {o : Options} {input v : Value}

theorem Rule.apply_synchronous (rule : Rule) (childFailed : Bool) (p : Progress) :
    rule.synchronous.apply childFailed o input p = rule.applyAsync childFailed o input p := by
  unfold Rule.apply Rule.applyAsync
  rw [if_neg (show ¬ rule.synchronous.isAsync = true from Bool.false_ne_true)]
  rfl

/-- Waiting for rules in a loop is running the chain of their synchronous forms. -/
theorem Rules.run_synchronous (rules : Rules) (start : Progress) :
    Rules.run (rules.map Rule.synchronous) o input start = rules.runAsync o input start := by
  rw [run_eq_foldlM, List.foldlM_map, runAsync]
  simp only [Rule.apply_synchronous]

theorem Rules.isAsync_synchronous (rules : Rules) :
    Rules.isAsync (rules.map Rule.synchronous) = false := by
  rw [isAsync, List.any_eq_false]
  intro rule hrule
  obtain ⟨other, -, rfl⟩ := List.mem_map.1 hrule
  exact Bool.false_ne_true

theorem Rules.map_synchronous_of_sync {rules : Rules} (h : rules.isAsync = false) :
    rules.map Rule.synchronous = rules := by
  refine (List.map_congr_left fun rule hrule => ?_).trans (List.map_id _)
  have hsync : rule.isAsync = false := by
    rw [isAsync, List.any_eq_false] at h
    exact Bool.eq_false_iff.2 (h rule hrule)
  obtain ⟨action, key, param, unguarded, forced, message, isAsync⟩ := rule
  exact congrArg (Rule.mk action key param unguarded forced message) hsync.symm

/-! ### Schemas -/

namespace Schema

theorem isAsync_synchronous (schema : Schema) : schema.synchronous.isAsync = false := by
  induction schema using Schema.induction with
  | step schema ih =>
      rw [isAsync_eq, settings_synchronous, hasAsyncChildren, form_synchronous]
      simp only [Settings.synchronous, Rules.isAsync_synchronous, Bool.false_or]
      rw [Form.children_mapChildren, List.any_map, List.any_eq_false]
      intro child hchild
      rw [Function.comp_apply, ih child hchild]
      exact Bool.false_ne_true

theorem synchronous_of_sync (schema : Schema) (h : schema.isAsync = false) :
    schema.synchronous = schema := by
  induction schema using Schema.induction with
  | step schema ih =>
      rw [isAsync_eq, Bool.or_eq_false_iff, Bool.or_eq_false_iff] at h
      obtain ⟨⟨hmarked, hrules⟩, hchildren⟩ := h
      have hsettings : schema.settings.synchronous = schema.settings := by
        rw [Settings.synchronous, Rules.map_synchronous_of_sync hrules, ← hmarked]
      have hform : schema.form.mapChildren synchronous = schema.form := by
        rw [hasAsyncChildren, List.any_eq_false] at hchildren
        refine (Form.mapChildren_congr fun child hchild => ?_).trans (Form.mapChildren_self _)
        exact ih child hchild (Bool.eq_false_iff.2 (hchildren child hchild))
      rw [synchronous_eq, hsettings, hform]
      cases schema
      rfl

theorem inputTypes_synchronous (schema : Schema) :
    schema.synchronous.inputTypes = schema.inputTypes := by
  induction schema using Schema.induction with
  | step schema ih =>
      funext coerce
      have hclaimed : schema.synchronous.settings.inputOverride =
          schema.settings.inputOverride := by
        rw [settings_synchronous]
        rfl
      cases hoverride : schema.settings.inputOverride with
      | some types =>
          rw [inputTypes_of_claimed hoverride, inputTypes_of_claimed (hclaimed.trans hoverride)]
      | none =>
          have hcoerces : schema.synchronous.settings.coerces = schema.settings.coerces := by
            rw [settings_synchronous]
            rfl
          rw [inputTypes_of_unclaimed hoverride,
            inputTypes_of_unclaimed (hclaimed.trans hoverride), hcoerces, form_synchronous,
            Form.mapChildren_mapChildren,
            Form.mapChildren_congr fun child hchild => congrFun (ih child hchild) _]

/-- A form makes the same of a value whether or not its schema and its children have to be
waited for, as long as the children validate as before. -/
theorem fit_synchronous (settings : Settings) (form : Form (Schema × Validator)) :
    fit settings.synchronous (form.mapChildren fun child => (child.1.synchronous, child.2)) o v =
      fit settings form o v := by
  cases form with
  | union members =>
      -- The one issue of a union names the input types of the union itself.
      have hself (coerce : Bool) : inputTypes ⟨settings.synchronous,
          .union (members.map fun child => child.1.synchronous)⟩ coerce =
            inputTypes ⟨settings, .union (members.map Prod.fst)⟩ coerce := by
        rw [← inputTypes_synchronous ⟨settings, .union (members.map Prod.fst)⟩, synchronous_eq,
          Form.mapChildren, List.map_map]
        rfl
      simp only [Form.mapChildren, fit, List.map_map, Function.comp_def, inputTypes_synchronous]
      rw [hself]
      rfl
  | object properties extras =>
      cases extras <;> simp only [Form.mapChildren, fit, Fields.map_map, Extras.map] <;> rfl
  | array head rest =>
      simp only [Form.mapChildren, fit, List.map_map, Option.map_map, Function.comp_def]
      rfl
  | record key value =>
      simp only [Form.mapChildren, fit, Option.map_map, Function.comp_def]
      rfl
  | intersection members =>
      simp only [Form.mapChildren, fit, List.map_map, Function.comp_def]
      rfl
  | _ => rfl

/-- If waiting for the children changes no answer of theirs, waiting for the schema changes
none of its own. -/
theorem applyAsync_eq_of_children {schema : Schema}
    (hchildren : ∀ child ∈ schema.form.children, child.applyAsync = child.synchronous.apply) :
    schema.applyAsync o v = schema.synchronous.apply o v := by
  by_cases hasync : schema.isAsync = true
  · have hvalidators :
        (schema.form.mapChildren fun child => (child.synchronous, child.applyAsync)) =
          schema.form.mapChildren fun child => (child.synchronous, child.synchronous.apply) :=
      Form.mapChildren_congr fun child hchild => congrArg _ (hchildren child hchild)
    have hfit : schema.synchronous.fitted o v = fit schema.settings
        (schema.form.mapChildren fun child => (child, child.applyAsync)) o v := by
      rw [fitted, ← fit_synchronous schema.settings, Form.mapChildren_mapChildren,
        hvalidators, settings_synchronous, form_synchronous, Form.mapChildren_mapChildren]
    have hrun (start : Progress) : schema.synchronous.settings.rules.run o v start =
        schema.settings.rules.runAsync o v start := by
      rw [settings_synchronous]
      exact Rules.run_synchronous schema.settings.rules start
    rw [applyAsync_of_async hasync, apply_of_sync schema.isAsync_synchronous, hfit]
    simp only [hrun]
  · have hsync : schema.isAsync = false := Bool.eq_false_iff.2 hasync
    rw [applyAsync_of_sync hsync, synchronous_of_sync schema hsync]

/-- **Waiting changes no answer.**  Applied asynchronously, a schema gives the value, issues
or fault that the schema with nothing to wait for gives synchronously. -/
theorem applyAsync_eq_apply_synchronous (schema : Schema) (o : Options) (v : Value) :
    schema.applyAsync o v = schema.synchronous.apply o v := by
  induction schema using Schema.induction generalizing o v with
  | step schema ih =>
      refine applyAsync_eq_of_children fun child hchild => ?_
      exact funext fun o => funext fun v => ih child hchild o v

end Schema

end Conform
