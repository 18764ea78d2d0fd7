/-
The two ways to apply a schema.

A schema is applied without waiting, if nothing in it has to be waited for, or with.  The two are
written apart: the one runs the rules as a chain and the other in a loop, and the second falls
back on the first at every schema that has nothing to wait for.  But both have the form look at
the value, with the children applied in the same way, and then run the rules on what it takes.
So what is said of a call can be said of both at once.
-/
import Conform.Proofs.Fits
import Conform.Proofs.Synchronous

namespace Conform

/-- Where there is nothing to wait for, the loop over the rules is the chain of them. -/
theorem Rules.runAsync_of_sync {rules : Rules} {o : Options} {input : Value} {start : Progress}
    (hsync : rules.isAsync = false) : rules.runAsync o input start = rules.run o input start := by
  rw [← run_synchronous, map_synchronous_of_sync hsync]

theorem Rules.runAsync_eq_clean_iff {rules : Rules} {o : Options} {input : Value}
    {output output' : Output} (hchecks : ∀ rule ∈ rules, rule.IsCheck) :
    rules.runAsync o input ⟨output, []⟩ = .ok ⟨output', []⟩ ↔
      output' = output ∧ ∀ rule ∈ rules, rule.Passes o (output.resolve input) := by
  have hsynchronous : ∀ rule ∈ rules.map Rule.synchronous, rule.IsCheck :=
    List.forall_mem_map.2 hchecks
  rw [← run_synchronous, run_eq_clean_iff hsynchronous (isAsync_synchronous rules),
    List.forall_mem_map]
  exact Iff.rfl

theorem Rules.issues_eq_nil_of_runAsync {rules : Rules} {o : Options} {input : Value}
    {start p : Progress} (h : rules.runAsync o input start = .ok p) (hnil : p.issues = []) :
    start.issues = [] := by
  rw [← run_synchronous] at h
  exact run_issues_eq_nil h hnil

namespace Fit

/-- The end of a validation once the form has looked at the value: the rules run on what has the
structure. -/
def conclude (settings : Settings) (o : Options) (v : Value) : Fit → Except Fault Outcome
  | mismatch issues => .ok (.rejected issues)
  | fits start => (settings.rules.runAsync o v start).map Progress.outcome

/-- The end of a validation without rules. -/
def outcome : Fit → Outcome
  | mismatch issues => .rejected issues
  | fits start => start.outcome

theorem conclude_of_ruleless {settings : Settings} (hrules : settings.rules = []) (o : Options)
    (v : Value) (fit : Fit) : fit.conclude settings o v = .ok fit.outcome := by
  cases fit with
  | mismatch issues => rfl
  | fits start =>
      unfold conclude
      rw [hrules]
      rfl

end Fit

namespace Schema

variable {schema : Schema} {validate : Schema → Validator} {o : Options} {v : Value}
  {output : Output}

/-- `validate` is a way to apply the schema: without waiting, where there is nothing in it to wait
for, or with. -/
def AppliedBy (validate : Schema → Validator) (schema : Schema) : Prop :=
  validate = apply ∧ schema.isAsync = false ∨ validate = applyAsync

theorem AppliedBy.child {child : Schema} (h : schema.AppliedBy validate)
    (hchild : child ∈ schema.form.children) : child.AppliedBy validate :=
  h.imp_left fun hsync => ⟨hsync.1, isAsync_child hsync.2 hchild⟩

/-- To a schema with nothing to wait for it makes no difference how its children are applied. -/
theorem fittedBy_applyAsync_of_sync (hsync : schema.isAsync = false) :
    schema.fittedBy applyAsync o v = schema.fittedBy apply o v := by
  have hchildren : (schema.form.mapChildren fun child => (child, child.applyAsync)) =
      schema.form.mapChildren fun child => (child, child.apply) := by
    refine Form.mapChildren_congr fun child hchild => ?_
    have hchildSync : child.isAsync = false := isAsync_child hsync hchild
    exact congrArg (Prod.mk child) (funext₂ fun o v => applyAsync_of_sync hchildSync)
  unfold fittedBy
  rw [hchildren]

theorem apply_eq_conclude (hsync : schema.isAsync = false) :
    schema.apply o v = schema.fittedBy apply o v >>= Fit.conclude schema.settings o v := by
  rw [apply_of_sync hsync, show schema.fitted o v = schema.fittedBy apply o v from rfl]
  rcases schema.fittedBy apply o v with fault | fit
  · rfl
  · cases fit with
    | mismatch issues => rfl
    | fits start =>
        show (schema.settings.rules.run o v start).map Progress.outcome =
          (schema.settings.rules.runAsync o v start).map Progress.outcome
        rw [Rules.runAsync_of_sync (rules_isAsync_of_sync hsync)]

theorem applyAsync_eq_conclude (schema : Schema) (o : Options) (v : Value) :
    schema.applyAsync o v =
      schema.fittedBy applyAsync o v >>= Fit.conclude schema.settings o v := by
  by_cases hasync : schema.isAsync = true
  · rw [applyAsync_of_async hasync]
    unfold fittedBy
    rcases fit schema.settings _ o v with fault | fit
    · rfl
    · cases fit <;> rfl
  · have hsync : schema.isAsync = false := Bool.eq_false_iff.2 hasync
    rw [applyAsync_of_sync hsync, fittedBy_applyAsync_of_sync hsync, apply_eq_conclude hsync]

/-- Either way, the form looks at the value and then the rules run. -/
theorem AppliedBy.eq_conclude (h : schema.AppliedBy validate) :
    validate schema o v = schema.fittedBy validate o v >>= Fit.conclude schema.settings o v := by
  rcases h with ⟨rfl, hsync⟩ | rfl
  · exact apply_eq_conclude hsync
  · exact applyAsync_eq_conclude schema o v

theorem AppliedBy.eq_outcome (h : schema.AppliedBy validate)
    (hrules : schema.settings.rules = []) :
    validate schema o v = (schema.fittedBy validate o v).map Fit.outcome := by
  rw [h.eq_conclude]
  rcases schema.fittedBy validate o v with fault | fit
  · rfl
  · exact Fit.conclude_of_ruleless hrules o v fit

/-- Where the rules only look at values, what is accepted is in order and passes them, and comes out
as the form has it. -/
theorem AppliedBy.eq_accepted_iff (h : schema.AppliedBy validate)
    (hchecks : schema.OnlyChecks) :
    validate schema o v = .ok (.accepted output) ↔
      schema.fittedBy validate o v = .ok (.clean output) ∧
        ∀ rule ∈ schema.settings.rules, rule.Passes o (output.resolve v) := by
  rw [h.eq_conclude, bind_eq_ok_iff]
  constructor
  · rintro ⟨fit, hfit, hconclude⟩
    cases fit with
    | mismatch issues => cases hconclude
    | fits start =>
        obtain ⟨p, hrun, houtcome⟩ := map_eq_ok_iff.1 hconclude
        obtain rfl := Progress.outcome_eq_accepted_iff.1 houtcome
        obtain ⟨base, issues⟩ := start
        obtain rfl : issues = [] := Rules.issues_eq_nil_of_runAsync hrun rfl
        obtain ⟨rfl, hpasses⟩ := (Rules.runAsync_eq_clean_iff hchecks).1 hrun
        exact ⟨hfit, hpasses⟩
  · rintro ⟨hfit, hpasses⟩
    refine ⟨_, hfit, ?_⟩
    have hrun := (Rules.runAsync_eq_clean_iff hchecks).2 ⟨rfl, hpasses⟩
    exact map_eq_ok_iff.2 ⟨_, hrun, rfl⟩

end Schema

end Conform
