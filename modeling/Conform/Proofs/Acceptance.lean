/-
When a schema accepts a value.

A value is accepted if its structure is, with every part in order, and then no rule finds
anything.  The first half is a matter of the form and of what the children accept, and the
second a matter of the rules alone; the proofs about acceptance treat them one by one.
-/
import Conform.Proofs.Descendants
import Conform.Proofs.Rules

namespace Conform

theorem Progress.outcome_eq_accepted_iff {p : Progress} {output : Output} :
    p.outcome = .accepted output ↔ p = ⟨output, []⟩ := by
  obtain ⟨reached, issues⟩ := p
  cases issues <;> simp [outcome, Issues.ofList?]

theorem Progress.outcome_eq_rejected_iff {p : Progress} {issues : Issues} :
    p.outcome = .rejected issues ↔ p.issues = issues.toList := by
  obtain ⟨reached, found⟩ := p
  obtain ⟨first, others⟩ := issues
  cases found <;> simp [outcome, Issues.ofList?, Issues.toList]

namespace Schema

/-- What the form of the schema makes of a value, with each child applied. -/
def fitted (schema : Schema) (o : Options) (v : Value) : Except Fault Fit :=
  fit schema.settings (schema.form.mapChildren fun child => (child, child.apply)) o v

variable {schema : Schema} {o : Options} {v : Value} {output : Output}

theorem apply_of_sync (h : schema.isAsync = false) :
    schema.apply o v =
      match schema.fitted o v with
      | .error fault => .error fault
      | .ok (.mismatch issues) => .ok (.rejected issues)
      | .ok (.fits start) => (schema.settings.rules.run o v start).map Progress.outcome := by
  rw [apply_eq, h]
  rfl

theorem applyAsync_of_sync (h : schema.isAsync = false) :
    schema.applyAsync o v = schema.apply o v := by
  rw [applyAsync_eq, h]
  rfl

theorem applyAsync_of_async (h : schema.isAsync = true) :
    schema.applyAsync o v =
      match fit schema.settings
        (schema.form.mapChildren fun child => (child, child.applyAsync)) o v with
      | .error fault => .error fault
      | .ok (.mismatch issues) => .ok (.rejected issues)
      | .ok (.fits start) =>
        (schema.settings.rules.runAsync o v start).map Progress.outcome := by
  rw [applyAsync_eq, h]
  rfl

theorem rules_isAsync_of_sync (h : schema.isAsync = false) :
    schema.settings.rules.isAsync = false := by
  rw [isAsync_eq, Bool.or_eq_false_iff, Bool.or_eq_false_iff] at h
  exact h.1.2

theorem isAsync_child {child : Schema} (h : schema.isAsync = false)
    (hchild : child ∈ schema.form.children) : child.isAsync = false := by
  rw [isAsync_eq, Bool.or_eq_false_iff, hasAsyncChildren, List.any_eq_false] at h
  exact Bool.eq_false_iff.2 (h.2 child hchild)

/-- What can be applied without waiting has nothing to wait for. -/
theorem isAsync_of_apply {outcome : Outcome} (h : schema.apply o v = .ok outcome) :
    schema.isAsync = false := by
  cases hasync : schema.isAsync with
  | false => rfl
  | true =>
      rw [apply_eq, if_pos hasync] at h
      cases h

/-- A schema accepts a value if the form takes it, with all its parts in order, and the
rules then end without issues. -/
theorem apply_eq_accepted_iff :
    schema.apply o v = .ok (.accepted output) ↔
      schema.isAsync = false ∧ ∃ base, schema.fitted o v = .ok (.clean base) ∧
        schema.settings.rules.run o v ⟨base, []⟩ = .ok ⟨output, []⟩ := by
  constructor
  · intro h
    have hsync : schema.isAsync = false := isAsync_of_apply h
    rw [apply_of_sync hsync] at h
    refine ⟨hsync, ?_⟩
    split at h
    · cases h
    · cases h
    · rename_i start hfits
      obtain ⟨p, hrun, hp⟩ := map_eq_ok_iff.1 h
      rw [Progress.outcome_eq_accepted_iff] at hp
      subst hp
      obtain ⟨base, issues⟩ := start
      obtain rfl : issues = [] := Rules.run_issues_eq_nil hrun rfl
      exact ⟨base, hfits, hrun⟩
  · intro h
    obtain ⟨hsync, base, hfits, hrun⟩ := h
    rw [apply_of_sync hsync, hfits]
    exact map_eq_ok_iff.2 ⟨_, hrun, Progress.outcome_eq_accepted_iff.2 rfl⟩

/-- A schema rejects a value if the form does not take it, and otherwise if there are issues of
its parts or the rules find any. -/
theorem apply_eq_rejected_iff {issues : Issues} :
    schema.apply o v = .ok (.rejected issues) ↔
      schema.isAsync = false ∧ (schema.fitted o v = .ok (.mismatch issues) ∨
        ∃ start p, schema.fitted o v = .ok (.fits start) ∧
          schema.settings.rules.run o v start = .ok p ∧ p.issues = issues.toList) := by
  constructor
  · intro h
    have hsync : schema.isAsync = false := isAsync_of_apply h
    rw [apply_of_sync hsync] at h
    refine ⟨hsync, ?_⟩
    split at h
    · cases h
    · rename_i found hmismatch
      cases h
      exact Or.inl hmismatch
    · rename_i start hfits
      obtain ⟨p, hrun, hp⟩ := map_eq_ok_iff.1 h
      exact Or.inr ⟨start, p, hfits, hrun, Progress.outcome_eq_rejected_iff.1 hp⟩
  · intro h
    obtain ⟨hsync, hmismatch | ⟨start, p, hfits, hrun, hp⟩⟩ := h
    · rw [apply_of_sync hsync, hmismatch]
    · rw [apply_of_sync hsync, hfits]
      exact map_eq_ok_iff.2 ⟨p, hrun, Progress.outcome_eq_rejected_iff.2 hp⟩

end Schema

end Conform
