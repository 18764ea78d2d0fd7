/-
When a call comes to an outcome.

There are two ways for a call to break down: something in the schema has to be waited for, or a
rule runs into a defect.  Nothing else can fail, and no structure is too deep or too odd to be
judged.  So where neither is there, every value is accepted or rejected, whatever the options are.
-/
import Conform.Proofs.Faults

namespace Conform

/-- The run does not break down. -/
def Completes {α : Type} (run : Except Fault α) : Prop :=
  ∃ a, run = .ok a

theorem Completes.map {α β : Type} {run : Except Fault α} {f : α → β} (h : Completes run) :
    Completes (run.map f) := by
  obtain ⟨a, rfl⟩ := h
  exact ⟨f a, rfl⟩

theorem completes_iff {α : Type} {run : Except Fault α} :
    Completes run ↔ FaultsWith (fun _ => False) run := by
  constructor
  · rintro ⟨a, rfl⟩
    exact .ok a
  · intro h
    cases run with
    | ok a => exact ⟨a, rfl⟩
    | error fault => exact absurd rfl (h fault)

theorem Attempts.completes_all {members : List Validator} {o : Options} {v : Value}
    (h : ∀ validate ∈ members, Completes (validate o v)) : Completes (all o v members) :=
  completes_iff.2 (faults_all fun validate hvalidate => completes_iff.1 (h validate hvalidate))

/-- The rule may find issues, or answer with them, but never with a defect. -/
def Rule.HasNoDefects (rule : Rule) : Prop :=
  match rule.action with
  | .check find => ∀ v o text, find v rule.param o ≠ .error (.defect text)
  | .alter replace => ∀ v o text, replace v rule.param o ≠ .error (.defect text)

theorem Rule.HasNoDefects.not_runsInto {rule : Rule} (h : rule.HasNoDefects) (o : Options)
    (v : Value) (text : String) : ¬ rule.RunsInto o v text := by
  unfold HasNoDefects at h
  unfold RunsInto
  cases haction : rule.action with
  | check find =>
      rw [haction] at h
      exact h v o text
  | alter replace =>
      rw [haction] at h
      exact h v o text

namespace Schema

variable {schema : Schema} {validate : Schema → Validator}

/-- No rule of the schema runs into a defect. -/
def HasNoDefects (schema : Schema) : Prop :=
  ∀ rule ∈ schema.settings.rules, rule.HasNoDefects

theorem not_runsInto (hdefects : schema.Everywhere HasNoDefects) (o : Options) (text : String) :
    ¬ schema.RunsInto o text := by
  rintro ⟨inner, coerce, hreaches, rule, hrule, v, hrunsInto⟩
  have hnoDefects : rule.HasNoDefects := hdefects inner hreaches.inside rule hrule
  exact hnoDefects.not_runsInto _ v text hrunsInto

/-- Without defects, a call that may be made comes to an outcome. -/
theorem AppliedBy.completes (h : schema.AppliedBy validate)
    (hdefects : schema.Everywhere HasNoDefects) (o : Options) (v : Value) :
    Completes (validate schema o v) := by
  refine completes_iff.2 ((h.faults o v).weaken fun fault hfault => ?_)
  obtain ⟨text, -, hrunsInto⟩ := hfault
  exact not_runsInto hdefects o text hrunsInto

theorem completes_apply (hsync : schema.isAsync = false)
    (hdefects : schema.Everywhere HasNoDefects) (o : Options) (v : Value) :
    Completes (schema.apply o v) :=
  AppliedBy.completes (Or.inl ⟨rfl, hsync⟩) hdefects o v

theorem AppliedBy.ne_asyncSchema (h : schema.AppliedBy validate) (o : Options) (v : Value) :
    validate schema o v ≠ .error .asyncSchema := by
  intro hfault
  obtain ⟨text, htext, -⟩ := h.faults o v _ hfault
  cases htext

theorem AppliedBy.runsInto_of_defect {o : Options} {v : Value} {text : String}
    (h : schema.AppliedBy validate) (hdefect : validate schema o v = .error (.defect text)) :
    schema.RunsInto o text := by
  obtain ⟨text', heq, hrunsInto⟩ := h.faults o v _ hdefect
  obtain rfl := Fault.defect.inj heq
  exact hrunsInto

/-- **A call breaks down for one of two reasons.**  Applied without waiting, a schema refuses
every value if something in it has to be waited for, and otherwise refuses none for that, and then
no run of rules in it does either, wherever it starts.  Applied with waiting it never refuses.  A
defect that a call of either kind ends with is one that a rule of the schema, or of one inside it,
ran into on some value, under the options of the call as they come down to it.  So where no rule
runs into any, a call comes to an outcome, unless it should have waited. -/
theorem fault_origins (schema : Schema) :
    (schema.Waits → ∀ o v, schema.apply o v = .error .asyncSchema) ∧
      (¬ schema.Waits →
        (∀ o v, schema.apply o v ≠ .error .asyncSchema) ∧
        ∀ inner, Inside inner schema → ∀ o v start,
          inner.settings.rules.run o v start ≠ .error .asyncSchema) ∧
      (∀ o v, schema.applyAsync o v ≠ .error .asyncSchema) ∧
      (∀ o v text, schema.apply o v = .error (.defect text) ∨
          schema.applyAsync o v = .error (.defect text) → schema.RunsInto o text) ∧
      (schema.Everywhere HasNoDefects → ∀ o v,
        (∃ outcome, schema.applyAsync o v = .ok outcome) ∧
        (¬ schema.Waits → ∃ outcome, schema.apply o v = .ok outcome)) := by
  have hwaiting : schema.AppliedBy applyAsync := Or.inr rfl
  have hstarting : ¬ schema.Waits → schema.AppliedBy apply := by
    intro h
    exact Or.inl ⟨rfl, Bool.eq_false_iff.2 (mt isAsync_iff.1 h)⟩
  refine ⟨?refuses, fun h => ⟨?accepts, ?inner⟩, ?waiting, ?defects, ?completes⟩
  case refuses =>
    intro h o v
    rw [apply_eq, if_pos (isAsync_iff.2 h)]
  case accepts => exact (hstarting h).ne_asyncSchema
  case inner =>
    intro inner hinner o v start hfault
    have hsync : inner.settings.rules.isAsync = false := by
      refine rules_isAsync_of_sync (Bool.eq_false_iff.2 (mt isAsync_iff.1 ?_))
      exact fun hwaits => h (hwaits.of_inside hinner)
    obtain ⟨text, htext, -⟩ := Rules.faults_run hsync _ hfault
    cases htext
  case waiting => exact hwaiting.ne_asyncSchema
  case defects =>
    intro o v text hdefect
    rcases hdefect with happly | happlyAsync
    · -- A call that ends with a defect was not refused.
      have hsync : ¬ schema.Waits := by
        intro hwaits
        rw [apply_eq, if_pos (isAsync_iff.2 hwaits)] at happly
        cases happly
      exact (hstarting hsync).runsInto_of_defect happly
    · exact hwaiting.runsInto_of_defect happlyAsync
  case completes =>
    intro hdefects o v
    exact ⟨hwaiting.completes hdefects o v, fun h => (hstarting h).completes hdefects o v⟩

/-- A rule inside a member of a coercing union has to be waited for.  The record around it refuses
even what is no object, and when it is waited for the defect comes up. -/
theorem fault_origins_record :
    let rule : Rule :=
      { action := .check fun _ _ _ => .error (.defect "broken"), isAsync := true }
    let choice : Schema := ⟨{ coerces := true }, .union [⟨{ rules := [rule] }, .unknown⟩]⟩
    let schema : Schema := ⟨{}, .record none choice⟩
    schema.apply {} .null = .error .asyncSchema ∧ schema.RunsInto {} "broken" := by
  intro rule choice schema
  have hwaits : schema.Waits :=
    ⟨_, .deeper (List.mem_singleton_self choice) (.deeper (List.mem_singleton_self _) .here),
      Or.inr ⟨rule, List.mem_singleton_self rule, rfl⟩⟩
  have hdefect : schema.applyAsync {} (.object (.ofList [("a", .null)])) =
      .error (.defect "broken") := rfl
  obtain ⟨hrefuses, -, -, hdefects, -⟩ := fault_origins schema
  exact ⟨hrefuses hwaits {} .null, hdefects _ _ _ (Or.inr hdefect)⟩

end Schema

end Conform
