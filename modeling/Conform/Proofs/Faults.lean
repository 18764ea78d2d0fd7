/-
Where the fault of a call comes from.

A call breaks down because a schema that has to be waited for was not, or because a rule ran into
a defect, and nothing else can go wrong.  The first is found out before the value is looked at,
since what has to be waited for shows on every schema around it.  The second comes up from where
it happened unchanged: a form breaks down only with a fault of a child, and a run of rules only
with one of a rule.  So a defect is traced by going down from child to child, with the options
that each was called with.
-/
import Conform.Proofs.Containers
import Conform.Proofs.EntryPoints

namespace Conform

/-- If the run breaks down, it is with a fault of which `P` holds. -/
def FaultsWith {α : Type} (P : Fault → Prop) (run : Except Fault α) : Prop :=
  ∀ fault, run = .error fault → P fault

namespace FaultsWith

variable {α β : Type} {P Q : Fault → Prop} {run : Except Fault α}

theorem ok (a : α) : FaultsWith P (.ok a) := by
  intro fault h
  cases h

theorem weaken (h : FaultsWith P run) (himp : ∀ fault, P fault → Q fault) : FaultsWith Q run :=
  fun fault hrun => himp fault (h fault hrun)

theorem bind {f : α → Except Fault β} (h : FaultsWith P run) (hstep : ∀ a, FaultsWith P (f a)) :
    FaultsWith P (run >>= f) := by
  intro fault hbind
  cases run with
  | error earlier =>
      have hfault : earlier = fault := Except.error.inj hbind
      exact h fault (by rw [hfault])
  | ok a => exact hstep a fault hbind

theorem map {f : α → β} (h : FaultsWith P run) : FaultsWith P (run.map f) := by
  intro fault hmap
  cases run with
  | error earlier =>
      have hfault : earlier = fault := Except.error.inj hmap
      exact h fault (by rw [hfault])
  | ok a => cases hmap

end FaultsWith

/-- The fault is a defect of which `D` holds. -/
def Fault.IsDefect (D : String → Prop) (fault : Fault) : Prop :=
  ∃ text, fault = .defect text ∧ D text

theorem Fault.IsDefect.weaken {D E : String → Prop} {fault : Fault} (h : fault.IsDefect D)
    (himp : ∀ text, D text → E text) : fault.IsDefect E := by
  obtain ⟨text, rfl, hD⟩ := h
  exact ⟨text, rfl, himp text hD⟩

variable {P : Fault → Prop} {o : Options} {v : Value}

/-! ### Rules -/

section Rules

variable {rule : Rule} {rules : Rules} {input : Value} {p : Progress} {childFailed : Bool}

/-- The rule runs into the defect on the value. -/
def Rule.RunsInto (rule : Rule) (o : Options) (v : Value) (text : String) : Prop :=
  match rule.action with
  | .check find => find v rule.param o = .error (.defect text)
  | .alter replace => replace v rule.param o = .error (.defect text)

/-- A rule that runs breaks down where it runs into a defect, and with that. -/
theorem Rule.execute_eq_error_iff {fault : Fault} :
    rule.execute o input p = .error fault ↔
      fault.IsDefect (rule.RunsInto o (p.output.resolve input)) := by
  unfold execute Fault.IsDefect RunsInto
  cases rule.action with
  | check find =>
      rcases hfind : find (p.output.resolve input) rule.param o with (found | text) | found
      · simp [hfind, settle]
      · simp [hfind, settle, eq_comm]
      · simp [hfind]
  | alter replace =>
      rcases hreplace : replace (p.output.resolve input) rule.param o with (found | text) | w
      · simp [hreplace, settle]
      · simp [hreplace, settle, eq_comm]
      · simp [hreplace]

theorem Rule.faults_execute :
    FaultsWith (Fault.IsDefect (rule.RunsInto o (p.output.resolve input)))
      (rule.execute o input p) :=
  fun _ => execute_eq_error_iff.1

/-- Some rule runs into the defect on some value. -/
def Rules.RunInto (rules : Rules) (o : Options) (text : String) : Prop :=
  ∃ rule ∈ rules, ∃ v, rule.RunsInto o v text

theorem Rules.faults_foldlM {step : Progress → Rule → Except Fault Progress}
    (h : ∀ rule ∈ rules, ∀ p, FaultsWith P (step p rule)) (p : Progress) :
    FaultsWith P (rules.foldlM step p) := by
  induction rules generalizing p with
  | nil => exact .ok p
  | cons rule rest ih =>
      rw [List.forall_mem_cons] at h
      rw [List.foldlM_cons]
      exact (h.1 p).bind fun q => ih h.2 q

/-- In a run that waits, rules break down with nothing but a defect of one of them. -/
theorem Rules.faults_runAsync :
    FaultsWith (Fault.IsDefect (rules.RunInto o)) (rules.runAsync o input p) := by
  refine faults_foldlM (fun rule hrule q => ?_) p
  show FaultsWith _ (rule.applyAsync (!p.issues.isEmpty) o input q)
  unfold Rule.applyAsync
  split
  · exact .ok q
  · exact Rule.faults_execute.weaken fun fault hfault =>
      hfault.weaken fun text hrunsInto => ⟨rule, hrule, _, hrunsInto⟩

/-- So it is in a run that does not wait, where there is nothing to wait for. -/
theorem Rules.faults_run (hsync : rules.isAsync = false) :
    FaultsWith (Fault.IsDefect (rules.RunInto o)) (rules.run o input p) := by
  rw [← runAsync_of_sync hsync]
  exact faults_runAsync

end Rules

/-! ### Visits and members -/

theorem Visit.faults_all {verbose : Bool} {visits : List Visit}
    (h : ∀ visit ∈ visits, FaultsWith P (visit.validate visit.part)) :
    FaultsWith P (all verbose visits) := by
  induction visits with
  | nil => exact .ok _
  | cons visit rest ih =>
      rw [List.forall_mem_cons] at h
      have hrest : FaultsWith P (all verbose rest) := ih h.2
      intro fault hall
      unfold all at hall
      split at hall
      · rename_i earlier hvisit
        cases hall
        exact h.1 _ hvisit
      · exact hrest.map fault hall
      · split at hall
        · exact hrest.map fault hall
        · cases hall

theorem Attempts.faults_all {members : List Validator}
    (h : ∀ validate ∈ members, FaultsWith P (validate o v)) : FaultsWith P (all o v members) := by
  induction members with
  | nil => exact .ok _
  | cons validate rest ih =>
      rw [List.forall_mem_cons] at h
      have hrest : FaultsWith P (all o v rest) := ih h.2
      intro fault hall
      unfold all at hall
      split at hall
      · rename_i earlier hvalidate
        cases hall
        exact h.1 _ hvalidate
      · cases hall
      · exact hrest.map fault hall

/-! ### Schemas -/

namespace Schema

variable {schema : Schema} {validate : Schema → Validator}

theorem follows_faults :
    Follows o o (fun visit _ => FaultsWith P (visit.validate visit.part))
      (fun fitted _ => FaultsWith P fitted) where
  coerces := id
  same := by
    intro visit outcome houtcome
    rw [houtcome]
    exact .ok outcome
  refused := fun _ _ _ => .ok _
  parts := by
    intro base visits visits' rebuild hvisits
    refine (Visit.faults_all fun visit hvisit => ?_).map
    obtain ⟨visit', -, hfaults⟩ := exists_partner hvisits hvisit
    exact hfaults

/-- A form breaks down with nothing but a fault of a child, called with the options that the
schema hands down. -/
theorem faults_fittedBy
    (hchildren : ∀ child ∈ schema.form.children, ∀ v,
      FaultsWith P (validate child { o with coerce := schema.handsDown o.coerce } v)) :
    FaultsWith P (schema.fittedBy validate o v) := by
  -- Only a union hands down other options than its own.
  by_cases hcontainer : schema.form.isContainer = true
  · have hsame : schema.handsDown o.coerce = o.coerce := by
      obtain ⟨settings, form⟩ := schema
      cases form with
      | union members => cases hcontainer
      | _ => rfl
    rw [hsame] at hchildren
    have hvisits : ∀ child ∈ schema.form.children,
        VisitAlike (fun visit _ => FaultsWith P (visit.validate visit.part)) o o (validate child)
          (validate child) :=
      fun child hchild place part => hchildren child hchild part
    exact fittedBy_related follows_faults hcontainer hvisits
  obtain ⟨settings, form⟩ := schema
  cases form with
  | scalar | literal | unknown | never => exact .ok _
  | array | object | record | map | set => exact absurd rfl hcontainer
  | union members =>
      rw [fittedBy_union]
      refine (Attempts.faults_all (List.forall_mem_map.2 fun member hmember => ?_)).map
      exact hchildren member (List.mem_of_mem_filter hmember) v
  | intersection members =>
      rw [fittedBy_intersection]
      refine (Visit.faults_all ?_).map
      rw [List.map_map]
      exact List.forall_mem_map.2 fun member hmember => hchildren member hmember v

/-- A rule of the schema, or of one inside it, runs into the defect on some value, under the
options of the call as they are handed down to it. -/
def RunsInto (schema : Schema) (o : Options) (text : String) : Prop :=
  ∃ inner coerce, Reaches inner coerce schema o.coerce ∧
    inner.settings.rules.RunInto { o with coerce } text

theorem RunsInto.of_child {child : Schema} {text : String}
    (hchild : child ∈ schema.form.children)
    (h : child.RunsInto { o with coerce := schema.handsDown o.coerce } text) :
    schema.RunsInto o text := by
  obtain ⟨inner, coerce, hreaches, hrules⟩ := h
  exact ⟨inner, coerce, .deeper hchild hreaches, hrules⟩

/-- A call that may be made breaks down with nothing but a defect that a rule ran into. -/
theorem AppliedBy.faults (h : schema.AppliedBy validate) (o : Options) (v : Value) :
    FaultsWith (Fault.IsDefect (schema.RunsInto o)) (validate schema o v) := by
  induction schema using Schema.induction generalizing o v with
  | step schema ih =>
      rw [h.eq_conclude]
      refine (faults_fittedBy fun child hchild v => ?_).bind fun fit => ?_
      · exact (ih child hchild (h.child hchild) _ v).weaken
          fun fault hfault => hfault.weaken fun text htext => htext.of_child hchild
      · cases fit with
        | mismatch issues => exact .ok _
        | fits start =>
            exact Rules.faults_runAsync.map.weaken fun fault hfault =>
              hfault.weaken fun text htext => ⟨schema, o.coerce, .here, htext⟩

/-- The schema itself is marked to be waited for, or a rule of it has to be. -/
def WaitsItself (schema : Schema) : Prop :=
  schema.settings.markedAsync = true ∨ ∃ rule ∈ schema.settings.rules, rule.isAsync = true

/-- Something in the schema has to be waited for, at whatever depth. -/
def Waits (schema : Schema) : Prop :=
  ∃ inner, Inside inner schema ∧ inner.WaitsItself

theorem Waits.of_inside {inner : Schema} (h : inner.Waits) (hinner : Inside inner schema) :
    schema.Waits := by
  induction hinner with
  | here => exact h
  | deeper hchild _ ih =>
      obtain ⟨waiting, hwaiting, hself⟩ := ih
      exact ⟨waiting, .deeper hchild hwaiting, hself⟩

theorem waitsItself_iff :
    schema.WaitsItself ↔
      (schema.settings.markedAsync || schema.settings.rules.isAsync) = true := by
  rw [WaitsItself, Bool.or_eq_true, Rules.isAsync, List.any_eq_true]

/-- What has to be waited for anywhere inside a schema shows on the schema, and nothing else
does. -/
theorem isAsync_iff : schema.isAsync = true ↔ schema.Waits := by
  constructor
  · intro h
    induction schema using Schema.induction with
    | step schema ih =>
        rw [isAsync_eq, Bool.or_eq_true, ← waitsItself_iff] at h
        rcases h with hself | hchildren
        · exact ⟨schema, .here, hself⟩
        · obtain ⟨child, hchild, hasync⟩ := List.any_eq_true.1 hchildren
          exact (ih child hchild hasync).of_inside (.deeper hchild .here)
  · rintro ⟨inner, hinner, hself⟩
    induction hinner with
    | here =>
        rw [isAsync_eq, waitsItself_iff.1 hself]
        rfl
    | deeper hchild _ ih =>
        rw [isAsync_eq, hasAsyncChildren, List.any_eq_true.2 ⟨_, hchild, ih⟩, Bool.or_true]

end Schema

end Conform
