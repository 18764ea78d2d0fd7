/-
Coercing accepts no less.

A call that coerces takes values another way only where a call that does not would refuse them: a
value of the right kind is never coerced, and so a container has the same parts.  A union is the
one form that notices the difference in a value it takes anyway, for an earlier member may accept
it once that member coerces.  The output may then be another one.  So what is kept on the way up
is that the value is accepted, and, where there is no union below, that it comes out the same.
Rules and intersections look at what comes out, and are left out above unions.
-/
import Conform.Proofs.Dispatch
import Conform.Proofs.Totality
import Conform.Proofs.Verbosity
import Conform.Schema.Build

namespace Conform

/-! ### Runs that accept no less -/

/-- What the first run accepts the second accepts as well, with the same output if it is to be
exactly the same. -/
def Widens (exactly : Prop) (narrow wide : Except Fault Outcome) : Prop :=
  ∀ output, narrow = .ok (.accepted output) →
    ∃ output', wide = .ok (.accepted output') ∧ (exactly → output' = output)

/-- The same for what a form makes of a value. -/
def FitWidens (exactly : Prop) (narrow wide : Except Fault Fit) : Prop :=
  ∀ output, narrow = .ok (.clean output) →
    ∃ output', wide = .ok (.clean output') ∧ (exactly → output' = output)

variable {exactly : Prop}

theorem Widens.refl (run : Except Fault Outcome) : Widens exactly run run :=
  fun output h => ⟨output, h, fun _ => rfl⟩

theorem FitWidens.refl (fitted : Except Fault Fit) : FitWidens exactly fitted fitted :=
  fun output h => ⟨output, h, fun _ => rfl⟩

/-! ### Visits -/

/-- The one visit accepts no less than the other. -/
def Visit.Widens (exactly : Prop) (visit visit' : Visit) : Prop :=
  Conform.Widens exactly (visit.validate visit.part) (visit'.validate visit'.part)

theorem Visit.exists_outputs {visits visits' : List Visit} {outputs : List Output}
    (h : List.Forall₂ (Visit.Widens exactly) visits visits')
    (haccept : List.Forall₂ Visit.Accepts visits outputs) :
    ∃ outputs', List.Forall₂ Visit.Accepts visits' outputs' ∧ (exactly → outputs' = outputs) := by
  induction h generalizing outputs with
  | nil => exact ⟨[], .nil, fun _ => (List.forall₂_nil_left_iff.1 haccept).symm⟩
  | cons hvisit _ ih =>
      cases haccept with
      | cons hfirst hrest =>
          obtain ⟨output', hfirst', hsame⟩ := hvisit _ hfirst
          obtain ⟨outputs', hrest', hsames⟩ := ih hrest
          refine ⟨output' :: outputs', .cons hfirst' hrest', fun hexactly => ?_⟩
          rw [hsame hexactly, hsames hexactly]

theorem follows_widens {verbose : Bool} :
    Follows ⟨verbose, false⟩ ⟨verbose, true⟩ (Visit.Widens exactly) (FitWidens exactly) where
  coerces := fun h => absurd h Bool.false_ne_true
  same := fun visit _ _ => .refl _
  refused := fun _ _ _ _ h => absurd (Except.ok.inj h) Fit.refuse_ne_clean
  parts := by
    intro base visits visits' rebuild hvisits output h
    obtain ⟨outputs, haccept, rfl⟩ := visitParts_eq_clean_iff.1 h
    obtain ⟨outputs', haccept', hsame⟩ := Visit.exists_outputs hvisits haccept
    refine ⟨_, visitParts_eq_clean_iff.2 ⟨outputs', haccept', rfl⟩, fun hexactly => ?_⟩
    rw [hsame hexactly]

/-! ### Rules -/

theorem Rules.run_eq_of_ignoresOptions {rules : Rules} {o o' : Options} {input : Value}
    {start : Progress} (hrules : ∀ rule ∈ rules, rule.IgnoresOptions)
    (hverbose : o.verbose = o'.verbose) :
    rules.run o input start = rules.run o' input start := by
  rw [run_eq_foldlM, run_eq_foldlM]
  generalize (!start.issues.isEmpty) = childFailed
  induction rules generalizing start with
  | nil => rfl
  | cons rule rest ih =>
      rw [List.forall_mem_cons] at hrules
      have happly : rule.apply childFailed o input start =
          rule.apply childFailed o' input start := by
        unfold Rule.apply Rule.runs
        rw [hverbose, Rule.execute_eq_of_ignoresOptions hrules.1 o o']
      rw [List.foldlM_cons, List.foldlM_cons, happly]
      exact congrArg _ (funext fun p => ih hrules.2)

/-! ### Schemas -/

namespace Schema

variable {schema : Schema} {settings : Settings} {members : List Schema} {verbose : Bool}
  {v : Value} {output : Output}

/-- The schema is a union, or has one inside it. -/
def HasUnion (schema : Schema) : Prop :=
  ∃ inner, Inside inner schema ∧ inner.isUnion = true

theorem HasUnion.of_child {child : Schema} (hchild : child ∈ schema.form.children)
    (h : child.HasUnion) : schema.HasUnion := by
  obtain ⟨inner, hinside, hunion⟩ := h
  exact ⟨inner, .deeper hchild hinside, hunion⟩

/-- A schema with a union in it has no rules and is no intersection. -/
def LeavesUnionsAlone (schema : Schema) : Prop :=
  schema.HasUnion → schema.settings.rules = [] ∧ ∀ members, schema.form ≠ .intersection members

/-- A call that coerces accepts no less than one that does not, and the same if there is no union
in the schema. -/
def WidensUnderCoercion (schema : Schema) : Prop :=
  ∀ verbose v, Widens (¬ schema.HasUnion) (schema.apply ⟨verbose, false⟩ v)
    (schema.apply ⟨verbose, true⟩ v)

theorem WidensUnderCoercion.weaken {child : Schema} (h : child.WidensUnderCoercion)
    (hchild : child ∈ schema.form.children) (verbose : Bool) (v : Value) :
    Widens (¬ schema.HasUnion) (child.apply ⟨verbose, false⟩ v)
      (child.apply ⟨verbose, true⟩ v) := by
  intro output haccept
  obtain ⟨output', haccept', hsame⟩ := h verbose v output haccept
  exact ⟨output', haccept', fun hnone => hsame fun hunion => hnone (hunion.of_child hchild)⟩

theorem fitScalar_widens {target : Scalar}
    (h : fitScalar settings target ⟨verbose, false⟩ v = .clean output) :
    fitScalar settings target ⟨verbose, true⟩ v = .clean output := by
  rw [fitScalar_eq_clean_iff] at h ⊢
  refine h.imp_right fun hcoerced => ⟨?_, hcoerced.2⟩
  rw [Settings.coercesUnder, Bool.or_true]

/-- Trying the members in order comes to an outcome, if each of them does. -/
theorem completes_tryInOrder {o : Options}
    (h : ∀ member ∈ members, Completes (member.apply o v)) :
    Completes (tryInOrder o v members) := by
  rw [tryInOrder_eq_map_attempts]
  exact (Attempts.completes_all (List.forall_mem_map.2 h)).map

/-- If a member accepts a value, and none breaks down, the union takes it. -/
theorem exists_clean_of_member {o : Options} {member : Schema}
    (hinputs : ∀ member ∈ members, member.Everywhere KeepsInputs)
    (hcompletes : ∀ member ∈ members, Completes (member.apply (settings.memberOptions o) v))
    (hmember : member ∈ members)
    (haccept : member.apply (settings.memberOptions o) v = .ok (.accepted output)) :
    ∃ output', fitted ⟨settings, .union members⟩ o v = .ok (.clean output') := by
  obtain ⟨result, hresult⟩ := completes_tryInOrder hcompletes
  cases result with
  | some output' => exact ⟨output', fitted_union_of_some hinputs hresult⟩
  | none =>
      obtain ⟨group, issues, hreject, -⟩ := tryInOrder_eq_none_iff.1 hresult member hmember
      rw [haccept] at hreject
      cases hreject

/-- A union may take a value by an earlier member, but it takes it. -/
theorem fitted_union_widens
    (hinputs : ∀ member ∈ members, member.Everywhere KeepsInputs)
    (hcompletes : ∀ member ∈ members, ∀ o v, Completes (member.apply o v))
    (hmembers : ∀ member ∈ members, member.WidensUnderCoercion)
    (h : fitted ⟨settings, .union members⟩ ⟨verbose, false⟩ v = .ok (.clean output)) :
    ∃ output', fitted ⟨settings, .union members⟩ ⟨verbose, true⟩ v = .ok (.clean output') := by
  obtain ⟨member, hcandidate, haccept⟩ := exists_member_of_fitted_union h
  have hmember : member ∈ members := List.mem_of_mem_filter hcandidate
  have hnarrow : settings.memberOptions ⟨verbose, false⟩ = ⟨verbose, settings.coerces⟩ := by
    rw [Settings.memberOptions, Settings.coercesUnder, Bool.or_false]
  have hwide : settings.memberOptions ⟨verbose, true⟩ = ⟨verbose, true⟩ := by
    rw [Settings.memberOptions, Settings.coercesUnder, Bool.or_true]
  have haccept' : ∃ output', member.apply ⟨verbose, true⟩ v = .ok (.accepted output') := by
    rw [hnarrow] at haccept
    cases hcoerces : settings.coerces with
    | true =>
        rw [hcoerces] at haccept
        exact ⟨output, haccept⟩
    | false =>
        rw [hcoerces] at haccept
        obtain ⟨output', hwidened, -⟩ := hmembers member hmember verbose v output haccept
        exact ⟨output', hwidened⟩
  obtain ⟨output', haccept'⟩ := haccept'
  rw [← hwide] at haccept'
  exact exists_clean_of_member hinputs (fun member hmember => hcompletes member hmember _ _)
    hmember haccept'

/-- Members that make the same of a value are merged to the same. -/
theorem fitted_intersection_widens
    (hmembers : ∀ member ∈ members, Widens True (member.apply ⟨verbose, false⟩ v)
      (member.apply ⟨verbose, true⟩ v))
    (h : fitted ⟨settings, .intersection members⟩ ⟨verbose, false⟩ v = .ok (.clean output)) :
    fitted ⟨settings, .intersection members⟩ ⟨verbose, true⟩ v = .ok (.clean output) := by
  rw [fitted_intersection] at h ⊢
  obtain ⟨outputs, haccepts, houtput⟩ := fitIntersection_eq_clean_iff.1 h
  have hvisits : List.Forall₂ (Visit.Widens True)
      (members.map fun member => ⟨[], v, member.apply ⟨verbose, false⟩⟩)
      (members.map fun member => ⟨[], v, member.apply ⟨verbose, true⟩⟩) :=
    visits_related hmembers
  have haccepts' : List.Forall₂ Visit.Accepts
      (members.map fun member => ⟨[], v, member.apply ⟨verbose, false⟩⟩) outputs := by
    rw [List.forall₂_map_left_iff] at haccepts ⊢
    exact haccepts
  obtain ⟨outputs', hwidened, hsame⟩ := Visit.exists_outputs hvisits haccepts'
  obtain rfl := hsame trivial
  refine fitIntersection_eq_clean_iff.2 ⟨outputs', ?_, houtput⟩
  rw [List.forall₂_map_left_iff] at hwidened ⊢
  exact hwidened

theorem fitted_widens (hinputs : schema.Everywhere KeepsInputs)
    (hunions : schema.LeavesUnionsAlone)
    (hcompletes : ∀ child ∈ schema.form.children, ∀ o v, Completes (child.apply o v))
    (hchildren : ∀ child ∈ schema.form.children, child.WidensUnderCoercion) :
    FitWidens (¬ schema.HasUnion) (schema.fitted ⟨verbose, false⟩ v)
      (schema.fitted ⟨verbose, true⟩ v) := by
  by_cases hcontainer : schema.form.isContainer = true
  · exact fittedBy_related follows_widens hcontainer
      fun child hchild place part => (hchildren child hchild).weaken hchild verbose part
  obtain ⟨settings, form⟩ := schema
  cases form with
  | scalar target =>
      intro output h
      have hwide := fitScalar_widens (Except.ok.inj h)
      exact ⟨output, congrArg Except.ok hwide, fun _ => rfl⟩
  | literal expected => exact .refl _
  | unknown => exact .refl _
  | never => exact .refl _
  | array | object | record | map | set => exact absurd rfl hcontainer
  | union members =>
      intro output h
      obtain ⟨output', hwide⟩ := fitted_union_widens
        (fun member hmember => hinputs.child hmember) hcompletes hchildren h
      -- Another member may have taken the value, and where there is a union nothing more is said.
      have hunion : HasUnion ⟨settings, .union members⟩ := ⟨_, .here, rfl⟩
      exact ⟨output', hwide, fun hnone => absurd hunion hnone⟩
  | intersection members =>
      intro output h
      have hnone : ¬ HasUnion ⟨settings, .intersection members⟩ :=
        fun hunion => (hunions hunion).2 members rfl
      -- What is merged comes from every member, so each of them has to come out the same.
      refine ⟨output, fitted_intersection_widens (fun member hmember => ?_) h, fun _ => rfl⟩
      intro output haccept
      obtain ⟨output', haccept', hsame⟩ := hchildren member hmember verbose v output haccept
      exact ⟨output', haccept', fun _ => hsame fun hunion => hnone (hunion.of_child hmember)⟩

theorem widensUnderCoercion (hinputs : schema.Everywhere KeepsInputs)
    (hrules : schema.Everywhere IgnoresOptions) (hdefects : schema.Everywhere HasNoDefects)
    (hunions : schema.Everywhere LeavesUnionsAlone) : schema.WidensUnderCoercion := by
  induction schema using Schema.induction with
  | step schema ih =>
      intro verbose v output h
      obtain ⟨hsync, base, hfitted, hrun⟩ := apply_eq_accepted_iff.1 h
      have hcompletes : ∀ child ∈ schema.form.children, ∀ o v, Completes (child.apply o v) :=
        fun child hchild => completes_apply (isAsync_child hsync hchild) (hdefects.child hchild)
      have hchildren : ∀ child ∈ schema.form.children, child.WidensUnderCoercion :=
        fun child hchild => ih child hchild (hinputs.child hchild) (hrules.child hchild)
          (hdefects.child hchild) (hunions.child hchild)
      obtain ⟨base', hfitted', hsame⟩ :=
        fitted_widens hinputs hunions.here hcompletes hchildren base hfitted
      by_cases hunion : schema.HasUnion
      · have hnoRules : schema.settings.rules = [] := (hunions.here hunion).1
        refine ⟨base', apply_eq_accepted_iff.2 ⟨hsync, base', hfitted', ?_⟩, absurd hunion⟩
        rw [hnoRules]
        rfl
      · obtain rfl := hsame hunion
        refine ⟨output, apply_eq_accepted_iff.2 ⟨hsync, base', hfitted', ?_⟩, fun _ => rfl⟩
        rw [← hrun]
        exact Rules.run_eq_of_ignoresOptions hrules.here rfl

/-- **Coercing accepts no less.**  Let every schema in a schema claim the inputs of its form, let
all rules answer the same whatever the options are and without defects, and let no schema that has
a union in it have rules or be an intersection.  Then a value that is accepted in a call that does
not coerce is accepted in one that does, and if there is no union at all it comes out the same,
kept or replaced. -/
theorem accepted_of_uncoerced (hinputs : schema.Everywhere KeepsInputs)
    (hrules : schema.Everywhere IgnoresOptions) (hdefects : schema.Everywhere HasNoDefects)
    (hunions : schema.Everywhere LeavesUnionsAlone)
    (h : schema.apply ⟨verbose, false⟩ v = .ok (.accepted output)) :
    ∃ output', schema.apply ⟨verbose, true⟩ v = .ok (.accepted output') ∧
      (¬ schema.HasUnion → output' = output) :=
  widensUnderCoercion hinputs hrules hdefects hunions verbose v output h

/-- A null that a later member takes as it is, and an earlier one once it coerces. -/
theorem accepted_of_uncoerced_pair :
    let choice : Schema := ⟨{}, .union [⟨{}, .scalar .boolean⟩, ⟨{}, .literal .null⟩]⟩
    let judged : Schema := ⟨{ rules := [Rule.refine (fun _ => true) "odd"] }, .unknown⟩
    let schema : Schema := ⟨{}, .array [choice, judged] none⟩
    let v : Value := .array [.null, .null]
    ∃ output, schema.apply ⟨false, false⟩ v = .ok (.accepted .kept) ∧
      schema.apply ⟨false, true⟩ v = .ok (.accepted output) ∧
      output.resolve v = .array [.bool false, .null] := by
  intro choice judged schema v
  have heverywhere : ∀ {P : Schema → Prop}, (∀ form : Form Schema,
      (∀ members, form ≠ .intersection members) → P ⟨{}, form⟩) → P judged →
        schema.Everywhere P := by
    intro P hbare hjudged
    have hchoice : choice.Everywhere P := by
      refine everywhere_iff.2 ⟨hbare _ nofun, List.forall_mem_cons.2 ⟨?_, ?_⟩⟩
      · exact everywhere_of_childless rfl (hbare _ nofun)
      · exact List.forall_mem_singleton.2 (everywhere_of_childless rfl (hbare _ nofun))
    refine everywhere_iff.2 ⟨hbare _ nofun, List.forall_mem_cons.2 ⟨hchoice, ?_⟩⟩
    exact List.forall_mem_singleton.2 (everywhere_of_childless rfl hjudged)
  have hunion : ¬ judged.HasUnion := by
    intro hunion
    obtain ⟨inner, hinside, hinner⟩ := hunion
    cases hinside with
    | here => cases hinner
    | deeper hchild h => exact absurd hchild List.not_mem_nil
  have hinputs : schema.Everywhere KeepsInputs := heverywhere (fun _ _ => rfl) rfl
  have hrules : schema.Everywhere IgnoresOptions :=
    heverywhere (fun _ _ => List.forall_mem_nil _)
      (List.forall_mem_singleton.2 fun _ _ _ => rfl)
  have hdefects : schema.Everywhere HasNoDefects :=
    heverywhere (fun _ _ => List.forall_mem_nil _)
      (List.forall_mem_singleton.2 fun _ _ _ h => by cases h)
  have hunions : schema.Everywhere LeavesUnionsAlone :=
    heverywhere (fun form hform _ => ⟨rfl, hform⟩) fun h => absurd h hunion
  have hnarrow : schema.apply ⟨false, false⟩ v = .ok (.accepted .kept) := rfl
  obtain ⟨output, hwide, -⟩ := accepted_of_uncoerced hinputs hrules hdefects hunions hnarrow
  refine ⟨output, hnarrow, hwide, ?_⟩
  have hcoerced : schema.apply ⟨false, true⟩ v =
      .ok (.accepted (.replaced (.array [.bool false, .null]))) := rfl
  rw [hcoerced, Except.ok.injEq, Outcome.accepted.injEq] at hwide
  rw [← hwide]
  rfl

end Schema

end Conform
