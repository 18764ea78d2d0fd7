/-
Stopping early reports less of the same.

A call that ends at the first issue of each branch finds nothing that a full one does not find,
and finds it in the same order.  As long as no rule alters the value both calls look at the same
values, so a rule that runs in both finds the same, and one that runs early runs in the full call
as well.  What the early call leaves out are visits and members after the first that fails, and
rules that wait for a value without issues.
-/
import Conform.Proofs.Places
import Conform.Proofs.Verbosity

namespace Conform

/-! ### Leaving out issues -/

/-- The parameter without what the members of a union found. -/
def IssueParam.withoutGroups {α : Type} : IssueParam α → IssueParam α
  | .union inputs _ => .union inputs none
  | param => param

/-- The issue without what the members of a union found. -/
def Issue.withoutGroups (issue : Issue) : Issue :=
  { issue with param := issue.param.map IssueParam.withoutGroups }

/-- The issues of an outcome, of which there are none if the value was accepted. -/
def Outcome.issues : Outcome → List Issue
  | accepted _ => []
  | rejected issues => issues.toList

/-- The one list leaves out issues of the other, and leaves the rest in their order.  What the
members of a union found does not count. -/
def Abridges (early full : List Issue) : Prop :=
  (early.map Issue.withoutGroups).Sublist (full.map Issue.withoutGroups)

namespace Abridges

variable {early full early' full' more : List Issue}

theorem refl (issues : List Issue) : Abridges issues issues :=
  List.Sublist.refl _

theorem append (h : Abridges early full) (h' : Abridges early' full') :
    Abridges (early ++ early') (full ++ full') := by
  unfold Abridges
  rw [List.map_append, List.map_append]
  exact List.Sublist.append h h'

theorem append_right (h : Abridges early full) (more : List Issue) :
    Abridges early (full ++ more) := by
  unfold Abridges
  rw [List.map_append]
  exact h.trans (List.sublist_append_left _ _)

theorem of_prefix (h : Abridges early full) (hmore : full <+: more) : Abridges early more := by
  obtain ⟨later, rfl⟩ := hmore
  exact h.append_right later

/-- Issues are left out of those of a part as of those of the whole. -/
theorem placed (h : Abridges early full) (place : Path) :
    Abridges (early.map fun issue => { issue with path := place ++ issue.path })
      (full.map fun issue => { issue with path := place ++ issue.path }) := by
  have hswap : ∀ issues : List Issue,
      (issues.map fun issue => { issue with path := place ++ issue.path }).map
          Issue.withoutGroups =
        (issues.map Issue.withoutGroups).map fun issue =>
          { issue with path := place ++ issue.path } := by
    intro issues
    rw [List.map_map, List.map_map]
    rfl
  unfold Abridges
  rw [hswap, hswap]
  exact h.map _

end Abridges

/-! ### Rules -/

section Rules

variable {rule : Rule} {rules : Rules} {o o' : Options} {input : Value} {childFailed : Bool}
  {p p' : Progress}

/-- Rules go on with the same value, one call having left out issues of the other. -/
structure Progress.Abridges (p p' : Progress) : Prop where
  output : p.output = p'.output
  issues : Conform.Abridges p.issues p'.issues

theorem Progress.issues_outcome (p : Progress) : p.outcome.issues = p.issues := by
  obtain ⟨output, issues⟩ := p
  cases issues <;> rfl

/-- What a rule finds in a value is settled, if it takes no notice of the options. -/
theorem Rule.Finds.unique {found found' : List Issue} (h : rule.IgnoresOptions)
    (hfound : rule.Finds o input found) (hfound' : rule.Finds o' input found') :
    found = found' := by
  unfold IgnoresOptions at h
  unfold Finds at hfound hfound'
  cases haction : rule.action with
  | check find =>
      rw [haction] at h hfound hfound'
      simp only at h hfound hfound'
      rw [h input o o'] at hfound
      rcases hfound with hfound | hfound <;> rcases hfound' with hfound' | hfound' <;>
        rw [hfound] at hfound' <;> cases hfound' <;> rfl
  | alter replace =>
      rw [haction] at h hfound hfound'
      simp only at h hfound hfound'
      rw [h input o o', hfound'] at hfound
      cases hfound
      rfl

/-- A rule that runs in the early call runs in the full one. -/
theorem Rule.runs_of_runs {coerce : Bool} {found : List Issue} (found' : List Issue)
    (h : rule.runs childFailed found ⟨false, coerce⟩ = true) :
    rule.runs childFailed found' ⟨true, coerce⟩ = true := by
  unfold runs at h ⊢
  cases childFailed with
  | true => exact h
  | false => simp

/-- A check that runs in both calls finds the same, and one that runs in the full call alone only
adds to what was left out. -/
theorem Rule.apply_abridge {coerce : Bool} (hcheck : rule.IsCheck) (h : rule.IgnoresOptions)
    (hp : p.Abridges p') :
    Agree Progress.Abridges (rule.apply childFailed ⟨false, coerce⟩ input p)
      (rule.apply childFailed ⟨true, coerce⟩ input p') := by
  intro q q' hq hq'
  refine ⟨?_, ?_⟩
  · rw [output_of_apply hcheck hq, output_of_apply hcheck hq', hp.output]
  · rcases apply_cases hq with ⟨-, rfl⟩ | ⟨hruns, hexecute⟩
    · exact hp.issues.of_prefix (prefix_of_apply hq')
    · rcases apply_cases hq' with ⟨hidle, -⟩ | ⟨-, hexecute'⟩
      · rw [runs_of_runs _ hruns] at hidle
        cases hidle
      · obtain ⟨found, hfound, rfl⟩ :=
          (execute_cases hexecute).resolve_right fun halter => halter.1 hcheck
        obtain ⟨found', hfound', rfl⟩ :=
          (execute_cases hexecute').resolve_right fun halter => halter.1 hcheck
        rw [← hp.output] at hfound'
        obtain rfl : found = found' := hfound.unique h hfound'
        exact hp.issues.append (.refl _)

theorem Rules.run_abridge {coerce : Bool} (hchecks : ∀ rule ∈ rules, rule.IsCheck)
    (hrules : ∀ rule ∈ rules, rule.IgnoresOptions) (hp : p.Abridges p')
    (hfailed : p.issues.isEmpty = p'.issues.isEmpty) :
    Agree Progress.Abridges (rules.run ⟨false, coerce⟩ input p)
      (rules.run ⟨true, coerce⟩ input p') := by
  rw [run_eq_foldlM, run_eq_foldlM, hfailed]
  refine foldlM_agree (fun rule hrule q q' hq => ?_) hp
  exact Rule.apply_abridge (hchecks rule hrule) (hrules rule hrule) hq

end Rules

/-! ### Visits -/

/-- The early call finds of the value what the full one does, or less. -/
def Brief (validate : Validator) : Prop :=
  ∀ coerce v, Agree (fun early full => Abridges early.issues full.issues)
    (validate ⟨false, coerce⟩ v) (validate ⟨true, coerce⟩ v)

/-- Two visits agree, and the first leaves out issues of the second. -/
structure Visit.Abridges (visit visit' : Visit) : Prop where
  agrees : visit.Agrees visit'
  found : Agree (fun early full => Conform.Abridges early.issues full.issues)
    (visit.validate visit.part) (visit'.validate visit'.part)

theorem Visit.Abridges.of_brief {validate : Validator} {coerce : Bool} (hsteady : Steady validate)
    (hbrief : Brief validate) (place : Path) (part : Value) :
    Visit.Abridges ⟨place, part, validate ⟨false, coerce⟩⟩ ⟨place, part, validate ⟨true, coerce⟩⟩ :=
  ⟨⟨rfl, hsteady coerce part⟩, hbrief coerce part⟩

/-- The report of the early call ends with the visit that fails, and that of the full one goes
on from there. -/
theorem Visit.report_abridge {visits visits' : List Visit}
    (h : List.Forall₂ Visit.Abridges visits visits') :
    Agree Conform.Abridges (report false visits) (report true visits') := by
  induction h with
  | nil => exact .ok (.refl [])
  | @cons visit visit' rest rest' hvisit hrest ih =>
      intro early full hearly hfull
      rw [report_cons] at hearly hfull
      rcases hend : visit.validate visit.part with fault | outcome
      · rw [hend] at hearly
        cases hearly
      rcases hend' : visit'.validate visit'.part with fault' | outcome'
      · rw [hend'] at hfull
        cases hfull
      have hfound := hvisit.found outcome outcome' hend hend'
      rw [hend] at hearly
      rw [hend'] at hfull
      cases hvisit.agrees.found outcome outcome' hend hend' with
      | accepted output => exact ih early full hearly hfull
      | @rejected issues issues' hfirst =>
          obtain rfl := Except.ok.inj hearly
          obtain ⟨later, -, rfl⟩ := map_eq_ok_iff.1 hfull
          refine Abridges.append_right ?_ later
          unfold found
          rw [hend, hend', hvisit.agrees.place]
          exact hfound.placed _

/-- The value has the structure in both calls or in neither, and the early one leaves out issues
of the full one. -/
inductive Fit.Abridges : Fit → Fit → Prop
  | mismatch {issues issues' : Issues} (h : Conform.Abridges issues.toList issues'.toList) :
      Abridges (.mismatch issues) (.mismatch issues')
  | fits {start start' : Progress} (h : start.Abridges start')
      (hfailed : start.issues.isEmpty = start'.issues.isEmpty) :
      Abridges (.fits start) (.fits start')

theorem Fit.abridges_refl (fit : Fit) : fit.Abridges fit := by
  cases fit with
  | mismatch issues => exact .mismatch (.refl _)
  | fits start => exact .fits ⟨rfl, .refl _⟩ rfl

/-- What visits come to in the two calls, and what they report. -/
theorem Visit.all_abridge {visits visits' : List Visit} {early full : Findings}
    (h : List.Forall₂ Visit.Abridges visits visits') (hearly : all false visits = .ok early)
    (hfull : all true visits' = .ok full) :
    early.Agrees full ∧ Conform.Abridges early.toList full.toList := by
  constructor
  · exact all_agree (h.imp fun _ _ hvisit => hvisit.agrees) early full hearly hfull
  · exact report_abridge h _ _ (map_eq_ok_iff.2 ⟨early, hearly, rfl⟩)
      (map_eq_ok_iff.2 ⟨full, hfull, rfl⟩)

theorem visitParts_abridge {base : Output} {visits visits' : List Visit}
    {rebuild : List Output → Option Value} (h : List.Forall₂ Visit.Abridges visits visits') :
    Agree Fit.Abridges (visitParts false base visits rebuild)
      (visitParts true base visits' rebuild) := by
  intro fit fit' hfit hfit'
  obtain ⟨early, hearly, rfl⟩ := map_eq_ok_iff.1 hfit
  obtain ⟨full, hfull, rfl⟩ := map_eq_ok_iff.1 hfit'
  obtain ⟨hagree, habridge⟩ := Visit.all_abridge h hearly hfull
  cases hagree with
  | outputs all => exact Fit.abridges_refl _
  | issues hfirst => exact .fits ⟨rfl, habridge⟩ rfl

theorem fitIntersection_abridge {settings : Settings} {members : List Validator} {coerce : Bool}
    {v : Value} (hsteady : ∀ validate ∈ members, Steady validate)
    (hbrief : ∀ validate ∈ members, Brief validate) :
    Agree Fit.Abridges (fitIntersection settings members ⟨false, coerce⟩ v)
      (fitIntersection settings members ⟨true, coerce⟩ v) := by
  have hvisits : List.Forall₂ Visit.Abridges
      (members.map fun validate => ⟨[], v, validate ⟨false, coerce⟩⟩)
      (members.map fun validate => ⟨[], v, validate ⟨true, coerce⟩⟩) :=
    visits_related fun validate hmem =>
      Visit.Abridges.of_brief (hsteady validate hmem) (hbrief validate hmem) [] v
  intro fit fit' hfit hfit'
  obtain ⟨early, hearly, rfl⟩ := map_eq_ok_iff.1 hfit
  obtain ⟨full, hfull, rfl⟩ := map_eq_ok_iff.1 hfit'
  obtain ⟨hagree, habridge⟩ := Visit.all_abridge hvisits hearly hfull
  cases hagree with
  | outputs all => exact Fit.abridges_refl _
  | issues hfirst => exact .mismatch habridge

/-- Containers abridge where their children do. -/
theorem follows_abridge {coerce : Bool} :
    Follows ⟨false, coerce⟩ ⟨true, coerce⟩ Visit.Abridges (Agree Fit.Abridges) where
  coerces := id
  same := fun _ _ _ => ⟨⟨rfl, .refl Outcome.agrees_refl _⟩, .refl (fun _ => .refl _) _⟩
  refused := by
    intro issue second h
    rw [h rfl]
    exact .ok (Fit.abridges_refl _)
  parts := fun _ _ _ _ h => visitParts_abridge h

/-! ### Schemas -/

namespace Schema

variable {schema : Schema} {coerce : Bool} {v : Value}

theorem fitted_abridge (hsteady : ∀ child ∈ schema.form.children, Steady child.apply)
    (hbrief : ∀ child ∈ schema.form.children, Brief child.apply) :
    Agree Fit.Abridges (schema.fitted ⟨false, coerce⟩ v) (schema.fitted ⟨true, coerce⟩ v) := by
  by_cases hcontainer : schema.form.isContainer = true
  · exact fittedBy_related follows_abridge hcontainer fun child hchild =>
      Visit.Abridges.of_brief (hsteady child hchild) (hbrief child hchild)
  obtain ⟨settings, form⟩ := schema
  cases form with
  | scalar target =>
      have hsame : fitted ⟨settings, .scalar target⟩ ⟨true, coerce⟩ v =
          fitted ⟨settings, .scalar target⟩ ⟨false, coerce⟩ v := rfl
      rw [hsame]
      exact .refl Fit.abridges_refl _
  | literal expected =>
      rw [fitted_literal, fitted_literal]
      exact .refl Fit.abridges_refl _
  | unknown => exact .ok (Fit.abridges_refl _)
  | never => exact .ok (Fit.abridges_refl _)
  | array | object | record | map | set => exact absurd rfl hcontainer
  | union members =>
      have hcandidates : ∀ validate ∈ (candidates members
          (settings.memberOptions ⟨true, coerce⟩) v).map apply, Steady validate :=
        List.forall_mem_map.2 fun child hmem => hsteady child (List.mem_of_mem_filter hmem)
      rw [fitted_union, fitted_union]
      refine (Attempts.all_agree hcandidates).map fun attempts attempts' hattempts => ?_
      cases hattempts with
      | accepted output => exact Fit.abridges_refl _
      | failed groups groups' =>
          -- The groups are all that differs, and they do not count.
          exact .mismatch (.refl [settings.unionIssue _ groups v])
  | intersection members =>
      rw [fitted_intersection, fitted_intersection]
      exact fitIntersection_abridge (List.forall_mem_map.2 hsteady)
        (List.forall_mem_map.2 hbrief)

theorem brief_apply (hchecks : schema.Everywhere OnlyChecks)
    (hrules : schema.Everywhere IgnoresOptions) : Brief schema.apply := by
  induction schema using Schema.induction with
  | step schema ih =>
      intro coerce v early full hearly hfull
      have hsync : schema.isAsync = false := isAsync_of_apply hearly
      have hsteady : ∀ child ∈ schema.form.children, Steady child.apply :=
        fun child hchild => steady_apply (hrules.child hchild)
      have hbrief : ∀ child ∈ schema.form.children, Brief child.apply :=
        fun child hchild => ih child hchild (hchecks.child hchild) (hrules.child hchild)
      have habridge : Agree (fun early full => Abridges early.issues full.issues)
          (schema.apply ⟨false, coerce⟩ v) (schema.apply ⟨true, coerce⟩ v) := by
        rw [apply_eq_bind hsync, apply_eq_bind hsync]
        refine (fitted_abridge hsteady hbrief).bind fun fit fit' hfit => ?_
        cases hfit with
        | mismatch h => exact .ok h
        | fits hstart hfailed =>
            refine (Rules.run_abridge hchecks.here hrules.here hstart hfailed).map ?_
            intro p p' hp
            rw [Progress.issues_outcome, Progress.issues_outcome]
            exact hp.issues
      exact habridge early full hearly hfull

/-- **Stopping early reports less of the same.**  Let no rule of a schema, or of one in it, alter
values, and let all of them answer the same whatever the options are.  If neither of two calls
breaks down, one of which stops at the first issue of each branch, then its issues are some of
those that the other reports, in the same order, but for what the members of unions found.  So
there are no more of them. -/
theorem issues_early_sublist {early full : Outcome} (hchecks : schema.Everywhere OnlyChecks)
    (hrules : schema.Everywhere IgnoresOptions)
    (hearly : schema.apply ⟨false, coerce⟩ v = .ok early)
    (hfull : schema.apply ⟨true, coerce⟩ v = .ok full) :
    (early.issues.map Issue.withoutGroups).Sublist (full.issues.map Issue.withoutGroups) ∧
      early.issues.length ≤ full.issues.length := by
  have habridge := brief_apply hchecks hrules coerce v early full hearly hfull
  have hlength := habridge.length_le
  rw [List.length_map, List.length_map] at hlength
  exact ⟨habridge, hlength⟩

/-- A pair of which both parts are wrong, and two rules of which only one runs below a failed
part. -/
theorem issues_early_sublist_pair :
    let never : Schema := ⟨{}, .never⟩
    let judged : Rule := { Rule.refine (fun _ => false) "odd" with forced := true }
    let schema : Schema :=
      ⟨{ rules := [Rule.refine (fun _ => false) "uneven", judged] }, .array [never, never] none⟩
    let v : Value := .array [.null, .bool true]
    ∃ early full, schema.apply ⟨false, false⟩ v = .ok early ∧
      schema.apply ⟨true, false⟩ v = .ok full ∧
      early.issues.map Issue.path = [[.index 0], []] ∧
      full.issues.map Issue.path = [[.index 0], [.index 1], []] ∧
      (early.issues.map Issue.withoutGroups).Sublist (full.issues.map Issue.withoutGroups) := by
  intro never judged schema v
  have hnever : ∀ {P : Schema → Prop}, P never → never.Everywhere P :=
    fun h => everywhere_of_childless rfl h
  have hchecks : schema.Everywhere OnlyChecks := by
    refine everywhere_iff.2 ⟨?_, List.forall_mem_cons.2 ⟨?_, List.forall_mem_singleton.2 ?_⟩⟩
    · exact List.forall_mem_cons.2 ⟨⟨_, rfl⟩, List.forall_mem_singleton.2 ⟨_, rfl⟩⟩
    · exact hnever (List.forall_mem_nil _)
    · exact hnever (List.forall_mem_nil _)
  have hrules : schema.Everywhere IgnoresOptions := by
    refine everywhere_iff.2 ⟨?_, List.forall_mem_cons.2 ⟨?_, List.forall_mem_singleton.2 ?_⟩⟩
    · exact List.forall_mem_cons.2
        ⟨fun _ _ _ => rfl, List.forall_mem_singleton.2 fun _ _ _ => rfl⟩
    · exact hnever (List.forall_mem_nil _)
    · exact hnever (List.forall_mem_nil _)
  obtain ⟨early, hearly, hone⟩ : ∃ early, schema.apply ⟨false, false⟩ v = .ok early ∧
      early.issues.map Issue.path = [[.index 0], []] := ⟨_, rfl, rfl⟩
  obtain ⟨full, hfull, hall⟩ : ∃ full, schema.apply ⟨true, false⟩ v = .ok full ∧
      full.issues.map Issue.path = [[.index 0], [.index 1], []] := ⟨_, rfl, rfl⟩
  have hsublist := issues_early_sublist hchecks hrules hearly hfull
  exact ⟨early, full, hearly, hfull, hone, hall, hsublist.1⟩

end Schema

end Conform
