/-
Reporting every issue changes nothing but the report.

With and without it a call takes another course as soon as there is an issue: other parts of a
container are visited, other members of an intersection are tried, other rules run, and they may
alter a value that the other call leaves alone.  But until there is an issue the two calls do
the same, and an issue once found is never lost and stays the first.  So the two are compared
by a relation that says no more than that: without issues they have the same output, and with
issues the first of each are alike.  Every step keeps it, and a call that breaks down is
compared with nothing.
-/
import Conform.Proofs.Containers
import Conform.Rule.Constraint

namespace Conform

/-! ### Runs that agree -/

/-- Where neither run breaks down, what they come to is related. -/
def Agree {α : Type} (R : α → α → Prop) (early full : Except Fault α) : Prop :=
  ∀ a b, early = .ok a → full = .ok b → R a b

namespace Agree

variable {α β : Type} {R : α → α → Prop} {S : β → β → Prop} {early full : Except Fault α}

theorem ok {a b : α} (h : R a b) : Agree R (.ok a) (.ok b) := by
  intro a' b' ha hb
  obtain rfl := Except.ok.inj ha
  obtain rfl := Except.ok.inj hb
  exact h

theorem refl (hrefl : ∀ a, R a a) (run : Except Fault α) : Agree R run run := by
  intro a b ha hb
  obtain rfl := Except.ok.inj (ha.symm.trans hb)
  exact hrefl a

theorem bind {f g : α → Except Fault β} (h : Agree R early full)
    (hstep : ∀ a b, R a b → Agree S (f a) (g b)) : Agree S (early >>= f) (full >>= g) := by
  intro a' b' ha' hb'
  obtain ⟨a, ha, hfa⟩ := bind_eq_ok_iff.1 ha'
  obtain ⟨b, hb, hgb⟩ := bind_eq_ok_iff.1 hb'
  exact hstep a b (h a b ha hb) a' b' hfa hgb

theorem map {f g : α → β} (h : Agree R early full) (hstep : ∀ a b, R a b → S (f a) (g b)) :
    Agree S (early.map f) (full.map g) := by
  intro a' b' ha' hb'
  obtain ⟨a, ha, rfl⟩ := map_eq_ok_iff.1 ha'
  obtain ⟨b, hb, rfl⟩ := map_eq_ok_iff.1 hb'
  exact hstep a b (h a b ha hb)

end Agree

/-! ### What is compared -/

/-- The issues are the same but for the parameter, in which a union has the issues of its
members. -/
structure Issue.Resembles (issue issue' : Issue) : Prop where
  code : issue.code = issue'.code
  path : issue.path = issue'.path
  input : issue.input = issue'.input
  message : issue.message = issue'.message
  metadata : issue.metadata = issue'.metadata

theorem Issue.resembles_refl (issue : Issue) : issue.Resembles issue :=
  ⟨rfl, rfl, rfl, rfl, rfl⟩

theorem Issue.Resembles.within {issue issue' : Issue} (h : issue.Resembles issue') (s : Segment) :
    (issue.within s).Resembles (issue'.within s) :=
  { h with path := congrArg (Path.within · s) h.path }

theorem Issue.Resembles.placed {issues issues' : Issues}
    (h : issues.first.Resembles issues'.first) (place : Path) :
    (issues.placed place).first.Resembles (issues'.placed place).first := by
  induction place with
  | nil => exact h
  | cons s rest ih => exact ih.within s

/-- Both calls accept the value and make the same of it, or both reject it, for a first issue
that is alike. -/
inductive Outcome.Agrees : Outcome → Outcome → Prop
  | accepted (output : Output) : Agrees (.accepted output) (.accepted output)
  | rejected {issues issues' : Issues} (h : issues.first.Resembles issues'.first) :
      Agrees (.rejected issues) (.rejected issues')

/-- Rules go on from the same output and no issues, or from issues of which the first are
alike. -/
inductive Progress.Agrees : Progress → Progress → Prop
  | clean (output : Output) : Agrees ⟨output, []⟩ ⟨output, []⟩
  | failed {output output' : Output} {first first' : Issue} {later later' : List Issue}
      (h : first.Resembles first') : Agrees ⟨output, first :: later⟩ ⟨output', first' :: later'⟩

/-- The value has the structure in both calls or in neither. -/
inductive Fit.Agrees : Fit → Fit → Prop
  | mismatch {issues issues' : Issues} (h : issues.first.Resembles issues'.first) :
      Agrees (.mismatch issues) (.mismatch issues')
  | fits {start start' : Progress} (h : start.Agrees start') : Agrees (.fits start) (.fits start')

/-- The parts are all in order in both calls, or in neither. -/
inductive Findings.Agrees : Findings → Findings → Prop
  | outputs (all : List Output) : Agrees (.outputs all) (.outputs all)
  | issues {found found' : Issues} (h : found.first.Resembles found'.first) :
      Agrees (.issues found) (.issues found')

theorem Outcome.agrees_refl (outcome : Outcome) : outcome.Agrees outcome := by
  cases outcome with
  | accepted output => exact .accepted output
  | rejected issues => exact .rejected issues.first.resembles_refl

theorem Progress.agrees_refl (p : Progress) : p.Agrees p := by
  obtain ⟨output, issues⟩ := p
  cases issues with
  | nil => exact .clean output
  | cons first later => exact .failed first.resembles_refl

theorem Progress.Agrees.outcome {p p' : Progress} (h : p.Agrees p') :
    p.outcome.Agrees p'.outcome := by
  cases h with
  | clean output => exact .accepted output
  | failed h => exact .rejected h

theorem Fit.agrees_refl (fit : Fit) : fit.Agrees fit := by
  cases fit with
  | mismatch issues => exact .mismatch issues.first.resembles_refl
  | fits start => exact .fits start.agrees_refl

/-! ### Rules -/

section Rules

variable {rule : Rule} {rules : Rules} {o o' : Options} {input : Value} {childFailed : Bool}
  {p p' : Progress}

/-- The rule answers the same whatever the options are. -/
def Rule.IgnoresOptions (rule : Rule) : Prop :=
  match rule.action with
  | .check find => ∀ v o o', find v rule.param o = find v rule.param o'
  | .alter replace => ∀ v o o', replace v rule.param o = replace v rule.param o'

theorem Rule.constraint_ignoresOptions {key : Option String} {code message : String}
    {param : Option Value} {violated : Value → Bool} :
    (constraint key code message param violated).IgnoresOptions :=
  fun _ _ _ => rfl

theorem Rule.execute_eq_of_ignoresOptions (h : rule.IgnoresOptions) (o o' : Options) :
    rule.execute o input p = rule.execute o' input p := by
  unfold IgnoresOptions at h
  unfold execute
  cases haction : rule.action with
  | check find =>
      rw [haction] at h
      simp only [h _ o o']
  | alter replace =>
      rw [haction] at h
      simp only [h _ o o']

/-- A rule that runs before there is an issue runs in both calls.  Later it may run in one of
them only, but then what it finds comes after the first issue. -/
theorem Rule.apply_agree (h : rule.IgnoresOptions) (hp : p.Agrees p') :
    Agree Progress.Agrees (rule.apply childFailed o input p)
      (rule.apply childFailed o' input p') := by
  intro q q' hq hq'
  cases hp with
  | clean output =>
      have hruns : rule.runs childFailed [] o = rule.runs childFailed [] o' := rfl
      have happly : rule.apply childFailed o input ⟨output, []⟩ =
          rule.apply childFailed o' input ⟨output, []⟩ := by
        rw [apply, apply, hruns, execute_eq_of_ignoresOptions h o o']
      obtain rfl : q = q' := Except.ok.inj (hq.symm.trans (happly.trans hq'))
      exact q.agrees_refl
  | failed hfirst =>
      obtain ⟨reached, issues⟩ := q
      obtain ⟨reached', issues'⟩ := q'
      obtain ⟨more, rfl⟩ := prefix_of_apply hq
      obtain ⟨more', rfl⟩ := prefix_of_apply hq'
      exact .failed hfirst

/-- What relates two progresses after every rule relates them after a run. -/
theorem Rules.foldlM_agree {R : Progress → Progress → Prop}
    (hstep : ∀ rule ∈ rules, ∀ p p', R p p' →
      Agree R (rule.apply childFailed o input p) (rule.apply childFailed o' input p'))
    (hp : R p p') :
    Agree R (rules.foldlM (fun p rule => rule.apply childFailed o input p) p)
      (rules.foldlM (fun p rule => rule.apply childFailed o' input p) p') := by
  induction rules generalizing p p' with
  | nil => exact .ok hp
  | cons rule rest ih =>
      rw [List.forall_mem_cons] at hstep
      rw [List.foldlM_cons, List.foldlM_cons]
      exact (hstep.1 p p' hp).bind fun _ _ hq => ih hstep.2 hq

theorem Rules.run_agree (hrules : ∀ rule ∈ rules, rule.IgnoresOptions) (hp : p.Agrees p') :
    Agree Progress.Agrees (rules.run o input p) (rules.run o' input p') := by
  have hfailed : p.issues.isEmpty = p'.issues.isEmpty := by
    cases hp <;> rfl
  rw [run_eq_foldlM, run_eq_foldlM, hfailed]
  exact foldlM_agree (fun rule hrule _ _ hq => Rule.apply_agree (hrules rule hrule) hq) hp

end Rules

/-! ### Visits -/

/-- What is made of a value agrees with what is made of it when everything is reported. -/
def Steady (validate : Validator) : Prop :=
  ∀ coerce v, Agree Outcome.Agrees (validate ⟨false, coerce⟩ v) (validate ⟨true, coerce⟩ v)

/-- The two visits lead to the same place and agree on what they find there. -/
structure Visit.Agrees (visit visit' : Visit) : Prop where
  place : visit.place = visit'.place
  found : Agree Outcome.Agrees (visit.validate visit.part) (visit'.validate visit'.part)

theorem Visit.all_cons {verbose : Bool} {visit : Visit} {rest : List Visit} :
    all verbose (visit :: rest) = visit.validate visit.part >>= fun
      | .accepted output => (all verbose rest).map (·.consOutput output)
      | .rejected issues =>
        if verbose then (all verbose rest).map (·.prependIssues (issues.placed visit.place))
        else .ok (.issues (issues.placed visit.place)) := by
  rw [all]
  rcases visit.validate visit.part with fault | outcome
  · rfl
  · cases outcome <;> rfl

/-- The first visit that fails is the same in both calls, and what comes after it is no longer
the first. -/
theorem Visit.all_agree {visits visits' : List Visit} (h : List.Forall₂ Agrees visits visits') :
    Agree Findings.Agrees (all false visits) (all true visits') := by
  induction h with
  | nil => exact .ok (.outputs [])
  | @cons visit visit' rest rest' hvisit hrest ih =>
      rw [all_cons, all_cons]
      refine hvisit.found.bind fun outcome outcome' houtcome => ?_
      cases houtcome with
      | accepted output =>
          refine ih.map fun findings findings' hfindings => ?_
          cases hfindings with
          | outputs all => exact .outputs (output :: all)
          | issues hfirst => exact .issues hfirst
      | @rejected issues issues' hfirst =>
          -- The early call ends here, and what the full one still finds it puts after this.
          have hplaced := hfirst.placed visit.place
          intro findings findings' hearly hfull
          obtain rfl : Findings.issues (issues.placed visit.place) = findings :=
            Except.ok.inj hearly
          obtain ⟨later, -, rfl⟩ := map_eq_ok_iff.1 hfull
          rw [hvisit.place] at hplaced ⊢
          cases later <;> exact .issues hplaced

theorem visitParts_agree {base : Output} {visits visits' : List Visit}
    {rebuild : List Output → Option Value} (h : List.Forall₂ Visit.Agrees visits visits') :
    Agree Fit.Agrees (visitParts false base visits rebuild)
      (visitParts true base visits' rebuild) := by
  refine (Visit.all_agree h).map fun findings findings' hfindings => ?_
  cases hfindings with
  | outputs all => exact Fit.agrees_refl _
  | issues hfirst => exact .fits (.failed hfirst)

/-- Containers agree where their children do. -/
theorem follows_agree {coerce : Bool} :
    Follows ⟨false, coerce⟩ ⟨true, coerce⟩ Visit.Agrees (Agree Fit.Agrees) where
  coerces := id
  same := fun _ _ _ => ⟨rfl, .refl Outcome.agrees_refl _⟩
  refused := by
    intro issue second h
    rw [h rfl]
    exact .ok (Fit.agrees_refl _)
  parts := fun _ _ _ _ h => visitParts_agree h

/-! ### Unions and intersections -/

/-- Both calls make the same of the members, or both find that none takes the value. -/
inductive Attempts.Agrees : Attempts → Attempts → Prop
  | accepted (output : Output) : Agrees (.accepted output) (.accepted output)
  | failed (groups groups' : List (List Issue)) : Agrees (.failed groups) (.failed groups')

section Members

variable {settings : Settings} {members : List Validator} {coerce : Bool} {v : Value}

theorem Attempts.all_agree (h : ∀ validate ∈ members, Steady validate) :
    Agree Agrees (all ⟨false, coerce⟩ v members) (all ⟨true, coerce⟩ v members) := by
  induction members with
  | nil => exact .ok (.failed [] [])
  | cons validate rest ih =>
      rw [List.forall_mem_cons] at h
      rw [all_cons, all_cons]
      refine (h.1 coerce v).bind fun outcome outcome' houtcome => ?_
      cases houtcome with
      | accepted output => exact .ok (.accepted output)
      | rejected hfirst =>
          refine (ih h.2).map fun attempts attempts' hattempts => ?_
          cases hattempts with
          | accepted output => exact .accepted output
          | failed groups groups' => exact .failed _ _

theorem fitIntersection_agree (h : ∀ validate ∈ members, Steady validate) :
    Agree Fit.Agrees (fitIntersection settings members ⟨false, coerce⟩ v)
      (fitIntersection settings members ⟨true, coerce⟩ v) := by
  have hvisits : List.Forall₂ Visit.Agrees
      (members.map fun validate => ⟨[], v, validate ⟨false, coerce⟩⟩)
      (members.map fun validate => ⟨[], v, validate ⟨true, coerce⟩⟩) :=
    visits_related fun validate hmem => ⟨rfl, h validate hmem coerce v⟩
  refine (Visit.all_agree hvisits).map fun findings findings' hfindings => ?_
  cases hfindings with
  | issues hfirst => exact .mismatch hfirst
  | outputs all => exact Fit.agrees_refl _

end Members

/-! ### Schemas -/

namespace Schema

variable {schema : Schema} {coerce : Bool} {v : Value}

/-- The rules of the schema answer the same whatever the options are. -/
def IgnoresOptions (schema : Schema) : Prop :=
  ∀ rule ∈ schema.settings.rules, rule.IgnoresOptions

theorem apply_eq_bind {o : Options} (hsync : schema.isAsync = false) :
    schema.apply o v = schema.fitted o v >>= fun
      | .mismatch issues => .ok (.rejected issues)
      | .fits start => (schema.settings.rules.run o v start).map Progress.outcome := by
  rw [apply_of_sync hsync]
  rcases schema.fitted o v with fault | fit
  · rfl
  · cases fit <;> rfl

theorem fitted_agree (hchildren : ∀ child ∈ schema.form.children, Steady child.apply) :
    Agree Fit.Agrees (schema.fitted ⟨false, coerce⟩ v) (schema.fitted ⟨true, coerce⟩ v) := by
  by_cases hcontainer : schema.form.isContainer = true
  · exact fittedBy_related follows_agree hcontainer
      fun child hchild place part => ⟨rfl, hchildren child hchild coerce part⟩
  obtain ⟨settings, form⟩ := schema
  cases form with
  | scalar target =>
      have hsame : fitted ⟨settings, .scalar target⟩ ⟨true, coerce⟩ v =
          fitted ⟨settings, .scalar target⟩ ⟨false, coerce⟩ v := rfl
      rw [hsame]
      exact .refl Fit.agrees_refl _
  | literal expected =>
      rw [fitted_literal, fitted_literal]
      exact .refl Fit.agrees_refl _
  | unknown => exact .ok (Fit.agrees_refl _)
  | never => exact .ok (Fit.agrees_refl _)
  | array | object | record | map | set => exact absurd rfl hcontainer
  | union members =>
      have hcandidates : ∀ validate ∈ (candidates members
          (settings.memberOptions ⟨true, coerce⟩) v).map apply, Steady validate :=
        List.forall_mem_map.2 fun child hmem => hchildren child (List.mem_of_mem_filter hmem)
      rw [fitted_union, fitted_union]
      refine (Attempts.all_agree hcandidates).map fun attempts attempts' hattempts => ?_
      cases hattempts with
      | accepted output => exact Fit.agrees_refl _
      | failed groups groups' =>
          -- The groups need not agree: they are in the parameter of the one issue.
          exact .mismatch ⟨rfl, rfl, rfl, rfl, rfl⟩
  | intersection members =>
      rw [fitted_intersection, fitted_intersection]
      exact fitIntersection_agree (List.forall_mem_map.2 hchildren)

theorem steady_apply (h : schema.Everywhere IgnoresOptions) : Steady schema.apply := by
  induction schema using Schema.induction with
  | step schema ih =>
      intro coerce v early full hearly hfull
      have hsync : schema.isAsync = false := isAsync_of_apply hearly
      have hchildren : ∀ child ∈ schema.form.children, Steady child.apply :=
        fun child hchild => ih child hchild (h.child hchild)
      rw [apply_eq_bind hsync] at hearly hfull
      refine (fitted_agree hchildren).bind (fun fit fit' hfit => ?_) early full hearly hfull
      cases hfit with
      | mismatch hfirst => exact .ok (.rejected hfirst)
      | fits hstart => exact (Rules.run_agree h.here hstart).map fun _ _ hp => hp.outcome

/-- **Reporting every issue changes nothing but the report.**  Let the rules of a schema, and of
all schemas in it, answer the same whatever the options are, and let neither of two calls break
down, one of which stops at the first issue of each branch and the other reports all of them.
Then both accept the value and make the same of it, kept or replaced, or both reject it, and the
first issue of each has the same code, path, input, message and metadata. -/
theorem apply_verbose_agrees {early full : Outcome} (hrules : schema.Everywhere IgnoresOptions)
    (hearly : schema.apply ⟨false, coerce⟩ v = .ok early)
    (hfull : schema.apply ⟨true, coerce⟩ v = .ok full) : early.Agrees full :=
  steady_apply hrules coerce v early full hearly hfull

/-- A pair of which both parts are wrong, the first by a union whose only member finds one issue
or two, and a rule that runs all the same. -/
theorem apply_verbose_agrees_pair :
    let never : Schema := ⟨{}, .never⟩
    let choice : Schema := ⟨{}, .union [⟨{}, .array [never, never] none⟩]⟩
    let rule : Rule := { Rule.refine (fun _ => false) "odd" with forced := true }
    let schema : Schema := ⟨{ rules := [rule] }, .array [choice, never] none⟩
    let v : Value := .array [.array [.null, .null], .null]
    ∃ issues issues',
      schema.apply ⟨false, false⟩ v = .ok (.rejected issues) ∧
        schema.apply ⟨true, false⟩ v = .ok (.rejected issues') ∧
        issues.size = 2 ∧ issues'.size = 3 ∧ issues.first.Resembles issues'.first := by
  intro never choice rule schema v
  have hnone : ∀ form, IgnoresOptions ⟨{}, form⟩ :=
    fun form rule hmem => absurd hmem List.not_mem_nil
  have hnever : Everywhere IgnoresOptions never := everywhere_of_childless rfl (hnone _)
  have hmember : Everywhere IgnoresOptions ⟨{}, .array [never, never] none⟩ :=
    everywhere_iff.2
      ⟨hnone _, List.forall_mem_cons.2 ⟨hnever, List.forall_mem_singleton.2 hnever⟩⟩
  have hchoice : Everywhere IgnoresOptions choice :=
    everywhere_iff.2 ⟨hnone _, List.forall_mem_singleton.2 hmember⟩
  have hrule : (Rule.refine (fun _ => false) "odd").IgnoresOptions :=
    Rule.constraint_ignoresOptions
  have hrules : Everywhere IgnoresOptions schema :=
    everywhere_iff.2 ⟨List.forall_mem_singleton.2 hrule,
      List.forall_mem_cons.2 ⟨hchoice, List.forall_mem_singleton.2 hnever⟩⟩
  obtain ⟨issues, hearly, hone⟩ :
      ∃ issues, schema.apply ⟨false, false⟩ v = .ok (.rejected issues) ∧ issues.size = 2 :=
    ⟨_, rfl, rfl⟩
  obtain ⟨issues', hfull, hall⟩ :
      ∃ issues, schema.apply ⟨true, false⟩ v = .ok (.rejected issues) ∧ issues.size = 3 :=
    ⟨_, rfl, rfl⟩
  refine ⟨issues, issues', hearly, hfull, hone, hall, ?_⟩
  cases apply_verbose_agrees hrules hearly hfull with
  | rejected hfirst => exact hfirst

end Schema

end Conform
