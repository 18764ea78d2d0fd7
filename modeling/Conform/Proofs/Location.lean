/-
An issue is about the value that its path leads to.

The path of an issue grows from the inside, by a segment for every container that hands it on, and
the value it is about is taken where the issue is raised.  Followed from the outside the path leads
back to that value, as long as nothing on the way changes values.  A segment alone does not say
whether it stands for what lies at a place or for the key of it.  That depends on which child
raised the issue, so the route that is shown to lead there is the one by which the issue came.
-/
import Conform.Proofs.AddedRules
import Conform.Proofs.Places
import Conform.Proofs.Validation
import Conform.Rule.Bounds
import Conform.Rule.Content

namespace Conform

variable {o : Options} {v : Value}

/-- The path leads from one value to another, every segment taken on the given side. -/
inductive Value.LeadsTo : Value → List Side → Path → Value → Prop
  | here (v : Value) : LeadsTo v [] [] v
  | step {v part w : Value} {side : Side} {sides : List Side} {s : Segment} {path : Path}
      (hstep : v.StepsTo side s part) (hrest : part.LeadsTo sides path w) :
      LeadsTo v (side :: sides) (s :: path) w

/-! ### The rules that schemas come with -/

/-- The rule holds a value against a condition, or the elements of an array against each other,
whatever its message is and whenever it runs.  All bounds, lengths, patterns and tests of the
user's own are conditions. -/
def Rule.IsBuiltIn (rule : Rule) : Prop :=
  rule.action = arrayUnique.action ∨ ∃ key code message param violated,
    rule.action = (constraint key code message param violated).action

namespace Rule

/-- When a rule runs, and what its message is, makes no difference. -/
theorem IsBuiltIn.adjusted {rule : Rule} (h : rule.IsBuiltIn) (unguarded forced : Bool)
    (message : Option String) : { rule with unguarded, forced, message }.IsBuiltIn :=
  h

variable {code message : String}

theorem constraint_isBuiltIn {key : Option String} {param : Option Value}
    {violated : Value → Bool} : (constraint key code message param violated).IsBuiltIn :=
  Or.inr ⟨key, code, message, param, violated, rfl⟩

theorem refine_isBuiltIn (test : Value → Bool) (message : String) :
    (refine test message).IsBuiltIn :=
  constraint_isBuiltIn

/-! Bounds on numbers, integers and dates, and limits on lengths. -/

theorem numberBound_isBuiltIn {key : String} {limit : Number} {passes : Number → Bool} :
    (numberBound key code message limit passes).IsBuiltIn :=
  constraint_isBuiltIn

theorem integer_isBuiltIn : integer.IsBuiltIn :=
  constraint_isBuiltIn

theorem bigintBound_isBuiltIn {key : String} {limit : Int} {passes : Int → Bool} :
    (bigintBound key code message limit passes).IsBuiltIn :=
  constraint_isBuiltIn

theorem dateBound_isBuiltIn {key : String} {limit : Instant} {passes : Instant → Bool} :
    (dateBound key code message limit passes).IsBuiltIn :=
  constraint_isBuiltIn

theorem lengthLimit_isBuiltIn {key : String} {limit : Nat} {length? : Value → Option Nat}
    {passes : Nat → Bool} : (lengthLimit key code message limit length? passes).IsBuiltIn :=
  constraint_isBuiltIn

/-! Patterns are checked whatever was found, and rules on arrays run even when an element failed.
They are built in all the same. -/

theorem pattern_isBuiltIn (source : String) (p : Pattern) : (pattern source p).IsBuiltIn :=
  constraint_isBuiltIn.adjusted true false none

theorem arrayMinLength_isBuiltIn (limit : Nat) : (arrayMinLength limit).IsBuiltIn :=
  lengthLimit_isBuiltIn.adjusted false true none

theorem arrayMaxLength_isBuiltIn (limit : Nat) : (arrayMaxLength limit).IsBuiltIn :=
  lengthLimit_isBuiltIn.adjusted false true none

theorem arrayUnique_isBuiltIn : arrayUnique.IsBuiltIn :=
  Or.inl rfl

end Rule

/-- The schema has no other rules than those that schemas come with. -/
def Schema.OnlyBuiltIns (schema : Schema) : Prop :=
  ∀ rule ∈ schema.settings.rules, rule.IsBuiltIn

/-- Adding one of these rules adds no other, in whatever place it goes. -/
theorem Schema.OnlyBuiltIns.addRule {schema : Schema} {rule : Rule} (h : schema.OnlyBuiltIns)
    (hrule : rule.IsBuiltIn) : (schema.addRule rule).OnlyBuiltIns := by
  intro other hother
  have hmem : other ∈ schema.settings.rules.push rule := hother
  rw [Rules.push_eq, List.mem_append, List.mem_cons] at hmem
  rcases hmem with hbefore | rfl | hafter
  · exact h other (List.mem_of_mem_take hbefore)
  · exact hrule
  · exact h other (List.mem_of_mem_drop hafter)

theorem Schema.OnlyBuiltIns.withMessage {schema : Schema} (h : schema.OnlyBuiltIns)
    (message : String) : (schema.withMessage message).OnlyBuiltIns := by
  unfold Schema.withMessage
  split
  · exact h
  · intro other hother
    have hmem : other ∈ schema.settings.rules.modifyLast (·.withMessage message) := hother
    rw [Rules.modifyLast_eq] at hmem
    obtain ⟨i, hi⟩ := List.mem_iff_getElem?.1 hmem
    rw [List.getElem?_modify, Option.map_eq_map, Option.map_eq_some_iff] at hi
    obtain ⟨rule, hrule, rfl⟩ := hi
    have hbuiltIn : rule.IsBuiltIn := h rule (List.mem_of_getElem? hrule)
    split
    · exact hbuiltIn.adjusted _ _ _
    · exact hbuiltIn


namespace Rule

variable {rule : Rule} {found : List Issue} {issue : Issue}

/-- Repeated elements are found where they are. -/
theorem repeatedItems_sublist (earlier items : List Value) (start : Nat) :
    (repeatedItems earlier start items).Sublist (items.zipIdx start) := by
  induction items generalizing earlier start with
  | nil => exact List.Sublist.refl []
  | cons item rest ih =>
      rw [List.zipIdx_cons]
      unfold repeatedItems
      split
      · exact (ih _ _).cons_cons _
      · exact (ih _ _).cons _

theorem exists_of_mem_worded (h : issue ∈ rule.worded found) :
    ∃ plain ∈ found, issue.path = plain.path ∧ issue.input = plain.input := by
  unfold worded at h
  split at h
  · obtain ⟨plain, hplain, rfl⟩ := List.mem_map.1 h
    exact ⟨plain, hplain, rfl, rfl⟩
  · exact ⟨issue, h, rfl, rfl⟩

theorem constraint_cases_of_mem {key : Option String} {code message : String}
    {param : Option Value} {violated : Value → Bool}
    (haction : rule.action = (constraint key code message param violated).action)
    (hfound : rule.Finds o v found) (hissue : issue ∈ found) :
    issue.path = [] ∧ issue.input = v := by
  unfold Finds at hfound
  rw [haction] at hfound
  rcases hfound with hfound | hfound
  · obtain rfl := Except.ok.inj hfound
    split at hissue
    · rw [List.mem_singleton.1 hissue]
      exact ⟨rfl, rfl⟩
    · exact absurd hissue List.not_mem_nil
  · cases hfound

theorem arrayUnique_cases_of_mem (haction : rule.action = arrayUnique.action)
    (hfound : rule.Finds o v found) (hissue : issue ∈ found) :
    ∃ items i, v = .array items ∧ issue.path = [.index i] ∧ items[i]? = some issue.input := by
  unfold Finds at hfound
  rw [haction] at hfound
  cases v with
  | array items =>
      rcases hfound with hfound | hfound
      · obtain rfl := Except.ok.inj hfound
        obtain ⟨⟨item, i⟩, hrepeated, rfl⟩ := List.mem_map.1 hissue
        have hmem := (repeatedItems_sublist [] items 0).subset hrepeated
        exact ⟨items, i, rfl, rfl, List.mem_zipIdx_iff_getElem?.1 hmem⟩
      · cases hfound
  | _ =>
      rcases hfound with hfound | hfound
      · obtain rfl := Except.ok.inj hfound
        exact absurd hissue List.not_mem_nil
      · cases hfound

end Rule

/-! ### Where an issue comes from -/

namespace Schema

/-- The issue is one of `schema` about `v`, and came by the given sides: it was raised by the
schema itself, or by a child of it, and then came to the child by the remaining sides. -/
inductive Raised (o : Options) : Schema → Value → List Side → Issue → Prop
  /-- The structure is wrong, or a rule is violated. -/
  | here {schema : Schema} {v : Value} {issue : Issue} (hpath : issue.path = []) :
      Raised o schema v [] issue
  /-- An element is not unique. -/
  | element {schema : Schema} {items : List Value} {rule : Rule} {issue : Issue} {i : Nat}
      (hrule : rule ∈ schema.settings.rules) (haction : rule.action = Rule.arrayUnique.action)
      (hpath : issue.path = [.index i]) : Raised o schema (.array items) [.value] issue
  /-- A field is not declared. -/
  | undeclared {schema : Schema} {properties : Fields Schema} {fields : Fields Value}
      {issue : Issue} {name : String} (hform : schema.form = .object properties .exact)
      (hundeclared : properties.contains name = false) (hpath : issue.path = [.field name]) :
      Raised o schema (.object fields) [.value] issue
  | child {schema child : Schema} {v part : Value} {side : Side} {sides : List Side} {s : Segment}
      {issues : Issues} {issue : Issue} (hchild : child ∈ schema.form.childrenOn side)
      (hstep : v.StepsTo side s part) (hreject : child.apply o part = .ok (.rejected issues))
      (hissue : issue ∈ issues.toList) (h : Raised o child part sides issue) :
      Raised o schema v (side :: sides) (issue.within s)
  /-- A member of an intersection is a child that has the value itself. -/
  | member {schema member : Schema} {v : Value} {members : List Schema} {sides : List Side}
      {issues : Issues} {issue : Issue} (hform : schema.form = .intersection members)
      (hmember : member ∈ members) (hreject : member.apply o v = .ok (.rejected issues))
      (hissue : issue ∈ issues.toList) (h : Raised o member v sides issue) :
      Raised o schema v sides issue

/-- The issue leads to the value it is about by the way it came. -/
def Locates (o : Options) (schema : Schema) (v : Value) (issue : Issue) : Prop :=
  ∃ sides, v.LeadsTo sides issue.path issue.input ∧ Raised o schema v sides issue

variable {schema : Schema} {issue : Issue}

theorem locates_here (hpath : issue.path = []) (hinput : issue.input = v) :
    schema.Locates o v issue := by
  refine ⟨[], ?_, .here hpath⟩
  rw [hpath, hinput]
  exact .here v

theorem locates_step {s : Segment} (hpath : issue.path = [s])
    (hstep : v.StepsTo .value s issue.input) (hraised : schema.Raised o v [.value] issue) :
    schema.Locates o v issue := by
  refine ⟨[.value], ?_, hraised⟩
  rw [hpath]
  exact .step hstep (.here issue.input)

/-- What a rule finds in a value is located in it. -/
theorem locates_of_finds {rule : Rule} {found : List Issue} (hbuiltIn : schema.OnlyBuiltIns)
    (hrule : rule ∈ schema.settings.rules) (hfound : rule.Finds o v found)
    (hissue : issue ∈ rule.worded found) : schema.Locates o v issue := by
  obtain ⟨plain, hplain, hpath, hinput⟩ := Rule.exists_of_mem_worded hissue
  rcases hbuiltIn rule hrule with haction | ⟨key, code, message, param, violated, haction⟩
  · obtain ⟨items, i, rfl, hplace, hitem⟩ :=
      Rule.arrayUnique_cases_of_mem haction hfound hplain
    rw [← hpath] at hplace
    rw [← hinput] at hitem
    exact locates_step hplace (.item hitem) (.element hrule haction hplace)
  · obtain ⟨hroot, hvalue⟩ := Rule.constraint_cases_of_mem haction hfound hplain
    exact locates_here (hpath.trans hroot) (hinput.trans hvalue)

/-- Every issue that is returned is located in the value. -/
def LocatesAll (o : Options) (schema : Schema) : Prop :=
  ∀ v issues, schema.apply o v = .ok (.rejected issues) →
    ∀ issue ∈ issues.toList, schema.Locates o v issue

/-- What a visit finds is located in the value, if what the child finds is in its part. -/
theorem locates_of_madeBy {visit : Visit}
    (hchildren : ∀ child ∈ schema.form.children, child.LocatesAll o)
    (hmade : visit.MadeBy apply o schema v) (hissue : issue ∈ visit.found) :
    schema.Locates o v issue := by
  obtain ⟨issues, hreject, hplaced⟩ := Visit.exists_of_mem_found hissue
  cases hmade with
  | @child side child s part hchild hstep =>
      have hwithin : issue ∈ issues.toList.map fun inner => inner.within s := hplaced
      obtain ⟨inner, hinner, rfl⟩ := List.mem_map.1 hwithin
      obtain ⟨sides, hleads, hraised⟩ :=
        hchildren _ (Form.mem_children hchild) _ _ hreject inner hinner
      exact ⟨side :: sides, .step hstep hleads, .child hchild hstep hreject hinner hraised⟩
  | @undeclared properties fields name part hform hv hundeclared hpart =>
      cases hreject
      obtain rfl := List.mem_singleton.1 hplaced
      subst hv
      have hstep := Value.StepsTo.field fields name
      rw [hpart] at hstep
      exact locates_step rfl hstep (.undeclared hform hundeclared rfl)

theorem locates_of_member {members : List Schema} {member : Schema}
    (hform : schema.form = .intersection members) (hmember : member ∈ members)
    (hlocates : member.LocatesAll o) (hissue : issue ∈ Visit.found ⟨[], v, member.apply o⟩) :
    schema.Locates o v issue := by
  obtain ⟨issues, hreject, hinner⟩ := Visit.exists_of_mem_found hissue
  obtain ⟨sides, hleads, hraised⟩ := hlocates v issues hreject issue hinner
  exact ⟨sides, hleads, .member hform hmember hreject hinner hraised⟩

/-- Before any rule has run the issues are located in the value, and nothing has changed it. -/
theorem locates_of_fitted {fit : Fit}
    (hchildren : ∀ child ∈ schema.form.children, child.LocatesAll o)
    (hvalidates : schema.ValidatesOnly o.coerce) (h : schema.fitted o v = .ok fit) :
    (∀ issue ∈ fit.issues, schema.Locates o v issue) ∧
      ∀ start, fit = .fits start → start.output = .kept := by
  cases arises_of_fitted h with
  | clean output =>
      refine ⟨fun issue hissue => absurd hissue List.not_mem_nil, fun start hstart => ?_⟩
      cases hstart
      exact eq_kept_of_validatesOnly hvalidates h
  | refused hpath hinput =>
      refine ⟨fun issue hissue => ?_, fun start hstart => by cases hstart⟩
      rw [List.mem_singleton.1 hissue]
      exact locates_here hpath hinput
  | @parts base w visits issues huncoerced hmade hreport =>
      have huncoercing : schema.settings.coercesUnder o = false := by
        rw [Settings.coercesUnder, hvalidates.preserves.here.coerces, hvalidates.uncoerced]
        rfl
      -- As nothing is coerced, the parts are those of the value itself.
      obtain ⟨rfl, rfl⟩ := huncoerced huncoercing
      refine ⟨fun issue hissue => ?_, fun start hstart => by cases hstart; rfl⟩
      obtain ⟨visit, hvisit, hfound⟩ := Visit.exists_of_mem_report hreport hissue
      exact locates_of_madeBy hchildren (hmade visit hvisit) hfound
  | @members members issues hform hreport =>
      refine ⟨fun issue hissue => ?_, fun start hstart => by cases hstart⟩
      obtain ⟨visit, hvisit, hfound⟩ := Visit.exists_of_mem_report hreport hissue
      obtain ⟨member, hmember, rfl⟩ := List.mem_map.1 hvisit
      rw [hform] at hchildren
      exact locates_of_member hform hmember (hchildren member hmember) hfound

/-- Rules that look at the value itself locate in it what they find. -/
theorem locates_of_run {start p : Progress} (hbuiltIn : schema.OnlyBuiltIns)
    (hchecks : schema.OnlyChecks) (hkept : start.output = .kept)
    (hstart : ∀ issue ∈ start.issues, schema.Locates o v issue)
    (h : schema.settings.rules.run o v start = .ok p) :
    ∀ issue ∈ p.issues, schema.Locates o v issue := by
  have hstep : ∀ rule ∈ schema.settings.rules, ∀ childFailed, ∀ q q' : Progress,
      (q.output = .kept ∧ ∀ issue ∈ q.issues, schema.Locates o v issue) →
        rule.apply childFailed o v q = .ok q' →
          q'.output = .kept ∧ ∀ issue ∈ q'.issues, schema.Locates o v issue := by
    intro rule hrule childFailed q q' hq happly
    obtain ⟨houtput, hlocates⟩ := hq
    refine ⟨(Rule.output_of_apply (hchecks rule hrule) happly).trans houtput, ?_⟩
    rcases Rule.apply_cases happly with ⟨-, rfl⟩ | ⟨-, hexecute⟩
    · exact hlocates
    · rcases Rule.execute_cases hexecute with ⟨found, hfound, rfl⟩ | ⟨-, w, rfl⟩
      · rw [houtput] at hfound
        exact List.forall_mem_append.2
          ⟨hlocates, fun issue hissue => locates_of_finds hbuiltIn hrule hfound hissue⟩
      · exact hlocates
  exact (Rules.run_keeps hstep ⟨hkept, hstart⟩ h).2

theorem locatesAll (hbuiltIns : schema.Everywhere OnlyBuiltIns)
    (hvalidates : schema.ValidatesOnly o.coerce) : schema.LocatesAll o := by
  obtain ⟨huncoerced, hpreserves⟩ := hvalidates
  induction schema using Schema.induction with
  | step schema ih =>
      intro v issues h
      have hchildren : ∀ child ∈ schema.form.children, child.LocatesAll o :=
        fun child hchild => ih child hchild (hbuiltIns.child hchild) (hpreserves.child hchild)
      rcases apply_eq_rejected_iff.1 h with ⟨-, hmismatch | ⟨start, p, hfits, hrun, hp⟩⟩
      · exact (locates_of_fitted hchildren ⟨huncoerced, hpreserves⟩ hmismatch).1
      · obtain ⟨hstart, hkept⟩ :=
          locates_of_fitted hchildren ⟨huncoerced, hpreserves⟩ hfits
        rw [← hp]
        exact locates_of_run hbuiltIns.here hpreserves.here.checks (hkept start rfl) hstart hrun

/-- **An issue is about the value that its path leads to.**  Let a schema have no rules but those
that schemas come with, and let nothing in it alter values, coerce them or drop fields.  Then the
path of every issue leads from the value to the very value that the issue is about: by an index to
an element, by a field to its value, which is undefined if the field is missing, and by a key to
the value of an entry, but wherever the issue comes from a schema for keys to the key itself. -/
theorem leadsTo_input_of_rejected {issues : Issues} (hbuiltIns : schema.Everywhere OnlyBuiltIns)
    (hvalidates : schema.ValidatesOnly o.coerce)
    (h : schema.apply o v = .ok (.rejected issues)) :
    ∀ issue ∈ issues.toList, ∃ sides,
      v.LeadsTo sides issue.path issue.input ∧ Raised o schema v sides issue :=
  locatesAll hbuiltIns hvalidates v issues h

/-- The name of a field, the second of two equal elements in it, and a field that is missing. -/
theorem leadsTo_input_of_rejected_intersection :
    let name : Schema := ⟨{ rules := [Rule.refine (fun _ => false) "odd"] }, .scalar .string⟩
    let items : Schema := ⟨{ rules := [Rule.arrayUnique] }, .array [] (some ⟨{}, .unknown⟩)⟩
    let fields : Schema := ⟨{}, .object (.ofList [("b", ⟨{}, .never⟩)]) .preserve⟩
    let schema : Schema := ⟨{}, .intersection [⟨{}, .record (some name) items⟩, fields]⟩
    let v : Value := .object (.ofList [("a", .array [.null, .null])])
    ∃ issues, schema.apply ⟨true, false⟩ v = .ok (.rejected issues) ∧
      issues.toList.map Issue.path = [[.field "a"], [.field "a", .index 1], [.field "b"]] ∧
      ∀ issue ∈ issues.toList, ∃ sides,
        v.LeadsTo sides issue.path issue.input ∧ Raised ⟨true, false⟩ schema v sides issue := by
  intro name items fields schema v
  have heverywhere : ∀ {P : Schema → Prop}, (∀ form : Form Schema, form.strips = false →
      P ⟨{}, form⟩) → P name → P items → schema.Everywhere P := by
    intro P hnone hname hitems
    have hrecord : (⟨{}, .record (some name) items⟩ : Schema).Everywhere P := by
      refine everywhere_iff.2 ⟨hnone _ rfl, List.forall_mem_cons.2 ⟨?_, ?_⟩⟩
      · exact everywhere_of_childless rfl hname
      · refine List.forall_mem_singleton.2 (everywhere_iff.2 ⟨hitems, ?_⟩)
        exact List.forall_mem_singleton.2 (everywhere_of_childless rfl (hnone _ rfl))
    have hfields : fields.Everywhere P := by
      refine everywhere_iff.2 ⟨hnone _ rfl, List.forall_mem_singleton.2 ?_⟩
      exact everywhere_of_childless rfl (hnone _ rfl)
    exact everywhere_iff.2
      ⟨hnone _ rfl, List.forall_mem_cons.2 ⟨hrecord, List.forall_mem_singleton.2 hfields⟩⟩
  have hbuiltIns : schema.Everywhere OnlyBuiltIns := by
    refine heverywhere (fun form _ => List.forall_mem_nil _) ?_ ?_
    · exact List.forall_mem_singleton.2 (Rule.refine_isBuiltIn _ _)
    · exact List.forall_mem_singleton.2 Rule.arrayUnique_isBuiltIn
  have hpreserves : schema.Everywhere Preserves := by
    refine heverywhere (fun form hform => ⟨List.forall_mem_nil _, rfl, hform⟩) ?_ ?_
    · exact ⟨List.forall_mem_singleton.2 ⟨_, rfl⟩, rfl, rfl⟩
    · exact ⟨List.forall_mem_singleton.2 ⟨_, rfl⟩, rfl, rfl⟩
  refine ⟨_, rfl, rfl, ?_⟩
  exact leadsTo_input_of_rejected hbuiltIns ⟨rfl, hpreserves⟩ rfl

end Schema

end Conform
