/-
A part that fails leaves nothing of the others.

The parts of a container may be changed on the way, one after the other, before or after one of
them is rejected.  None of that is left once a part has failed: the rules start from what the
container stood as before its parts were looked at.  Nor do all rules run.  Those that are forced
do, each of them, and what was found before decides nothing any more, so the end is that of a
plain run over the forced rules.  Two containers that differ in what their accepted parts come out
as can then not be told apart.
-/
import Conform.Proofs.Faults
import Conform.Rule.Constraint

namespace Conform

/-! ### Forced rules -/

/-- The progress with issues that were found before. -/
def Progress.after (earlier : List Issue) (p : Progress) : Progress :=
  { p with issues := earlier ++ p.issues }

section Rules

variable {rule : Rule} {rules : Rules} {o : Options} {input : Value}

/-- Runs every rule in order, whatever was found. -/
def Rules.executeAll (rules : Rules) (o : Options) (input : Value) (p : Progress) :
    Except Fault Progress :=
  rules.foldlM (fun p rule => rule.execute o input p) p

theorem Rule.execute_after (earlier : List Issue) (p : Progress) :
    rule.execute o input (p.after earlier) =
      (rule.execute o input p).map (Progress.after earlier) := by
  have habsorb : ∀ found : List Issue,
      rule.absorb (p.after earlier) found = (rule.absorb p found).after earlier := by
    intro found
    simp [absorb, Progress.after]
  have hsettle : ∀ e, rule.settle (p.after earlier) e =
      (rule.settle p e).map (Progress.after earlier) := by
    intro e
    cases e with
    | issues found => exact congrArg Except.ok (habsorb found)
    | defect text => rfl
  have houtput : (p.after earlier).output = p.output := rfl
  cases haction : rule.action with
  | check find =>
      simp only [execute, haction, houtput]
      rcases find (p.output.resolve input) rule.param o with e | found
      · exact hsettle e
      · exact congrArg Except.ok (habsorb found)
  | alter replace =>
      simp only [execute, haction, houtput]
      rcases replace (p.output.resolve input) rule.param o with e | altered
      · exact hsettle e
      · rfl

theorem Rules.executeAll_after (earlier : List Issue) (p : Progress) :
    rules.executeAll o input (p.after earlier) =
      (rules.executeAll o input p).map (Progress.after earlier) := by
  unfold executeAll
  induction rules generalizing p with
  | nil => rfl
  | cons rule rest ih =>
      rw [List.foldlM_cons, List.foldlM_cons, Rule.execute_after]
      rcases rule.execute o input p with fault | q
      · rfl
      · exact ih q

theorem Rules.faults_executeAll {p : Progress} :
    FaultsWith (Fault.IsDefect (rules.RunInto o)) (rules.executeAll o input p) := by
  refine faults_foldlM (fun rule hrule q => ?_) p
  exact Rule.faults_execute.weaken fun fault hfault =>
    hfault.weaken fun text hrunsInto => ⟨rule, hrule, _, hrunsInto⟩

/-- Rules that all run end as they would without what was found before, but then the value is
rejected, with that first. -/
theorem Rules.outcome_executeAll (rules : Rules) (o : Options) (input : Value) (output : Output)
    {found : List Issue} (hfound : found ≠ []) :
    match rules.executeAll o input ⟨output, []⟩ with
    | .error fault => rules.executeAll o input ⟨output, found⟩ = .error fault
    | .ok p => ∃ issues,
        (rules.executeAll o input ⟨output, found⟩).map Progress.outcome = .ok (.rejected issues) ∧
          issues.toList = found ++ p.issues := by
  have hafter : rules.executeAll o input ⟨output, found⟩ =
      (rules.executeAll o input ⟨output, []⟩).map (Progress.after found) := by
    rw [← executeAll_after]
    simp [Progress.after]
  rw [hafter]
  cases rules.executeAll o input ⟨output, []⟩ with
  | error fault => rfl
  | ok p =>
      cases hissues : found ++ p.issues with
      | nil => exact absurd (List.append_eq_nil_iff.1 hissues).1 hfound
      | cons first others =>
          refine ⟨⟨first, others⟩, ?_, hissues.symm⟩
          exact congrArg Except.ok (Progress.outcome_eq_rejected_iff.2 hissues)

/-- Where the rules that run are known beforehand, the loop executes these and no others.  `P` is
what a run of rules keeps and the knowledge rests on. -/
theorem Rules.foldlM_applyAsync_eq {P : Progress → Prop} {keep : Rule → Bool}
    {childFailed : Bool}
    (hruns : ∀ rule p, P p → rule.runs childFailed p.issues o = keep rule)
    (hstep : ∀ rule p q, P p → Rule.execute rule o input p = .ok q → P q)
    {p : Progress} (hp : P p) :
    rules.foldlM (fun p rule => rule.applyAsync childFailed o input p) p =
      executeAll (rules.filter keep) o input p := by
  unfold executeAll
  induction rules generalizing p with
  | nil => rfl
  | cons rule rest ih =>
      rw [List.foldlM_cons, List.filter_cons, Rule.applyAsync, hruns rule p hp]
      cases keep rule with
      | false => exact ih hp
      | true =>
          rw [if_pos rfl, List.foldlM_cons]
          cases hexecute : rule.execute o input p with
          | error fault => rfl
          | ok q => exact ih (hstep rule p q hp hexecute)

theorem Rules.runAsync_of_failed {start : Progress} (hfailed : start.issues ≠ []) :
    rules.runAsync o input start =
      executeAll (rules.filter fun rule => rule.forced) o input start := by
  have hchildFailed : (!start.issues.isEmpty) = true := by simpa using hfailed
  unfold runAsync
  rw [hchildFailed]
  exact foldlM_applyAsync_eq (P := fun _ => True) (fun _ _ _ => rfl) (fun _ _ _ _ _ => trivial)
    trivial

end Rules

/-! ### Failed parts -/

namespace Visit

variable {verbose : Bool} {visits visits' : List Visit}

/-- The visits of one part come to one verdict: both accept it, whatever they make of it, or both
reject it with the same issues. -/
def SameVerdict (a b : Visit) : Prop :=
  a.place = b.place ∧
    ((∃ x y, a.Accepts x ∧ b.Accepts y) ∨
      ∃ issues, a.validate a.part = .ok (.rejected issues) ∧
        b.validate b.part = .ok (.rejected issues))

theorem SameVerdict.spec {a b : Visit} (h : a.SameVerdict b) :
    (∃ outcome, b.validate b.part = .ok outcome) ∧ a.found = b.found ∧ a.fails = b.fails := by
  obtain ⟨hplace, ⟨x, y, ha, hb⟩ | ⟨issues, ha, hb⟩⟩ := h
  · have ha' : a.validate a.part = .ok (.accepted x) := ha
    have hb' : b.validate b.part = .ok (.accepted y) := hb
    exact ⟨⟨_, hb'⟩, by simp [found, ha', hb'], by simp [fails, ha', hb']⟩
  · exact ⟨⟨_, hb⟩, by simp [found, ha, hb, hplace], by simp [fails, ha, hb]⟩

theorem flatMap_found_of_sameVerdict (h : List.Forall₂ SameVerdict visits visits') :
    visits.flatMap found = visits'.flatMap found := by
  induction h with
  | nil => rfl
  | cons hverdict _ ih => rw [List.flatMap_cons, List.flatMap_cons, hverdict.spec.2.1, ih]

theorem visitParts_of_failed {base : Output} {rebuild : List Output → Option Value}
    {issues : List Issue} (hreport : report verbose visits = .ok issues) (hfailed : issues ≠ []) :
    visitParts verbose base visits rebuild = .ok (.fits ⟨base, issues⟩) := by
  obtain ⟨findings, hall, rfl⟩ := map_eq_ok_iff.1 hreport
  unfold visitParts
  rw [hall]
  cases findings with
  | outputs outputs => exact absurd rfl hfailed
  | issues found => rfl

end Visit

namespace Schema

variable {schema : Schema} {validate : Schema → Validator} {o : Options} {v : Value}
  {visits : List Visit}

theorem found_ne_nil_of_failed
    (hfailed : ∃ visit ∈ Visit.made o.verbose visits, visit.fails = true) :
    (Visit.made o.verbose visits).flatMap Visit.found ≠ [] := by
  obtain ⟨visit, hvisit, hfails⟩ := hfailed
  intro hnil
  exact Visit.found_ne_nil hfails (List.flatMap_eq_nil_iff.1 hnil visit hvisit)

/-- A container with a failed part stands as it did before any part was looked at. -/
theorem fittedBy_of_failed (hwalk : schema.walk? validate o v = some visits)
    (hmade : ∀ visit ∈ Visit.made o.verbose visits, ∃ outcome,
      visit.validate visit.part = .ok outcome)
    (hfailed : ∃ visit ∈ Visit.made o.verbose visits, visit.fails = true) :
    schema.fittedBy validate o v =
      .ok (.fits ⟨schema.form.base v, (Visit.made o.verbose visits).flatMap Visit.found⟩) := by
  obtain ⟨visits', rebuild, hfitted, hreport⟩ := visitParts_of_walk hwalk
  rw [hfitted]
  refine Visit.visitParts_of_failed ?_ (found_ne_nil_of_failed hfailed)
  rw [hreport, Visit.report_eq hmade, Visit.flatMap_found_made]

theorem AppliedBy.eq_of_failed (happlied : schema.AppliedBy validate)
    (hwalk : schema.walk? validate o v = some visits)
    (hmade : ∀ visit ∈ Visit.made o.verbose visits, ∃ outcome,
      visit.validate visit.part = .ok outcome)
    (hfailed : ∃ visit ∈ Visit.made o.verbose visits, visit.fails = true) :
    validate schema o v =
      (Rules.executeAll (schema.settings.rules.filter fun rule => rule.forced) o v
        ⟨schema.form.base v, (Visit.made o.verbose visits).flatMap Visit.found⟩).map
          Progress.outcome := by
  rw [happlied.eq_conclude, fittedBy_of_failed hwalk hmade hfailed]
  show (schema.settings.rules.runAsync o v _).map Progress.outcome = _
  rw [Rules.runAsync_of_failed (found_ne_nil_of_failed hfailed)]

/-- The other schema has the same settings and the same form, but for the children. -/
def IsLike (other schema : Schema) : Prop :=
  other.settings = schema.settings ∧
    (other.form.mapChildren fun _ => ()) = schema.form.mapChildren fun _ => ()

theorem IsLike.base {other : Schema} (h : other.IsLike schema) (v : Value) :
    other.form.base v = schema.form.base v := by
  rw [← Form.base_mapChildren (fun _ => ()) other.form, h.2, Form.base_mapChildren]

theorem eq_of_sameVerdict {other : Schema} {visits' : List Visit}
    (happlied : schema.AppliedBy validate) (happlied' : other.AppliedBy validate)
    (hlike : other.IsLike schema)
    (hwalk : schema.walk? validate o v = some visits)
    (hwalk' : other.walk? validate o v = some visits')
    (hfailed : ∃ visit ∈ Visit.made o.verbose visits, visit.fails = true)
    (hmade : ∀ visit ∈ Visit.made o.verbose visits, ∃ outcome,
      visit.validate visit.part = .ok outcome)
    (hverdicts : List.Forall₂ Visit.SameVerdict (Visit.made o.verbose visits)
      (Visit.made o.verbose visits')) :
    validate other o v = validate schema o v := by
  have hmade' : ∀ visit ∈ Visit.made o.verbose visits', ∃ outcome,
      visit.validate visit.part = .ok outcome := by
    intro visit' hvisit'
    obtain ⟨visit, -, hflipped⟩ := exists_partner hverdicts.flip hvisit'
    have hverdict : visit.SameVerdict visit' := hflipped
    exact hverdict.spec.1
  have hfailed' : ∃ visit ∈ Visit.made o.verbose visits', visit.fails = true := by
    obtain ⟨visit, hvisit, hfails⟩ := hfailed
    obtain ⟨visit', hzip, hverdict⟩ := exists_partner hverdicts hvisit
    exact ⟨visit', (List.of_mem_zip hzip).2, hverdict.spec.2.2 ▸ hfails⟩
  rw [happlied.eq_of_failed hwalk hmade hfailed, happlied'.eq_of_failed hwalk' hmade' hfailed',
    hlike.1, hlike.base, Visit.flatMap_found_of_sameVerdict hverdicts]

/-- **A failed part leaves nothing of the others.**  Let a container accept the structure of a
value, and let no visit that is made break down, but some part be rejected.  Then its rules start
from what it stood as before its parts were looked at, the value or what it was coerced to, with
the issues of the parts at their places.  The forced rules run, each of them in order, and no
others.  If one runs into a defect the call ends with that, and otherwise the value is rejected,
with the issues of the parts and then those that the forced rules find by themselves.  So no other
container of the same kind, whose parts are rejected with the same issues or accepted where they
were, can be told from it by how it ends. -/
theorem isolation_of_failed_part (happlied : schema.AppliedBy validate)
    (hcontainer : schema.form.isContainer = true)
    (haccepted : ∀ issues, schema.fittedBy validate o v ≠ .ok (.mismatch issues)) :
    ∃ visits, schema.walk? validate o v = some visits ∧
      ((∀ visit ∈ Visit.made o.verbose visits, ∃ outcome,
          visit.validate visit.part = .ok outcome) →
        (∃ visit ∈ Visit.made o.verbose visits, visit.fails = true) →
        let base := schema.form.base v
        let found := (Visit.made o.verbose visits).flatMap Visit.found
        let forced : Rules := schema.settings.rules.filter fun rule => rule.forced
        schema.fittedBy validate o v = .ok (.fits ⟨base, found⟩) ∧
        validate schema o v = (forced.executeAll o v ⟨base, found⟩).map Progress.outcome ∧
        (match forced.executeAll o v ⟨base, []⟩ with
          | .error fault => validate schema o v = .error fault ∧ fault.IsDefect (forced.RunInto o)
          | .ok p => ∃ issues, validate schema o v = .ok (.rejected issues) ∧
              issues.toList = found ++ p.issues) ∧
        ∀ other visits', other.IsLike schema → other.AppliedBy validate →
          other.walk? validate o v = some visits' →
          List.Forall₂ Visit.SameVerdict (Visit.made o.verbose visits)
            (Visit.made o.verbose visits') →
          validate other o v = validate schema o v) := by
  cases hwalk : schema.walk? validate o v with
  | none =>
      obtain ⟨issues, hmismatch⟩ := exists_mismatch_of_no_walk hcontainer hwalk
      exact absurd hmismatch (haccepted issues)
  | some visits =>
      refine ⟨visits, rfl, fun hmade hfailed => ?_⟩
      intro base found forced
      have hends : validate schema o v =
          (forced.executeAll o v ⟨base, found⟩).map Progress.outcome :=
        happlied.eq_of_failed hwalk hmade hfailed
      have hfound : found ≠ [] := found_ne_nil_of_failed hfailed
      refine ⟨fittedBy_of_failed hwalk hmade hfailed, hends, ?_, ?_⟩
      · have halone := forced.outcome_executeAll o v base hfound
        rw [hends]
        cases hrun : forced.executeAll o v ⟨base, []⟩ with
        | error fault =>
            rw [hrun] at halone
            exact ⟨by rw [halone]; rfl, Rules.faults_executeAll fault hrun⟩
        | ok p =>
            rw [hrun] at halone
            exact halone
      · intro other visits' hlike happlied' hwalk' hverdicts
        exact eq_of_sameVerdict happlied happlied' hlike hwalk hwalk' hfailed hmade hverdicts

/-- Of three nulls the first and the last are made false, and the one between them is rejected.
The forced rule sees three nulls, and the other rule does not run. -/
theorem isolation_of_failed_part_tuple :
    let rule : Rule := Rule.refine (fun _ => false) "odd"
    let flag : Schema := ⟨{ coerces := true }, .scalar .boolean⟩
    let schema : Schema :=
      ⟨{ rules := [rule, { rule with forced := true }] }, .array [flag, ⟨{}, .never⟩, flag] none⟩
    let v : Value := .array [.null, .null, .null]
    ∃ issues, schema.apply { verbose := true } v = .ok (.rejected issues) ∧
      issues.toList.map Issue.path = [[.index 1], []] ∧
      issues.toList.map Issue.input = [.null, v] := by
  intro rule flag schema v
  have haccepted : ∀ issues,
      schema.fittedBy apply { verbose := true } v ≠ .ok (.mismatch issues) := by
    intro issues h
    cases h
  obtain ⟨visits, hwalk, hisolated⟩ :=
    isolation_of_failed_part (Or.inl ⟨rfl, rfl⟩) rfl haccepted
  obtain rfl := Option.some.inj hwalk
  obtain ⟨-, -, ⟨issues, hrejected, hissues⟩, -⟩ := hisolated
    (by
      intro visit hvisit
      rcases List.mem_cons.1 hvisit with rfl | hvisit
      · exact ⟨_, rfl⟩
      rcases List.mem_cons.1 hvisit with rfl | hvisit
      · exact ⟨_, rfl⟩
      obtain rfl := List.mem_singleton.1 hvisit
      exact ⟨_, rfl⟩)
    ⟨_, List.mem_cons_of_mem _ List.mem_cons_self, rfl⟩
  refine ⟨issues, hrejected, ?_, ?_⟩
  · rw [hissues]
    rfl
  · rw [hissues]
    rfl

end Schema

end Conform
