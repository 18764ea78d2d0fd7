/-
Stopping early reports one issue.

A call that is to stop at the first issue of each branch has many occasions to go on: the parts of
a container, the members of an intersection, and the rules that follow.  None of them is taken as
long as the rules wait for a value without issues, and find no more than one when they run.  Then
whatever is wrong with a value, one issue is reported, and it is not joined by another on the way
up.
-/
import Conform.Proofs.Places
import Conform.Rule.Constraint

namespace Conform

variable {coerce : Bool}

/-! ### Rules -/

section Rules

variable {rule : Rule} {rules : Rules} {input : Value} {childFailed : Bool} {p q : Progress}

/-- The rule waits for a value without issues, also below a failed child, and finds no more than
one in it. -/
structure Rule.StopsAtFirst (rule : Rule) : Prop where
  guarded : rule.unguarded = false
  unforced : rule.forced = false
  found : ∀ o v found, rule.Finds o v found → found.length ≤ 1

theorem Rule.length_worded (found : List Issue) : (rule.worded found).length = found.length := by
  unfold worded
  split
  · exact List.length_map _
  · rfl

theorem Rule.StopsAtFirst.issues_of_runs {found : List Issue} (h : rule.StopsAtFirst)
    (hruns : rule.runs childFailed found ⟨false, coerce⟩ = true) : found = [] := by
  unfold runs at hruns
  cases childFailed with
  | true =>
      rw [if_pos rfl, h.unforced] at hruns
      cases hruns
  | false => simpa [h.guarded] using hruns

theorem Rule.StopsAtFirst.length_apply (h : rule.StopsAtFirst) (hp : p.issues.length ≤ 1)
    (happly : rule.apply childFailed ⟨false, coerce⟩ input p = .ok q) : q.issues.length ≤ 1 := by
  rcases apply_cases happly with ⟨-, rfl⟩ | ⟨hruns, hexecute⟩
  · exact hp
  · rcases execute_cases hexecute with ⟨found, hfinds, rfl⟩ | ⟨-, w, rfl⟩
    · rw [absorb, h.issues_of_runs hruns, List.nil_append, length_worded]
      exact h.found _ _ _ hfinds
    · exact hp

theorem Rules.length_run_le_one (hrules : ∀ rule ∈ rules, rule.StopsAtFirst)
    (hp : p.issues.length ≤ 1) (hrun : rules.run ⟨false, coerce⟩ input p = .ok q) :
    q.issues.length ≤ 1 := by
  refine run_keeps (P := fun p => p.issues.length ≤ 1) ?_ hp hrun
  exact fun rule hrule _ _ _ hq happly => (hrules rule hrule).length_apply hq happly

theorem Rule.constraint_stopsAtFirst {key : Option String} {code message : String}
    {param : Option Value} {violated : Value → Bool} :
    (constraint key code message param violated).StopsAtFirst where
  guarded := rfl
  unforced := rfl
  found := by
    rintro o v found (hfinds | hfinds)
    · obtain rfl := Except.ok.inj hfinds
      split
      · exact Nat.le_refl 1
      · exact Nat.zero_le 1
    · cases hfinds

end Rules

/-! ### Schemas -/

namespace Schema

variable {schema : Schema} {v : Value} {issues : Issues}

/-- Every rule of the schema waits for a value without issues, and finds one at most. -/
def StopsAtFirst (schema : Schema) : Prop :=
  ∀ rule ∈ schema.settings.rules, rule.StopsAtFirst

/-- A value that is rejected is so for one issue. -/
def RejectsForOne (validate : Value → Except Fault Outcome) : Prop :=
  ∀ v issues, validate v = .ok (.rejected issues) → issues.size = 1

theorem length_found_le_one {visit : Visit} (h : RejectsForOne visit.validate) :
    visit.found.length ≤ 1 := by
  unfold Visit.found
  split
  · rename_i issues hreject
    have hsize : issues.size = 1 := h _ _ hreject
    rw [List.length_map, Issues.length_toList]
    omega
  · exact Nat.zero_le 1

/-- The visits of a schema reject for one issue, if its children do. -/
theorem rejectsForOne_of_madeBy {visit : Visit} {w : Value}
    (hchildren : ∀ child ∈ schema.form.children, RejectsForOne (child.apply ⟨false, coerce⟩))
    (hmade : visit.MadeBy apply ⟨false, coerce⟩ schema w) : RejectsForOne visit.validate := by
  cases hmade with
  | child side hchild hstep => exact hchildren _ (Form.mem_children hchild)
  | undeclared =>
      intro v issues hreject
      cases hreject
      rfl

/-- What a form comes to has no more than one issue, if its children reject for one. -/
theorem length_issues_fitted {fit : Fit}
    (hchildren : ∀ child ∈ schema.form.children, RejectsForOne (child.apply ⟨false, coerce⟩))
    (h : schema.fitted ⟨false, coerce⟩ v = .ok fit) : fit.issues.length ≤ 1 := by
  cases arises_of_fitted h with
  | clean output => exact Nat.zero_le 1
  | refused hpath hinput => exact Nat.le_refl 1
  | parts huncoerced hmade hreport =>
      refine Visit.length_report_le_one (fun visit hvisit => ?_) hreport
      exact length_found_le_one (rejectsForOne_of_madeBy hchildren (hmade visit hvisit))
  | members hform hreport =>
      rw [hform] at hchildren
      refine Visit.length_report_le_one (List.forall_mem_map.2 fun member hmember => ?_) hreport
      exact length_found_le_one (hchildren member hmember)

/-- **Stopping early reports one issue.**  Let no rule of a schema, or of one in it, run on after
an issue or below a failed child, and let none find more than one issue in a value.  Whatever
else is wrong with a value that is rejected, a call that stops at the first issue of each branch
reports that issue alone. -/
theorem size_early_eq_one (hrules : schema.Everywhere StopsAtFirst)
    (h : schema.apply ⟨false, coerce⟩ v = .ok (.rejected issues)) : issues.size = 1 := by
  have hone : RejectsForOne (schema.apply ⟨false, coerce⟩) := by
    clear h
    induction schema using Schema.induction generalizing coerce with
    | step schema ih =>
        intro v issues h
        have hchildren : ∀ child ∈ schema.form.children,
            RejectsForOne (child.apply ⟨false, coerce⟩) :=
          fun child hchild => ih child hchild (hrules.child hchild)
        have hlength : issues.toList.length ≤ 1 := by
          rcases apply_eq_rejected_iff.1 h with ⟨-, hmismatch | ⟨start, p, hfits, hrun, hp⟩⟩
          · exact length_issues_fitted hchildren hmismatch
          · have hstart : start.issues.length ≤ 1 := length_issues_fitted hchildren hfits
            rw [← hp]
            exact Rules.length_run_le_one hrules.here hstart hrun
        rw [Issues.length_toList, Issues.size] at hlength
        rw [Issues.size]
        omega
  exact hone v issues h

/-- An object of which the key and the value of an entry are wrong, and an undeclared field. -/
theorem size_early_eq_one_object :
    let never : Schema := ⟨{}, .never⟩
    let entries : Schema := ⟨{}, .map never never⟩
    let schema : Schema := ⟨{ rules := [Rule.refine (fun _ => false) "odd"] },
      .object (.ofList [("a", entries)]) .exact⟩
    let v : Value := .object (.ofList [("b", .null), ("a", .map [(.bool true, .null)])])
    ∃ issues issues', schema.apply ⟨false, false⟩ v = .ok (.rejected issues) ∧
      schema.apply ⟨true, false⟩ v = .ok (.rejected issues') ∧
      issues.size = 1 ∧ issues'.size = 3 := by
  intro never entries schema v
  have hnone : ∀ form, StopsAtFirst ⟨{}, form⟩ :=
    fun form rule hmem => absurd hmem List.not_mem_nil
  have hnever : never.Everywhere StopsAtFirst := everywhere_of_childless rfl (hnone _)
  have hentries : entries.Everywhere StopsAtFirst :=
    everywhere_iff.2
      ⟨hnone _, List.forall_mem_cons.2 ⟨hnever, List.forall_mem_singleton.2 hnever⟩⟩
  have hrules : schema.Everywhere StopsAtFirst :=
    everywhere_iff.2 ⟨List.forall_mem_singleton.2 Rule.constraint_stopsAtFirst,
      List.forall_mem_singleton.2 hentries⟩
  obtain ⟨issues, hearly⟩ : ∃ issues, schema.apply ⟨false, false⟩ v = .ok (.rejected issues) :=
    ⟨_, rfl⟩
  obtain ⟨issues', hfull, hall⟩ :
      ∃ issues, schema.apply ⟨true, false⟩ v = .ok (.rejected issues) ∧ issues.size = 3 :=
    ⟨_, rfl, rfl⟩
  exact ⟨issues, issues', hearly, hfull, size_early_eq_one hrules hearly, hall⟩

end Schema

end Conform
