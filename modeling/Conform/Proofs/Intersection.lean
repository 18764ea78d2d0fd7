/-
The members of an intersection may come in any order.

Members are called one after the other, some perhaps not at all, and what they make of the
value is merged from the first on, unless all of them leave it as it is.  None of that can be
seen in the end: an intersection accepts a value exactly if all members do and something lies
above all that they make of it, and then comes to the least such value.  Neither half of this
mentions an order, and so a permutation of the members needs no argument of its own.
-/
import Conform.Proofs.EntryPoints
import Conform.Proofs.Merge
import Conform.Proofs.Relocation

namespace Conform

/-! ### Merging the outputs -/

theorem isJoin_foldlM_merge {merged : Value} {before values : List Value}
    (h : Value.IsJoin Value.Below before (some merged)) :
    Value.IsJoin Value.Below (before ++ values) (values.foldlM Value.merge? merged) := by
  induction values generalizing before merged with
  | nil =>
      rw [List.append_nil]
      exact h
  | cons value rest ih =>
      have hstep : Value.IsJoin Value.Below (before ++ [value]) (Value.merge? merged value) :=
        h.merge (Value.isJoin_single value)
      rw [List.foldlM_cons, List.append_cons]
      cases hm : Value.merge? merged value with
      | some next =>
          rw [hm] at hstep
          exact ih hstep
      | none =>
          -- What cannot be merged so far cannot be merged with more.
          rw [hm] at hstep
          exact fun u hu => hstep u (List.forall_mem_append.1 hu).1

theorem isJoin_mergeAll {values : List Value} (h : values ≠ []) :
    Value.IsJoin Value.Below values (mergeAll? values) := by
  cases values with
  | nil => exact absurd rfl h
  | cons first rest => exact isJoin_foldlM_merge (Value.isJoin_single first)

/-- The members of an intersection make `outputs` of the value `v`, and it makes `output` of
them. -/
def MergesTo (v : Value) (outputs : List Output) (output : Output) : Prop :=
  if outputs.all Output.isKept then output = .kept
  else ∃ merged, mergeAll? (outputs.map (·.resolve v)) = some merged ∧ output = .replaced merged

section Outputs

variable {v : Value} {outputs outputs' : List Output} {output output' : Output}

theorem mergesTo_iff_of_all_kept (hkept : outputs.all Output.isKept = true) :
    MergesTo v outputs output ↔ output = .kept := by
  rw [MergesTo, if_pos hkept]

theorem mergesTo_iff_of_changed (hkept : ¬ outputs.all Output.isKept = true) :
    MergesTo v outputs output ↔ ∃ merged,
      mergeAll? (outputs.map (·.resolve v)) = some merged ∧ output = .replaced merged := by
  rw [MergesTo, if_neg hkept]

theorem isKept_of_mergesTo (h : MergesTo v outputs output) :
    output.isKept = outputs.all Output.isKept := by
  by_cases hkept : outputs.all Output.isKept = true
  · rw [(mergesTo_iff_of_all_kept hkept).1 h, hkept]
    rfl
  · obtain ⟨merged, -, rfl⟩ := (mergesTo_iff_of_changed hkept).1 h
    exact (Bool.eq_false_iff.2 hkept).symm

theorem resolve_eq_of_all_kept (hkept : outputs.all Output.isKept = true) :
    ∀ w ∈ outputs.map (·.resolve v), w = v := by
  intro w hw
  obtain ⟨output, hmem, rfl⟩ := List.mem_map.1 hw
  have hoc := List.all_eq_true.1 hkept output hmem
  cases output with
  | kept => rfl
  | replaced u => cases hoc

/-- The shortcut for outputs that are all kept does not show: it is the merge as well. -/
theorem isJoin_of_mergesTo (hsome : outputs ≠ []) (h : MergesTo v outputs output) :
    Value.IsJoin Value.Below (outputs.map (·.resolve v)) (some (output.resolve v)) := by
  by_cases hkept : outputs.all Output.isKept = true
  · have hall : ∀ w ∈ outputs.map (·.resolve v), w = v := resolve_eq_of_all_kept hkept
    rw [(mergesTo_iff_of_all_kept hkept).1 h]
    refine ⟨fun w hw => ?_, fun u hu => ?_⟩
    · rw [hall w hw]
      exact Value.below_refl v
    · obtain ⟨first, hfirst⟩ := List.exists_mem_of_ne_nil _ (mt List.map_eq_nil_iff.1 hsome)
      have hbelow := hu first hfirst
      rwa [hall first hfirst] at hbelow
  · obtain ⟨merged, hmerged, rfl⟩ := (mergesTo_iff_of_changed hkept).1 h
    rw [show some ((Output.replaced merged).resolve v) = _ from hmerged.symm]
    exact isJoin_mergeAll (mt List.map_eq_nil_iff.1 hsome)

/-- There is an output exactly if something lies above all that the members make of the
value. -/
theorem exists_mergesTo_iff :
    (∃ output, MergesTo v outputs output) ↔
      ∃ u, ∀ output ∈ outputs, Value.Below (output.resolve v) u := by
  have habove : ∀ u, (∀ output ∈ outputs, Value.Below (output.resolve v) u) ↔
      ∀ w ∈ outputs.map (·.resolve v), Value.Below w u := by
    intro u
    rw [List.forall_mem_map]
  simp only [habove]
  by_cases hkept : outputs.all Output.isKept = true
  · -- The value itself lies above outputs that are all kept, and so it would if there were none.
    have hall : ∀ w ∈ outputs.map (·.resolve v), w = v := resolve_eq_of_all_kept hkept
    refine iff_of_true ⟨.kept, (mergesTo_iff_of_all_kept hkept).2 rfl⟩ ⟨v, fun w hw => ?_⟩
    rw [hall w hw]
    exact Value.below_refl v
  · have hsome : outputs.map (·.resolve v) ≠ [] := by
      intro hnil
      rw [List.map_eq_nil_iff.1 hnil] at hkept
      exact hkept rfl
    have hjoin := isJoin_mergeAll hsome
    simp only [mergesTo_iff_of_changed hkept]
    cases hmerged : mergeAll? (outputs.map (·.resolve v)) with
    | some merged =>
        rw [hmerged] at hjoin
        exact iff_of_true ⟨_, merged, rfl, rfl⟩ ⟨merged, hjoin.1⟩
    | none =>
        rw [hmerged] at hjoin
        refine iff_of_false ?_ fun h => h.elim hjoin
        rintro ⟨output, merged, hsome, -⟩
        cases hsome

/-- Outputs in another order merge to an equal value, and are all kept or not alike. -/
theorem same_of_mergesTo_perm (hperm : outputs.Perm outputs') (h : MergesTo v outputs output)
    (h' : MergesTo v outputs' output') :
    Value.Same (output.resolve v) (output'.resolve v) ∧ output.isKept = output'.isKept := by
  have hkept : output.isKept = output'.isKept := by
    rw [isKept_of_mergesTo h, isKept_of_mergesTo h', hperm.all_eq]
  refine ⟨?_, hkept⟩
  by_cases hsome : outputs = []
  · subst hsome
    rw [List.nil_perm] at hperm
    subst hperm
    obtain rfl : output = .kept := h
    obtain rfl : output' = .kept := h'
    exact Value.same_refl v
  · have hsome' : outputs' ≠ [] := fun hnil => hsome (List.perm_nil.1 (hnil ▸ hperm))
    have hmem := fun w => (hperm.map (·.resolve v)).mem_iff (a := w)
    have hrel := (isJoin_of_mergesTo hsome h).rel hmem (isJoin_of_mergesTo hsome' h')
    cases hrel with
    | some hsame => exact hsame

end Outputs

/-! ### Calling the members -/

section Members

variable {settings : Settings} {members members' : List Validator} {o : Options} {v : Value}
  {output : Output}

/-- The members make the outputs of the value, each its own. -/
def MembersAccept (members : List Validator) (o : Options) (v : Value) (outputs : List Output) :
    Prop :=
  List.Forall₂ (fun validate output => validate o v = .ok (.accepted output)) members outputs

theorem MembersAccept.perm {outputs : List Output} (hperm : members.Perm members')
    (h : MembersAccept members o v outputs) :
    ∃ outputs', MembersAccept members' o v outputs' ∧ outputs.Perm outputs' := by
  obtain ⟨outputs', hmembers', hperm'⟩ := List.perm_comp_forall₂ hperm.symm h
  exact ⟨outputs', hmembers', hperm'.symm⟩

theorem exists_fitIntersection (settings : Settings)
    (h : ∀ validate ∈ members, ∃ outcome, validate o v = .ok outcome) :
    ∃ fit, fitIntersection settings members o v = .ok fit ∧
      ((∃ output, fit = .clean output) ∨ ∃ issues, fit = .mismatch issues) := by
  have hmade : ∀ visit ∈ Visit.made o.verbose (members.map fun validate => ⟨[], v, validate o⟩),
      ∃ outcome, visit.validate visit.part = .ok outcome := by
    intro visit hvisit
    obtain ⟨validate, hmem, rfl⟩ := List.mem_map.1 (Visit.mem_of_mem_made hvisit)
    exact h validate hmem
  obtain ⟨findings, hall, -⟩ := map_eq_ok_iff.1 (Visit.report_eq hmade)
  rw [fitIntersection, hall]
  cases findings with
  | issues found => exact ⟨_, rfl, Or.inr ⟨_, rfl⟩⟩
  | outputs outputs =>
      refine ⟨_, rfl, ?_⟩
      dsimp only
      split
      · exact Or.inl ⟨_, rfl⟩
      · split
        · exact Or.inl ⟨_, rfl⟩
        · exact Or.inr ⟨_, rfl⟩

/-- Of members in another order an intersection makes an equal value, and keeps the value or
not alike. -/
theorem fitIntersection_perm (hperm : members.Perm members')
    (h : fitIntersection settings members o v = .ok (.clean output)) :
    ∃ output', fitIntersection settings members' o v = .ok (.clean output') ∧
      Value.Same (output.resolve v) (output'.resolve v) ∧ output.isKept = output'.isKept := by
  obtain ⟨outputs, hmembers, hmerges⟩ := fitIntersection_eq_clean_iff.1 h
  obtain ⟨outputs', hmembers', hperm'⟩ := MembersAccept.perm hperm hmembers
  obtain ⟨u, hu⟩ := exists_mergesTo_iff.1 ⟨output, hmerges⟩
  have habove : ∀ output ∈ outputs', Value.Below (output.resolve v) u :=
    fun output hmem => hu output (hperm'.mem_iff.2 hmem)
  obtain ⟨output', hmerges'⟩ := exists_mergesTo_iff.2 ⟨u, habove⟩
  exact ⟨output', fitIntersection_eq_clean_iff.2 ⟨outputs', hmembers', hmerges'⟩,
    same_of_mergesTo_perm hperm' hmerges hmerges'⟩

end Members

/-! ### The intersection -/

/-- Two validations of a value end alike: both break down for the same reason, or both reject
it, or both accept it as equal values, which both are the value itself or both are not. -/
inductive EndAlike (v : Value) : Except Fault Outcome → Except Fault Outcome → Prop
  | error (fault : Fault) : EndAlike v (.error fault) (.error fault)
  | rejected (issues issues' : Issues) :
      EndAlike v (.ok (.rejected issues)) (.ok (.rejected issues'))
  | accepted {output output' : Output} (hsame : Value.Same (output.resolve v) (output'.resolve v))
      (hkept : output.isKept = output'.isKept) :
      EndAlike v (.ok (.accepted output)) (.ok (.accepted output'))

section Ends

variable {settings : Settings} {members members' : List Validator} {o : Options} {v : Value}

theorem endAlike_fitIntersection (hperm : members.Perm members')
    (hmembers : ∀ validate ∈ members, ∃ outcome, validate o v = .ok outcome) :
    EndAlike v ((fitIntersection settings members o v).map Fit.outcome)
      ((fitIntersection settings members' o v).map Fit.outcome) := by
  have hmembers' : ∀ validate ∈ members', ∃ outcome, validate o v = .ok outcome :=
    fun validate hmem => hmembers validate (hperm.mem_iff.2 hmem)
  obtain ⟨fit, hfit, hends⟩ := exists_fitIntersection settings hmembers
  obtain ⟨fit', hfit', hends'⟩ := exists_fitIntersection settings hmembers'
  rcases hends with ⟨output, rfl⟩ | ⟨issues, rfl⟩
  · obtain ⟨output', hclean, hsame, hkept⟩ := fitIntersection_perm hperm hfit
    rw [hfit, hclean]
    exact .accepted hsame hkept
  · rcases hends' with ⟨output', rfl⟩ | ⟨issues', rfl⟩
    · obtain ⟨output, hclean, -, -⟩ := fitIntersection_perm hperm.symm hfit'
      rw [hfit] at hclean
      cases hclean
    · rw [hfit, hfit']
      exact .rejected issues issues'

theorem accepts_fitIntersection_iff
    (hmembers : ∀ validate ∈ members, ∃ outcome, validate o v = .ok outcome) :
    ∃ outcome, (fitIntersection settings members o v).map Fit.outcome = .ok outcome ∧
      (outcome.isAccepted = true ↔ ∃ outputs, MembersAccept members o v outputs ∧
        ∃ u, ∀ output ∈ outputs, Value.Below (output.resolve v) u) := by
  obtain ⟨fit, hfit, hends⟩ := exists_fitIntersection settings hmembers
  rw [hfit]
  refine ⟨_, rfl, ?_⟩
  rcases hends with ⟨output, rfl⟩ | ⟨issues, rfl⟩
  · obtain ⟨outputs, haccept, hmerges⟩ := fitIntersection_eq_clean_iff.1 hfit
    exact iff_of_true rfl ⟨outputs, haccept, exists_mergesTo_iff.1 ⟨output, hmerges⟩⟩
  · refine iff_of_false Bool.false_ne_true fun h => ?_
    obtain ⟨outputs, haccept, habove⟩ := h
    obtain ⟨output, hmerges⟩ := exists_mergesTo_iff.2 habove
    rw [fitIntersection_eq_clean_iff.2 ⟨outputs, haccept, hmerges⟩] at hfit
    cases hfit

end Ends

namespace Schema

variable {settings : Settings} {members members' : List Schema} {o : Options} {v : Value}
  {validate : Schema → Validator}

theorem isAsync_intersection (hrules : settings.rules = [])
    (hmembers : ∀ member ∈ members, member.isAsync = false) :
    isAsync ⟨settings, .intersection members⟩ = settings.markedAsync := by
  have hsync : members.any isAsync = false :=
    List.any_eq_false.2 fun member hmem => Bool.eq_false_iff.1 (hmembers member hmem)
  rw [isAsync_eq, hrules, show hasAsyncChildren ⟨settings, .intersection members⟩ = _ from hsync]
  show (settings.markedAsync || false || false) = _
  rw [Bool.or_false, Bool.or_false]

/-- An intersection without rules comes to what is made of its members, unless it has to be
waited for and is not. -/
theorem validate_intersection
    (hvalidate : validate = apply ∧ settings.markedAsync = false ∨ validate = applyAsync)
    (hrules : settings.rules = [])
    (hmembers : ∀ member ∈ members, ∃ outcome, validate member o v = .ok outcome) :
    validate ⟨settings, .intersection members⟩ o v =
      (fitIntersection settings (members.map validate) o v).map Fit.outcome := by
  have happlied : AppliedBy validate ⟨settings, .intersection members⟩ := by
    refine hvalidate.imp_left fun hstart => ⟨hstart.1, ?_⟩
    have hsync : ∀ member ∈ members, member.isAsync = false := by
      intro member hmem
      obtain ⟨outcome, houtcome⟩ := hmembers member hmem
      rw [hstart.1] at houtcome
      exact isAsync_of_apply houtcome
    rw [isAsync_intersection hrules hsync, hstart.2]
  rw [happlied.eq_outcome hrules, fittedBy_intersection]

/-- **An intersection does not depend on the order of its members.**  Let no member break down
on a value.  Then an intersection without rules ends alike with its members in any order: it
accepts the value or not, makes equal values of it, and keeps it or not.  It accepts the value
exactly if all members do and something lies above all that they make of it, however early the
members are given up and although nothing is merged if all of them keep the value.  One that is
marked to be waited for breaks down unless it is. -/
theorem intersection_perm (hvalidate : validate = apply ∨ validate = applyAsync)
    (hrules : settings.rules = []) (hperm : members.Perm members')
    (hmembers : ∀ member ∈ members, ∃ outcome, validate member o v = .ok outcome) :
    EndAlike v (validate ⟨settings, .intersection members⟩ o v)
        (validate ⟨settings, .intersection members'⟩ o v) ∧
      (validate = applyAsync ∨ settings.markedAsync = false →
        ∃ outcome, validate ⟨settings, .intersection members⟩ o v = .ok outcome ∧
          (outcome.isAccepted = true ↔
            ∃ outputs, MembersAccept (members.map validate) o v outputs ∧
              ∃ u, ∀ output ∈ outputs, Value.Below (output.resolve v) u)) := by
  have hmembers' : ∀ member ∈ members', ∃ outcome, validate member o v = .ok outcome :=
    fun member hmem => hmembers member (hperm.mem_iff.2 hmem)
  have hvalidators : ∀ check ∈ members.map validate, ∃ outcome, check o v = .ok outcome :=
    List.forall_mem_map.2 hmembers
  have hstarts : validate = applyAsync ∨ settings.markedAsync = false →
      validate = apply ∧ settings.markedAsync = false ∨ validate = applyAsync := by
    rintro (hwaits | hmarked)
    · exact Or.inr hwaits
    · exact hvalidate.imp_left fun happly => ⟨happly, hmarked⟩
  constructor
  · by_cases hruns : validate = applyAsync ∨ settings.markedAsync = false
    · rw [validate_intersection (hstarts hruns) hrules hmembers,
        validate_intersection (hstarts hruns) hrules hmembers']
      exact endAlike_fitIntersection (hperm.map validate) hvalidators
    · -- Applied although it is marked, the intersection breaks down before any member is called.
      rw [not_or, Bool.not_eq_false] at hruns
      have hasync : ∀ members, isAsync ⟨settings, .intersection members⟩ = true := by
        intro members
        rw [isAsync_eq, show Schema.settings ⟨settings, _⟩ = settings from rfl, hruns.2]
        rfl
      obtain rfl : validate = apply := hvalidate.resolve_right hruns.1
      rw [apply_eq, apply_eq, if_pos (hasync members), if_pos (hasync members')]
      exact .error _
  · intro hruns
    rw [validate_intersection (hstarts hruns) hrules hmembers]
    exact accepts_fitIntersection_iff hvalidators

/-- Of two members that each strip what they do not declare, the merge has the fields of both,
though not in one order. -/
theorem intersection_perm_strip :
    let left : Schema := ⟨{}, .object (.ofList [("a", ⟨{}, .unknown⟩)]) .strip⟩
    let right : Schema := ⟨{}, .object (.ofList [("b", ⟨{}, .unknown⟩)]) .strip⟩
    let v : Value := .object (.ofList [("a", .null), ("b", .null)])
    EndAlike v (apply ⟨{}, .intersection [left, right]⟩ {} v)
        (apply ⟨{}, .intersection [right, left]⟩ {} v) ∧
      ∃ outputs, MembersAccept [left.apply, right.apply] {} v outputs ∧
        ∃ u, ∀ output ∈ outputs, Value.Below (output.resolve v) u := by
  intro left right v
  have hmembers : ∀ member ∈ [left, right], ∃ outcome, member.apply {} v = .ok outcome := by
    intro member hmem
    rcases List.mem_cons.1 hmem with rfl | hmem
    · exact ⟨_, rfl⟩
    · obtain rfl := List.mem_singleton.1 hmem
      exact ⟨_, rfl⟩
  have hrules : ({} : Settings).rules = [] := rfl
  obtain ⟨hends, haccepts⟩ :=
    intersection_perm (Or.inl rfl) hrules (.swap right left []) hmembers
  obtain ⟨output, haccepted⟩ :
      ∃ output, apply ⟨{}, .intersection [left, right]⟩ {} v = .ok (.accepted output) := ⟨_, rfl⟩
  obtain ⟨outcome, houtcome, hiff⟩ := haccepts (Or.inr rfl)
  rw [haccepted, Except.ok.injEq] at houtcome
  subst houtcome
  exact ⟨hends, hiff.1 rfl⟩

end Schema

end Conform
