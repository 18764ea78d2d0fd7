/-
Dispatching a union by kind changes nothing.

A union looks up the members that may take values of the kind at hand, and tries only
these.  Trying every member in order comes to the same: a member that was passed over
could not have accepted the value, since whatever a member accepts is one of its inputs.
What differs is the work, and that the issues of the members passed over are not reported.
-/
import Conform.Proofs.Inputs

namespace Conform

theorem exists_partners {α β : Type} {R : α → β → Prop} {as : List α}
    (h : ∀ a ∈ as, ∃ b, R a b) : ∃ bs, List.Forall₂ R as bs := by
  induction as with
  | nil => exact ⟨[], .nil⟩
  | cons a rest ih =>
      rw [List.forall_mem_cons] at h
      obtain ⟨⟨b, hb⟩, hrest⟩ := h
      obtain ⟨bs, hbs⟩ := ih hrest
      exact ⟨b :: bs, .cons hb hbs⟩

/-- The output that attempts came to. -/
def Attempts.output? : Attempts → Option Output
  | accepted output => some output
  | failed _ => none

namespace Schema

/-- Tries every member in order, whatever its inputs, up to the first that accepts the
value.  The output is that member's, if there is one. -/
def tryInOrder (o : Options) (v : Value) : List Schema → Except Fault (Option Output)
  | [] => .ok none
  | member :: rest =>
    match member.apply o v with
    | .error fault => .error fault
    | .ok (.accepted output) => .ok (some output)
    | .ok (.rejected _) => tryInOrder o v rest

variable {settings : Settings} {members : List Schema} {o : Options} {v : Value}
  {output : Output}

theorem tryInOrder_eq_map_attempts :
    tryInOrder o v members = (Attempts.all o v (members.map apply)).map Attempts.output? := by
  induction members with
  | nil => rfl
  | cons member rest ih =>
      unfold tryInOrder
      rw [List.map_cons, Attempts.all]
      cases haccept : member.apply o v with
      | error fault => rfl
      | ok outcome =>
          cases outcome with
          | accepted output => rfl
          | rejected issues =>
              simp only [ih]
              rcases Attempts.all o v (rest.map apply) with fault | attempts
              · rfl
              · cases attempts <;> rfl

theorem tryInOrder_eq_some_iff :
    tryInOrder o v members = .ok (some output) ↔
      ∃ before member after, members = before ++ member :: after ∧
        (∀ earlier ∈ before, ∃ group, RejectsWith o v earlier.apply group) ∧
        member.apply o v = .ok (.accepted output) := by
  have haccepted : tryInOrder o v members = .ok (some output) ↔
      Attempts.all o v (members.map apply) = .ok (.accepted output) := by
    rw [tryInOrder_eq_map_attempts, map_eq_ok_iff]
    constructor
    · intro h
      obtain ⟨attempts, hattempts, houtput⟩ := h
      cases attempts <;> cases houtput
      exact hattempts
    · exact fun h => ⟨_, h, rfl⟩
  rw [haccepted, Attempts.all_eq_accepted_iff]
  constructor
  · intro h
    obtain ⟨_, _, _, hsplit, hbefore, haccept⟩ := h
    obtain ⟨before, later, rfl, rfl, hlater⟩ := List.map_eq_append_iff.1 hsplit
    obtain ⟨member, after, rfl, rfl, -⟩ := List.map_eq_cons_iff.1 hlater
    rw [List.forall_mem_map] at hbefore
    exact ⟨before, member, after, rfl, hbefore, haccept⟩
  · intro h
    obtain ⟨before, member, after, rfl, hbefore, haccept⟩ := h
    refine ⟨_, _, _, List.map_append, ?_, haccept⟩
    rwa [List.forall_mem_map]

theorem tryInOrder_eq_none_iff :
    tryInOrder o v members = .ok none ↔
      ∀ member ∈ members, ∃ group, RejectsWith o v member.apply group := by
  rw [tryInOrder_eq_map_attempts, map_eq_ok_iff]
  constructor
  · intro h member hmember
    obtain ⟨attempts, hattempts, houtput⟩ := h
    cases attempts <;> cases houtput
    obtain ⟨group, -, hgroup⟩ :=
      exists_partner (Attempts.all_eq_failed_iff.1 hattempts) (List.mem_map_of_mem hmember)
    exact ⟨group, hgroup⟩
  · intro h
    obtain ⟨groups, hgroups⟩ := exists_partners h
    exact ⟨_, Attempts.all_eq_failed_iff.2 (List.forall₂_map_left_iff.2 hgroups), rfl⟩

/-- A member that accepts the value is a candidate for it. -/
theorem candidates_split {before after : List Schema} {member : Schema}
    (hinputs : member.Everywhere KeepsInputs)
    (haccept : member.apply o v = .ok (.accepted output)) :
    candidates (before ++ member :: after) o v =
      candidates before o v ++ member :: candidates after o v := by
  have hadmits := InputType.any_admits_of_includes (includes_of_accepted hinputs haccept)
  unfold candidates
  rw [List.filter_append, List.filter_cons, if_pos hadmits]

theorem fitted_union_of_some (hinputs : ∀ member ∈ members, member.Everywhere KeepsInputs)
    (h : tryInOrder (settings.memberOptions o) v members = .ok (some output)) :
    fitted ⟨settings, .union members⟩ o v = .ok (.clean output) := by
  obtain ⟨before, member, after, rfl, hbefore, haccept⟩ := tryInOrder_eq_some_iff.1 h
  have hmember := hinputs member (List.mem_append_right _ List.mem_cons_self)
  rw [fitted_union, candidates_split hmember haccept, List.map_append, List.map_cons]
  -- The candidates before it are among the members before it, which all reject the value.
  refine map_eq_ok_iff.2 ⟨.accepted output, Attempts.all_eq_accepted_iff.2 ?_, rfl⟩
  refine ⟨_, _, _, rfl, ?_, haccept⟩
  rw [List.forall_mem_map]
  exact fun earlier hearlier => hbefore earlier (List.mem_filter.1 hearlier).1

theorem fitted_union_of_none
    (h : tryInOrder (settings.memberOptions o) v members = .ok none) :
    ∃ groups, fitted ⟨settings, .union members⟩ o v = .ok (.refuse (settings.unionIssue
        (inputTypes ⟨settings, .union members⟩ (settings.memberOptions o).coerce) groups v)) ∧
      List.Forall₂ (fun member => RejectsWith (settings.memberOptions o) v member.apply)
        (candidates members (settings.memberOptions o) v) groups := by
  rw [tryInOrder_eq_none_iff] at h
  have hcandidates : ∀ member ∈ candidates members (settings.memberOptions o) v,
      ∃ group, RejectsWith (settings.memberOptions o) v member.apply group :=
    fun member hmember => h member (List.mem_filter.1 hmember).1
  obtain ⟨groups, hgroups⟩ := exists_partners hcandidates
  refine ⟨groups, ?_, hgroups⟩
  rw [fitted_union]
  refine map_eq_ok_iff.2 ⟨.failed groups, Attempts.all_eq_failed_iff.2 ?_, rfl⟩
  rwa [List.forall₂_map_left_iff]

/-- **Dispatch by kind agrees with trying every member.**  Where trying in order raises no
fault, a union takes a value exactly if some member does, and it comes out as it comes out of
the first such member.  Otherwise the one issue lists the inputs and, in order, the issues
that each member whose inputs admit the kind of the value finds by itself. -/
theorem fitted_union_of_tryInOrder {result : Option Output}
    (hinputs : ∀ member ∈ members, member.Everywhere KeepsInputs)
    (h : tryInOrder (settings.memberOptions o) v members = .ok result) :
    ((∃ output, fitted ⟨settings, .union members⟩ o v = .ok (.clean output)) ↔
      ∃ member ∈ members, ∃ output,
        member.apply (settings.memberOptions o) v = .ok (.accepted output)) ∧
    match result with
    | some output => fitted ⟨settings, .union members⟩ o v = .ok (.clean output)
    | none => ∃ issue groups,
        fitted ⟨settings, .union members⟩ o v = .ok (.mismatch (.single issue)) ∧
        issue.code = Code.invalidUnion ∧ issue.path = [] ∧ issue.input = v ∧
        issue.param = some (.union
          (inputTypes ⟨settings, .union members⟩ (settings.memberOptions o).coerce)
          (if groups.isEmpty then none else some groups)) ∧
        List.Forall₂ (fun member group => ∃ issues,
            member.apply (settings.memberOptions o) v = .ok (.rejected issues) ∧
              issues.toList = group)
          (members.filter fun member =>
            (member.inputTypes (settings.memberOptions o).coerce).any (·.admits v.kind))
          groups := by
  cases result with
  | some output =>
      have hfitted := fitted_union_of_some hinputs h
      obtain ⟨before, member, after, hsplit, -, haccept⟩ := tryInOrder_eq_some_iff.1 h
      have hmember : member ∈ members := by
        rw [hsplit]
        exact List.mem_append_right _ List.mem_cons_self
      exact ⟨iff_of_true ⟨output, hfitted⟩ ⟨member, hmember, output, haccept⟩, hfitted⟩
  | none =>
      obtain ⟨groups, hfitted, hgroups⟩ := fitted_union_of_none h
      refine ⟨iff_of_false ?_ ?_, _, groups, hfitted, rfl, rfl, rfl, rfl, hgroups⟩
      · intro h
        obtain ⟨output, hclean⟩ := h
        rw [hfitted, Except.ok.injEq] at hclean
        exact Fit.refuse_ne_clean hclean
      · intro h
        obtain ⟨member, hmember, output, haccept⟩ := h
        obtain ⟨group, issues, hreject, -⟩ := tryInOrder_eq_none_iff.1 h member hmember
        rw [haccept] at hreject
        cases hreject

/-- The first of two members that take null wins, and makes it false. -/
theorem fitted_union_of_tryInOrder_null :
    fitted ⟨{ coerces := true }, .union [⟨{}, .scalar .boolean⟩, ⟨{}, .literal .null⟩]⟩ {} .null =
      .ok (.clean (.replaced (.bool false))) := by
  have htry : tryInOrder (Settings.memberOptions { coerces := true } {}) .null
      [⟨{}, .scalar .boolean⟩, ⟨{}, .literal .null⟩] =
        .ok (some (.replaced (.bool false))) := rfl
  refine (fitted_union_of_tryInOrder ?_ htry).2
  refine List.forall_mem_cons.2 ⟨?_, List.forall_mem_singleton.2 ?_⟩
  · exact everywhere_of_childless rfl rfl
  · exact everywhere_of_childless rfl rfl

end Schema

end Conform
