/-
A union among the members of a union.

A union to which nothing was added is no more than its members, and they are put in its place when
it becomes a member of another union.  Which members are tried does not change by that, since a
union admits the kinds that its members admit, nor does how the trying ends, as it goes from
member to member either way.  All that shows is in the issue of a value that no member takes.
The union among the members has one group there, and in it one issue, whose groups its members
have on their own.
-/
import Conform.Proofs.EntryPoints
import Conform.Proofs.Unite
import Conform.Schema.Build

namespace Conform

open InputType (unite unite_idem unite_flatMap_congr any_admits_unite)

variable {o : Options} {v : Value}

/-! ### Attempts in a row -/

namespace Attempts

/-- The attempts with failures before them, which an acceptance makes void. -/
def afterFailures (groups : List (List Issue)) : Attempts → Attempts
  | accepted output => accepted output
  | failed later => failed (groups ++ later)

theorem all_append (before after : List Validator) :
    all o v (before ++ after) = all o v before >>= fun
      | accepted output => .ok (accepted output)
      | failed groups => (all o v after).map (afterFailures groups) := by
  induction before with
  | nil =>
      show all o v after = (all o v after).map (afterFailures [])
      rcases all o v after with fault | later
      · rfl
      · cases later <;> rfl
  | cons validate rest ih =>
      rw [List.cons_append, all_cons, all_cons, ih]
      rcases validate o v with fault | outcome
      · rfl
      cases outcome with
      | accepted output => rfl
      | rejected issues =>
          rcases all o v rest with fault | attempts
          · rfl
          cases attempts with
          | accepted output => rfl
          | failed groups =>
              show ((all o v after).map _).map _ = (all o v after).map _
              rcases all o v after with fault | later
              · rfl
              · cases later <;> rfl

/-- How a union ends that nothing was added to. -/
def outcome (inputs : List InputType) (v : Value) : Attempts → Outcome
  | accepted output => .accepted output
  | failed groups => .rejected (.single (({} : Settings).unionIssue inputs groups v))

end Attempts

/-- The groups of issues that an issue refers back to. -/
def Issue.groups (issue : Issue) : List (List Issue) :=
  match issue.param with
  | some (.union _ (some groups)) => groups
  | _ => []

theorem groups_unionIssue {settings : Settings} {inputs : List InputType}
    {groups : List (List Issue)} : (settings.unionIssue inputs groups v).groups = groups := by
  cases groups <;> rfl

namespace Schema

variable {schema : Schema} {list tried : List Schema} {validate : Schema → Validator}

/-! ### Members in place of a union -/

/-- A union that its members can stand for, since nothing was added to it. -/
def isTransparent (schema : Schema) : Bool :=
  schema.isUnion && schema.isPlain && !schema.settings.coerces

theorem isTransparent_iff :
    schema.isTransparent = true ↔ ∃ inner, schema = bare (.union inner) := by
  constructor
  · intro h
    obtain ⟨⟨rules, coerces, markedAsync, inputOverride, typeMessage⟩, form⟩ := schema
    cases form with
    | union inner =>
        simp [isTransparent, isPlain] at h
        obtain ⟨⟨-, ⟨⟨hrules, hmarked⟩, hinputs⟩, hmessage⟩, hcoerces⟩ := h
        exact ⟨inner, by simp [bare, *]⟩
    | _ => simp [isTransparent, isUnion] at h
  · rintro ⟨inner, rfl⟩
    rfl

theorem members_of_not_transparent (h : schema.isTransparent = false) :
    schema.members = [schema] := by
  unfold members
  split
  · rename_i inner hform
    refine if_neg fun hplain => ?_
    rw [isTransparent, isUnion, hform, Bool.true_and, hplain] at h
    cases h
  · rfl

/-- A schema is a union that its members stand for, or else a member of its own. -/
theorem members_cases (schema : Schema) :
    (∃ inner, schema = bare (.union inner)) ∨
      schema.isTransparent = false ∧ schema.members = [schema] := by
  by_cases h : schema.isTransparent = true
  · exact Or.inl (isTransparent_iff.1 h)
  · rw [Bool.not_eq_true] at h
    exact Or.inr ⟨h, members_of_not_transparent h⟩

/-! ### Inputs and waiting -/

theorem inputTypes_bare_union (coerce : Bool) :
    (bare (.union list)).inputTypes coerce = unite (list.flatMap fun m => m.inputTypes coerce) := by
  rw [inputTypes_of_unclaimed rfl]
  show unite (unite (list.map _).flatten) = _
  rw [unite_idem, List.flatMap_def]
  rfl

/-- The members of a schema take the inputs that it takes itself. -/
theorem unite_members (schema : Schema) (coerce : Bool) :
    unite (schema.members.flatMap fun m => m.inputTypes coerce) =
      unite (schema.inputTypes coerce) := by
  rcases members_cases schema with ⟨inner, rfl⟩ | ⟨-, hmembers⟩
  · rw [inputTypes_bare_union, unite_idem]
    rfl
  · rw [hmembers, List.flatMap_singleton]

theorem inputTypes_union (list : List Schema) (coerce : Bool) :
    (union list).inputTypes coerce = (bare (.union list)).inputTypes coerce := by
  rw [union, inputTypes_bare_union, inputTypes_bare_union, List.flatMap_assoc]
  exact unite_flatMap_congr fun schema _ => unite_members schema coerce

theorem isAsync_bare_union : (bare (.union list)).isAsync = list.any isAsync := by
  rw [isAsync_eq]
  exact Bool.false_or _

theorem any_isAsync_members (schema : Schema) : schema.members.any isAsync = schema.isAsync := by
  rcases members_cases schema with ⟨inner, rfl⟩ | ⟨-, hmembers⟩
  · exact isAsync_bare_union.symm
  · rw [hmembers, List.any_cons, List.any_nil, Bool.or_false]

theorem isAsync_union (list : List Schema) :
    (union list).isAsync = (bare (.union list)).isAsync := by
  rw [union, isAsync_bare_union, isAsync_bare_union, List.any_flatMap]
  exact congrArg (list.any ·) (funext any_isAsync_members)

/-! ### Who is tried -/

/-- The kind of the value is among those that the inputs of the schema admit. -/
def isCandidate (o : Options) (v : Value) (schema : Schema) : Bool :=
  (schema.inputTypes o.coerce).any (·.admits v.kind)

theorem any_isCandidate_members (schema : Schema) :
    schema.members.any (isCandidate o v) = schema.isCandidate o v := by
  unfold isCandidate
  rw [← any_admits_unite, ← unite_members, any_admits_unite, List.any_flatMap]

/-- The members of what is tried are tried, and no others. -/
theorem candidates_flatMap_members :
    candidates (list.flatMap members) o v =
      (candidates list o v).flatMap fun schema => candidates schema.members o v := by
  induction list with
  | nil => rfl
  | cons schema rest ih =>
      show ((schema.members ++ rest.flatMap members).filter (isCandidate o v)) =
        ((schema :: rest).filter (isCandidate o v)).flatMap _
      have hrest : (rest.flatMap members).filter (isCandidate o v) =
        (rest.filter (isCandidate o v)).flatMap _ := ih
      rw [List.filter_append, List.filter_cons, hrest]
      by_cases htried : schema.isCandidate o v = true
      · rw [if_pos htried, List.flatMap_cons]
        rfl
      · rw [if_neg htried]
        rw [← any_isCandidate_members, Bool.not_eq_true, List.any_eq_false] at htried
        rw [List.filter_eq_nil_iff.2 htried, List.nil_append]

/-! ### How the trying ends -/

theorem AppliedBy.bare_union (h : (bare (.union list)).AppliedBy validate) :
    validate (bare (.union list)) o v =
      (Attempts.all o v ((candidates list o v).map validate)).map
        (Attempts.outcome ((bare (.union list)).inputTypes o.coerce) v) := by
  have hoptions : ({} : Settings).memberOptions o = o := rfl
  rw [h.eq_outcome rfl, bare, fittedBy_union, hoptions]
  rcases Attempts.all o v ((candidates list o v).map validate) with fault | attempts
  · rfl
  · cases attempts <;> rfl

/-- The groups of the members of a schema, where the schema itself has the group. -/
def regroup (schema : Schema) (group : List Issue) : List (List Issue) :=
  if schema.isTransparent then group.flatMap Issue.groups else [group]

/-- The members of what is tried accept a value where it does, and otherwise have its groups. -/
theorem AppliedBy.all_members (h : schema.AppliedBy validate)
    (htried : schema.isCandidate o v = true) :
    Attempts.all o v ((candidates schema.members o v).map validate) =
      validate schema o v >>= fun
        | .accepted output => .ok (.accepted output)
        | .rejected issues => .ok (.failed (schema.regroup issues.toList)) := by
  rcases members_cases schema with ⟨inner, rfl⟩ | ⟨hsolid, hmembers⟩
  · rw [h.bare_union]
    show Attempts.all o v ((candidates inner o v).map validate) = _
    rcases Attempts.all o v ((candidates inner o v).map validate) with fault | attempts
    · rfl
    cases attempts with
    | accepted output => rfl
    | failed groups =>
        refine congrArg (fun groups => Except.ok (Attempts.failed groups)) ?_
        show groups = List.flatMap _ [Settings.unionIssue _ _ _ _]
        rw [List.flatMap_singleton, groups_unionIssue]
  · have hself : candidates [schema] o v = [schema] :=
      List.filter_eq_self.2 (List.forall_mem_singleton.2 htried)
    rw [hmembers, hself, List.map_singleton, Attempts.all_cons]
    rcases validate schema o v with fault | outcome
    · rfl
    cases outcome with
    | accepted output => rfl
    | rejected issues =>
        simp only [regroup, hsolid]
        rfl

/-- The attempts on the members of what was tried. -/
def regroupAll (tried : List Schema) : Attempts → Attempts
  | .accepted output => .accepted output
  | .failed groups => .failed ((tried.zip groups).flatMap fun e => e.1.regroup e.2)

theorem all_flatMap_members (happlied : ∀ schema ∈ tried, schema.AppliedBy validate)
    (htried : ∀ schema ∈ tried, schema.isCandidate o v = true) :
    Attempts.all o v ((tried.flatMap fun schema => candidates schema.members o v).map validate) =
      (Attempts.all o v (tried.map validate)).map (regroupAll tried) := by
  induction tried with
  | nil => rfl
  | cons schema rest ih =>
      rw [List.forall_mem_cons] at happlied htried
      rw [List.flatMap_cons, List.map_append, Attempts.all_append,
        happlied.1.all_members htried.1, ih happlied.2 htried.2, List.map_cons, Attempts.all_cons]
      rcases validate schema o v with fault | outcome
      · rfl
      cases outcome with
      | accepted output => rfl
      | rejected issues =>
          rcases Attempts.all o v (rest.map validate) with fault | attempts
          · rfl
          · cases attempts <;> rfl

/-- A union with the members of the list in a row ends as the one with the members as they are. -/
theorem AppliedBy.union (h : (bare (.union list)).AppliedBy validate) :
    validate (union list) o v =
      (Attempts.all o v ((candidates list o v).map validate)).map fun attempts =>
        Attempts.outcome ((bare (.union list)).inputTypes o.coerce) v
          (regroupAll (candidates list o v) attempts) := by
  have hflat : (Schema.union list).AppliedBy validate :=
    h.imp_left fun hsync => ⟨hsync.1, (isAsync_union list).trans hsync.2⟩
  have happlied : ∀ schema ∈ candidates list o v, schema.AppliedBy validate :=
    fun schema hschema => h.child (List.mem_of_mem_filter hschema)
  have htried : ∀ schema ∈ candidates list o v, schema.isCandidate o v = true :=
    fun schema hschema => (List.mem_filter.1 hschema).2
  rw [Schema.union] at hflat ⊢
  rw [hflat.bare_union, candidates_flatMap_members, all_flatMap_members happlied htried,
    ← Schema.union, inputTypes_union]
  rcases Attempts.all o v ((candidates list o v).map validate) <;> rfl

/-- A union among the members that rejects a value it was tried on has one issue, with groups. -/
theorem exists_groups_of_transparent {group : List Issue} (h : schema.AppliedBy validate)
    (htransparent : schema.isTransparent = true) (htried : schema.isCandidate o v = true)
    (hrejects : RejectsWith o v (validate schema) group) :
    ∃ inputs groups, groups ≠ [] ∧ group = [({} : Settings).unionIssue inputs groups v] := by
  obtain ⟨inner, rfl⟩ := isTransparent_iff.1 htransparent
  obtain ⟨issues, hrejected, rfl⟩ := hrejects
  rw [h.bare_union] at hrejected
  obtain ⟨attempts, hall, houtcome⟩ := map_eq_ok_iff.1 hrejected
  cases attempts with
  | accepted output => cases houtcome
  | failed groups =>
      cases houtcome
      refine ⟨_, groups, ?_, rfl⟩
      rintro rfl
      have hnone : (candidates inner o v).map validate = [] :=
        List.forall₂_nil_right_iff.1 (Attempts.all_eq_failed_iff.1 hall)
      have hsome : inner.any (isCandidate o v) = true :=
        (any_isCandidate_members (bare (.union inner))).trans htried
      obtain ⟨member, hmember, hcandidate⟩ := List.any_eq_true.1 hsome
      have hmem : member ∈ candidates inner o v := List.mem_filter.2 ⟨hmember, hcandidate⟩
      rw [List.map_eq_nil_iff.1 hnone] at hmem
      exact absurd hmem List.not_mem_nil

/-- The union of the list, with members in place of unions, ends as the one that keeps them as
members.  Where that breaks down or accepts the value, it does the same.  Where it rejects the
value, each member that was tried has a group, which for one of those unions is a single issue,
and both have one issue, the same but for the groups of that issue in the place of its own. -/
def EndsRegrouped (validate : Schema → Validator) (list : List Schema) (o : Options) (v : Value) :
    Prop :=
  match validate (bare (.union list)) o v with
  | .error fault => validate (union list) o v = .error fault
  | .ok (.accepted output) => validate (union list) o v = .ok (.accepted output)
  | .ok (.rejected issues) =>
    let tried := candidates list o v
    let issue := fun groups =>
      ({} : Settings).unionIssue ((bare (.union list)).inputTypes o.coerce) groups v
    ∃ groups, List.Forall₂ (RejectsWith o v) (tried.map validate) groups ∧
      (∀ e ∈ tried.zip groups, e.1.isTransparent = true →
        ∃ inputs inner, inner ≠ [] ∧ e.2 = [({} : Settings).unionIssue inputs inner v]) ∧
      issues = .single (issue groups) ∧
      validate (union list) o v = .ok (.rejected (.single
        (issue ((tried.zip groups).flatMap fun e => e.1.regroup e.2))))

theorem AppliedBy.endsRegrouped (h : (bare (.union list)).AppliedBy validate) :
    EndsRegrouped validate list o v := by
  have htried : ∀ schema ∈ candidates list o v,
      schema.AppliedBy validate ∧ schema.isCandidate o v = true := by
    intro schema hschema
    obtain ⟨hmem, hcandidate⟩ := List.mem_filter.1 hschema
    exact ⟨h.child hmem, hcandidate⟩
  unfold EndsRegrouped
  rw [h.bare_union, h.union]
  cases hall : Attempts.all o v ((candidates list o v).map validate) with
  | error fault => rfl
  | ok attempts =>
      cases attempts with
      | accepted output => rfl
      | failed groups =>
          have hgroups := Attempts.all_eq_failed_iff.1 hall
          refine ⟨groups, hgroups, fun e he htransparent => ?_, rfl, rfl⟩
          obtain ⟨happlied, hcandidate⟩ := htried e.1 (List.of_mem_zip he).1
          have hrejects : RejectsWith o v (validate e.1) e.2 :=
            List.forall₂_iff_zip.1 (List.forall₂_map_left_iff.1 hgroups) |>.2 he
          exact exists_groups_of_transparent happlied htransparent hcandidate hrejects

theorem endsRegrouped_apply : EndsRegrouped apply list o v := by
  by_cases hasync : (bare (.union list)).isAsync = true
  · have hnested : (bare (.union list)).apply o v = .error .asyncSchema := by
      rw [apply_eq, if_pos hasync]
    have hflat : (union list).apply o v = .error .asyncSchema := by
      rw [apply_eq, if_pos ((isAsync_union list).trans hasync)]
    unfold EndsRegrouped
    rw [hnested, hflat]
  · exact AppliedBy.endsRegrouped (Or.inl ⟨rfl, Bool.eq_false_iff.2 hasync⟩)

/-- **Unions among the members of a union make no difference.**  A union takes in place of each
member that is a union, and to which nothing was added, the members of that one.  It then takes
the same inputs as if it had kept them, coercing or not, has to be waited for in the same cases,
and ends in the same way, be it waited for or not: it breaks down alike, accepts the same values
and makes the same of them, and rejects the others with an issue that is the same but for the
groups. -/
theorem union_flattening (list : List Schema) :
    (∀ coerce, (union list).inputTypes coerce = (bare (.union list)).inputTypes coerce) ∧
      (union list).isAsync = (bare (.union list)).isAsync ∧
      ∀ o v, EndsRegrouped apply list o v ∧ EndsRegrouped applyAsync list o v :=
  ⟨inputTypes_union list, isAsync_union list,
    fun _ _ => ⟨endsRegrouped_apply, AppliedBy.endsRegrouped (Or.inr rfl)⟩⟩

end Schema

end Conform
