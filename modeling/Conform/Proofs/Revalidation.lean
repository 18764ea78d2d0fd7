/-
What comes out of a schema is accepted by it again, as it is.

A schema that alters nothing brings a value into its final form in one go.  The structure is
settled form by form, and the checks find nothing because they ran on the output the first
time.  Two forms need more than stable children.  What a union makes of a value may be the
business of an earlier member, so the members before the last must be literals, which change
nothing.  And what an intersection merges was seen by none of its members, so these must
leave values as they are.
-/
import Conform.Proofs.Dispatch
import Conform.Proofs.Stability

namespace Conform

variable {o : Options} {v : Value} {output : Output} {settings : Settings}

namespace Schema

/-! ### Unions -/

/-- A literal without rules. -/
def IsBareLiteral (schema : Schema) : Prop :=
  schema.settings.rules = [] ∧ ∃ expected, schema.form = .literal expected

theorem IsBareLiteral.apply_cases {schema : Schema} (h : schema.IsBareLiteral)
    (hsync : schema.isAsync = false) :
    schema.apply o v = .ok (.accepted .kept) ∨ ∃ group, RejectsWith o v schema.apply group := by
  obtain ⟨hrules, expected, hform⟩ := h
  obtain ⟨settings, form⟩ := schema
  obtain rfl : form = .literal expected := hform
  by_cases hv : v == expected
  · have hfitted : fitted ⟨settings, .literal expected⟩ o v = .ok (.clean .kept) :=
      fitted_literal_eq_clean_iff.2 ⟨hv, rfl⟩
    refine Or.inl (apply_eq_accepted_iff.2 ⟨hsync, .kept, hfitted, ?_⟩)
    rw [hrules]
    rfl
  · refine Or.inr ⟨_, .single (settings.literalIssue expected v), ?_, rfl⟩
    rw [apply_of_sync hsync, fitted_literal, if_neg hv]
    rfl

/-- Where some member keeps the value, and those before the last either keep or reject it,
trying the members in order comes to a member that keeps it. -/
theorem tryInOrder_eq_kept {members : List Schema}
    (hearlier : ∀ member ∈ members.dropLast, member.apply o v = .ok (.accepted .kept) ∨
      ∃ group, RejectsWith o v member.apply group)
    (h : ∃ member ∈ members, member.apply o v = .ok (.accepted .kept)) :
    tryInOrder o v members = .ok (some .kept) := by
  induction members with
  | nil =>
      obtain ⟨member, hmember, -⟩ := h
      exact absurd hmember List.not_mem_nil
  | cons first rest ih =>
      rw [List.exists_mem_cons_iff] at h
      by_cases hfirst : first.apply o v = .ok (.accepted .kept)
      · rw [tryInOrder, hfirst]
      · have hlater := h.resolve_left hfirst
        have hrest : rest ≠ [] := by
          rintro rfl
          obtain ⟨member, hmember, -⟩ := hlater
          exact List.not_mem_nil hmember
        rw [List.dropLast_cons_of_ne_nil hrest, List.forall_mem_cons] at hearlier
        obtain ⟨group, issues, hreject, -⟩ := hearlier.1.resolve_left hfirst
        rw [tryInOrder, hreject]
        exact ih hearlier.2 hlater

/-- A union of literals before a last member is stable if its members are. -/
theorem fitted_union_stable {members : List Schema}
    (hinputs : ∀ member ∈ members, member.Everywhere KeepsInputs)
    (hsync : ∀ member ∈ members, member.isAsync = false)
    (hliterals : ∀ member ∈ members.dropLast, member.IsBareLiteral)
    (hstable : ∀ member ∈ members, Stable (member.apply (settings.memberOptions o)))
    (h : fitted ⟨settings, .union members⟩ o v = .ok (.clean output)) :
    fitted ⟨settings, .union members⟩ o (output.resolve v) = .ok (.clean .kept) := by
  obtain ⟨member, hcandidate, haccept⟩ := exists_member_of_fitted_union h
  have hmember := (List.mem_filter.1 hcandidate).1
  refine fitted_union_of_some hinputs (tryInOrder_eq_kept ?_ ?_)
  · exact fun literal hliteral => (hliterals literal hliteral).apply_cases
      (hsync literal (List.mem_of_mem_dropLast hliteral))
  · exact ⟨member, hmember, hstable member hmember _ _ haccept⟩

/-! ### Schemas -/

/-- The schema, called with coercion or without, is one whose outputs it accepts as they
are. -/
structure Repeatable (schema : Schema) (coerce : Bool) : Prop where
  checks : schema.Everywhere OnlyChecks
  inputs : schema.Everywhere KeepsInputs
  /-- A union leaves values as they are, or has only literals before its last member. -/
  unions : ∀ inner coerce' members, Reaches inner coerce' schema coerce →
    inner.form = .union members →
      inner.ValidatesOnly coerce' ∨ ∀ member ∈ members.dropLast, member.IsBareLiteral
  /-- An intersection leaves values as they are. -/
  intersections : ∀ inner coerce' members, Reaches inner coerce' schema coerce →
    inner.form = .intersection members → inner.ValidatesOnly coerce'
  /-- So does what the keys of a record are validated by. -/
  keys : ∀ inner coerce' key value, Reaches inner coerce' schema coerce →
    inner.form = .record (some key) value → key.ValidatesOnly coerce'

theorem Repeatable.child {schema child : Schema} {coerce : Bool} (h : schema.Repeatable coerce)
    (hchild : child ∈ schema.form.children) : child.Repeatable (schema.handsDown coerce) where
  checks := h.checks.child hchild
  inputs := h.inputs.child hchild
  unions := fun _ _ members hreach => h.unions _ _ members (.deeper hchild hreach)
  intersections := fun _ _ members hreach => h.intersections _ _ members (.deeper hchild hreach)
  keys := fun _ _ key value hreach => h.keys _ _ key value (.deeper hchild hreach)

theorem Repeatable.of_children {schema : Schema} {coerce : Bool} (hchecks : schema.OnlyChecks)
    (hinputs : schema.KeepsInputs)
    (hunion : ∀ members, schema.form = .union members →
      schema.ValidatesOnly coerce ∨ ∀ member ∈ members.dropLast, member.IsBareLiteral)
    (hintersection : ∀ members, schema.form = .intersection members →
      schema.ValidatesOnly coerce)
    (hkeys : ∀ key value, schema.form = .record (some key) value → key.ValidatesOnly coerce)
    (hchildren : ∀ child ∈ schema.form.children, child.Repeatable (schema.handsDown coerce)) :
    schema.Repeatable coerce where
  checks := everywhere_iff.2 ⟨hchecks, fun child hchild => (hchildren child hchild).checks⟩
  inputs := everywhere_iff.2 ⟨hinputs, fun child hchild => (hchildren child hchild).inputs⟩
  unions := by
    intro inner coerce' members hreach hform
    cases hreach with
    | here => exact hunion members hform
    | deeper hchild h => exact (hchildren _ hchild).unions _ _ members h hform
  intersections := by
    intro inner coerce' members hreach hform
    cases hreach with
    | here => exact hintersection members hform
    | deeper hchild h => exact (hchildren _ hchild).intersections _ _ members h hform
  keys := by
    intro inner coerce' key value hreach hform
    cases hreach with
    | here => exact hkeys key value hform
    | deeper hchild h => exact (hchildren _ hchild).keys _ _ key value h hform

theorem accepts_of_toScalar {target : Scalar} {w : Value}
    (h : Coercion.toScalar? target v = some w) : target.accepts w = true := by
  unfold Coercion.toScalar? at h
  cases target with
  | number =>
      obtain ⟨n, hn, rfl⟩ := Option.map_eq_some_iff.1 h
      have hfinite := (Option.filter_eq_some_iff.1 hn).2
      cases n with
      | finite => rfl
      | _ => exact absurd hfinite Bool.false_ne_true
  | _ =>
      obtain ⟨n, -, rfl⟩ := Option.map_eq_some_iff.1 h
      rfl

theorem fitScalar_stable {target : Scalar} (h : fitScalar settings target o v = .clean output) :
    fitScalar settings target o (output.resolve v) = .clean .kept := by
  refine fitScalar_eq_clean_iff.2 (Or.inl ⟨?_, rfl⟩)
  rcases fitScalar_eq_clean_iff.1 h with ⟨haccepts, rfl⟩ | ⟨-, -, w, hw, rfl⟩
  · exact haccepts
  · exact accepts_of_toScalar hw

theorem fitted_stable {schema : Schema} (hsync : schema.isAsync = false)
    (hrepeatable : schema.Repeatable o.coerce)
    (hchildren : ∀ child ∈ schema.form.children,
      Stable (child.apply { o with coerce := schema.handsDown o.coerce }))
    (h : schema.fitted o v = .ok (.clean output)) :
    schema.fitted o (output.resolve v) = .ok (.clean .kept) := by
  -- Where nothing changes the value, the second call is the first one over.
  by_cases hvalidates : schema.ValidatesOnly o.coerce
  · obtain rfl := eq_kept_of_validatesOnly hvalidates h
    exact h
  obtain ⟨settings, form⟩ := schema
  cases form with
  | scalar target => exact congrArg _ (fitScalar_stable (Except.ok.inj h))
  | literal expected =>
      obtain ⟨-, rfl⟩ := fitted_literal_eq_clean_iff.1 h
      exact h
  | unknown => rfl
  | never => exact absurd (Except.ok.inj h) Fit.refuse_ne_clean
  | array head rest =>
      rw [fitted_array] at h ⊢
      refine fitArray_stable ?_ h
      rw [Option.toList_map, ← List.map_append, List.forall_mem_map]
      exact hchildren
  | set element => exact fitSet_stable (hchildren element (List.mem_singleton_self _)) h
  | map key value =>
      exact fitMap_stable (hchildren key List.mem_cons_self)
        (hchildren value (List.mem_cons_of_mem _ (List.mem_singleton_self _))) h
  | record key value =>
      rw [fitted_record] at h ⊢
      refine fitRecord_stable ?_
        (hchildren value (List.mem_append_right _ (List.mem_singleton_self _))) h
      cases key with
      | none => exact keep_keeps (o := o)
      | some key => exact keeps_of_validatesOnly (hrepeatable.keys _ _ key value .here rfl)
  | object properties extras =>
      rw [fitted_object] at h ⊢
      rw [Form.children, List.forall_mem_append] at hchildren
      refine fitObject_stable ?_ ?_ h
      · rw [Fields.values_map, List.forall_mem_map]
        exact hchildren.1
      · rw [Extras.children_map, List.forall_mem_map]
        exact hchildren.2
  | union members =>
      refine fitted_union_stable (fun member hmember => hrepeatable.inputs.child hmember)
        (fun member hmember => isAsync_child hsync hmember) ?_ hchildren h
      exact (hrepeatable.unions _ _ members .here rfl).resolve_left hvalidates
  | intersection members =>
      exact absurd (hrepeatable.intersections _ _ members .here rfl) hvalidates

theorem stable_of_repeatable {schema : Schema} (h : schema.Repeatable o.coerce) :
    Stable (schema.apply o) := by
  induction schema using Schema.induction generalizing o with
  | step schema ih =>
      intro v output haccept
      have hsync : schema.isAsync = false := isAsync_of_apply haccept
      have happlied : schema.AppliedBy apply := Or.inl ⟨rfl, hsync⟩
      rw [happlied.eq_accepted_iff h.checks.here] at haccept ⊢
      obtain ⟨hfitted, hpasses⟩ := haccept
      refine ⟨fitted_stable hsync h ?_ hfitted, hpasses⟩
      exact fun child hchild => ih child hchild (h.child hchild)

/-- **Revalidation is stable.**  What comes out of a repeatable schema is accepted by it under
the same options, and comes out untouched. -/
theorem apply_resolve_eq_kept {schema : Schema} (hrepeatable : schema.Repeatable o.coerce)
    (h : schema.apply o v = .ok (.accepted output)) :
    schema.apply o (output.resolve v) = .ok (.accepted .kept) :=
  stable_of_repeatable hrepeatable v output h

/-- An array that an optional set was coerced from comes out as a set, which is kept. -/
theorem apply_resolve_eq_kept_optional :
    apply ⟨{}, .union [⟨{}, .literal .undefined⟩,
      ⟨{ coerces := true }, .set ⟨{}, .scalar .boolean⟩⟩]⟩ {} (.set [.bool true]) =
        .ok (.accepted .kept) := by
  have haccept : apply ⟨{}, .union [⟨{}, .literal .undefined⟩,
      ⟨{ coerces := true }, .set ⟨{}, .scalar .boolean⟩⟩]⟩ {} (.array [.bool true]) =
        .ok (.accepted (.replaced (.set [.bool true]))) := rfl
  refine apply_resolve_eq_kept ?_ haccept
  have hliteral : Repeatable ⟨{}, .literal .undefined⟩ false :=
    .of_children nofun rfl nofun nofun nofun nofun
  have helement : Repeatable ⟨{}, .scalar .boolean⟩ false :=
    .of_children nofun rfl nofun nofun nofun nofun
  have hset : Repeatable ⟨{ coerces := true }, .set ⟨{}, .scalar .boolean⟩⟩ false :=
    .of_children nofun rfl nofun nofun nofun (List.forall_mem_singleton.2 helement)
  refine .of_children nofun rfl ?_ nofun nofun
    (List.forall_mem_cons.2 ⟨hliteral, List.forall_mem_singleton.2 hset⟩)
  rintro _ ⟨⟩
  exact Or.inr (List.forall_mem_singleton.2 ⟨rfl, _, rfl⟩)

end Schema

end Conform
