/-
Whatever a schema accepts is one of its inputs.

Input types are computed from the form and the settings, and no value is looked at.  They
are sound all the same: each form is taken in turn, and the values it accepts are found
among the types it declares.  Two things need care.  An intersection that coerces declares
what its members take when coercing, but does not make them coerce, so the types must grow
with coercion.  And a member of a union is tried under the options of the union, which are
also those its types are asked for.
-/
import Conform.Proofs.Fits
import Conform.Proofs.InputType

namespace Conform

open InputType (Includes contains_kind contains_unknown includes_singleton includes_flatten
  includes_unite includes_distribute)

variable {o : Options} {v w : Value} {output : Output}

theorem InputType.includes_kinds {kinds : List Kind} (h : Kind.unknown ∉ kinds) :
    Includes (kinds.map .kind) v ↔ v.kind ∈ kinds := by
  simp only [Includes, List.mem_map, exists_exists_and_eq_and]
  constructor
  · intro h
    obtain ⟨k, hk, hv⟩ := h
    rw [contains_kind fun hc => h (hc ▸ hk)] at hv
    rwa [hv]
  · exact fun hk => ⟨v.kind, hk, (contains_kind InputType.kind_ne_unknown).2 rfl⟩

theorem InputType.includes_flatten_map {α : Type} {types : α → List InputType}
    {members : List α} :
    Includes (members.map types).flatten v ↔ ∃ member ∈ members, Includes (types member) v := by
  simp only [includes_flatten, List.mem_map, exists_exists_and_eq_and]

theorem InputType.contains_ofLiteral (h : Value.Same v w) : (ofLiteral w).contains v = true := by
  unfold ofLiteral
  split
  · exact (contains_kind (by decide)).2 (Value.kind_eq_of_same h)
  · exact (contains_kind (by decide)).2 (Value.kind_eq_of_same h)
  · exact h

/-! ### Scalars -/

namespace Scalar

theorem kind_of_accepts {target : Scalar} (h : target.accepts v = true) : v.kind = target.kind := by
  unfold accepts at h
  split at h
  · rfl
  · rfl
  · rfl
  · rfl
  · rfl
  · exact absurd h Bool.false_ne_true

theorem kind_mem_sources (target : Scalar) : target.kind ∈ target.sources := by
  cases target <;> decide

theorem unknown_not_mem_sources (target : Scalar) : Kind.unknown ∉ target.sources := by
  cases target <;> decide

end Scalar

/-- What a value is unwrapped from is an object or an array. -/
theorem Coercion.unwrap_cases (v : Value) :
    v.kind = .object ∨ v.kind = .array ∨ Coercion.unwrap v = v := by
  cases v with
  | object fields => exact Or.inl rfl
  | boxed inner => exact Or.inl rfl
  | array items => exact Or.inr (Or.inl rfl)
  | _ => exact Or.inr (Or.inr rfl)

/-- Every coercion to a scalar stays inside the kinds listed for it. -/
theorem Coercion.kind_mem_sources {target : Scalar} (h : Coercion.toScalar? target v = some w) :
    v.kind ∈ target.sources := by
  rcases unwrap_cases v with hobject | harray | hself
  · rw [hobject]
    cases target <;> decide
  · rw [harray]
    cases target <;> decide
  · unfold toScalar? at h
    rw [hself] at h
    cases target <;> cases v <;>
      first
        | (rw [Value.kind]; decide)
        | simp [numberOf?, stringOf?, booleanOf?, bigintOf?, dateOf?] at h

theorem Coercion.kind_of_toEntries {entries : List (Value × Value)}
    (h : Coercion.toEntries? v = some entries) : v.kind ∈ [Kind.map, .object, .array] := by
  unfold toEntries? at h
  split at h
  · exact List.mem_cons_self
  · exact List.mem_cons_of_mem _ List.mem_cons_self
  · exact List.mem_cons_of_mem _ (List.mem_cons_of_mem _ List.mem_cons_self)
  · cases h

theorem includes_of_fitScalar {settings : Settings} {target : Scalar}
    (h : fitScalar settings target o v = .clean output) :
    Includes (if settings.coercesUnder o then target.sources.map .kind
      else [.kind target.kind]) v := by
  have hsources := InputType.includes_kinds (v := v) target.unknown_not_mem_sources
  rcases fitScalar_eq_clean_iff.1 h with ⟨haccepts, -⟩ | ⟨hcoerces, -, w, hw, -⟩
  · have hkind := Scalar.kind_of_accepts haccepts
    split
    · rw [hsources, hkind]
      exact target.kind_mem_sources
    · rw [includes_singleton, contains_kind (by cases target <;> decide)]
      exact hkind
  · rw [if_pos hcoerces, hsources]
    exact Coercion.kind_mem_sources hw

/-! ### More inputs when coercing -/

namespace Schema

/-- A form takes no less when coercing, if its children do not. -/
theorem includes_inputTypes_coercing {form : Form Schema}
    (hchildren : ∀ child ∈ form.children,
      Includes (child.inputTypes false) v → Includes (child.inputTypes true) v)
    (h : Includes ((form.mapChildren fun child => child.inputTypes false).inputTypes false) v) :
    Includes ((form.mapChildren fun child => child.inputTypes true).inputTypes true) v := by
  cases form with
  | scalar target =>
      rw [Form.mapChildren, Form.inputTypes, if_neg Bool.false_ne_true, includes_singleton,
        contains_kind (by cases target <;> decide)] at h
      rw [Form.mapChildren, Form.inputTypes, if_pos rfl,
        InputType.includes_kinds target.unknown_not_mem_sources, h]
      exact target.kind_mem_sources
  | array head rest => exact includes_singleton.2 contains_unknown
  | set element => exact includes_singleton.2 contains_unknown
  | map key value =>
      obtain ⟨type, hmem, hv⟩ := h
      exact ⟨type, List.mem_cons.2 (Or.inl (List.mem_singleton.1 hmem)), hv⟩
  | union members =>
      rw [Form.mapChildren, Form.inputTypes, includes_unite,
        InputType.includes_flatten_map] at h ⊢
      obtain ⟨member, hmember, hv⟩ := h
      exact ⟨member, hmember, hchildren member hmember hv⟩
  | intersection members =>
      rw [Form.mapChildren, Form.inputTypes, includes_distribute, List.forall_mem_map] at h ⊢
      exact fun member hmember => hchildren member hmember (h member hmember)
  | _ => exact h

/-- A schema that coerces takes what it takes without. -/
theorem inputTypes_mono {schema : Schema} (h : Includes (schema.inputTypes false) v) :
    Includes (schema.inputTypes true) v := by
  induction schema using Schema.induction with
  | step schema ih =>
      cases hoverride : schema.settings.inputOverride with
      | some types =>
          rw [inputTypes_of_claimed hoverride] at h ⊢
          exact h
      | none =>
          rw [inputTypes_of_unclaimed hoverride, includes_unite] at h ⊢
          -- A schema that coerces by itself is asked for the same types both times.
          cases hcoerces : schema.settings.coerces with
          | true =>
              rw [hcoerces] at h
              exact h
          | false =>
              rw [hcoerces] at h
              exact includes_inputTypes_coercing ih h

theorem inputTypes_mono_or {schema : Schema} {coerce : Bool} (more : Bool)
    (h : Includes (schema.inputTypes coerce) v) :
    Includes (schema.inputTypes (more || coerce)) v := by
  cases more with
  | false => exact h
  | true =>
      cases coerce with
      | false => exact inputTypes_mono h
      | true => exact h

/-! ### Soundness -/

section Forms

variable {settings : Settings}

/-- What is received has the kind of what is received as it is, unless anything is coerced. -/
theorem includes_of_receive {α : Type} {coercing : Bool} {content? coerced? : Value → Option α}
    {build : α → Value} {base : Output} {content : α} {kind : Kind}
    (hkind : content? v = some content → v.kind = kind)
    (h : receive coercing content? coerced? build v = some (base, content)) :
    Includes [if coercing then .unknown else .kind kind] v := by
  rw [includes_singleton]
  rcases receive_eq_some_iff.1 h with ⟨hcontent, -⟩ | ⟨hcoerces, -⟩
  · obtain rfl := hkind hcontent
    split
    · exact contains_unknown
    · exact (contains_kind InputType.kind_ne_unknown).2 rfl
  · rw [if_pos hcoerces]
    exact contains_unknown

theorem includes_of_fitMap {key value : Validator}
    (h : fitMap settings key value o v = .ok (.clean output)) :
    Includes (if settings.coercesUnder o then [.kind .map, .kind .object, .kind .array]
      else [.kind .map]) v := by
  obtain ⟨base, entries, hreceive, -⟩ := fitMap_eq_clean_iff.1 h
  rcases receive_eq_some_iff.1 hreceive with ⟨hentries, -⟩ | ⟨hcoerces, -, hentries, -⟩
  · rw [mapEntries?_eq_some_iff.1 hentries]
    split <;> exact ⟨.kind .map, List.mem_cons_self, rfl⟩
  · rw [if_pos hcoerces]
    have hkinds : Kind.unknown ∉ [Kind.map, .object, .array] := by decide
    exact (InputType.includes_kinds hkinds).2 (Coercion.kind_of_toEntries hentries)

variable {members : List Schema}
  (hmembers : ∀ member ∈ members, ∀ o output,
    member.apply o v = .ok (.accepted output) → Includes (member.inputTypes o.coerce) v)

include hmembers

theorem includes_of_fitted_union
    (h : fitted ⟨settings, .union members⟩ o v = .ok (.clean output)) :
    Includes (members.map fun member => member.inputTypes (settings.coercesUnder o)).flatten v := by
  obtain ⟨member, hcandidate, haccept⟩ := exists_member_of_fitted_union h
  have hmember : member ∈ members := List.mem_of_mem_filter hcandidate
  exact InputType.includes_flatten_map.2 ⟨member, hmember, hmembers member hmember _ _ haccept⟩

/-- The members do not see that the intersection coerces, but their types are asked for as if they
did. -/
theorem includes_of_fitted_intersection
    (h : fitted ⟨settings, .intersection members⟩ o v = .ok (.clean output)) :
    ∀ member ∈ members, Includes (member.inputTypes (settings.coercesUnder o)) v := by
  rw [fitted_intersection] at h
  obtain ⟨outputs, haccepts, -⟩ := fitIntersection_eq_clean_iff.1 h
  rw [List.forall₂_map_left_iff] at haccepts
  intro member hmember
  obtain ⟨out, -, haccept⟩ := exists_partner haccepts hmember
  exact inputTypes_mono_or _ (hmembers member hmember _ _ haccept)

end Forms

theorem includes_of_fitted {schema : Schema} (hinputs : schema.KeepsInputs)
    (hchildren : ∀ child ∈ schema.form.children, ∀ o output,
      child.apply o v = .ok (.accepted output) → Includes (child.inputTypes o.coerce) v)
    (h : schema.fitted o v = .ok (.clean output)) :
    Includes (schema.inputTypes o.coerce) v := by
  rw [inputTypes_of_unclaimed hinputs, includes_unite]
  obtain ⟨settings, form⟩ := schema
  cases form with
  | scalar target => exact includes_of_fitScalar (Except.ok.inj h)
  | literal expected =>
      rw [Form.mapChildren, Form.inputTypes, includes_singleton]
      exact InputType.contains_ofLiteral (fitted_literal_eq_clean_iff.1 h).1
  | unknown => exact includes_singleton.2 contains_unknown
  | never => exact absurd (Except.ok.inj h) Fit.refuse_ne_clean
  | array head rest =>
      rw [fitted_array] at h
      obtain ⟨base, items, hreceive, -, -⟩ := fitArray_eq_clean_iff.1 h
      refine includes_of_receive (fun hitems => ?_) hreceive
      rw [arrayItems?_eq_some_iff.1 hitems, Value.kind]
  | set element =>
      obtain ⟨base, items, hreceive, -⟩ := fitSet_eq_clean_iff.1 h
      refine includes_of_receive (fun hitems => ?_) hreceive
      rw [setItems?_eq_some_iff.1 hitems, Value.kind]
  | map key value => exact includes_of_fitMap h
  | record key value =>
      rw [fitted_record] at h
      obtain ⟨fields, rfl⟩ := exists_object_of_fitRecord h
      exact includes_singleton.2 rfl
  | object properties extras =>
      rw [fitted_object] at h
      obtain ⟨fields, rfl⟩ := exists_object_of_fitObject h
      exact includes_singleton.2 rfl
  | union members =>
      rw [Form.mapChildren, Form.inputTypes, includes_unite]
      exact includes_of_fitted_union hchildren h
  | intersection members =>
      rw [Form.mapChildren, Form.inputTypes, includes_distribute, List.forall_mem_map]
      exact includes_of_fitted_intersection hchildren h

theorem includes_of_accepted {schema : Schema} (hinputs : schema.Everywhere KeepsInputs)
    (h : schema.apply o v = .ok (.accepted output)) :
    Includes (schema.inputTypes o.coerce) v := by
  induction schema using Schema.induction generalizing o output with
  | step schema ih =>
      obtain ⟨-, base, hfitted, -⟩ := apply_eq_accepted_iff.1 h
      refine includes_of_fitted hinputs.here ?_ hfitted
      intro child hchild o output haccept
      exact ih child hchild (hinputs.child hchild) haccept

/-- **Input types are sound.**  A value that is accepted is of one of the types given for
the call, unless a schema inside claims other inputs than its form has. -/
theorem exists_inputType_of_accepted {schema : Schema} (hinputs : schema.Everywhere KeepsInputs)
    (h : schema.apply o v = .ok (.accepted output)) :
    ∃ type ∈ schema.inputTypes o.coerce, type.contains v = true :=
  includes_of_accepted hinputs h

/-- A coercing union takes an array of nothing but null, as false. -/
theorem exists_inputType_of_accepted_array :
    ∃ type ∈ inputTypes ⟨{ coerces := true },
        .union [⟨{}, .scalar .boolean⟩, ⟨{}, .literal .null⟩]⟩ false,
      type.contains (.array [.null]) = true := by
  have haccept : apply ⟨{ coerces := true },
      .union [⟨{}, .scalar .boolean⟩, ⟨{}, .literal .null⟩]⟩ {} (.array [.null]) =
        .ok (.accepted (.replaced (.bool false))) := rfl
  refine exists_inputType_of_accepted ?_ haccept
  refine everywhere_iff.2 ⟨rfl, List.forall_mem_cons.2 ⟨?_, List.forall_mem_singleton.2 ?_⟩⟩
  · exact everywhere_of_childless rfl rfl
  · exact everywhere_of_childless rfl rfl

end Schema

end Conform
