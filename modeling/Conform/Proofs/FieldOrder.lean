/-
What equality sees of order.

Objects are equal if every name is looked up alike in both, so the order in which the fields were
given makes no difference, neither here nor in any value further in.  The elements of arrays, sets
and maps are compared place by place.
-/
import Conform.Proofs.Equality

namespace Conform.Value

/-- The one value is the other with the fields of objects in another order, at any depth. -/
inductive Reordered : Value → Value → Prop
  | refl (v : Value) : Reordered v v
  | trans {a b c : Value} (hab : Reordered a b) (hbc : Reordered b c) : Reordered a c
  | fields {f g : Fields Value} (hperm : f.entries.Perm g.entries) :
      Reordered (object f) (object g)
  | inField {f : Fields Value} {name : String} {a b : Value} (hget : f.get? name = some a)
      (h : Reordered a b) : Reordered (object f) (object (f.insert name b))
  | inArray (before after : List Value) {a b : Value} (h : Reordered a b) :
      Reordered (array (before ++ a :: after)) (array (before ++ b :: after))
  | inSet (before after : List Value) {a b : Value} (h : Reordered a b) :
      Reordered (set (before ++ a :: after)) (set (before ++ b :: after))
  | inMap (before after : List (Value × Value)) {a b : Value × Value}
      (hkey : Reordered a.1 b.1) (hvalue : Reordered a.2 b.2) :
      Reordered (map (before ++ a :: after)) (map (before ++ b :: after))
  | inBox {a b : Value} (h : Reordered a b) : Reordered (boxed a) (boxed b)

/-! ### Lookups -/

section Lookups

variable {found found' : Option Value} {a : Value}

theorem rel_same_refl (found : Option Value) : Option.Rel Same found found := by
  cases found with
  | none => exact .none
  | some v => exact .some (same_refl v)

theorem isSome_eq_of_rel (h : Option.Rel Same found found') : found.isSome = found'.isSome := by
  cases h with
  | none => rfl
  | some => rfl

theorem exists_of_rel (hfound : found = some a) (h : Option.Rel Same found found') :
    ∃ b, found' = some b ∧ Same a b := by
  cases h with
  | none => cases hfound
  | some hab =>
      obtain rfl := Option.some.inj hfound
      exact ⟨_, rfl, hab⟩

end Lookups

/-- Objects are equal if a lookup finds equal values in them, or nothing in both. -/
theorem same_object_iff_get? {f g : Fields Value} :
    Same (object f) (object g) ↔ ∀ name, Option.Rel Same (f.get? name) (g.get? name) := by
  rw [same_object_iff]
  constructor
  · rintro ⟨hsize, hwithin⟩ name
    cases hf : f.get? name with
    | some a =>
        obtain ⟨b, hg, hab⟩ := hwithin _ (Fields.get?_eq_some_iff.1 hf)
        rw [hg]
        exact .some hab
    | none =>
        have hnot : name ∉ g.names := fun hmem =>
          Fields.get?_eq_none_iff.1 hf (names_subset_of_size_eq hsize hwithin hmem)
        rw [Fields.get?_eq_none_iff.2 hnot]
        exact .none
  · intro h
    have hnames : ∀ name, name ∈ f.names ↔ name ∈ g.names := fun name => by
      rw [Fields.mem_names_iff_get?, Fields.mem_names_iff_get?, ← Option.isSome_iff_exists,
        ← Option.isSome_iff_exists, isSome_eq_of_rel (h name)]
    have hperm : f.names.Perm g.names :=
      (List.perm_ext_iff_of_nodup f.distinct g.distinct).2 hnames
    exact ⟨hperm.length_eq, fun e he => exists_of_rel (Fields.get?_eq_some_iff.2 he) (h e.1)⟩

/-- To change a member of a list is to change the list in one place. -/
theorem forall₂_of_changed {α : Type} {R : α → α → Prop} (hrefl : ∀ a, R a a) {a b : α}
    (h : R a b) (before after : List α) :
    List.Forall₂ R (before ++ a :: after) (before ++ b :: after) :=
  List.rel_append (List.forall₂_same.2 fun a _ => hrefl a)
    (.cons h (List.forall₂_same.2 fun a _ => hrefl a))

/-! ### The laws -/

theorem same_of_reordered {a b : Value} (h : Reordered a b) : Same a b := by
  induction h with
  | refl v => exact same_refl v
  | trans _ _ ihab ihbc => exact same_trans ihab ihbc
  | fields hperm =>
      refine same_object_iff_get?.2 fun name => ?_
      rw [Fields.get?_of_perm hperm name]
      exact rel_same_refl _
  | @inField f name a b hget _ ih =>
      refine same_object_iff_get?.2 fun other => ?_
      rw [Fields.get?_insert]
      by_cases hother : other = name
      · rw [if_pos hother, hother, hget]
        exact .some ih
      · rw [if_neg hother]
        exact rel_same_refl _
  | inArray before after _ ih => exact sameList_iff.2 (forall₂_of_changed same_refl ih _ _)
  | inSet before after _ ih => exact sameList_iff.2 (forall₂_of_changed same_refl ih _ _)
  | inMap before after _ _ ihkey ihvalue =>
      refine sameEntries_iff.2 (forall₂_of_changed (fun e => ?_) ⟨ihkey, ihvalue⟩ _ _)
      exact ⟨same_refl e.1, same_refl e.2⟩
  | inBox _ ih => exact ih

/-- **Equality is an equivalence that does not see the order of fields.**  It is reflexive, also
at NaN, symmetric and transitive.  A value whose objects have their fields in another order, at
whatever depth, is equal to it, since objects are equal exactly if every name is looked up alike in
both.  Arrays, sets and maps are equal exactly if they are so place by place.  And equal values are
of one kind. -/
theorem equality_laws :
    Equivalence Same ∧ (∀ a b, Reordered a b → Same a b) ∧
      (∀ f g, Same (object f) (object g) ↔
        ∀ name, Option.Rel Same (f.get? name) (g.get? name)) ∧
      (∀ as bs, (Same (array as) (array bs) ↔ List.Forall₂ Same as bs) ∧
        (Same (set as) (set bs) ↔ List.Forall₂ Same as bs)) ∧
      (∀ as bs, Same (map as) (map bs) ↔
        List.Forall₂ (fun a b => Same a.1 b.1 ∧ Same a.2 b.2) as bs) ∧
      ∀ a b, Same a b → a.kind = b.kind := by
  refine ⟨⟨same_refl, same_symm, same_trans⟩, fun _ _ => same_of_reordered,
    fun _ _ => same_object_iff_get?, fun _ _ => ⟨sameList_iff, sameList_iff⟩,
    fun _ _ => sameEntries_iff, fun _ _ => kind_eq_of_same⟩

end Conform.Value
