/-
Equality of values is an equivalence.

Arrays, sets and maps are compared part by part, so there the laws pass from the parts to
the whole by induction.  Objects are compared by looking up the fields of the one in the
other, which is lopsided: that it can be turned round rests on the count of the fields,
since names that are distinct, as many as the other's and all among them, are all of them.
-/
import Conform.Proofs.Fields
import Conform.Value.Equality
import Conform.Value.Kind
import Mathlib.Data.Fintype.Card
import Mathlib.Data.List.Forall2

namespace Conform

namespace Number

theorem same_refl (n : Number) : n.same n = true := by
  cases n <;> simp [same]

theorem same_symm {a b : Number} (h : a.same b = true) : b.same a = true := by
  cases a <;> cases b <;> simp_all only [same, Bool.and_eq_true, Bool.or_eq_true, beq_iff_eq,
    Bool.false_eq_true]
  exact ⟨⟨trivial, trivial⟩, h.2.imp (fun hzero => h.1.1 ▸ hzero) Eq.symm⟩

theorem same_trans {a b c : Number} (hab : a.same b = true) (hbc : b.same c = true) :
    a.same c = true := by
  cases a <;> cases b <;> cases c <;> simp_all [same]
  grind

end Number

namespace Value

/-- The values are equal. -/
def Same (a b : Value) : Prop :=
  a.same b = true

/-! ### What equality compares -/

theorem sameList_iff {as bs : List Value} : sameList as bs = true ↔ List.Forall₂ Same as bs := by
  induction as generalizing bs with
  | nil => cases bs <;> simp [sameList]
  | cons a as ih => cases bs <;> simp [sameList, ih, Same]

theorem samePair_iff {a b : Value × Value} :
    samePair a b = true ↔ Same a.1 b.1 ∧ Same a.2 b.2 := by
  rw [samePair, Bool.and_eq_true]
  exact Iff.rfl

theorem sameEntries_iff {as bs : List (Value × Value)} :
    sameEntries as bs = true ↔ List.Forall₂ (fun a b => Same a.1 b.1 ∧ Same a.2 b.2) as bs := by
  induction as generalizing bs with
  | nil => cases bs <;> simp [sameEntries]
  | cons a as ih => cases bs <;> simp [sameEntries, ih, samePair_iff]

/-- Every field of `f` has its equal in `g`. -/
def FieldsWithin (f g : Fields Value) : Prop :=
  ∀ e ∈ f.entries, ∃ b, g.get? e.1 = some b ∧ Same e.2 b

theorem same_object_iff {f g : Fields Value} :
    Same (object f) (object g) ↔ f.size = g.size ∧ FieldsWithin f g := by
  rw [Same, same_object, Bool.and_eq_true, beq_iff_eq, List.all_eq_true]
  refine and_congr_right fun _ => forall₂_congr fun e _ => ?_
  rw [Option.any_eq_true]
  exact Iff.rfl

theorem names_subset_of_fieldsWithin {f g : Fields Value} (h : FieldsWithin f g) :
    f.names ⊆ g.names := by
  intro name hname
  obtain ⟨value, he⟩ := Fields.mem_names.1 hname
  obtain ⟨b, hget, -⟩ := h _ he
  exact Fields.mem_names.2 ⟨b, Fields.get?_eq_some_iff.1 hget⟩

/-- Fields within as many others leave none of these out. -/
theorem names_subset_of_size_eq {f g : Fields Value} (hsize : f.size = g.size)
    (h : FieldsWithin f g) : g.names ⊆ f.names := by
  have hsub : f.names.Subperm g.names :=
    List.subperm_of_subset f.distinct (names_subset_of_fieldsWithin h)
  have hperm : f.names.Perm g.names := hsub.perm_of_length_le (Nat.le_of_eq hsize.symm)
  exact hperm.symm.subset

/-! ### What a value can equal -/

/-- A value without parts that has one way to be written: no number, since zero has a sign, and no
symbol, since symbols have descriptions. -/
def IsAtom : Value → Prop
  | undefined | null | bool _ | bigint _ | string _ | date _ => True
  | _ => False

theorem eq_of_same_atom {a b : Value} (h : Same a b) (hatom : a.IsAtom) : b = a := by
  cases a <;> cases b <;> simp_all [IsAtom, Same, same]

theorem same_symbol {s : Symbol} {b : Value} (h : Same (symbol s) b) :
    ∃ t, b = symbol t ∧ s.identity = t.identity := by
  cases b with
  | symbol t => exact ⟨t, rfl, beq_iff_eq.1 h⟩
  | _ => simp [Same, same] at h

theorem same_number {m : Number} {b : Value} (h : Same (number m) b) :
    ∃ n, b = number n ∧ m.same n = true := by
  cases b with
  | number n => exact ⟨n, rfl, h⟩
  | _ => simp [Same, same] at h

theorem same_array {as : List Value} {b : Value} (h : Same (array as) b) :
    ∃ bs, b = array bs ∧ List.Forall₂ Same as bs := by
  cases b with
  | array bs => exact ⟨bs, rfl, sameList_iff.1 h⟩
  | _ => simp [Same, same] at h

theorem same_set {as : List Value} {b : Value} (h : Same (set as) b) :
    ∃ bs, b = set bs ∧ List.Forall₂ Same as bs := by
  cases b with
  | set bs => exact ⟨bs, rfl, sameList_iff.1 h⟩
  | _ => simp [Same, same] at h

theorem same_map {as : List (Value × Value)} {b : Value} (h : Same (map as) b) :
    ∃ bs, b = map bs ∧ List.Forall₂ (fun a b => Same a.1 b.1 ∧ Same a.2 b.2) as bs := by
  cases b with
  | map bs => exact ⟨bs, rfl, sameEntries_iff.1 h⟩
  | _ => simp [Same, same] at h

theorem same_fields {f : Fields Value} {b : Value} (h : Same (object f) b) :
    ∃ g, b = object g ∧ f.size = g.size ∧ FieldsWithin f g := by
  cases b with
  | object g => exact ⟨g, rfl, same_object_iff.1 h⟩
  | _ => simp [Same, same] at h

theorem same_boxed {a b : Value} (h : Same (boxed a) b) :
    ∃ inner, b = boxed inner ∧ Same a inner := by
  cases b with
  | boxed inner => exact ⟨inner, rfl, h⟩
  | _ => simp [Same, same] at h

/-! ### The laws -/

theorem same_refl (v : Value) : Same v v := by
  induction v using Value.induction with
  | number n => exact Number.same_refl n
  | array items ih => exact sameList_iff.2 (List.forall₂_same.2 ih)
  | set items ih => exact sameList_iff.2 (List.forall₂_same.2 ih)
  | map entries ih => exact sameEntries_iff.2 (List.forall₂_same.2 ih)
  | object fields ih =>
      refine same_object_iff.2 ⟨rfl, fun e he => ⟨e.2, ?_, ih e he⟩⟩
      exact Fields.get?_eq_some_iff.2 he
  | boxed inner ih => exact ih
  | _ => simp [Same, same]

/-- A relation between the members of two lists is turned round if it can be on those of
the first. -/
theorem forall₂_flip_of_mem {α : Type} {R : α → α → Prop} {as bs : List α}
    (hsymm : ∀ a ∈ as, ∀ b, R a b → R b a) (h : List.Forall₂ R as bs) :
    List.Forall₂ R bs as := by
  induction h with
  | nil => exact .nil
  | cons hab _ ih =>
      rw [List.forall_mem_cons] at hsymm
      exact .cons (hsymm.1 _ hab) (ih hsymm.2)

/-- Two steps are one between the members of lists if they are one from those of the first. -/
theorem forall₂_trans_of_mem {α : Type} {R : α → α → Prop} {as bs cs : List α}
    (htrans : ∀ a ∈ as, ∀ b c, R a b → R b c → R a c) (hab : List.Forall₂ R as bs)
    (hbc : List.Forall₂ R bs cs) : List.Forall₂ R as cs := by
  induction hab generalizing cs with
  | nil => exact hbc
  | cons h _ ih =>
      cases hbc with
      | cons h' hbc =>
          rw [List.forall_mem_cons] at htrans
          exact .cons (htrans.1 _ _ h h') (ih htrans.2 hbc)

theorem same_symm {a b : Value} (h : Same a b) : Same b a := by
  induction a using Value.induction generalizing b with
  | number m =>
      obtain ⟨n, rfl, hn⟩ := same_number h
      exact Number.same_symm hn
  | array items ih =>
      obtain ⟨bs, rfl, hbs⟩ := same_array h
      exact sameList_iff.2 (forall₂_flip_of_mem (fun a ha b => ih a ha) hbs)
  | set items ih =>
      obtain ⟨bs, rfl, hbs⟩ := same_set h
      exact sameList_iff.2 (forall₂_flip_of_mem (fun a ha b => ih a ha) hbs)
  | map entries ih =>
      obtain ⟨bs, rfl, hbs⟩ := same_map h
      refine sameEntries_iff.2 (forall₂_flip_of_mem (fun e he b h => ?_) hbs)
      exact ⟨(ih e he).1 h.1, (ih e he).2 h.2⟩
  | object f ih =>
      obtain ⟨g, rfl, hsize, hwithin⟩ := same_fields h
      refine same_object_iff.2 ⟨hsize.symm, fun e he => ?_⟩
      have hname : e.1 ∈ f.names :=
        names_subset_of_size_eq hsize hwithin (Fields.mem_names.2 ⟨e.2, he⟩)
      obtain ⟨value, hvalue⟩ := Fields.mem_names.1 hname
      -- What `f` has under the name equals what `g` has there, and that is `e`.
      obtain ⟨b, hget, hsame⟩ := hwithin _ hvalue
      rw [Fields.get?_eq_some_iff.2 he, Option.some.injEq] at hget
      subst hget
      exact ⟨value, Fields.get?_eq_some_iff.2 hvalue, ih _ hvalue hsame⟩
  | boxed inner ih =>
      obtain ⟨other, rfl, hother⟩ := same_boxed h
      exact ih hother
  | symbol s =>
      obtain ⟨t, rfl, hst⟩ := same_symbol h
      exact beq_iff_eq.2 hst.symm
  | undefined | null | bool | bigint | string | date =>
      obtain rfl := eq_of_same_atom h trivial
      exact h

theorem same_trans {a b c : Value} (hab : Same a b) (hbc : Same b c) : Same a c := by
  induction a using Value.induction generalizing b c with
  | number m =>
      obtain ⟨n, rfl, hmn⟩ := same_number hab
      obtain ⟨k, rfl, hnk⟩ := same_number hbc
      exact Number.same_trans hmn hnk
  | array items ih =>
      obtain ⟨bs, rfl, hbs⟩ := same_array hab
      obtain ⟨cs, rfl, hcs⟩ := same_array hbc
      exact sameList_iff.2 (forall₂_trans_of_mem (fun a ha b c => ih a ha) hbs hcs)
  | set items ih =>
      obtain ⟨bs, rfl, hbs⟩ := same_set hab
      obtain ⟨cs, rfl, hcs⟩ := same_set hbc
      exact sameList_iff.2 (forall₂_trans_of_mem (fun a ha b c => ih a ha) hbs hcs)
  | map entries ih =>
      obtain ⟨bs, rfl, hbs⟩ := same_map hab
      obtain ⟨cs, rfl, hcs⟩ := same_map hbc
      refine sameEntries_iff.2 (forall₂_trans_of_mem (fun e he b c h h' => ?_) hbs hcs)
      exact ⟨(ih e he).1 h.1 h'.1, (ih e he).2 h.2 h'.2⟩
  | object f ih =>
      -- What `f` has is found in `g`, and from there in `k`.
      obtain ⟨g, rfl, hfg, hwithin⟩ := same_fields hab
      obtain ⟨k, rfl, hgk, hwithin'⟩ := same_fields hbc
      refine same_object_iff.2 ⟨hfg.trans hgk, fun e he => ?_⟩
      obtain ⟨y, hy, hey⟩ := hwithin e he
      obtain ⟨z, hz, hyz⟩ := hwithin' _ (Fields.get?_eq_some_iff.1 hy)
      exact ⟨z, hz, ih e he hey hyz⟩
  | boxed inner ih =>
      obtain ⟨other, rfl, hother⟩ := same_boxed hab
      obtain ⟨third, rfl, hthird⟩ := same_boxed hbc
      exact ih hother hthird
  | symbol s =>
      obtain ⟨t, rfl, hst⟩ := same_symbol hab
      obtain ⟨u, rfl, htu⟩ := same_symbol hbc
      exact beq_iff_eq.2 (hst.trans htu)
  | undefined | null | bool | bigint | string | date =>
      obtain rfl := eq_of_same_atom hab trivial
      exact hbc

/-- Equal values are of one kind. -/
theorem kind_eq_of_same {a b : Value} (h : Same a b) : a.kind = b.kind := by
  cases a <;> cases b <;> simp_all [Same, same, kind]

end Value

end Conform
