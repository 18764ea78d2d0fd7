/-
Uniting types in parts.

Lying within is an order on types, up to equality, and what `unite` leaves of a list are the types
that nothing else in it lies above, each of them once and where it stood first.  Which types these
are shows as well when a part of the list was united before, since then there is still something
above all that was in it.  So a list may be united in parts, and it is enough to know the parts up
to uniting them.
-/
import Conform.Proofs.InputType

namespace Conform.InputType

variable {a b : InputType} {v : Value} {types others left right : List InputType}
  {p : InputType → Bool}

/-! ### Repeats -/

/-- The test does not tell equal types apart. -/
def Respects (p : InputType → Bool) : Prop :=
  ∀ a b : InputType, (a == b) = true → p a = p b

theorem respects_ne (type : InputType) : Respects fun other => !(type == other) := by
  intro a b hab
  by_cases ha : (type == a) = true
  · simp [ha, beq_trans ha hab]
  · have hb : ¬ (type == b) = true := fun hb => ha (beq_trans hb (beq_symm hab))
    simp [ha, hb]

/-- Repeats may be dropped before or after a test that does not tell them apart. -/
theorem filter_withoutRepeats (hp : Respects p) :
    (withoutRepeats types).filter p = withoutRepeats (types.filter p) := by
  induction types with
  | nil => rfl
  | cons type rest ih =>
      rw [withoutRepeats, List.filter_cons, List.filter_cons]
      by_cases hkept : p type = true
      · rw [if_pos hkept, if_pos hkept, withoutRepeats, ← ih, List.filter_filter,
          List.filter_filter]
        simp only [Bool.and_comm]
      · rw [if_neg hkept, if_neg hkept, ← ih, List.filter_filter]
        refine List.filter_congr fun other _ => ?_
        by_cases hother : p other = true
        · have hne : ¬ (type == other) = true := fun h => hkept (hp type other h ▸ hother)
          simp [hne, hother]
        · simp [hother]

theorem withoutRepeats_idem : withoutRepeats (withoutRepeats types) = withoutRepeats types := by
  induction types with
  | nil => rfl
  | cons type rest ih =>
      rw [withoutRepeats, withoutRepeats, ← filter_withoutRepeats (respects_ne type), ih,
        List.filter_filter]
      simp only [Bool.and_self]

/-- Of a list after another, what equals something in the first is dropped. -/
theorem withoutRepeats_append (left right : List InputType) :
    withoutRepeats (left ++ right) =
      withoutRepeats left ++
        (withoutRepeats right).filter fun type => !left.any fun other => other == type := by
  induction left with
  | nil => simp [withoutRepeats]
  | cons type rest ih =>
      rw [List.cons_append, withoutRepeats, withoutRepeats, ih, List.filter_append,
        List.cons_append, List.filter_filter]
      simp only [List.any_cons, Bool.not_or]

theorem any_beq_withoutRepeats :
    ((withoutRepeats types).any fun other => other == a) = types.any fun other => other == a := by
  rw [Bool.eq_iff_iff, List.any_eq_true, List.any_eq_true]
  constructor
  · intro h
    obtain ⟨other, hmem, hbeq⟩ := h
    exact ⟨other, withoutRepeats_subset hmem, hbeq⟩
  · intro h
    obtain ⟨other, hmem, hbeq⟩ := h
    obtain ⟨kept, hkept, hkeptBeq⟩ := exists_beq_withoutRepeats hmem
    exact ⟨kept, hkept, beq_trans hkeptBeq hbeq⟩

theorem withoutRepeats_part (before part after : List InputType) :
    withoutRepeats (before ++ withoutRepeats part ++ after) =
      withoutRepeats (before ++ part ++ after) := by
  have hpart :
      withoutRepeats (before ++ withoutRepeats part) = withoutRepeats (before ++ part) := by
    rw [withoutRepeats_append, withoutRepeats_append, withoutRepeats_idem]
  rw [withoutRepeats_append _ after, withoutRepeats_append _ after, hpart]
  simp only [List.any_append, any_beq_withoutRepeats]

/-! ### Highest types -/

/-- Nothing in the list lies above the type but its equals. -/
def isHighest (types : List InputType) (type : InputType) : Bool :=
  !(type == never) && !types.any fun other => !(other == type) && type.isWithin other

theorem isHighest_iff :
    isHighest types a = true ↔
      a ≠ never ∧ ∀ other ∈ types, a.isWithin other = true → (other == a) = true := by
  have hnever : (!(a == never)) = true ↔ a ≠ never := by
    rw [Bool.not_eq_true', Bool.eq_false_iff, Ne, beq_never]
  rw [isHighest, Bool.and_eq_true, hnever, Bool.not_eq_true', List.any_eq_false]
  refine and_congr_right fun _ => forall₂_congr fun other _ => ?_
  by_cases hbeq : (other == a) = true <;> simp [hbeq]

theorem respects_isHighest (types : List InputType) : Respects (isHighest types) := by
  have hto : ∀ {a b : InputType}, (a == b) = true → isHighest types a = true →
      isHighest types b = true := by
    intro a b hab ha
    obtain ⟨hnever, habove⟩ := isHighest_iff.1 ha
    refine isHighest_iff.2 ⟨fun hb => hnever (beq_never.1 (hb ▸ hab)), fun other hmem hwithin => ?_⟩
    exact beq_trans (habove other hmem (isWithin_trans (isWithin_of_beq hab) hwithin)) hab
  exact fun a b hab => Bool.eq_iff_iff.2 ⟨hto hab, hto (beq_symm hab)⟩

/-- What is highest among types that cover others is highest among those. -/
theorem isHighest_of_coveredBy (h : CoveredBy others types) (ha : isHighest types a = true) :
    isHighest others a = true := by
  obtain ⟨hnever, habove⟩ := isHighest_iff.1 ha
  refine isHighest_iff.2 ⟨hnever, fun other hmem hwithin => ?_⟩
  have hother : other ≠ never := fun hc => hnever (isWithin_never.1 (hc ▸ hwithin))
  obtain ⟨upper, hupper, hbelow⟩ := h other hmem hother
  have hbeq : (upper == a) = true := habove upper hupper (isWithin_trans hwithin hbelow)
  exact isWithin_antisymm (isWithin_trans hbelow (isWithin_of_beq hbeq)) hwithin

theorem isHighest_congr (h : CoveredBy types others) (h' : CoveredBy others types) :
    isHighest types = isHighest others :=
  funext fun _ => Bool.eq_iff_iff.2 ⟨isHighest_of_coveredBy h', isHighest_of_coveredBy h⟩

theorem withoutRepeats_of_forall_eq (h : ∀ type ∈ types, type = a) (hne : types ≠ []) :
    withoutRepeats types = [a] := by
  cases types with
  | nil => exact absurd rfl hne
  | cons type rest =>
      rw [List.forall_mem_cons] at h
      rw [withoutRepeats, h.1]
      refine congrArg (List.cons a) (List.filter_eq_nil_iff.2 fun other hother => ?_)
      rw [h.2 other (withoutRepeats_subset hother), beq_refl]
      decide

/-- Uniting types leaves those that are highest, without repeats. -/
theorem unite_eq (types : List InputType) :
    unite types = withoutRepeats (types.filter (isHighest types)) := by
  unfold unite
  by_cases hunknown : (types.any fun type => type == unknown) = true
  · -- Everything lies within `unknown`, so nothing else is highest.
    rw [if_pos hunknown]
    obtain ⟨type, hmem, hbeq⟩ := List.any_eq_true.1 hunknown
    obtain rfl := beq_unknown.1 hbeq
    refine (withoutRepeats_of_forall_eq (fun type htype => ?_) ?_).symm
    · obtain ⟨-, habove⟩ := isHighest_iff.1 (List.mem_filter.1 htype).2
      exact beq_unknown.1 (beq_symm (habove unknown hmem isWithin_unknown))
    · refine List.ne_nil_of_mem (List.mem_filter.2 ⟨hmem, isHighest_iff.2 ⟨nofun, ?_⟩⟩)
      intro other _ hwithin
      rcases isWithin_kind.1 hwithin with rfl | rfl <;> exact beq_refl _
  · rw [if_neg hunknown]
    let proper := types.filter fun type => !(type == never)
    calc (withoutRepeats proper).filter (fun type => !(withoutRepeats proper).any fun other =>
            !(other == type) && type.isWithin other)
        = (withoutRepeats proper).filter (isHighest types) := by
          rw [isHighest_congr coveredBy_withoutRepeats
            (coveredBy_of_subset withoutRepeats_filter_subset)]
          refine List.filter_congr fun type hmem => ?_
          have hproper := (List.mem_filter.1 (withoutRepeats_subset hmem)).2
          rw [isHighest, hproper, Bool.true_and]
      _ = withoutRepeats (proper.filter (isHighest types)) :=
          filter_withoutRepeats (respects_isHighest types)
      _ = withoutRepeats (types.filter (isHighest types)) := by
          rw [List.filter_filter]
          refine congrArg withoutRepeats (List.filter_congr fun type _ => ?_)
          rw [isHighest, Bool.and_right_comm, Bool.and_self]

/-! ### Parts -/

/-- Of united types those that pass a test are the same as if the rest had not been there, if
only what is highest passes. -/
theorem filter_unite (hp : Respects p)
    (hhighest : ∀ type, p type = true → isHighest types type = true) :
    (unite types).filter p = withoutRepeats (types.filter p) := by
  rw [unite_eq, filter_withoutRepeats hp, List.filter_filter]
  refine congrArg withoutRepeats (List.filter_congr fun type _ => ?_)
  by_cases hpass : p type = true
  · rw [hpass, hhighest type hpass]
    rfl
  · simp [hpass]

theorem unite_part (before part after : List InputType) :
    unite (before ++ unite part ++ after) = unite (before ++ part ++ after) := by
  let whole := before ++ part ++ after
  have hcovered : CoveredBy whole (before ++ unite part ++ after) := by
    intro type hmem hnever
    simp only [whole, List.mem_append] at hmem
    rcases hmem with (hbefore | hpart) | hafter
    · exact ⟨type, by simp [hbefore], isWithin_refl type⟩
    · obtain ⟨other, hother, hwithin⟩ := coveredBy_unite type hpart hnever
      exact ⟨other, by simp [hother], hwithin⟩
    · exact ⟨type, by simp [hafter], isWithin_refl type⟩
  have hsubset : before ++ unite part ++ after ⊆ whole := by
    intro type hmem
    simp only [whole, List.mem_append] at hmem ⊢
    exact hmem.imp_left (Or.imp_right fun hpart => unite_subset hpart)
  have hpart : (unite part).filter (isHighest whole) =
      withoutRepeats (part.filter (isHighest whole)) := by
    refine filter_unite (respects_isHighest whole) fun type hhighest => ?_
    refine isHighest_of_coveredBy (coveredBy_of_subset fun other hother => ?_) hhighest
    simp [whole, hother]
  rw [unite_eq (before ++ unite part ++ after), unite_eq whole,
    isHighest_congr (coveredBy_of_subset hsubset) hcovered]
  simp only [whole, List.filter_append] at hpart ⊢
  rw [hpart, withoutRepeats_part]

theorem unite_idem : unite (unite types) = unite types := by
  simpa using unite_part [] types []

theorem unite_append : unite (left ++ right) = unite (unite left ++ unite right) := by
  have hleft := unite_part [] left (unite right)
  have hright := unite_part left right []
  simp only [List.nil_append, List.append_nil] at hleft hright
  rw [hleft, hright]

theorem unite_flatMap_congr {α : Type} {parts : List α} {f g : α → List InputType}
    (h : ∀ part ∈ parts, unite (f part) = unite (g part)) :
    unite (parts.flatMap f) = unite (parts.flatMap g) := by
  induction parts with
  | nil => rfl
  | cons part rest ih =>
      rw [List.forall_mem_cons] at h
      rw [List.flatMap_cons, List.flatMap_cons, unite_append, h.1, ih h.2, ← unite_append]

/-! ### Kinds -/

/-- A set of inputs admits a kind if it holds a value of that kind. -/
theorem any_admits_iff :
    types.any (·.admits v.kind) = true ↔ ∃ w : Value, w.kind = v.kind ∧ Includes types w := by
  constructor
  · intro h
    obtain ⟨type, hmem, hadmits⟩ := List.any_eq_true.1 h
    cases type with
    | literal w =>
        rw [admits, kindOf, beq_iff_eq] at hadmits
        · exact ⟨w, hadmits, literal w, hmem, beq_refl (literal w)⟩
        all_goals exact fun hc => InputType.noConfusion hc
    | kind k =>
        refine ⟨v, rfl, kind k, hmem, ?_⟩
        by_cases hk : k = .unknown
        · rw [hk]
          exact contains_unknown
        · rw [contains_kind hk]
          cases k <;> simp_all [admits, kindOf]
  · intro h
    obtain ⟨w, hkind, hincludes⟩ := h
    rw [← hkind]
    exact any_admits_of_includes hincludes

theorem any_admits_unite :
    (unite types).any (·.admits v.kind) = types.any (·.admits v.kind) := by
  rw [Bool.eq_iff_iff, any_admits_iff, any_admits_iff]
  simp only [includes_unite]

end Conform.InputType
