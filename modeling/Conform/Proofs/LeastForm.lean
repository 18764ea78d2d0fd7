/-
The least form of a set of inputs.

A list of types is in least form if `never` is not in it and no two types of it compare.  Uniting
takes a list there by dropping types and nothing else, and leaves alone what is there already.
What several sets have in common is in least form too, as it is united last.  Of a set and one that
has more to it that is the set itself: each of its highest types is met by one of the larger set
that it lies within, and by none that lies within it.
-/
import Conform.Proofs.Unite

namespace Conform.InputType

variable {a b : InputType} {v : Value} {types left right : List InputType}

/-! ### Uniting -/

/-- No type could be left out of the list: none is empty and none lies within another. -/
structure InLeastForm (types : List InputType) : Prop where
  never_not_mem : never ∉ types
  apart : types.Pairwise fun a b => a.isWithin b = false ∧ b.isWithin a = false

theorem withoutRepeats_sublist : (withoutRepeats types).Sublist types := by
  induction types with
  | nil => exact .slnil
  | cons type rest ih =>
      rw [withoutRepeats]
      exact (List.filter_sublist.trans ih).cons_cons type

theorem pairwise_withoutRepeats : (withoutRepeats types).Pairwise fun a b => (a == b) = false := by
  induction types with
  | nil => exact .nil
  | cons type rest ih =>
      rw [withoutRepeats]
      refine .cons (fun other hother => ?_) (ih.sublist List.filter_sublist)
      simpa using (List.mem_filter.1 hother).2

theorem unite_sublist : (unite types).Sublist types := by
  rw [unite_eq]
  exact withoutRepeats_sublist.trans List.filter_sublist

theorem isHighest_of_mem_unite (h : a ∈ unite types) : isHighest types a = true := by
  rw [unite_eq] at h
  exact (List.mem_filter.1 (withoutRepeats_subset h)).2

/-- A type that another one of the list lies within is equal to it. -/
theorem inLeastForm_unite (types : List InputType) : InLeastForm (unite types) where
  never_not_mem h := (isHighest_iff.1 (isHighest_of_mem_unite h)).1 rfl
  apart := by
    have hdistinct : (unite types).Pairwise fun a b => (a == b) = false := by
      rw [unite_eq]
      exact pairwise_withoutRepeats
    refine hdistinct.imp_of_mem fun {a b} ha hb hne => ?_
    have habove := (isHighest_iff.1 (isHighest_of_mem_unite ha)).2 b (unite_subset hb)
    have hbelow := (isHighest_iff.1 (isHighest_of_mem_unite hb)).2 a (unite_subset ha)
    constructor
    · exact Bool.eq_false_iff.2 fun hwithin => Bool.eq_false_iff.1 hne (beq_symm (habove hwithin))
    · exact Bool.eq_false_iff.2 fun hwithin => Bool.eq_false_iff.1 hne (hbelow hwithin)

theorem withoutRepeats_of_distinct (h : types.Pairwise fun a b => (a == b) = false) :
    withoutRepeats types = types := by
  induction h with
  | nil => rfl
  | @cons type rest hfirst _ ih =>
      rw [withoutRepeats, ih, List.filter_eq_self.2]
      intro other hother
      rw [hfirst other hother]
      rfl

theorem unite_of_inLeastForm (h : InLeastForm types) : unite types = types := by
  have hwithin : ∀ a ∈ types, ∀ b ∈ types, a.isWithin b = true → (b == a) = true :=
    List.Pairwise.forall_of_forall_of_flip (fun a _ _ => beq_refl a)
      (h.apart.imp fun hapart hwithin => absurd hwithin (Bool.eq_false_iff.1 hapart.1))
      (h.apart.imp fun hapart hwithin => absurd hwithin (Bool.eq_false_iff.1 hapart.2))
  have hhighest : ∀ a ∈ types, isHighest types a = true := fun a ha =>
    isHighest_iff.2 ⟨fun hnever => h.never_not_mem (hnever ▸ ha), hwithin a ha⟩
  rw [unite_eq, List.filter_eq_self.2 hhighest]
  refine withoutRepeats_of_distinct (h.apart.imp fun hapart => ?_)
  exact Bool.eq_false_iff.2 fun hbeq => Bool.eq_false_iff.1 hapart.1 (isWithin_of_beq hbeq)

theorem unite_eq_self_iff : unite types = types ↔ InLeastForm types :=
  ⟨fun h => h ▸ inLeastForm_unite types, unite_of_inLeastForm⟩

/-- **Uniting types takes them to their least form.**  What is left holds the same values, stands in
the same order, and is in least form, whatever types were given and how often.  To unite a part of
a list before the whole makes no difference. -/
theorem unite_least_form (types : List InputType) :
    (∀ v, Includes (unite types) v ↔ Includes types v) ∧ (unite types).Sublist types ∧
      InLeastForm (unite types) ∧
      ∀ before after,
        unite (before ++ unite types ++ after) = unite (before ++ types ++ after) :=
  ⟨fun _ => includes_unite, unite_sublist, inLeastForm_unite types,
    fun before after => unite_part before types after⟩

/-! ### Distributing -/

theorem unite_intersect : unite (intersect left right) = intersect left right :=
  unite_idem

theorem unite_foldl_intersect {common : List InputType} {groups : List (List InputType)}
    (h : unite common = common) :
    unite (groups.foldl (fun common group => intersect common (unite group)) common) =
      groups.foldl (fun common group => intersect common (unite group)) common := by
  induction groups generalizing common with
  | nil => exact h
  | cons group rest ih => exact ih unite_intersect

theorem unite_distribute (groups : List (List InputType)) :
    unite (distribute groups) = distribute groups := by
  cases groups with
  | nil => rfl
  | cons first rest => exact unite_foldl_intersect unite_idem

theorem unite_withoutRepeats : unite (withoutRepeats types) = unite types := by
  have hcovered : CoveredBy types (withoutRepeats types) := by
    intro type hmem _
    obtain ⟨other, hother, hbeq⟩ := exists_beq_withoutRepeats hmem
    exact ⟨other, hother, isWithin_of_beq (beq_symm hbeq)⟩
  have hhighest : isHighest (withoutRepeats types) = isHighest types :=
    isHighest_congr (coveredBy_of_subset withoutRepeats_subset) hcovered
  rw [unite_eq, hhighest, filter_withoutRepeats (respects_isHighest types), withoutRepeats_idem,
    ← unite_eq]

/-- If every type on the left lies within some on the right, and none on the right lies properly
within it, what the two have in common is the left. -/
theorem intersect_eq_unite_left (hwithin : ∀ a ∈ left, ∃ b ∈ right, a.isWithin b = true)
    (habove : ∀ a ∈ left, ∀ b ∈ right, b.isWithin a = true → a.isWithin b = true) :
    intersect left right = unite left := by
  -- A type on the left meets only types that it lies within, and every time the narrower is itself.
  have hmeet : ∀ a ∈ left, unite (right.filterMap fun b =>
      if a.isWithin b then some a else if b.isWithin a then some b else none) = unite [a] := by
    intro a ha
    obtain ⟨upper, hupper, hbelow⟩ := hwithin a ha
    rw [← unite_withoutRepeats, withoutRepeats_of_forall_eq (a := a)]
    · intro type hmem
      obtain ⟨b, hb, hnarrower⟩ := List.mem_filterMap.1 hmem
      split at hnarrower
      · exact (Option.some.inj hnarrower).symm
      · rename_i hnot
        split at hnarrower
        · rename_i hunder
          exact absurd (habove a ha b hb hunder) hnot
        · cases hnarrower
    · exact List.ne_nil_of_mem (List.mem_filterMap.2 ⟨upper, hupper, if_pos hbelow⟩)
  rw [intersect, unite_flatMap_congr hmeet, List.flatMap_singleton']

/-- Of a set and one that has more to it, the common part is the set. -/
theorem distribute_append (left right : List InputType) :
    distribute [left, left ++ right] = unite left := by
  show intersect (unite left) (unite (left ++ right)) = unite left
  rw [intersect_eq_unite_left, unite_idem]
  · intro a ha
    have hproper : a ≠ never := fun h => (inLeastForm_unite left).never_not_mem (h ▸ ha)
    exact coveredBy_unite a (List.mem_append_left _ (unite_subset ha)) hproper
  · intro a ha b hb hwithin
    have hmem : a ∈ left ++ right := List.mem_append_left _ (unite_subset ha)
    exact isWithin_of_beq ((isHighest_iff.1 (isHighest_of_mem_unite hb)).2 a hmem hwithin)

/-- **Distributing groups gives exactly what they have in common.**  A value is in the result if it
is in every group, so that no group at all leaves every value, and the result is as uniting would
leave it.  A group absorbs one that has more to it, type by type and in the order of the first. -/
theorem distribute_exact :
    (∀ groups, (∀ v, Includes (distribute groups) v ↔ ∀ group ∈ groups, Includes group v) ∧
      unite (distribute groups) = distribute groups ∧ InLeastForm (distribute groups)) ∧
    ∀ left right, distribute [left, left ++ right] = unite left :=
  ⟨fun groups => ⟨fun _ => includes_distribute, unite_distribute groups,
      unite_eq_self_iff.1 (unite_distribute groups)⟩,
    distribute_append⟩

end Conform.InputType
