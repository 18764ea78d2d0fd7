/-
What sets of inputs hold.

`unite` and `distribute` work on lists of types and look at no value.  Here they are held
against the values: uniting types loses none and adds none, and distributing groups
leaves the values that lie in every one of them.  The second needs more than kinds.  Two
literals have a value in common only if they equal each other, and that is where equality
has to be an equivalence.
-/
import Conform.InputType
import Conform.Proofs.Equality

namespace Conform.InputType

open Value (Same same_refl same_symm same_trans kind_eq_of_same)

/-- The value is of one of the types. -/
def Includes (types : List InputType) (v : Value) : Prop :=
  ∃ type ∈ types, type.contains v = true

variable {a b c : InputType} {v : Value} {types left right : List InputType}

/-! ### Comparing two types -/

@[simp] theorem beq_kind {k l : Kind} : (kind k == kind l) = (k == l) := rfl

@[simp] theorem beq_kind_literal {k : Kind} {w : Value} : (kind k == literal w) = false := rfl

@[simp] theorem beq_literal_kind {k : Kind} {w : Value} : (literal w == kind k) = false := rfl

theorem beq_literal {w x : Value} : (literal w == literal x) = true ↔ Same w x := Iff.rfl

@[simp] theorem beq_refl (a : InputType) : (a == a) = true := by
  cases a <;> simp [beq_literal, same_refl]

theorem beq_symm (h : (a == b) = true) : (b == a) = true := by
  cases a <;> cases b
  case kind.kind k l =>
    rw [beq_kind, beq_iff_eq] at h ⊢
    exact h.symm
  case literal.literal w x => exact same_symm h
  all_goals simp at h

theorem beq_trans (hab : (a == b) = true) (hbc : (b == c) = true) : (a == c) = true := by
  cases a <;> cases b <;> cases c
  case kind.kind.kind k l m => simp_all
  case literal.literal.literal w x y => exact same_trans hab hbc
  all_goals simp at hab hbc

theorem beq_unknown : (a == unknown) = true ↔ a = unknown := by
  cases a <;> simp [unknown]

theorem beq_never : (a == never) = true ↔ a = never := by
  cases a <;> simp [never]

@[simp] theorem contains_unknown : unknown.contains v = true := rfl

theorem contains_kind {k : Kind} (h : k ≠ .unknown) :
    (kind k).contains v = true ↔ v.kind = k := by
  cases k <;> simp_all [contains]

theorem kind_ne_unknown : v.kind ≠ .unknown := by
  cases v <;> simp [Value.kind]

theorem kind_ne_never : v.kind ≠ .never := by
  cases v <;> simp [Value.kind]

theorem not_contains_never : never.contains v ≠ true := by
  rw [never, Ne, contains_kind (by decide)]
  exact kind_ne_never

/-- Equal types contain the same values. -/
theorem contains_of_beq (h : (a == b) = true) (hv : a.contains v = true) :
    b.contains v = true := by
  cases a <;> cases b
  case kind.kind k l =>
    rw [beq_kind, beq_iff_eq] at h
    rwa [← h]
  case literal.literal w x => exact same_trans hv h
  all_goals simp at h

theorem isWithin_of_beq (h : (a == b) = true) : a.isWithin b = true := by
  unfold isWithin
  split
  · rfl
  · simp at h
  · exact h

/-- A kind lies within no other type but `unknown`. -/
theorem isWithin_kind {k : Kind} : (kind k).isWithin b = true ↔ b = unknown ∨ b = kind k := by
  cases b with
  | kind l => cases l <;> simp [isWithin, unknown, @eq_comm Kind k]
  | literal w => simp [isWithin, unknown]

/-- A literal lies within `unknown`, within its kind and within its equals. -/
theorem isWithin_literal {w : Value} :
    (literal w).isWithin b = true ↔ b = unknown ∨ b = kind w.kind ∨ (literal w == b) = true := by
  cases b with
  | kind l => cases l <;> simp [isWithin, unknown, @eq_comm Kind w.kind]
  | literal x => simp [isWithin, unknown]

@[simp] theorem isWithin_refl (a : InputType) : a.isWithin a = true :=
  isWithin_of_beq (beq_refl a)

@[simp] theorem isWithin_unknown : a.isWithin unknown = true := by
  cases a <;> simp [isWithin, unknown]

theorem isWithin_never : a.isWithin never = true ↔ a = never := by
  cases a with
  | kind k => cases k <;> simp [isWithin_kind, never, unknown]
  | literal w => simp [isWithin, never, kind_ne_never]

theorem isWithin_trans (hab : a.isWithin b = true) (hbc : b.isWithin c = true) :
    a.isWithin c = true := by
  cases a with
  | kind k =>
      rcases isWithin_kind.1 hab with rfl | rfl
      · rcases isWithin_kind.1 hbc with rfl | rfl <;> exact isWithin_unknown
      · exact hbc
  | literal w =>
      rcases isWithin_literal.1 hab with rfl | rfl | hb
      · rcases isWithin_kind.1 hbc with rfl | rfl <;> exact isWithin_unknown
      · rcases isWithin_kind.1 hbc with rfl | rfl
        · exact isWithin_unknown
        · exact hab
      · cases b with
        | kind l => simp at hb
        | literal x =>
            rcases isWithin_literal.1 hbc with rfl | rfl | hc
            · exact isWithin_unknown
            · have hkind : x.kind = w.kind := (kind_eq_of_same hb).symm
              rw [hkind]
              exact isWithin_literal.2 (Or.inr (Or.inl rfl))
            · exact isWithin_of_beq (beq_trans hb hc)

/-- Types that lie within each other are equal. -/
theorem isWithin_antisymm (hab : a.isWithin b = true) (hba : b.isWithin a = true) :
    (a == b) = true := by
  cases a with
  | kind k =>
      rcases isWithin_kind.1 hab with rfl | rfl
      · rcases isWithin_kind.1 hba with ha | ha <;> rw [ha, beq_unknown, unknown]
      · exact beq_refl _
  | literal w =>
      rcases isWithin_literal.1 hab with rfl | rfl | hb
      · rcases isWithin_kind.1 hba with ha | ha <;> cases ha
      · rcases isWithin_kind.1 hba with ha | ha <;> cases ha
      · exact hb

/-- What lies within a type holds none but its values. -/
theorem contains_of_isWithin (h : a.isWithin b = true) (hv : a.contains v = true) :
    b.contains v = true := by
  cases a with
  | kind k =>
      rcases isWithin_kind.1 h with rfl | rfl
      · exact contains_unknown
      · exact hv
  | literal w =>
      rcases isWithin_literal.1 h with rfl | rfl | hb
      · exact contains_unknown
      · rw [contains_kind kind_ne_unknown]
        exact kind_eq_of_same hv
      · exact contains_of_beq hb hv

/-- Of two types with a value in common, one lies within the other. -/
theorem isWithin_or_isWithin (ha : a.contains v = true) (hb : b.contains v = true) :
    a.isWithin b = true ∨ b.isWithin a = true := by
  by_cases hua : a = unknown
  · exact Or.inr (by cases b <;> simp [hua, isWithin, unknown])
  by_cases hub : b = unknown
  · exact Or.inl (by cases a <;> simp [hub, isWithin, unknown])
  cases a with
  | kind k =>
      have hk : v.kind = k := (contains_kind fun hc => hua (by rw [hc, unknown])).1 ha
      cases b with
      | kind l =>
          have hl : v.kind = l := (contains_kind fun hc => hub (by rw [hc, unknown])).1 hb
          exact Or.inl (isWithin_kind.2 (Or.inr (by rw [← hk, ← hl])))
      | literal w =>
          refine Or.inr (isWithin_literal.2 (Or.inr (Or.inl ?_)))
          rw [← hk, kind_eq_of_same hb]
  | literal w =>
      cases b with
      | kind l =>
          have hl : v.kind = l := (contains_kind fun hc => hub (by rw [hc, unknown])).1 hb
          refine Or.inl (isWithin_literal.2 (Or.inr (Or.inl ?_)))
          rw [← hl, kind_eq_of_same ha]
      | literal x => exact Or.inl (isWithin_of_beq (same_trans (same_symm ha) hb))

/-- A type admits the kinds of its values. -/
theorem admits_of_contains (h : a.contains v = true) : a.admits v.kind = true := by
  cases a with
  | kind k =>
      by_cases hk : k = .unknown
      · rw [hk]
        rfl
      · have hkind := (contains_kind hk).1 h
        subst hkind
        cases v <;> rfl
  | literal w =>
      rw [admits, kindOf, beq_iff_eq]
      · exact (kind_eq_of_same h).symm
      all_goals exact fun hc => InputType.noConfusion hc

/-! ### Sets of types -/

theorem includes_of_subset (h : left ⊆ right) (hv : Includes left v) : Includes right v := by
  obtain ⟨type, hmem, hc⟩ := hv
  exact ⟨type, h hmem, hc⟩

@[simp] theorem includes_singleton : Includes [a] v ↔ a.contains v = true := by
  simp [Includes]

theorem includes_flatten {groups : List (List InputType)} :
    Includes groups.flatten v ↔ ∃ group ∈ groups, Includes group v := by
  simp only [Includes, List.mem_flatten]
  constructor
  · intro h
    obtain ⟨type, ⟨group, hg, ht⟩, hc⟩ := h
    exact ⟨group, hg, type, ht, hc⟩
  · intro h
    obtain ⟨group, hg, type, ht, hc⟩ := h
    exact ⟨type, ⟨group, hg, ht⟩, hc⟩

theorem any_admits_of_includes (h : Includes types v) :
    types.any (·.admits v.kind) = true := by
  obtain ⟨type, hmem, hc⟩ := h
  exact List.any_eq_true.2 ⟨type, hmem, admits_of_contains hc⟩

theorem withoutRepeats_subset : withoutRepeats types ⊆ types := by
  induction types with
  | nil => exact fun _ h => h
  | cons type rest ih =>
      rw [withoutRepeats]
      exact List.cons_subset_cons _ fun other h => ih (List.mem_filter.1 h).1

theorem withoutRepeats_filter_subset {p : InputType → Bool} :
    withoutRepeats (types.filter p) ⊆ types :=
  fun _ h => (List.mem_filter.1 (withoutRepeats_subset h)).1

/-- Dropping repeats keeps an equal of everything. -/
theorem exists_beq_withoutRepeats (h : a ∈ types) :
    ∃ b ∈ withoutRepeats types, (b == a) = true := by
  induction types with
  | nil => simp at h
  | cons type rest ih =>
      rw [withoutRepeats]
      rcases List.mem_cons.1 h with rfl | hrest
      · exact ⟨a, List.mem_cons_self, beq_refl a⟩
      · obtain ⟨b, hb, hba⟩ := ih hrest
        by_cases hrepeat : (type == b) = true
        · exact ⟨type, List.mem_cons_self, beq_trans hrepeat hba⟩
        · exact ⟨b, List.mem_cons_of_mem _ (List.mem_filter.2 ⟨hb, by simpa using hrepeat⟩), hba⟩

/-- Nothing is dropped for lying within a kind unless that kind is kept. -/
theorem exists_kept (hunknown : unknown ∉ types) (h : a ∈ types) :
    ∃ b ∈ types.filter fun type =>
        !types.any fun other => !(other == type) && type.isWithin other,
      a.isWithin b = true := by
  simp only [List.mem_filter, Bool.not_eq_true', List.any_eq_false, Bool.and_eq_true, not_and,
    Bool.not_eq_true]
  by_cases hmax : ∃ other ∈ types, (other == a) = false ∧ a.isWithin other = true
  · obtain ⟨other, hother, hne, hwithin⟩ := hmax
    have hnot : other ≠ unknown := fun hc => hunknown (hc ▸ hother)
    cases a with
    | kind k =>
        rcases isWithin_kind.1 hwithin with rfl | rfl
        · exact absurd rfl hnot
        · simp at hne
    | literal w =>
        rcases isWithin_literal.1 hwithin with rfl | rfl | hbeq
        · exact absurd rfl hnot
        · -- The kind itself is dropped for nothing, `unknown` being out.
          refine ⟨kind w.kind, ⟨hother, fun third hthird hne' => ?_⟩, hwithin⟩
          by_contra hc
          rw [Bool.not_eq_false, isWithin_kind] at hc
          rcases hc with rfl | rfl
          · exact hunknown hthird
          · simp at hne'
        · rw [beq_symm hbeq] at hne
          exact absurd hne (by decide)
  · refine ⟨a, ⟨h, fun other hother hne => ?_⟩, isWithin_refl a⟩
    by_contra hc
    exact hmax ⟨other, hother, by simpa using hne, by simpa using hc⟩

/-- Every type, `never` apart, lies within one of the others. -/
def CoveredBy (types others : List InputType) : Prop :=
  ∀ type ∈ types, type ≠ never → ∃ other ∈ others, type.isWithin other = true

theorem coveredBy_of_subset (h : left ⊆ right) : CoveredBy left right :=
  fun type hmem _ => ⟨type, h hmem, isWithin_refl type⟩

theorem includes_of_coveredBy (h : CoveredBy left right) (hv : Includes left v) :
    Includes right v := by
  obtain ⟨type, hmem, hc⟩ := hv
  obtain ⟨other, hother, hwithin⟩ := h type hmem fun hn => not_contains_never (hn ▸ hc)
  exact ⟨other, hother, contains_of_isWithin hwithin hc⟩

theorem unite_subset : unite types ⊆ types := by
  unfold unite
  split
  · rename_i hunknown
    obtain ⟨type, hmem, hbeq⟩ := List.any_eq_true.1 hunknown
    rw [beq_unknown.1 hbeq] at hmem
    exact List.cons_subset.2 ⟨hmem, List.nil_subset _⟩
  · exact fun type h => withoutRepeats_filter_subset (List.mem_filter.1 h).1

/-- Nothing is lost by dropping repeats. -/
theorem coveredBy_withoutRepeats :
    CoveredBy types (withoutRepeats (types.filter fun type => !(type == never))) := by
  intro type hmem hnever
  obtain ⟨other, hother, hbeq⟩ := exists_beq_withoutRepeats
    (List.mem_filter (p := fun type => !(type == never)).2
      ⟨hmem, by simpa [← beq_never] using hnever⟩)
  exact ⟨other, hother, isWithin_of_beq (beq_symm hbeq)⟩

/-- Nothing is lost by uniting types. -/
theorem coveredBy_unite : CoveredBy types (unite types) := by
  intro type hmem hnever
  unfold unite
  split
  · exact ⟨unknown, List.mem_singleton_self _, isWithin_unknown⟩
  · rename_i hunknown
    have hout : unknown ∉ withoutRepeats (types.filter fun type => !(type == never)) := by
      intro h
      have hmem := withoutRepeats_filter_subset h
      exact hunknown (List.any_eq_true.2 ⟨unknown, hmem, beq_refl unknown⟩)
    obtain ⟨other, hother, hwithin⟩ := coveredBy_withoutRepeats type hmem hnever
    obtain ⟨kept, hkept, hbelow⟩ := exists_kept hout hother
    exact ⟨kept, hkept, isWithin_trans hwithin hbelow⟩

/-- Uniting types changes no set of inputs. -/
theorem includes_unite : Includes (unite types) v ↔ Includes types v :=
  ⟨includes_of_subset unite_subset, includes_of_coveredBy coveredBy_unite⟩

theorem includes_intersect :
    Includes (intersect left right) v ↔ Includes left v ∧ Includes right v := by
  rw [intersect, includes_unite]
  simp only [Includes, List.mem_flatMap, List.mem_filterMap]
  constructor
  · intro h
    obtain ⟨type, ⟨a, ha, b, hb, hsome⟩, hc⟩ := h
    split at hsome
    · rename_i hwithin
      cases hsome
      exact ⟨⟨type, ha, hc⟩, ⟨b, hb, contains_of_isWithin hwithin hc⟩⟩
    · split at hsome
      · rename_i hwithin
        cases hsome
        exact ⟨⟨a, ha, contains_of_isWithin hwithin hc⟩, ⟨type, hb, hc⟩⟩
      · cases hsome
  · intro h
    obtain ⟨⟨a, ha, hac⟩, ⟨b, hb, hbc⟩⟩ := h
    by_cases hab : a.isWithin b = true
    · exact ⟨a, ⟨a, ha, b, hb, if_pos hab⟩, hac⟩
    · have hba := (isWithin_or_isWithin hac hbc).resolve_left hab
      exact ⟨b, ⟨a, ha, b, hb, (if_neg hab).trans (if_pos hba)⟩, hbc⟩

theorem includes_foldl_intersect {common : List InputType} {groups : List (List InputType)} :
    Includes (groups.foldl (fun common group => intersect common (unite group)) common) v ↔
      Includes common v ∧ ∀ group ∈ groups, Includes group v := by
  induction groups generalizing common with
  | nil => simp
  | cons group rest ih =>
      rw [List.foldl_cons, ih, includes_intersect, includes_unite, List.forall_mem_cons, and_assoc]

/-- Distributing groups leaves the values that are in every group. -/
theorem includes_distribute {groups : List (List InputType)} :
    Includes (distribute groups) v ↔ ∀ group ∈ groups, Includes group v := by
  cases groups with
  | nil => simp [distribute]
  | cons first rest =>
      rw [distribute, includes_foldl_intersect, includes_unite, List.forall_mem_cons]

end Conform.InputType
