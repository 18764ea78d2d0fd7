/-
What the visits of a container come to.

A container is accepted, with all its parts in order, exactly if every visit is, whichever
way issues are reported: the two ways differ in what they do after a part has failed.  Two
properties of a validator pass to the container from there.  One that keeps whatever it
accepts leaves the container nothing to change, and one that keeps its own outputs has
nothing left to do on a container of these.
-/
import Conform.Proofs.Rules
import Conform.Schema.Traversal
import Mathlib.Data.List.Forall2

namespace Conform

/-- What it accepts comes out as it went in. -/
def Keeps (validate : Value → Except Fault Outcome) : Prop :=
  ∀ v output, validate v = .ok (.accepted output) → output = .kept

/-- What comes out of it is accepted again, and then comes out as it went in. -/
def Stable (validate : Value → Except Fault Outcome) : Prop :=
  ∀ v output, validate v = .ok (.accepted output) →
    validate (output.resolve v) = .ok (.accepted .kept)

/-- Of two lists related item by item, every item of the first has its partner. -/
theorem exists_partner {α β : Type} {R : α → β → Prop} {as : List α} {bs : List β} {a : α}
    (h : List.Forall₂ R as bs) (ha : a ∈ as) : ∃ b, (a, b) ∈ as.zip bs ∧ R a b := by
  induction h with
  | nil => exact absurd ha List.not_mem_nil
  | cons hab _ ih =>
      rcases List.mem_cons.1 ha with rfl | hrest
      · exact ⟨_, List.mem_cons_self, hab⟩
      · obtain ⟨b, hzip, hb⟩ := ih hrest
        exact ⟨b, List.mem_cons_of_mem _ hzip, hb⟩

theorem Fit.clean_inj {a b : Output} : Fit.clean a = Fit.clean b ↔ a = b := by
  simp [Fit.clean]

namespace Visit

/-- The part is accepted, with the given output. -/
def Accepts (visit : Visit) (output : Output) : Prop :=
  visit.validate visit.part = .ok (.accepted output)

variable {verbose : Bool} {visits : List Visit} {outputs : List Output}

theorem all_eq_outputs_iff :
    all verbose visits = .ok (.outputs outputs) ↔ List.Forall₂ Accepts visits outputs := by
  induction visits generalizing outputs with
  | nil =>
      rw [List.forall₂_nil_left_iff]
      constructor
      · intro h
        cases h
        rfl
      · rintro rfl
        rfl
  | cons visit rest ih =>
      unfold all
      constructor
      · intro h
        split at h
        · cases h
        · rename_i output hvisit
          obtain ⟨findings, hrest, hcons⟩ := map_eq_ok_iff.1 h
          cases findings with
          | issues found => cases hcons
          | outputs later =>
              cases hcons
              exact .cons hvisit (ih.1 hrest)
        · split at h
          · obtain ⟨findings, -, hprepend⟩ := map_eq_ok_iff.1 h
            cases findings <;> cases hprepend
          · cases h
      · rintro (_ | ⟨hvisit, hrest⟩)
        rw [show visit.validate visit.part = _ from hvisit, ih.2 hrest]
        rfl

theorem all_kept (hkeeps : ∀ visit ∈ visits, Keeps visit.validate)
    (h : List.Forall₂ Accepts visits outputs) : ∀ output ∈ outputs, output = .kept := by
  induction h with
  | nil => exact fun _ hmem => absurd hmem List.not_mem_nil
  | cons hvisit _ ih =>
      rw [List.forall_mem_cons] at hkeeps ⊢
      exact ⟨hkeeps.1 _ _ hvisit, ih hkeeps.2⟩

theorem forall₂_kept (h : ∀ visit ∈ visits, visit.Accepts .kept) :
    List.Forall₂ Accepts visits (visits.map fun _ => .kept) := by
  rw [List.forall₂_map_right_iff, List.forall₂_same]
  exact h

end Visit

/-! ### The container -/

/-- The container as it stands, or as it was rebuilt. -/
def Output.orRebuilt (base : Output) (rebuilt : Option Value) : Output :=
  (rebuilt.map replaced).getD base

variable {verbose : Bool} {base output : Output} {visits : List Visit}
  {rebuild : List Output → Option Value} {v : Value}

theorem visitParts_eq_clean_iff :
    visitParts verbose base visits rebuild = .ok (.clean output) ↔
      ∃ outputs, List.Forall₂ Visit.Accepts visits outputs ∧
        output = base.orRebuilt (rebuild outputs) := by
  rw [visitParts, map_eq_ok_iff]
  constructor
  · intro h
    obtain ⟨findings, hall, hfit⟩ := h
    cases findings with
    | issues found => simp [Fit.clean, Issues.toList] at hfit
    | outputs outputs =>
        refine ⟨outputs, Visit.all_eq_outputs_iff.1 hall, ?_⟩
        cases hrebuild : rebuild outputs with
        | none =>
            simp only [hrebuild] at hfit
            exact (Fit.clean_inj.1 hfit).symm
        | some rebuilt =>
            simp only [hrebuild] at hfit
            exact (Fit.clean_inj.1 hfit).symm
  · intro h
    obtain ⟨outputs, hvisits, rfl⟩ := h
    refine ⟨_, Visit.all_eq_outputs_iff.2 hvisits, ?_⟩
    cases hrebuild : rebuild outputs <;> simp [hrebuild, Output.orRebuilt]

/-- If every part is accepted and kept, and that leaves nothing to rebuild, the container is
as it stands. -/
theorem visitParts_of_kept (hvisits : ∀ visit ∈ visits, visit.Accepts .kept)
    (hrebuild : ∀ outputs : List Output, (∀ output ∈ outputs, output = .kept) →
      rebuild outputs = none) :
    visitParts verbose base visits rebuild = .ok (.clean base) := by
  refine visitParts_eq_clean_iff.2 ⟨_, Visit.forall₂_kept hvisits, ?_⟩
  rw [hrebuild]
  · rfl
  · intro output hmem
    obtain ⟨visit, -, rfl⟩ := List.mem_map.1 hmem
    rfl

theorem eq_base_of_keeps (hkeeps : ∀ visit ∈ visits, Keeps visit.validate)
    (hrebuild : ∀ outputs : List Output, (∀ output ∈ outputs, output = .kept) →
      rebuild outputs = none)
    (h : visitParts verbose base visits rebuild = .ok (.clean output)) : output = base := by
  obtain ⟨outputs, hvisits, rfl⟩ := visitParts_eq_clean_iff.1 h
  rw [hrebuild outputs (Visit.all_kept hkeeps hvisits)]
  rfl

/-- The value a container comes out as holds what was rebuilt, or else what it stands for. -/
theorem resolve_orRebuilt {α : Type} {build : α → Value} {content : α} {rebuilt : Option α}
    (hbase : base.resolve v = build content) :
    (base.orRebuilt (rebuilt.map build)).resolve v = build (rebuilt.getD content) := by
  cases rebuilt with
  | none => exact hbase
  | some _ => rfl

end Conform
