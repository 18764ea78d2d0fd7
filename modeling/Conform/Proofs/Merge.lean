/-
Merging two values gives the least value above both.

A value lies below another that has everything it has: all its fields, with values above its
own, if it is an object, as many elements, each above its own, if it is an array, and otherwise
it must be equal.  Merging looks for equality first and takes the values apart only after that,
so what it computes depends on where the shortcut is taken.  Up to equality it does not: the
merge is the least upper bound in this order, and there is none exactly if no value lies above
both.  That it may be done in any order follows from there, without another look at how it is
done.
-/
import Conform.Proofs.Equality
import Conform.Value.Merge

namespace Conform

/-! ### The fields of one object and those of another -/

namespace Fields

variable {α : Type} {f g : Fields α} {entries : List (String × α)} {name : String} {value : α}

theorem get?_foldl_insert_of_not_mem (h : name ∉ entries.map Prod.fst) :
    (entries.foldl (fun f e => f.insert e.1 e.2) f).get? name = f.get? name := by
  induction entries generalizing f with
  | nil => rfl
  | cons e rest ih =>
      rw [List.map_cons, List.mem_cons, not_or] at h
      rw [List.foldl_cons, ih h.2, get?_insert, if_neg h.1]

theorem get?_foldl_insert (hdistinct : (entries.map Prod.fst).Nodup)
    (h : (name, value) ∈ entries) :
    (entries.foldl (fun f e => f.insert e.1 e.2) f).get? name = some value := by
  induction entries generalizing f with
  | nil => exact absurd h List.not_mem_nil
  | cons e rest ih =>
      rw [List.map_cons, List.nodup_cons] at hdistinct
      rw [List.foldl_cons]
      rcases List.mem_cons.1 h with rfl | hrest
      · rw [get?_foldl_insert_of_not_mem hdistinct.1, get?_insert, if_pos rfl]
      · exact ih hdistinct.2 hrest

/-- Fields that are extended keep their values, and have those of the others beside them. -/
theorem get?_extend (f g : Fields α) (name : String) :
    (f.extend g).get? name = (f.get? name).or (g.get? name) := by
  have hnew : ∀ value, (name, value) ∈ (g.entries.filter fun e => !f.contains e.1) ↔
      g.get? name = some value ∧ name ∉ f.names := by
    intro value
    rw [List.mem_filter, get?_eq_some_iff, Bool.not_eq_true', ← Bool.not_eq_true, contains_iff]
  have hdistinct : ((g.entries.filter fun e => !f.contains e.1).map Prod.fst).Nodup :=
    (List.filter_sublist.map Prod.fst).nodup g.nodup_entries
  unfold extend
  cases hf : f.get? name with
  | some old =>
      rw [get?_foldl_insert_of_not_mem, hf]
      · rfl
      · intro hmem
        obtain ⟨⟨_, value⟩, he, rfl⟩ := List.mem_map.1 hmem
        exact ((hnew value).1 he).2 (mem_names_iff_get?.2 ⟨old, hf⟩)
  | none =>
      rw [Option.none_or]
      cases hg : g.get? name with
      | some value =>
          have hname : name ∉ f.names := get?_eq_none_iff.1 hf
          exact get?_foldl_insert hdistinct ((hnew value).2 ⟨hg, hname⟩)
      | none =>
          rw [get?_foldl_insert_of_not_mem, hf]
          intro hmem
          obtain ⟨⟨_, value⟩, he, rfl⟩ := List.mem_map.1 hmem
          rw [((hnew value).1 he).1] at hg
          cases hg

end Fields

namespace Value

/-! ### The order -/

/-- `b` has everything that `a` has. -/
inductive Below : Value → Value → Prop
  | same {a b : Value} (h : Same a b) : Below a b
  | array {as bs : List Value} (h : List.Forall₂ Below as bs) : Below (.array as) (.array bs)
  | object {f g : Fields Value} (hnames : ∀ name ∈ f.names, name ∈ g.names)
      (hvalues : ∀ name a b, f.get? name = some a → g.get? name = some b → Below a b) :
      Below (.object f) (.object g)

/-- Every field of `f` is one of `g`, with a value above its own. -/
def FieldsBelow (f g : Fields Value) : Prop :=
  ∀ name a, f.get? name = some a → ∃ b, g.get? name = some b ∧ Below a b

theorem below_refl (a : Value) : Below a a :=
  .same (same_refl a)

theorem below_array_iff {as : List Value} {u : Value} :
    Below (array as) u ↔ ∃ us, u = array us ∧ List.Forall₂ Below as us := by
  constructor
  · intro h
    cases h with
    | same h =>
        obtain ⟨us, rfl, hus⟩ := same_array h
        exact ⟨us, rfl, hus.imp fun _ _ => .same⟩
    | array h => exact ⟨_, rfl, h⟩
  · rintro ⟨us, rfl, hus⟩
    exact .array hus

theorem below_object_iff {f : Fields Value} {u : Value} :
    Below (object f) u ↔ ∃ g, u = object g ∧ FieldsBelow f g := by
  constructor
  · intro h
    cases h with
    | same h =>
        obtain ⟨g, rfl, -, hwithin⟩ := same_fields h
        refine ⟨g, rfl, fun name a ha => ?_⟩
        obtain ⟨b, hb, hab⟩ := hwithin _ (Fields.get?_eq_some_iff.1 ha)
        exact ⟨b, hb, .same hab⟩
    | @object _ g hnames hvalues =>
        refine ⟨g, rfl, fun name a ha => ?_⟩
        have hname : name ∈ g.names := hnames name (Fields.mem_names_iff_get?.2 ⟨a, ha⟩)
        obtain ⟨b, hb⟩ := Fields.mem_names_iff_get?.1 hname
        exact ⟨b, hb, hvalues name a b ha hb⟩
  · rintro ⟨g, rfl, hfields⟩
    refine .object (fun name hname => ?_) (fun name a b ha hb => ?_)
    · obtain ⟨a, ha⟩ := Fields.mem_names_iff_get?.1 hname
      obtain ⟨b, hb, -⟩ := hfields name a ha
      exact Fields.mem_names_iff_get?.2 ⟨b, hb⟩
    · obtain ⟨b', hb', hab⟩ := hfields name a ha
      rw [hb, Option.some.injEq] at hb'
      rwa [hb']

/-- What the value is taken apart as, if it is.  Others lie below their equals only. -/
def apartAs : Value → Option Kind
  | array _ => some .array
  | object _ => some .object
  | _ => none

theorem apartAs_eq_of_same {a b : Value} (h : Same a b) : a.apartAs = b.apartAs := by
  cases a <;> cases b <;> simp_all [Same, same, apartAs]

theorem apartAs_eq_of_below {a b : Value} (h : Below a b) : a.apartAs = b.apartAs := by
  cases h with
  | same h => exact apartAs_eq_of_same h
  | array h => rfl
  | object hnames hvalues => rfl

theorem same_of_below {a b : Value} (hwhole : a.apartAs = none) (h : Below a b) : Same a b := by
  cases h with
  | same h => exact h
  | array h => cases hwhole
  | object hnames hvalues => cases hwhole

theorem below_trans {a b c : Value} (hab : Below a b) (hbc : Below b c) : Below a c := by
  induction a using Value.induction generalizing b c with
  | array items ih =>
      obtain ⟨bs, rfl, hbs⟩ := below_array_iff.1 hab
      obtain ⟨cs, rfl, hcs⟩ := below_array_iff.1 hbc
      exact .array (forall₂_trans_of_mem (fun a ha b c => ih a ha) hbs hcs)
  | object f ih =>
      obtain ⟨g, rfl, hfg⟩ := below_object_iff.1 hab
      obtain ⟨k, rfl, hgk⟩ := below_object_iff.1 hbc
      refine below_object_iff.2 ⟨k, rfl, fun name x hx => ?_⟩
      obtain ⟨y, hy, hxy⟩ := hfg name x hx
      obtain ⟨z, hz, hyz⟩ := hgk name y hy
      exact ⟨z, hz, ih _ (Fields.get?_eq_some_iff.1 hx) hxy hyz⟩
  | _ =>
      have hb : b.apartAs = none := (apartAs_eq_of_below hab).symm
      exact .same (same_trans (same_of_below rfl hab) (same_of_below hb hbc))

theorem names_subset_of_fieldsBelow {f g : Fields Value} (h : FieldsBelow f g) :
    f.names ⊆ g.names := by
  intro name hname
  obtain ⟨a, ha⟩ := Fields.mem_names_iff_get?.1 hname
  obtain ⟨b, hb, -⟩ := h name a ha
  exact Fields.mem_names_iff_get?.2 ⟨b, hb⟩

/-- Relations both ways between the members of two lists give what they give for each pair. -/
theorem forall₂_of_both_ways {α : Type} {R S : α → α → Prop} {as bs : List α}
    (h : ∀ a ∈ as, ∀ b, R a b → R b a → S a b) (hab : List.Forall₂ R as bs)
    (hba : List.Forall₂ R bs as) : List.Forall₂ S as bs := by
  induction hab with
  | nil => exact .nil
  | cons hhead _ ih =>
      cases hba with
      | cons hhead' hrest =>
          rw [List.forall_mem_cons] at h
          exact .cons (h.1 _ hhead hhead') (ih h.2 hrest)

theorem same_of_below_of_below {a b : Value} (hab : Below a b) (hba : Below b a) : Same a b := by
  induction a using Value.induction generalizing b with
  | array items ih =>
      obtain ⟨bs, rfl, hbs⟩ := below_array_iff.1 hab
      obtain ⟨as, has, hflip⟩ := below_array_iff.1 hba
      obtain rfl := Value.array.inj has
      exact sameList_iff.2 (forall₂_of_both_ways (fun a ha b => ih a ha) hbs hflip)
  | object f ih =>
      obtain ⟨g, rfl, hfg⟩ := below_object_iff.1 hab
      obtain ⟨f', hf', hgf⟩ := below_object_iff.1 hba
      obtain rfl := Value.object.inj hf'
      have hfewer : f.size ≤ g.size :=
        (List.subperm_of_subset f.distinct (names_subset_of_fieldsBelow hfg)).length_le
      have hmore : g.size ≤ f.size :=
        (List.subperm_of_subset g.distinct (names_subset_of_fieldsBelow hgf)).length_le
      refine same_object_iff.2 ⟨Nat.le_antisymm hfewer hmore, fun e he => ?_⟩
      have hget : f.get? e.1 = some e.2 := Fields.get?_eq_some_iff.2 he
      obtain ⟨b, hb, hbelow⟩ := hfg e.1 e.2 hget
      obtain ⟨a, ha, habove⟩ := hgf e.1 b hb
      rw [hget, Option.some.injEq] at ha
      subst ha
      exact ⟨b, hb, ih e he hbelow habove⟩
  | _ => exact same_of_below rfl hab

/-! ### Least upper bounds -/

/-- Nothing less than the result has all the parts below it, or there is no result and nothing
has. -/
def IsJoin {α : Type} (le : α → α → Prop) (parts : List α) : Option α → Prop
  | some c => (∀ a ∈ parts, le a c) ∧ ∀ u, (∀ a ∈ parts, le a u) → le c u
  | none => ∀ u, ¬ ∀ a ∈ parts, le a u

section Joins

variable {α β : Type} {le : α → α → Prop} {a b c : α}

theorem isJoin_pair_some :
    IsJoin le [a, b] (some c) ↔ (le a c ∧ le b c) ∧ ∀ u, le a u → le b u → le c u := by
  simp [IsJoin]

theorem isJoin_pair_none : IsJoin le [a, b] none ↔ ∀ u, le a u → ¬ le b u := by
  simp [IsJoin]

/-- Where all that lies above something wrapped is wrapped, a join is wrapped as well. -/
theorem IsJoin.wrap {le' : β → β → Prop} {wrap : α → β} {joined : Option α}
    (hinj : Function.Injective wrap) (hwrap : ∀ a u, le' (wrap a) u ↔ ∃ v, u = wrap v ∧ le a v)
    (h : IsJoin le [a, b] joined) : IsJoin le' [wrap a, wrap b] (joined.map wrap) := by
  have hbound : ∀ u, le' (wrap a) u → le' (wrap b) u → ∃ v, u = wrap v ∧ le a v ∧ le b v := by
    intro u ha hb
    obtain ⟨v, rfl, hav⟩ := (hwrap a u).1 ha
    obtain ⟨w, hw, hbw⟩ := (hwrap b _).1 hb
    obtain rfl := hinj hw
    exact ⟨v, rfl, hav, hbw⟩
  cases joined with
  | none =>
      rw [isJoin_pair_none] at h
      refine isJoin_pair_none.2 fun u ha hb => ?_
      obtain ⟨v, -, hav, hbv⟩ := hbound u ha hb
      exact h v hav hbv
  | some c =>
      obtain ⟨⟨hac, hbc⟩, hleast⟩ := isJoin_pair_some.1 h
      refine isJoin_pair_some.2 ⟨⟨(hwrap a _).2 ⟨c, rfl, hac⟩, (hwrap b _).2 ⟨c, rfl, hbc⟩⟩, ?_⟩
      intro u ha hb
      obtain ⟨v, rfl, hav, hbv⟩ := hbound u ha hb
      exact (hwrap c _).2 ⟨v, rfl, hleast v hav hbv⟩

/-- Lists are joined by joining their first elements and the rests. -/
theorem IsJoin.cons {as bs : List α} {joined : Option α} {rest : Option (List α)}
    (hjoined : IsJoin le [a, b] joined) (hrest : IsJoin (List.Forall₂ le) [as, bs] rest) :
    IsJoin (List.Forall₂ le) [a :: as, b :: bs]
      (joined.bind fun c => rest.map fun cs => c :: cs) := by
  cases joined with
  | none =>
      rw [isJoin_pair_none] at hjoined
      refine isJoin_pair_none.2 fun us has hbs => ?_
      obtain ⟨u, _, ha, -, rfl⟩ := List.forall₂_cons_left_iff.1 has
      exact hjoined u ha (List.forall₂_cons.1 hbs).1
  | some c =>
      obtain ⟨⟨hac, hbc⟩, hleast⟩ := isJoin_pair_some.1 hjoined
      cases rest with
      | none =>
          rw [isJoin_pair_none] at hrest
          refine isJoin_pair_none.2 fun us has hbs => ?_
          cases has with
          | cons _ has => exact hrest _ has (List.forall₂_cons.1 hbs).2
      | some cs =>
          obtain ⟨⟨hacs, hbcs⟩, hrestleast⟩ := isJoin_pair_some.1 hrest
          refine isJoin_pair_some.2 ⟨⟨.cons hac hacs, .cons hbc hbcs⟩, fun us has hbs => ?_⟩
          obtain ⟨u, us', ha, has', rfl⟩ := List.forall₂_cons_left_iff.1 has
          obtain ⟨hb, hbs'⟩ := List.forall₂_cons.1 hbs
          exact .cons (hleast u ha hb) (hrestleast us' has' hbs')

end Joins

theorem mergeList?_cons {a b : Value} {as bs : List Value} :
    mergeList? (a :: as) (b :: bs) =
      (merge? a b).bind fun c => (mergeList? as bs).map fun cs => c :: cs := by
  simp only [mergeList?, Option.bind_eq_bind, Option.pure_def, Option.map_eq_bind]
  rfl

theorem isJoin_mergeList {as : List Value}
    (h : ∀ a ∈ as, ∀ b, IsJoin Below [a, b] (merge? a b)) (bs : List Value) :
    IsJoin (List.Forall₂ Below) [as, bs] (mergeList? as bs) := by
  induction as generalizing bs with
  | nil =>
      cases bs with
      | nil => exact isJoin_pair_some.2 ⟨⟨.nil, .nil⟩, fun us hus _ => hus⟩
      | cons b bs =>
          refine isJoin_pair_none.2 fun us hus hbs => ?_
          rw [List.forall₂_nil_left_iff] at hus
          rw [hus] at hbs
          cases hbs
  | cons a as ih =>
      rw [List.forall_mem_cons] at h
      cases bs with
      | nil =>
          refine isJoin_pair_none.2 fun us has hus => ?_
          rw [List.forall₂_nil_left_iff] at hus
          rw [hus] at has
          cases has
      | cons b bs =>
          rw [mergeList?_cons]
          exact (h.1 b).cons (ih h.2 bs)

/-- The value with the one that another object has under its name merged into it. -/
def mergeField? (a : Value) : Option Value → Option Value
  | some b => merge? a b
  | none => some a

theorem mergeRow?_cons {names : List String} {name : String} {a : Value} {rest : Row Value names}
    {other : String → Option Value} :
    mergeRow? (.cons name a rest) other = (mergeField? a (other name)).bind fun merged =>
      (mergeRow? rest other).map (.cons name merged) := by
  simp only [mergeRow?, Option.bind_eq_bind, Option.pure_def, Option.map_eq_bind]
  cases other name <;> rfl

theorem exists_merged_of_mergeRow {names : List String} {row merged : Row Value names}
    {other : String → Option Value} (h : mergeRow? row other = some merged) :
    ∀ e ∈ row.toList, ∃ c, (e.1, c) ∈ merged.toList ∧ mergeField? e.2 (other e.1) = some c := by
  induction row with
  | nil => exact fun e he => absurd he List.not_mem_nil
  | cons name a rest ih =>
      rw [mergeRow?_cons, Option.bind_eq_some_iff] at h
      obtain ⟨c, hc, hrest⟩ := h
      obtain ⟨tail, htail, rfl⟩ := Option.map_eq_some_iff.1 hrest
      rw [Row.toList, Row.toList, List.forall_mem_cons]
      refine ⟨⟨c, List.mem_cons_self, hc⟩, fun e he => ?_⟩
      obtain ⟨d, hd, hmerge⟩ := ih htail e he
      exact ⟨d, List.mem_cons_of_mem _ hd, hmerge⟩

/-- A row that cannot be merged has a value that cannot. -/
theorem exists_conflict_of_mergeRow {names : List String} {row : Row Value names}
    {other : String → Option Value} (h : mergeRow? row other = none) :
    ∃ e ∈ row.toList, mergeField? e.2 (other e.1) = none := by
  induction row with
  | nil => cases h
  | cons name a rest ih =>
      rw [mergeRow?_cons, Option.bind_eq_none_iff] at h
      cases hc : mergeField? a (other name) with
      | none => exact ⟨(name, a), List.mem_cons_self, hc⟩
      | some c =>
          obtain ⟨e, he, hconflict⟩ := ih (Option.map_eq_none_iff.1 (h c hc))
          exact ⟨e, List.mem_cons_of_mem _ he, hconflict⟩

/-- The fields of both, with the values under common names merged. -/
def mergeFields? (f g : Fields Value) : Option (Fields Value) :=
  (mergeRow? f.row g.get?).map fun merged => Fields.extend ⟨f.names, f.distinct, merged⟩ g

section MergeFields

variable {f g m : Fields Value} {name : String} {a : Value}

/-- A field of the first comes out with what the other has under its name merged into it. -/
theorem get?_mergeFields_of_some (hm : mergeFields? f g = some m) (ha : f.get? name = some a) :
    ∃ c, m.get? name = some c ∧ mergeField? a (g.get? name) = some c := by
  obtain ⟨merged, hmerged, rfl⟩ := Option.map_eq_some_iff.1 hm
  obtain ⟨c, hc, hmerge⟩ :=
    exists_merged_of_mergeRow hmerged (name, a) (Fields.get?_eq_some_iff.1 ha)
  refine ⟨c, ?_, hmerge⟩
  have hget : Fields.get? ⟨f.names, f.distinct, merged⟩ name = some c :=
    Fields.get?_eq_some_iff.2 hc
  rw [Fields.get?_extend, hget, Option.some_or]

/-- What the first has no field for is as the other has it. -/
theorem get?_mergeFields_of_none (hm : mergeFields? f g = some m) (hf : f.get? name = none) :
    m.get? name = g.get? name := by
  obtain ⟨merged, -, rfl⟩ := Option.map_eq_some_iff.1 hm
  have hnot : name ∉ f.names := Fields.get?_eq_none_iff.1 hf
  have hget : Fields.get? ⟨f.names, f.distinct, merged⟩ name = none :=
    Fields.get?_eq_none_iff.2 hnot
  rw [Fields.get?_extend, hget, Option.none_or]

/-- Fields that cannot be merged have values under a common name that cannot. -/
theorem exists_conflict_of_mergeFields (hm : mergeFields? f g = none) :
    ∃ name a b, f.get? name = some a ∧ g.get? name = some b ∧ merge? a b = none := by
  obtain ⟨⟨name, a⟩, he, hconflict⟩ := exists_conflict_of_mergeRow (Option.map_eq_none_iff.1 hm)
  have ha : f.get? name = some a := Fields.get?_eq_some_iff.2 he
  cases hb : g.get? name with
  | none =>
      rw [hb] at hconflict
      cases hconflict
  | some b =>
      rw [hb] at hconflict
      exact ⟨name, a, b, ha, hb, hconflict⟩

/-- Under a name that both have the merge is the join, and elsewhere there is nothing to join. -/
theorem least_mergeField {c : Value} {field : Option Value}
    (hjoin : ∀ b, IsJoin Below [a, b] (merge? a b)) (hc : mergeField? a field = some c) :
    (Below a c ∧ ∀ b ∈ field, Below b c) ∧
      ∀ u, Below a u → (∀ b ∈ field, Below b u) → Below c u := by
  cases field with
  | none =>
      obtain rfl := Option.some.inj hc
      exact ⟨⟨below_refl a, by rintro b ⟨⟩⟩, fun u hu _ => hu⟩
  | some b =>
      have hsome := hjoin b
      rw [show merge? a b = some c from hc, isJoin_pair_some] at hsome
      obtain ⟨⟨hac, hbc⟩, hleast⟩ := hsome
      refine ⟨⟨hac, ?_⟩, fun u hau hbu => hleast u hau (hbu b rfl)⟩
      rintro _ ⟨⟩
      exact hbc

section Join

variable (hjoin : ∀ e ∈ f.entries, ∀ b, IsJoin Below [e.2, b] (merge? e.2 b))

include hjoin

theorem not_fieldsBelow_of_conflict {u : Fields Value} (hm : mergeFields? f g = none)
    (hf : FieldsBelow f u) : ¬ FieldsBelow g u := by
  obtain ⟨name, a, b, ha, hb, hconflict⟩ := exists_conflict_of_mergeFields hm
  intro hg
  obtain ⟨x, hx, hax⟩ := hf name a ha
  obtain ⟨y, hy, hby⟩ := hg name b hb
  obtain rfl : x = y := Option.some.inj (hx.symm.trans hy)
  have hnone := hjoin _ (Fields.get?_eq_some_iff.1 ha) b
  rw [hconflict, isJoin_pair_none] at hnone
  exact hnone x hax hby

theorem fieldsBelow_mergeFields (hm : mergeFields? f g = some m) :
    FieldsBelow f m ∧ FieldsBelow g m := by
  constructor
  · intro name a ha
    obtain ⟨c, hget, hc⟩ := get?_mergeFields_of_some hm ha
    exact ⟨c, hget, (least_mergeField (hjoin _ (Fields.get?_eq_some_iff.1 ha)) hc).1.1⟩
  · intro name b hb
    cases ha : f.get? name with
    | none => exact ⟨b, (get?_mergeFields_of_none hm ha).trans hb, below_refl b⟩
    | some a =>
        obtain ⟨c, hget, hc⟩ := get?_mergeFields_of_some hm ha
        exact ⟨c, hget, (least_mergeField (hjoin _ (Fields.get?_eq_some_iff.1 ha)) hc).1.2 b hb⟩

theorem mergeFields_fieldsBelow {u : Fields Value} (hm : mergeFields? f g = some m)
    (hf : FieldsBelow f u) (hg : FieldsBelow g u) : FieldsBelow m u := by
  intro name c hget
  cases ha : f.get? name with
  | none =>
      rw [get?_mergeFields_of_none hm ha] at hget
      exact hg name c hget
  | some a =>
      obtain ⟨c', hget', hc⟩ := get?_mergeFields_of_some hm ha
      obtain rfl : c = c' := Option.some.inj (hget.symm.trans hget')
      obtain ⟨x, hx, hax⟩ := hf name a ha
      refine ⟨x, hx, (least_mergeField (hjoin _ (Fields.get?_eq_some_iff.1 ha)) hc).2 x hax ?_⟩
      intro b hb
      obtain ⟨y, hy, hby⟩ := hg name b hb
      obtain rfl : x = y := Option.some.inj (hx.symm.trans hy)
      exact hby

theorem isJoin_mergeFields : IsJoin FieldsBelow [f, g] (mergeFields? f g) := by
  cases hm : mergeFields? f g with
  | none => exact isJoin_pair_none.2 fun u => not_fieldsBelow_of_conflict hjoin hm
  | some m =>
      exact isJoin_pair_some.2
        ⟨fieldsBelow_mergeFields hjoin hm, fun u => mergeFields_fieldsBelow hjoin hm⟩

end Join

end MergeFields

/-! ### Merging values -/

section Merge

variable {a b : Value}

theorem merge?_of_same (h : Same a b) : merge? a b = some a := by
  unfold merge?
  exact if_pos h

theorem merge?_array {as bs : List Value} (h : ¬ Same (array as) (array bs)) :
    merge? (array as) (array bs) = (mergeList? as bs).map array := by
  unfold merge?
  exact if_neg h

theorem merge?_object {f g : Fields Value} (h : ¬ Same (object f) (object g)) :
    merge? (object f) (object g) = (mergeFields? f g).map object := by
  rw [mergeFields?, Option.map_map]
  unfold merge?
  exact if_neg h

/-- Values that are equal are joined by either. -/
theorem isJoin_of_same (h : Same a b) : IsJoin Below [a, b] (some a) :=
  isJoin_pair_some.2 ⟨⟨below_refl a, .same (same_symm h)⟩, fun _ ha _ => ha⟩

/-- Values that differ have nothing above both, unless they are taken apart the same way. -/
theorem isJoin_of_apart (hsame : ¬ Same a b) (h : a.apartAs = none ∨ a.apartAs ≠ b.apartAs) :
    IsJoin Below [a, b] (merge? a b) := by
  have hnone : merge? a b = none := by
    unfold merge?
    refine (if_neg hsame).trans ?_
    split
    · simp [apartAs] at h
    · simp [apartAs] at h
    · rfl
  rw [hnone]
  refine isJoin_pair_none.2 fun u ha hb => ?_
  have hparts : a.apartAs = b.apartAs :=
    (apartAs_eq_of_below ha).trans (apartAs_eq_of_below hb).symm
  rcases h with hwhole | hne
  · have hother : Same b u := same_of_below (hparts ▸ hwhole) hb
    exact hsame (same_trans (same_of_below hwhole ha) (same_symm hother))
  · exact hne hparts

/-- Merging is taking the least upper bound. -/
theorem isJoin_merge (a b : Value) : IsJoin Below [a, b] (merge? a b) := by
  have hunless : ∀ {a b}, (¬ Same a b → IsJoin Below [a, b] (merge? a b)) →
      IsJoin Below [a, b] (merge? a b) := by
    intro a b h
    by_cases hsame : Same a b
    · rw [merge?_of_same hsame]
      exact isJoin_of_same hsame
    · exact h hsame
  induction a using Value.induction generalizing b with
  | array as ih =>
      refine hunless fun hsame => ?_
      cases b with
      | array bs =>
          rw [merge?_array hsame]
          have hparts := isJoin_mergeList ih bs
          exact hparts.wrap (fun _ _ => Value.array.inj) fun _ _ => below_array_iff
      | _ => exact isJoin_of_apart hsame (Or.inr (by simp [apartAs]))
  | object f ih =>
      refine hunless fun hsame => ?_
      cases b with
      | object g =>
          rw [merge?_object hsame]
          have hparts := isJoin_mergeFields (g := g) ih
          exact hparts.wrap (fun _ _ => Value.object.inj) fun _ _ => below_object_iff
      | _ => exact isJoin_of_apart hsame (Or.inr (by simp [apartAs]))
  | _ => exact hunless fun hsame => isJoin_of_apart hsame (Or.inl rfl)

/-! ### Merging many -/

variable {as bs : List Value} {joined joined' : Option Value}

theorem isJoin_single (a : Value) : IsJoin Below [a] (some a) := by
  rw [IsJoin, List.forall_mem_singleton]
  exact ⟨below_refl a, fun u hu => hu a (List.mem_singleton_self a)⟩

/-- Of what is merged already, only the results have to be merged. -/
theorem IsJoin.merge (ha : IsJoin Below as joined) (hb : IsJoin Below bs joined') :
    IsJoin Below (as ++ bs) (joined.bind fun a => joined'.bind fun b => merge? a b) := by
  cases joined with
  | none => exact fun u hu => ha u (List.forall_mem_append.1 hu).1
  | some a =>
      cases joined' with
      | none => exact fun u hu => hb u (List.forall_mem_append.1 hu).2
      | some b =>
          have hmerge := isJoin_merge a b
          show IsJoin Below (as ++ bs) (merge? a b)
          cases hm : merge? a b with
          | none =>
              rw [hm, isJoin_pair_none] at hmerge
              intro u hu
              rw [List.forall_mem_append] at hu
              exact hmerge u (ha.2 u hu.1) (hb.2 u hu.2)
          | some m =>
              rw [hm, isJoin_pair_some] at hmerge
              obtain ⟨⟨ham, hbm⟩, hleast⟩ := hmerge
              refine ⟨List.forall_mem_append.2 ⟨?_, ?_⟩, fun u hu => ?_⟩
              · exact fun w hw => below_trans (ha.1 w hw) ham
              · exact fun w hw => below_trans (hb.1 w hw) hbm
              · rw [List.forall_mem_append] at hu
                exact hleast u (ha.2 u hu.1) (hb.2 u hu.2)

/-- The same values have the same join, in whatever order and however often they are given. -/
theorem IsJoin.rel (hmem : ∀ w, w ∈ as ↔ w ∈ bs) (ha : IsJoin Below as joined)
    (hb : IsJoin Below bs joined') : Option.Rel Same joined joined' := by
  simp only [IsJoin, ← hmem] at hb
  cases joined with
  | none =>
      cases joined' with
      | none => exact .none
      | some b => exact absurd hb.1 (ha b)
  | some a =>
      cases joined' with
      | none => exact absurd ha.1 (hb a)
      | some b => exact .some (same_of_below_of_below (ha.2 b hb.1) (hb.2 a ha.1))

/-- **Merging computes least upper bounds.**  Two values merge exactly if some value lies above
both, and then to the least such value.  So, up to equality, it makes no difference in which
order values are merged, where a conflict of any two leaves nothing, and a value merged with
itself stays as it is. -/
theorem merge_least (a b c : Value) :
    ((merge? a b).isSome ↔ ∃ u, Below a u ∧ Below b u) ∧
      (∀ m, merge? a b = some m →
        Below a m ∧ Below b m ∧ ∀ u, Below a u → Below b u → Below m u) ∧
      Option.Rel Same (merge? a b) (merge? b a) ∧
      Option.Rel Same ((merge? a b).bind fun m => merge? m c)
        ((merge? b c).bind fun m => merge? a m) ∧
      Option.Rel Same (merge? a a) (some a) := by
  have hab := isJoin_merge a b
  have hleft := hab.merge (isJoin_single c)
  have hright := (isJoin_single a).merge (isJoin_merge b c)
  refine ⟨?_, fun m hm => ?_, ?_, hleft.rel (fun w => Iff.rfl) hright, ?_⟩
  · cases hm : merge? a b with
    | none =>
        rw [hm, isJoin_pair_none] at hab
        refine iff_of_false Bool.false_ne_true fun h => ?_
        obtain ⟨u, ha, hb⟩ := h
        exact hab u ha hb
    | some m =>
        rw [hm, isJoin_pair_some] at hab
        exact iff_of_true rfl ⟨m, hab.1⟩
  · rw [hm, isJoin_pair_some] at hab
    exact ⟨hab.1.1, hab.1.2, hab.2⟩
  · exact hab.rel (by simp [or_comm]) (isJoin_merge b a)
  · rw [merge?_of_same (same_refl a)]
    exact .some (same_refl a)

end Merge

end Value

end Conform
