/-
What is left of rules that are added one after the other.

A key is a claim to a place.  The first rule with a key takes a place after all the others, and
every later one with this key takes over that place and leaves the order as it is.  So after any
number of additions there is one rule for each key, the last that was added, where the first one
stood, and between them stand the rules without a key.
-/
import Conform.Proofs.AddedRules
import Mathlib.Data.List.Induction
import Mathlib.Data.List.Nodup

namespace Conform

variable {rule other : Rule} {rules added : Rules}

namespace Rule

theorem yieldsTo_iff : other.yieldsTo rule = true ↔
    ∃ key, rule.key = some key ∧ other.key = some key := by
  rw [yieldsTo, Bool.and_eq_true, Option.isSome_iff_exists, beq_iff_eq]
  constructor
  · rintro ⟨⟨key, hkey⟩, hsame⟩
    exact ⟨key, hkey, hsame.trans hkey⟩
  · rintro ⟨key, hkey, hother⟩
    exact ⟨⟨key, hkey⟩, hother.trans hkey.symm⟩

theorem yieldsTo_comm (other rule : Rule) : other.yieldsTo rule = rule.yieldsTo other := by
  rw [Bool.eq_iff_iff, yieldsTo_iff, yieldsTo_iff]
  exact exists_congr fun key => and_comm

theorem yieldsTo_congr {rule' : Rule} (h : rule.key = rule'.key) (other : Rule) :
    rule.yieldsTo other = rule'.yieldsTo other := by
  rw [yieldsTo, yieldsTo, h]

/-- Rules of which one yields to the other yield to the same rules. -/
theorem yieldsTo_congr_of_yields (h : other.yieldsTo rule = true) (third : Rule) :
    other.yieldsTo third = rule.yieldsTo third := by
  obtain ⟨key, hkey, hother⟩ := yieldsTo_iff.1 h
  exact yieldsTo_congr (hother.trans hkey.symm) third

theorem yieldsTo_self (rule : Rule) : rule.yieldsTo rule = rule.key.isSome := by
  rw [yieldsTo, beq_self_eq_true, Bool.and_true]

end Rule

namespace Rules

/-! ### One more rule -/

/-- No rule yields to another one. -/
def KeysDiffer (rules : Rules) : Prop :=
  rules.Pairwise fun rule other => other.yieldsTo rule = false

theorem push_of_new (h : ∀ other ∈ rules, other.yieldsTo rule = false) :
    rules.push rule = rules ++ [rule] := by
  have hplace : rules.place rule = rules.length := List.findIdx_eq_length.2 h
  rw [push_eq, hplace, List.take_length, List.drop_of_length_le (Nat.le_succ _)]

/-- Where no two rules have one key, the rule stands for the one with its key. -/
theorem push_of_yields (hdiffer : rules.KeysDiffer)
    (h : ∃ other ∈ rules, other.yieldsTo rule = true) :
    rules.push rule = rules.map fun other => if other.yieldsTo rule then rule else other := by
  induction rules with
  | nil =>
      obtain ⟨other, hother, -⟩ := h
      exact absurd hother List.not_mem_nil
  | cons first rest ih =>
      obtain ⟨hfirst, hrest⟩ := List.pairwise_cons.1 hdiffer
      rw [push_cons, List.map_cons]
      by_cases hyields : first.yieldsTo rule = true
      · rw [if_pos hyields, if_pos hyields]
        -- The key is taken, so that none of the rules that follow has it.
        have hothers : ∀ other ∈ rest,
            (if other.yieldsTo rule then rule else other) = other := fun other hother => by
          have hsame : other.yieldsTo rule = other.yieldsTo first := by
            rw [Rule.yieldsTo_comm, Rule.yieldsTo_comm other,
              Rule.yieldsTo_congr_of_yields hyields]
          rw [hsame, hfirst other hother, if_neg Bool.false_ne_true]
        rw [List.map_congr_left hothers, List.map_id']
      · rw [List.exists_mem_cons_iff] at h
        rw [if_neg hyields, if_neg hyields, ih hrest (h.resolve_left hyields)]

/-- A rule with a key that is added once more finds itself in its place. -/
theorem push_push (hkey : rule.key.isSome = true) :
    (rules.push rule).push rule = rules.push rule := by
  have hself : rule.yieldsTo rule = true := (Rule.yieldsTo_self rule).trans hkey
  induction rules with
  | nil =>
      show Rules.push [rule] rule = [rule]
      rw [push_cons, if_pos hself]
  | cons first rest ih =>
      rw [push_cons]
      by_cases hyields : first.yieldsTo rule = true
      · rw [if_pos hyields, push_cons, if_pos hself]
      · rw [if_neg hyields, push_cons, if_neg hyields, ih]

/-! ### Any number of rules -/

/-- The rules that take a place when they are added: those without a key, and of the rules with
one key the first. -/
def openers : List Rule → List Rule
  | [] => []
  | rule :: rest => rule :: (openers rest).filter fun later => !later.yieldsTo rule

/-- The last rule that was added with the key of `opener`, which is `opener` itself if it has no
key. -/
def latest (added : List Rule) (opener : Rule) : Rule :=
  (added.filter (·.yieldsTo opener)).getLast?.getD opener

/-- The latest rule for every place that was taken. -/
def placed (added : List Rule) : Rules :=
  (openers added).map (latest added)

/-! ### The places -/

theorem mem_of_mem_openers (h : rule ∈ openers added) : rule ∈ added := by
  induction added with
  | nil => exact h
  | cons first rest ih =>
      rcases List.mem_cons.1 h with rfl | hlater
      · exact List.mem_cons_self
      · exact List.mem_cons_of_mem _ (ih (List.mem_filter.1 hlater).1)

theorem keysDiffer_openers (added : List Rule) : KeysDiffer (openers added) := by
  induction added with
  | nil => exact .nil
  | cons first rest ih =>
      refine List.pairwise_cons.2 ⟨fun later hlater => ?_, List.Pairwise.filter _ ih⟩
      simpa using (List.mem_filter.1 hlater).2

theorem exists_opener (h : ∃ other ∈ added, other.yieldsTo rule = true) :
    ∃ opener ∈ openers added, opener.yieldsTo rule = true := by
  induction added with
  | nil => exact h
  | cons first rest ih =>
      by_cases hfirst : first.yieldsTo rule = true
      · exact ⟨first, List.mem_cons_self, hfirst⟩
      · rw [List.exists_mem_cons_iff] at h
        obtain ⟨opener, hopener, hyields⟩ := ih (h.resolve_left hfirst)
        refine ⟨opener, List.mem_cons_of_mem _ (List.mem_filter.2 ⟨hopener, ?_⟩), hyields⟩
        rw [Rule.yieldsTo_congr_of_yields hyields, Rule.yieldsTo_comm rule,
          Bool.eq_false_iff.2 hfirst]
        rfl

theorem openers_append_singleton (added : List Rule) (rule : Rule) :
    openers (added ++ [rule]) =
      if added.any (·.yieldsTo rule) then openers added else openers added ++ [rule] := by
  induction added with
  | nil => rfl
  | cons first rest ih =>
      rw [List.cons_append, openers, ih, openers, List.any_cons, Rule.yieldsTo_comm first]
      cases hfirst : rule.yieldsTo first <;> cases rest.any (·.yieldsTo rule) <;>
        simp [hfirst]

/-! ### The rules in the places -/

theorem latest_append_singleton (added : List Rule) (rule opener : Rule) :
    latest (added ++ [rule]) opener =
      if rule.yieldsTo opener then rule else latest added opener := by
  rw [latest, List.filter_append]
  by_cases hyields : rule.yieldsTo opener = true
  · have hone : [rule].filter (·.yieldsTo opener) = [rule] := by simp [hyields]
    rw [if_pos hyields, hone, List.getLast?_concat]
    rfl
  · have hnone : [rule].filter (·.yieldsTo opener) = [] := by simp [hyields]
    rw [if_neg hyields, hnone, List.append_nil]
    rfl

theorem key_latest (added : List Rule) (opener : Rule) :
    (latest added opener).key = opener.key := by
  rw [latest]
  cases hlast : (added.filter (·.yieldsTo opener)).getLast? with
  | none => rfl
  | some last =>
      have hyields := (List.mem_filter.1 (List.mem_of_getLast? hlast)).2
      obtain ⟨key, hkey, hlastKey⟩ := Rule.yieldsTo_iff.1 hyields
      exact hlastKey.trans hkey.symm

theorem yieldsTo_latest (added : List Rule) (opener rule : Rule) :
    (latest added opener).yieldsTo rule = opener.yieldsTo rule :=
  Rule.yieldsTo_congr (key_latest added opener) rule

theorem keysDiffer_placed (added : List Rule) : (placed added).KeysDiffer := by
  rw [KeysDiffer, placed, List.pairwise_map]
  refine (keysDiffer_openers added).imp fun {first later} hdiffer => ?_
  rw [yieldsTo_latest, Rule.yieldsTo_comm, yieldsTo_latest, Rule.yieldsTo_comm, hdiffer]

theorem nodup_keys_of_keysDiffer (h : rules.KeysDiffer) : (rules.filterMap Rule.key).Nodup := by
  refine List.pairwise_filterMap.2 (h.imp fun {rule other} hdiffer key hkey key' hkey' hsame => ?_)
  have hyields : other.yieldsTo rule = true :=
    Rule.yieldsTo_iff.2 ⟨key, hkey, hkey'.trans (congrArg some hsame.symm)⟩
  exact Bool.false_ne_true (hdiffer.symm.trans hyields)

/-! ### Adding rules one by one -/

/-- A rule whose key is in use takes over the place with this key. -/
theorem push_placed_of_used (h : added.any (·.yieldsTo rule) = true) :
    (placed added).push rule = placed (added ++ [rule]) := by
  obtain ⟨opener, hopener, hyields⟩ := exists_opener (List.any_eq_true.1 h)
  have hused : ∃ other ∈ placed added, other.yieldsTo rule = true :=
    ⟨_, List.mem_map_of_mem hopener, (yieldsTo_latest added opener rule).trans hyields⟩
  rw [push_of_yields (keysDiffer_placed added) hused, placed, placed, openers_append_singleton,
    if_pos h, List.map_map]
  refine List.map_congr_left fun opener _ => ?_
  rw [Function.comp_apply, yieldsTo_latest, latest_append_singleton, Rule.yieldsTo_comm rule]

theorem push_placed_of_new (h : added.any (·.yieldsTo rule) = false) :
    (placed added).push rule = placed (added ++ [rule]) := by
  have hnew : ∀ other ∈ added, other.yieldsTo rule = false := fun other hother =>
    Bool.eq_false_iff.2 (List.any_eq_false.1 h other hother)
  have hplaced : ∀ other ∈ placed added, other.yieldsTo rule = false :=
    List.forall_mem_map.2 fun opener hopener =>
      (yieldsTo_latest added opener rule).trans (hnew _ (mem_of_mem_openers hopener))
  have hearlier : ∀ opener ∈ openers added,
      latest added opener = latest (added ++ [rule]) opener := fun opener hopener => by
    rw [latest_append_singleton, Rule.yieldsTo_comm, hnew _ (mem_of_mem_openers hopener),
      if_neg Bool.false_ne_true]
  have hlast : latest (added ++ [rule]) rule = rule := by
    have hnone : added.filter (·.yieldsTo rule) = [] :=
      List.filter_eq_nil_iff.2 fun other hother => Bool.eq_false_iff.1 (hnew _ hother)
    rw [latest_append_singleton, latest, hnone]
    exact ite_id rule
  rw [push_of_new hplaced, placed, placed, openers_append_singleton, h,
    if_neg Bool.false_ne_true, List.map_append, List.map_congr_left hearlier,
    List.map_singleton, hlast]

theorem push_placed (added : List Rule) (rule : Rule) :
    (placed added).push rule = placed (added ++ [rule]) := by
  cases h : added.any (·.yieldsTo rule) with
  | true => exact push_placed_of_used h
  | false => exact push_placed_of_new h

/-- Adding rules to none leaves the latest rule for every place that was taken. -/
theorem foldl_push_eq (added : List Rule) : added.foldl push [] = placed added := by
  induction added using List.reverseRecOn with
  | nil => rfl
  | append_singleton added rule ih =>
      rw [List.foldl_append, List.foldl_cons, List.foldl_nil, ih, push_placed]

/-- **One rule for each key.**  Let rules be added to none, one after the other.  No two of those
that are left have the same key.  They are, in the order in which the keys first came up, the last
rule that was added with each key, and in between the rules without a key, each in a place of its
own.  To add a rule with a key twice in a row is to add it once. -/
theorem one_rule_for_each_key (added : List Rule) :
    let rules := added.foldl push []
    (rules.filterMap Rule.key).Nodup ∧ rules = (openers added).map (latest added) ∧
      ∀ rule : Rule, rule.key.isSome = true → (rules.push rule).push rule = rules.push rule := by
  intro rules
  have hleft : rules = placed added := foldl_push_eq added
  refine ⟨?_, hleft, fun rule => push_push⟩
  rw [hleft]
  exact nodup_keys_of_keysDiffer (keysDiffer_placed added)

/-- The first rule gives up its place to the third, and the two without a key stay. -/
example :
    let rule (key : Option String) (message : String) : Rule :=
      { action := .check fun _ _ _ => .ok [], key, message := some message }
    let added := [rule (some "limit") "low", rule none "odd", rule (some "limit") "high",
      rule none "even"]
    (added.foldl push []).map Rule.message = [some "high", some "odd", some "even"] :=
  rfl

end Rules

end Conform
