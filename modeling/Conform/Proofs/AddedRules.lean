/-
Rules that are added, and the messages they are given.

A rule that is added takes the place of the first one with its key, so it need not come last.  A
message that is set afterwards goes to the rule that comes last, and no schema remembers which rule
was added last.  The two are the same rule unless a rule before the last one was replaced.
-/
import Conform.Rule.Bounds
import Conform.Schema.Build
import Mathlib.Data.List.Basic

namespace Conform

namespace Rule

/-- The rule gives up its place to another one with its key. -/
def yieldsTo (rule added : Rule) : Bool :=
  added.key.isSome && rule.key == added.key

/-- The rule with another message. -/
def withMessage (rule : Rule) (message : String) : Rule :=
  { rule with message := some message }

end Rule

namespace Rules

variable {rules : Rules} {rule : Rule}

/-- Where a rule goes that is added: the place of the first one that yields to it, or the end. -/
def place (rules : Rules) (rule : Rule) : Nat :=
  rules.findIdx (·.yieldsTo rule)

theorem push_cons (other : Rule) (rest : Rules) (rule : Rule) :
    Rules.push (other :: rest) rule =
      if other.yieldsTo rule then rule :: rest else other :: Rules.push rest rule :=
  rfl

/-- The rule stands in its place, with the rules before and after that as they were. -/
theorem push_eq : rules.push rule = rules.take (rules.place rule) ++
    rule :: rules.drop (rules.place rule + 1) := by
  induction rules with
  | nil => rfl
  | cons other rest ih =>
      rw [push_cons, place, List.findIdx_cons]
      cases other.yieldsTo rule with
      | true => rfl
      | false =>
          show other :: Rules.push rest rule = other :: _
          rw [ih]
          rfl

theorem place_le_length : rules.place rule ≤ rules.length :=
  List.findIdx_le_length

theorem getElem?_push_place : (rules.push rule)[rules.place rule]? = some rule := by
  have hlength : (rules.take (rules.place rule)).length = rules.place rule :=
    List.length_take_of_le place_le_length
  rw [push_eq, List.getElem?_append_right (Nat.le_of_eq hlength), hlength, Nat.sub_self]
  rfl

theorem length_push : (rules.push rule).length = max rules.length (rules.place rule + 1) := by
  have hplace : rules.place rule ≤ rules.length := place_le_length
  rw [push_eq, List.length_append, List.length_cons, List.length_take, List.length_drop]
  omega

/-- The rule that is added comes last unless one before the last yields to it. -/
theorem place_eq_last_iff : rules.place rule = (rules.push rule).length - 1 ↔
    ∀ other ∈ rules.dropLast, other.yieldsTo rule = false := by
  have hlast : rules.place rule = (rules.push rule).length - 1 ↔
      rules.length - 1 ≤ rules.place rule := by
    have hplace : rules.place rule ≤ rules.length := place_le_length
    rw [length_push]
    omega
  rw [hlast]
  constructor
  · intro h other hother
    obtain ⟨i, hi, rfl⟩ := List.getElem_of_mem hother
    rw [List.length_dropLast] at hi
    rw [List.getElem_dropLast]
    exact List.not_of_lt_findIdx (Nat.lt_of_lt_of_le hi h)
  · intro h
    by_contra hbefore
    have hi : rules.place rule < rules.dropLast.length := by
      rw [List.length_dropLast]
      omega
    have hyields := List.findIdx_getElem (p := fun other : Rule => other.yieldsTo rule)
      (w := Nat.lt_of_lt_of_le hi (List.length_dropLast ▸ Nat.sub_le _ _))
    have hmem := List.getElem_mem hi
    rw [List.getElem_dropLast] at hmem
    exact Bool.false_ne_true ((h _ hmem).symm.trans hyields)

theorem modifyLast_eq (rules : Rules) (f : Rule → Rule) :
    rules.modifyLast f = rules.modify (rules.length - 1) f := by
  induction rules with
  | nil => rfl
  | cons rule rest ih =>
      cases rest with
      | nil => rfl
      | cons next rest =>
          show rule :: Rules.modifyLast (next :: rest) f = _
          rw [ih]
          rfl

end Rules

namespace Schema

/-- **The message of the last rule.**  Let a rule be added to a schema and then a message be set.
The rule stands where it went, and the schema is the one it was added to but for the message of
the rule that comes last.  That is the rule that was added exactly if none of the rules before the
last one yields to it. -/
theorem message_of_last_rule (schema : Schema) (rule : Rule) (message : String) :
    let added := schema.addRule rule
    let rules := added.settings.rules
    let place := schema.settings.rules.place rule
    rules[place]? = some rule ∧
      added.withMessage message = { added with
        settings.rules := rules.modify (rules.length - 1) (·.withMessage message) } ∧
      (place = rules.length - 1 ↔
        ∀ other ∈ schema.settings.rules.dropLast, other.yieldsTo rule = false) := by
  intro added rules place
  refine ⟨Rules.getElem?_push_place, ?_, Rules.place_eq_last_iff⟩
  have hrules : rules ≠ [] := fun hnil => by
    have hplace : rules[place]? = some rule := Rules.getElem?_push_place
    rw [hnil] at hplace
    cases hplace
  have hempty : added.settings.rules.isEmpty = false := List.isEmpty_eq_false_iff.2 hrules
  rw [withMessage, hempty, if_neg Bool.false_ne_true, Rules.modifyLast_eq]
  rfl

/-- A lower limit that is given again takes its first place, and the message set for it goes to
the upper limit after it. -/
theorem message_of_replaced_rule :
    let schema := ((scalar .number).addRule (.numberMin (.ofInt 5))).addRule
      (.numberMax (.ofInt 10))
    let rule := Rule.numberMin (.ofInt 7)
    let added := schema.addRule rule
    (added.withMessage "too small").settings.rules ≠
      added.settings.rules.modify (schema.settings.rules.place rule)
        (·.withMessage "too small") := by
  intro schema rule added h
  have hmessages := congrArg (List.map Rule.message) h
  have hset : (added.withMessage "too small").settings.rules.map Rule.message =
      [none, some "too small"] := rfl
  have hclaimed : (added.settings.rules.modify (schema.settings.rules.place rule)
      (·.withMessage "too small")).map Rule.message = [some "too small", none] := rfl
  rw [hset, hclaimed] at hmessages
  cases hmessages

end Schema

end Conform
