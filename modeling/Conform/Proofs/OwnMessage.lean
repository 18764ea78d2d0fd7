/-
The message of the schema's own.

A message that is set before there is any rule is for values whose structure is wrong.  Nothing
that is built onto the schema afterwards takes it away, and where the schema refuses a value, in
whatever form, for whatever reason and however far it had come, the one issue that it raises carries
the message.  There is one exception: the issue that a value, taken as an array, does not have as
many elements as there are places has a message of its own, and no other.
-/
import Conform.Proofs.EntryPoints
import Conform.Proofs.Places
import Conform.Rule.Constraint
import Conform.Schema.Build

namespace Conform.Schema

variable {message : String} {schema : Schema} {validate : Schema → Validator} {o : Options}
  {v : Value} {issue : Issue} {issues : Issues}

/-! ### Where the message is kept -/

/-- The message was set while the schema had no rules, and not again before it had one. -/
inductive GivenMessage (message : String) : Schema → Prop
  | given {schema : Schema} (hrules : schema.settings.rules = []) :
      GivenMessage message (schema.withMessage message)
  | addRule {schema : Schema} (h : GivenMessage message schema) (rule : Rule) :
      GivenMessage message (schema.addRule rule)
  /-- A message for the last rule. -/
  | withMessage {schema : Schema} (h : GivenMessage message schema)
      (hrules : schema.settings.rules ≠ []) (other : String) :
      GivenMessage message (schema.withMessage other)
  | coercing {schema : Schema} (h : GivenMessage message schema) :
      GivenMessage message schema.coercing
  | markAsync {schema : Schema} (h : GivenMessage message schema) :
      GivenMessage message schema.markAsync
  | claimInputs {schema : Schema} (h : GivenMessage message schema) (types : List InputType) :
      GivenMessage message (schema.claimInputs types)
  | withRest {schema : Schema} (h : GivenMessage message schema) (rest : Schema) :
      GivenMessage message (schema.withRest rest)
  | field {schema : Schema} (h : GivenMessage message schema) (name : String)
      (property : Schema) : GivenMessage message (schema.field name property)
  | withExtras {schema : Schema} (h : GivenMessage message schema) (extras : Extras Schema) :
      GivenMessage message (schema.withExtras extras)

/-- Whoever changes the form only leaves the settings alone. -/
theorem settings_withRest (schema rest : Schema) :
    (schema.withRest rest).settings = schema.settings := by
  unfold withRest
  split
  · rfl
  · rfl

theorem settings_field (schema : Schema) (name : String) (property : Schema) :
    (schema.field name property).settings = schema.settings := by
  unfold field
  split
  · rfl
  · rfl

theorem settings_withExtras (schema : Schema) (extras : Extras Schema) :
    (schema.withExtras extras).settings = schema.settings := by
  unfold withExtras
  split
  · rfl
  · rfl

theorem GivenMessage.typeMessage_eq (h : schema.GivenMessage message) :
    schema.settings.typeMessage = some message := by
  induction h with
  | given hrules =>
      rw [Schema.withMessage, hrules]
      rfl
  | addRule _ _ ih => exact ih
  | withMessage _ hrules _ ih =>
      rw [Schema.withMessage, List.isEmpty_eq_false_iff.2 hrules]
      exact ih
  | coercing _ ih => exact ih
  | markAsync _ ih => exact ih
  | claimInputs _ _ ih => exact ih
  | withRest _ _ ih => rwa [settings_withRest]
  | field _ _ _ ih => rwa [settings_field]
  | withExtras _ _ ih => rwa [settings_withExtras]

/-! ### Where the message is used -/

/-- The schema finds the structure of the value wrong, and does not only pass on what members of
an intersection have against it. -/
structure Refuses (validate : Schema → Validator) (schema : Schema) (o : Options) (v : Value)
    (issues : Issues) : Prop where
  mismatch : schema.fittedBy validate o v = .ok (.mismatch issues)
  own : ∀ members, schema.form = .intersection members → ∀ member ∈ members, ∀ found,
    validate member o v ≠ .ok (.rejected found)

theorem exists_rejecting_member {members : List Schema} {verbose : Bool}
    (h : Visit.report verbose (members.map fun member => ⟨[], v, validate member o⟩) =
      .ok issues.toList) :
    ∃ member ∈ members, ∃ found, validate member o v = .ok (.rejected found) := by
  have hfirst : issues.first ∈ issues.toList := List.mem_cons_self
  obtain ⟨visit, hvisit, hfound⟩ := Visit.exists_of_mem_report h hfirst
  obtain ⟨member, hmember, rfl⟩ := List.mem_map.1 hvisit
  obtain ⟨found, hrejected, -⟩ := Visit.exists_of_mem_found hfound
  exact ⟨member, hmember, found, hrejected⟩

theorem Refuses.exists_refusal (h : schema.Refuses validate o v issues) :
    ∃ issue, issues = .single issue ∧ schema.Refusal o v issue := by
  obtain ⟨hmismatch, hown⟩ := h
  cases hcontainer : schema.form.isContainer with
  | true =>
      cases hwalk : schema.walk? validate o v with
      | none =>
          obtain ⟨issue, hrefuse, hrefusal⟩ := exists_refusal_of_no_walk hcontainer hwalk
          refine ⟨issue, ?_, hrefusal⟩
          exact Fit.mismatch.inj (Except.ok.inj (hmismatch.symm.trans hrefuse))
      | some visits =>
          -- A container that has a walk takes the value, whatever comes of the parts.
          obtain ⟨visits', rebuild, hparts, -⟩ := visitParts_of_walk hwalk
          rcases visitParts_cases (hparts.symm.trans hmismatch) with ⟨_, hfit⟩ | ⟨_, hfit, -⟩
          · cases hfit
          · cases hfit
  | false =>
      rcases fittedBy_cases hcontainer hmismatch with
        ⟨_, hfit⟩ | ⟨issue, hfit, hrefusal⟩ | ⟨members, found, hform, -, hreport⟩
      · cases hfit
      · exact ⟨issue, Fit.mismatch.inj hfit, hrefusal⟩
      · obtain ⟨member, hmember, rejected, hrejected⟩ := exists_rejecting_member hreport
        exact absurd hrejected (hown members hform member hmember rejected)

theorem Refusal.message_eq (h : schema.Refusal o v issue)
    (hmessage : schema.settings.typeMessage = some message) :
    match schema.miscount? o v with
    | none => issue.message = message
    | some (places, length) => issue = Settings.tupleLengthIssue places length v := by
  cases h with
  | worded code usual param hcount =>
      rw [hcount]
      show schema.settings.structureMessage usual = message
      rw [Settings.structureMessage, hmessage]
      rfl
  | miscounted hcount => rw [hcount]

/-- **The message of a refusal.**  Let a schema have been given a message before it had any rule,
and let it refuse a value.  It is then rejected for one issue, about the value as a whole, and no
rule is run.  The issue has the message that was given, unless the value was taken as an array and
does not have as many elements as there are places: then it is the usual issue for that. -/
theorem message_of_refusal (happlied : schema.AppliedBy validate)
    (hgiven : schema.GivenMessage message) (hrefuses : schema.Refuses validate o v issues) :
    validate schema o v = .ok (.rejected issues) ∧
      ∃ issue, issues = .single issue ∧ issue.path = [] ∧ issue.input = v ∧
        match schema.miscount? o v with
        | none => issue.message = message
        | some (places, length) => issue = Settings.tupleLengthIssue places length v := by
  obtain ⟨issue, hsingle, hrefusal⟩ := hrefuses.exists_refusal
  refine ⟨?_, issue, hsingle, hrefusal.path_eq_nil, hrefusal.input_eq,
    hrefusal.message_eq hgiven.typeMessage_eq⟩
  rw [happlied.eq_conclude, hrefuses.mismatch]
  rfl

/-- The members of an intersection accept null, but make of it what cannot be merged, and the rule
that was added after the message does not come to look at it. -/
theorem message_of_refusal_intersection :
    let always (b : Bool) : Rule := { action := .alter fun _ _ _ => .ok (.bool b) }
    let both := ((intersection [unknown.addRule (always true),
      unknown.addRule (always false)]).withMessage "must agree").addRule
        (.refine (fun _ => false) "never")
    ∃ issue, both.apply {} .null = .ok (.rejected (.single issue)) ∧
      issue.code = Code.invalidIntersection ∧ issue.message = "must agree" := by
  intro always both
  have hgiven : both.GivenMessage "must agree" := .addRule (.given rfl) _
  have hown : ∀ members, both.form = .intersection members → ∀ member ∈ members, ∀ found,
      member.apply {} .null ≠ .ok (.rejected found) := by
    intro members hform member hmember found hrejected
    obtain rfl := Form.intersection.inj hform
    rcases List.mem_pair.1 hmember with rfl | rfl
    · cases hrejected
    · cases hrejected
  have hrefuses : both.Refuses apply {} .null (.single (both.settings.intersectionIssue .null)) :=
    ⟨rfl, hown⟩
  obtain ⟨happly, issue, hsingle, -, -, hmessage⟩ :=
    message_of_refusal (Or.inl ⟨rfl, rfl⟩) hgiven hrefuses
  obtain rfl := (Issues.mk.inj hsingle).1
  exact ⟨_, happly, rfl, hmessage⟩

/-- A tuple of one element refuses an array of none with a message that it was not given. -/
theorem message_of_empty_tuple :
    let single := (tuple [unknown]).withMessage "must be one"
    single.GivenMessage "must be one" ∧
      ∃ issue, single.Refuses apply {} (.array []) (.single issue) ∧
        single.apply {} (.array []) = .ok (.rejected (.single issue)) ∧
        issue.message ≠ "must be one" := by
  refine ⟨.given rfl, Settings.tupleLengthIssue 1 0 (.array []), ⟨rfl, ?_⟩, rfl, by decide⟩
  rintro members ⟨⟩

end Conform.Schema
