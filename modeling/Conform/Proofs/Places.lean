/-
Where a container takes its visits.

A segment names a place in a value, and what lies there: an element, the value of a field, which
is undefined where the field is missing, or the value of an entry.  But where keys are validated
the same segment stands for the key itself, so a step has a side.  Every visit of a walk takes one
step into the value, as it stands after coercion, on the side that its child validates.  The only
visit without a child is that of a field that should not be there.

With that it can be said for all forms together what they come to, as far as issues go: the value
is taken without any, or there is one issue of the value itself, or the issues are those that
visits report.
-/
import Conform.Proofs.Fields
import Conform.Proofs.Relocation

namespace Conform

/-- What of an entry is looked at.  An element has no key and is all value. -/
inductive Side where
  | value
  | key

/-- A step into a value, to what lies at a place or to the key of it. -/
inductive Value.StepsTo : Value → Side → Segment → Value → Prop
  | item {items : List Value} {i : Nat} {item : Value} (h : items[i]? = some item) :
      StepsTo (.array items) .value (.index i) item
  | element {items : List Value} {i : Nat} {item : Value} (h : items[i]? = some item) :
      StepsTo (.set items) .value (.index i) item
  /-- A missing field is undefined. -/
  | field (fields : Fields Value) (name : String) :
      StepsTo (.object fields) .value (.field name) ((fields.get? name).getD .undefined)
  | name {fields : Fields Value} {name : String} (h : name ∈ fields.names) :
      StepsTo (.object fields) .key (.field name) (.string name)
  | entry {entries : List (Value × Value)} {k v : Value} (h : (k, v) ∈ entries) :
      StepsTo (.map entries) .value (.key k) v
  | key {entries : List (Value × Value)} {k v : Value} (h : (k, v) ∈ entries) :
      StepsTo (.map entries) .key (.key k) k

/-- The children that validate what lies on a side. -/
def Form.childrenOn {α : Type} : Side → Form α → List α
  | .key, record key _ => key.toList
  | .key, map key _ => [key]
  | .key, _ => []
  | .value, record _ value => [value]
  | .value, map _ value => [value]
  | .value, form => form.children

theorem Form.mem_children {α : Type} {side : Side} {form : Form α} {child : α}
    (h : child ∈ form.childrenOn side) : child ∈ form.children := by
  cases side with
  | value =>
      cases form with
      | record key value => exact List.mem_append_right _ h
      | map key value => exact List.mem_cons_of_mem _ h
      | _ => exact h
  | key =>
      cases form with
      | record key value => exact List.mem_append_left _ h
      | map key value =>
          rw [List.mem_singleton.1 h]
          exact List.mem_cons_self
      | _ => exact absurd h List.not_mem_nil

/-- A visit that the schema makes of a value: a child visits a part one step down, on the side
that it validates, or the part is a field that should not be there. -/
inductive Visit.MadeBy (validate : Schema → Validator) (o : Options) (schema : Schema)
    (v : Value) : Visit → Prop
  | child (side : Side) {child : Schema} {s : Segment} {part : Value}
      (hchild : child ∈ schema.form.childrenOn side) (hstep : v.StepsTo side s part) :
      MadeBy validate o schema v ⟨[s], part, validate child o⟩
  | undeclared {properties : Fields Schema} {fields : Fields Value} {name : String}
      {part : Value} (hform : schema.form = .object properties .exact) (hv : v = .object fields)
      (hundeclared : properties.contains name = false) (hpart : fields.get? name = some part) :
      MadeBy validate o schema v ⟨[.field name], part,
        fun v => .ok (.rejected (.single (Settings.unknownKeyIssue name v)))⟩

variable {validate : Schema → Validator} {o : Options} {schema : Schema} {v : Value}
  {visits : List Visit} {visit : Visit}

theorem mem_elementWalk {child : Nat → Option Schema} {items : List Value}
    (h : visit ∈ elementWalk validate o child items) :
    ∃ i item schema, items[i]? = some item ∧ child i = some schema ∧
      visit = ⟨[.index i], item, validate schema o⟩ := by
  obtain ⟨⟨item, i⟩, hitem, hvisit⟩ := List.mem_filterMap.1 h
  obtain ⟨schema, hchild, rfl⟩ := Option.map_eq_some_iff.1 hvisit
  exact ⟨i, item, schema, List.mem_zipIdx_iff_getElem?.1 hitem, hchild, rfl⟩

section Walks

variable {settings : Settings} {fields : Fields Value}

theorem madeBy_of_mem_placeWalk {head : List Schema} {rest : Option Schema} {items : List Value}
    (h : visit ∈ elementWalk validate o (fun i => head[i]?.or rest) items) :
    visit.MadeBy validate o ⟨settings, .array head rest⟩ (.array items) := by
  obtain ⟨i, item, child, hitem, hchild, rfl⟩ := mem_elementWalk h
  refine .child .value (List.mem_append.2 ?_) (.item hitem)
  rcases Option.or_eq_some_iff.1 hchild with hhead | ⟨-, hrest⟩
  · exact Or.inl (List.mem_of_getElem? hhead)
  · exact Or.inr (Option.mem_toList.2 hrest)

theorem madeBy_of_mem_memberWalk {element : Schema} {items : List Value}
    (h : visit ∈ elementWalk validate o (fun _ => some element) items) :
    visit.MadeBy validate o ⟨settings, .set element⟩ (.set items) := by
  obtain ⟨i, item, child, hitem, hchild, rfl⟩ := mem_elementWalk h
  cases hchild
  exact .child .value (List.mem_singleton_self element) (.element hitem)

theorem madeBy_of_mem_entryWalk {key value : Schema} {entries : List (Value × Value)}
    (h : visit ∈ entryWalk validate o key value entries) :
    visit.MadeBy validate o ⟨settings, .map key value⟩ (.map entries) := by
  obtain ⟨e, he, hmem⟩ := List.mem_flatMap.1 h
  rcases List.mem_pair.1 hmem with rfl | rfl
  · exact .child .key (List.mem_singleton_self key) (.key he)
  · exact .child .value (List.mem_singleton_self value) (.entry he)

theorem madeBy_of_mem_fieldWalk {key : Option Schema} {value : Schema}
    (h : visit ∈ fieldWalk validate o key value fields) :
    visit.MadeBy validate o ⟨settings, .record key value⟩ (.object fields) := by
  obtain ⟨e, he, hmem⟩ := List.mem_flatMap.1 h
  rcases List.mem_append.1 hmem with hname | hvalue
  · obtain ⟨child, hchild, rfl⟩ := List.mem_map.1 hname
    exact .child .key hchild (.name (Fields.mem_names.2 ⟨e.2, he⟩))
  · obtain rfl := List.mem_singleton.1 hvalue
    have hstep := Value.StepsTo.field fields e.1
    rw [Fields.get?_eq_some_iff.2 he] at hstep
    exact .child .value (List.mem_singleton_self value) hstep

theorem madeBy_of_mem_propertyWalk {properties : Fields Schema} {extras : Extras Schema}
    (h : visit ∈ propertyWalk validate o properties extras fields) :
    visit.MadeBy validate o ⟨settings, .object properties extras⟩ (.object fields) := by
  have hundeclared : ∀ e ∈ fields.entries.filter (fun e => !properties.contains e.1),
      properties.contains e.1 = false ∧ fields.get? e.1 = some e.2 := by
    intro e he
    rw [List.mem_filter, Bool.not_eq_true'] at he
    exact ⟨he.2, Fields.get?_eq_some_iff.2 he.1⟩
  rcases List.mem_append.1 h with hproperty | hother
  · obtain ⟨e, he, rfl⟩ := List.mem_map.1 hproperty
    exact .child .value (List.mem_append_left _ (List.mem_map_of_mem he)) (.field fields e.1)
  · cases extras with
    | preserve | strip => exact absurd hother List.not_mem_nil
    | exact =>
        obtain ⟨e, he, rfl⟩ := List.mem_map.1 hother
        obtain ⟨hnot, hget⟩ := hundeclared e he
        exact .undeclared rfl rfl hnot hget
    | validate rest =>
        obtain ⟨e, he, rfl⟩ := List.mem_map.1 hother
        obtain ⟨-, hget⟩ := hundeclared e he
        have hstep := Value.StepsTo.field fields e.1
        rw [hget] at hstep
        exact .child .value (List.mem_append_right _ (List.mem_singleton_self rest)) hstep

end Walks

theorem build_of_receive {α : Type} {coercing : Bool} {content? coerced? : Value → Option α}
    {build : α → Value} {base : Output} {content : α}
    (hcontent : ∀ {content}, content? v = some content → v = build content)
    (h : receive coercing content? coerced? build v = some (base, content))
    (huncoerced : coercing = false) : build content = v := by
  rcases receive_eq_some_iff.1 h with ⟨hfound, -⟩ | ⟨hcoerces, -⟩
  · exact (hcontent hfound).symm
  · rw [huncoerced] at hcoerces
    cases hcoerces

/-- Every visit on a walk is one that the schema makes of the value as it stands, which is the
value itself unless it is coerced. -/
theorem madeBy_of_walk (h : schema.walk? validate o v = some visits) :
    ∃ w, (schema.settings.coercesUnder o = false → w = v) ∧
      ∀ visit ∈ visits, visit.MadeBy validate o schema w := by
  obtain ⟨settings, form⟩ := schema
  cases form with
  | array head rest =>
      obtain ⟨⟨base, items⟩, hreceive, hvisits⟩ := Option.bind_eq_some_iff.1 h
      obtain ⟨-, hvisits⟩ := Option.ite_none_right_eq_some.1 hvisits
      cases hvisits
      exact ⟨.array items, build_of_receive arrayItems?_eq_some_iff.1 hreceive,
        fun visit => madeBy_of_mem_placeWalk⟩
  | set element =>
      obtain ⟨⟨base, items⟩, hreceive, hvisits⟩ := Option.bind_eq_some_iff.1 h
      cases hvisits
      exact ⟨.set items, build_of_receive setItems?_eq_some_iff.1 hreceive,
        fun visit => madeBy_of_mem_memberWalk⟩
  | map key value =>
      obtain ⟨⟨base, entries⟩, hreceive, hvisits⟩ := Option.bind_eq_some_iff.1 h
      cases hvisits
      exact ⟨.map entries, build_of_receive mapEntries?_eq_some_iff.1 hreceive,
        fun visit => madeBy_of_mem_entryWalk⟩
  | record key value =>
      cases v with
      | object fields =>
          cases h
          exact ⟨.object fields, fun _ => rfl, fun visit => madeBy_of_mem_fieldWalk⟩
      | _ => cases h
  | object properties extras =>
      cases v with
      | object fields =>
          cases h
          exact ⟨.object fields, fun _ => rfl, fun visit => madeBy_of_mem_propertyWalk⟩
      | _ => cases h
  | _ => cases h

/-! ### What a form comes to -/

namespace Visit

variable {verbose : Bool} {issues : List Issue} {issue : Issue}

theorem exists_of_mem_found (h : issue ∈ visit.found) :
    ∃ issues, visit.validate visit.part = .ok (.rejected issues) ∧
      issue ∈ (issues.placed visit.place).toList := by
  unfold found at h
  split at h
  · rename_i issues hreject
    refine ⟨issues, hreject, ?_⟩
    rw [Issues.toList_placed]
    exact h
  · exact absurd h List.not_mem_nil

theorem exists_of_mem_report (h : report verbose visits = .ok issues) (hissue : issue ∈ issues) :
    ∃ visit ∈ visits, issue ∈ visit.found := by
  induction visits generalizing issues with
  | nil =>
      cases h
      exact absurd hissue List.not_mem_nil
  | cons visit rest ih =>
      rw [List.exists_mem_cons_iff]
      rw [report_cons] at h
      split at h
      · cases h
      · exact Or.inr (ih h hissue)
      · split at h
        · obtain ⟨later, hlater, rfl⟩ := map_eq_ok_iff.1 h
          exact (List.mem_append.1 hissue).imp_right (ih hlater)
        · cases h
          exact Or.inl hissue

/-- If no visit finds more than one issue, no more is reported by visits that end with the
first. -/
theorem length_report_le_one (hfound : ∀ visit ∈ visits, visit.found.length ≤ 1)
    (h : report false visits = .ok issues) : issues.length ≤ 1 := by
  induction visits with
  | nil =>
      cases h
      exact Nat.zero_le 1
  | cons visit rest ih =>
      rw [List.forall_mem_cons] at hfound
      rw [report_cons] at h
      split at h
      · cases h
      · exact ih hfound.2 h
      · cases h
        exact hfound.1

end Visit

theorem visitParts_cases {verbose : Bool} {base : Output} {rebuild : List Output → Option Value}
    {fit : Fit} (h : visitParts verbose base visits rebuild = .ok fit) :
    (∃ output, fit = .clean output) ∨
      ∃ issues : Issues, fit = .fits ⟨base, issues.toList⟩ ∧
        Visit.report verbose visits = .ok issues.toList := by
  obtain ⟨findings, hall, rfl⟩ := map_eq_ok_iff.1 h
  cases findings with
  | issues found =>
      refine Or.inr ⟨found, rfl, ?_⟩
      rw [Visit.report, hall]
      rfl
  | outputs all =>
      left
      dsimp only
      split
      · exact ⟨_, rfl⟩
      · exact ⟨_, rfl⟩

theorem fitIntersection_cases {settings : Settings} {members : List Validator} {fit : Fit}
    (h : fitIntersection settings members o v = .ok fit) :
    (∃ output, fit = .clean output) ∨ fit = .refuse (settings.intersectionIssue v) ∨
      ∃ issues : Issues, fit = .mismatch issues ∧
        Visit.report o.verbose (members.map fun validate => ⟨[], v, validate o⟩) =
          .ok issues.toList := by
  obtain ⟨findings, hall, rfl⟩ := map_eq_ok_iff.1 h
  cases findings with
  | issues found =>
      refine Or.inr (Or.inr ⟨found, rfl, ?_⟩)
      rw [Visit.report, hall]
      rfl
  | outputs all =>
      dsimp only
      split
      · exact Or.inl ⟨_, rfl⟩
      · split
        · exact Or.inl ⟨_, rfl⟩
        · exact Or.inr (Or.inl rfl)

/-- The issues there are before any rule has run. -/
def Fit.issues : Fit → List Issue
  | mismatch issues => issues.toList
  | fits start => start.issues

/-- How a form comes to what it comes to. -/
inductive Fit.Arises (schema : Schema) (o : Options) (v : Value) : Fit → Prop
  | clean (output : Output) : Arises schema o v (.clean output)
  | refused {issue : Issue} (hpath : issue.path = []) (hinput : issue.input = v) :
      Arises schema o v (.refuse issue)
  /-- Parts of a container are rejected.  It is handed on as it stands. -/
  | parts {base : Output} {w : Value} {visits : List Visit} {issues : Issues}
      (huncoerced : schema.settings.coercesUnder o = false → base = .kept ∧ w = v)
      (hmade : ∀ visit ∈ visits, visit.MadeBy Schema.apply o schema w)
      (hreport : Visit.report o.verbose visits = .ok issues.toList) :
      Arises schema o v (.fits ⟨base, issues.toList⟩)
  /-- Members of an intersection reject the value. -/
  | members {members : List Schema} {issues : Issues}
      (hform : schema.form = .intersection members)
      (hreport : Visit.report o.verbose (members.map fun member => ⟨[], v, member.apply o⟩) =
        .ok issues.toList) :
      Arises schema o v (.mismatch issues)

namespace Schema

/-- A form without parts of the value to look at takes it as a whole, or refuses it, or passes on
what members of an intersection have against it. -/
theorem fittedBy_cases {fit : Fit} (hcontainer : schema.form.isContainer = false)
    (h : schema.fittedBy validate o v = .ok fit) :
    (∃ output, fit = .clean output) ∨
      (∃ issue, fit = .refuse issue ∧ schema.Refusal o v issue) ∨
      ∃ members issues, schema.form = .intersection members ∧ fit = .mismatch issues ∧
        Visit.report o.verbose (members.map fun member => ⟨[], v, validate member o⟩) =
          .ok issues.toList := by
  obtain ⟨settings, form⟩ := schema
  cases form with
  | scalar target =>
      obtain rfl := Except.ok.inj h
      unfold fitScalar
      split
      · exact Or.inl ⟨_, rfl⟩
      · exact Or.inr (Or.inl ⟨_, rfl, refusal_typeIssue target.kind rfl⟩)
  | literal expected =>
      obtain rfl := Except.ok.inj h
      split
      · exact Or.inl ⟨_, rfl⟩
      · exact Or.inr (Or.inl ⟨_, rfl, refusal_literalIssue expected rfl⟩)
  | unknown =>
      obtain rfl := Except.ok.inj h
      exact Or.inl ⟨_, rfl⟩
  | never =>
      obtain rfl := Except.ok.inj h
      exact Or.inr (Or.inl ⟨_, rfl, .worded _ _ _ rfl⟩)
  | array | object | record | map | set => cases hcontainer
  | union members =>
      rw [fittedBy_union] at h
      obtain ⟨attempts, -, rfl⟩ := map_eq_ok_iff.1 h
      cases attempts with
      | accepted output => exact Or.inl ⟨output, rfl⟩
      | failed groups => exact Or.inr (Or.inl ⟨_, rfl, .worded _ _ _ rfl⟩)
  | intersection members =>
      rw [fittedBy_intersection] at h
      rcases fitIntersection_cases h with hclean | rfl | ⟨issues, rfl, hreport⟩
      · exact Or.inl hclean
      · exact Or.inr (Or.inl ⟨_, rfl, .worded _ _ _ rfl⟩)
      · rw [List.map_map] at hreport
        exact Or.inr (Or.inr ⟨members, issues, rfl, rfl, hreport⟩)

/-- There is no other way to what a form comes to. -/
theorem arises_of_fitted {fit : Fit} (h : schema.fitted o v = .ok fit) :
    fit.Arises schema o v := by
  have hfitted : schema.fittedBy apply o v = .ok fit := h
  cases hcontainer : schema.form.isContainer with
  | true =>
      cases hwalk : schema.walk? apply o v with
      | none =>
          obtain ⟨issue, hrefuse, hrefusal⟩ := exists_refusal_of_no_walk hcontainer hwalk
          obtain rfl := Except.ok.inj (hrefuse.symm.trans hfitted)
          exact .refused hrefusal.path_eq_nil hrefusal.input_eq
      | some visits =>
          obtain ⟨base, visits', rebuild, hparts, hsame⟩ := fittedBy_of_walk hwalk
          obtain ⟨w, hw, hmade⟩ := madeBy_of_walk hwalk
          rw [hparts] at hfitted
          rcases visitParts_cases hfitted with ⟨output, rfl⟩ | ⟨issues, rfl, hreport⟩
          · exact .clean output
          · refine .parts (fun huncoerced => ⟨?_, hw huncoerced⟩) hmade (hsame ▸ hreport)
            rw [huncoerced]
            rfl
  | false =>
      rcases fittedBy_cases hcontainer hfitted with
        ⟨output, rfl⟩ | ⟨issue, rfl, hrefusal⟩ | ⟨members, issues, hform, rfl, hreport⟩
      · exact .clean output
      · exact .refused hrefusal.path_eq_nil hrefusal.input_eq
      · exact .members hform hreport

end Schema

end Conform
