/-
What an object comes out as.

The outputs for the declared fields, those for the others and the dropping of what is undeclared
all go into one copy of the object, which is made when the first of them needs it.  What it holds
in the end does not show the order of these changes.  The fields that were given stand in the order
they were given in, each as its schema has it, less those that are dropped.  After them come the
missing fields that were filled in, in the order of the properties.
-/
import Conform.Proofs.Containers
import Conform.Proofs.Stability

namespace Conform

/-- What comes out of a call that accepts its value. -/
def outputOf : Except Fault Outcome → Output
  | .ok (.accepted output) => output
  | _ => .kept

/-- The call accepts its value. -/
def IsAccepted (result : Except Fault Outcome) : Prop :=
  ∃ output, result = .ok (.accepted output)

theorem orRebuilt_kept_eq_kept_iff {rebuilt : Option Value} :
    Output.orRebuilt .kept rebuilt = .kept ↔ rebuilt = none := by
  cases rebuilt with
  | none => exact iff_of_true rfl rfl
  | some v => exact iff_of_false nofun nofun

theorem Visit.forall₂_accepts_iff {visits : List Visit} {outputs : List Output} :
    List.Forall₂ Accepts visits outputs ↔
      (∀ visit ∈ visits, IsAccepted (visit.validate visit.part)) ∧
        outputs = visits.map fun visit => outputOf (visit.validate visit.part) := by
  induction visits generalizing outputs with
  | nil =>
      rw [List.forall₂_nil_left_iff]
      exact (and_iff_right (List.forall_mem_nil _)).symm
  | cons visit rest ih =>
      rw [List.forall₂_cons_left_iff, List.forall_mem_cons, List.map_cons]
      constructor
      · rintro ⟨output, outputs, hvisit, hrest, rfl⟩
        obtain ⟨haccepted, rfl⟩ := ih.1 hrest
        have houtput : outputOf (visit.validate visit.part) = output :=
          congrArg outputOf hvisit
        exact ⟨⟨⟨output, hvisit⟩, haccepted⟩, by rw [houtput]⟩
      · rintro ⟨⟨⟨output, hvisit⟩, haccepted⟩, rfl⟩
        refine ⟨_, _, ?_, ih.2 ⟨haccepted, rfl⟩, rfl⟩
        rw [hvisit]
        exact hvisit

/-- Visits come to a container exactly if each part is accepted, and then it is rebuilt from what
came out of the parts. -/
theorem visitParts_eq_clean_iff_accepted {verbose : Bool} {visits : List Visit}
    {rebuild : List Output → Option Value} {base output : Output} :
    visitParts verbose base visits rebuild = .ok (.clean output) ↔
      (∀ visit ∈ visits, IsAccepted (visit.validate visit.part)) ∧
        output = base.orRebuilt
          (rebuild (visits.map fun visit => outputOf (visit.validate visit.part))) := by
  rw [visitParts_eq_clean_iff]
  simp only [Visit.forall₂_accepts_iff]
  constructor
  · rintro ⟨outputs, ⟨haccepted, rfl⟩, houtput⟩
    exact ⟨haccepted, houtput⟩
  · rintro ⟨haccepted, houtput⟩
    exact ⟨_, ⟨haccepted, rfl⟩, houtput⟩

/-! ### Outputs in their places -/

section Outputs

variable {fields changed : Fields Value} {made : String → Output} {names : List String}
  {name last : String} {v : Value} {e : String × Value}

/-- The field of a name that is missing, if one is made. -/
def addedField (fields : Fields Value) (made : String → Output) (name : String) :
    Option (String × Value) :=
  if fields.contains name then none else (made name).new?.map fun v => (name, v)

theorem addedField_eq_some_iff :
    addedField fields made name = some e ↔
      e.1 = name ∧ name ∉ fields.names ∧ made name = .replaced e.2 := by
  obtain ⟨other, v⟩ := e
  rw [addedField, ← Fields.contains_iff]
  cases made name <;> cases fields.contains name <;> simp [Output.new?, @eq_comm String]

theorem addedField_of_kept (h : made name = .kept) : addedField fields made name = none := by
  rw [addedField, h]
  exact ite_self _

theorem mem_of_mem_added (h : e ∈ names.filterMap (addedField fields made)) :
    e.1 ∈ names ∧ e.1 ∉ fields.names := by
  obtain ⟨name, hmem, hadded⟩ := List.mem_filterMap.1 h
  obtain ⟨rfl, hmissing, -⟩ := addedField_eq_some_iff.1 hadded
  exact ⟨hmem, hmissing⟩

/-- The fields with the outputs for some names in their places, and those made for missing fields
after them. -/
def outputEntries (fields : Fields Value) (made : String → Output) (names : List String) :
    List (String × Value) :=
  fields.entries.map (fun e => (e.1, (if e.1 ∈ names then made e.1 else .kept).resolve e.2)) ++
    names.filterMap (addedField fields made)

theorem map_fst_outputEntries :
    (outputEntries fields made names).map Prod.fst =
      fields.names ++ (names.filterMap (addedField fields made)).map Prod.fst := by
  rw [outputEntries, List.map_append, List.map_map, ← Fields.map_fst_entries fields]
  rfl

theorem mem_names_append_iff (h : name ≠ last) : name ∈ names ++ [last] ↔ name ∈ names := by
  rw [List.mem_append, List.mem_singleton, or_iff_left h]

theorem outputEntries_append_of_kept (hnew : last ∉ names) (hmade : made last = .kept) :
    outputEntries fields made (names ++ [last]) = outputEntries fields made names := by
  rw [outputEntries, outputEntries, List.filterMap_append, List.filterMap_cons,
    addedField_of_kept hmade, List.filterMap_nil, List.append_nil]
  refine congrArg (· ++ _) (List.map_congr_left fun e _ => ?_)
  by_cases hlast : e.1 = last
  · rw [hlast, if_neg hnew, if_pos (List.mem_append_right _ (List.mem_singleton_self _)), hmade]
  · simp only [mem_names_append_iff hlast]

theorem entries_insert_output (hnew : last ∉ names) (hmade : made last = .replaced v)
    (h : changed.entries = outputEntries fields made names) :
    (changed.insert last v).entries = outputEntries fields made (names ++ [last]) := by
  have hnames : changed.names =
      fields.names ++ (names.filterMap (addedField fields made)).map Prod.fst := by
    rw [← Fields.map_fst_entries changed, h, map_fst_outputEntries]
  have hlater : ∀ e ∈ names.filterMap (addedField fields made), e.1 ≠ last :=
    fun e he hlast => hnew (hlast ▸ (mem_of_mem_added he).1)
  by_cases hmem : last ∈ fields.names
  · -- The field was given, so its value changes where it stands.
    have hthere : last ∈ changed.names := hnames ▸ List.mem_append_left _ hmem
    have hnone : addedField fields made last = none := if_pos (Fields.contains_iff.2 hmem)
    rw [Fields.entries_insert_of_mem hthere, h, outputEntries, outputEntries, List.map_append,
      List.map_map, List.filterMap_append, List.filterMap_cons, hnone, List.filterMap_nil,
      List.append_nil]
    refine congrArg₂ (· ++ ·) (List.map_congr_left fun e _ => ?_)
      ((List.map_congr_left fun e he => ?_).trans (List.map_id' _))
    · by_cases hlast : e.1 = last
      · simp [hlast, hmade, Output.resolve]
      · simp [hlast]
    · rw [if_neg (hlater e he)]
  · -- It was not, and comes after those that were added before it.
    have hmissing : last ∉ changed.names := by
      rw [hnames, List.mem_append, List.mem_map, not_or]
      exact ⟨hmem, fun ⟨e, he, hlast⟩ => hlater e he hlast⟩
    have hadded : addedField fields made last = some (last, v) :=
      addedField_eq_some_iff.2 ⟨rfl, hmem, hmade⟩
    rw [Fields.entries_insert_of_not_mem hmissing, h, outputEntries, outputEntries,
      List.filterMap_append, List.filterMap_cons, hadded, List.filterMap_nil, List.append_assoc]
    refine congrArg (· ++ _) (List.map_congr_left fun e he => ?_)
    have hlast : e.1 ≠ last := fun hc => hmem (hc ▸ Fields.mem_names.2 ⟨e.2, he⟩)
    simp only [mem_names_append_iff hlast]

/-- The copy has every output in its place, whenever it was made. -/
theorem entries_changedFields (hdistinct : names.Nodup) :
    ((changedFields fields (names.map fun name => (name, made name))).getD fields).entries =
      outputEntries fields made names := by
  induction names using List.reverseRecOn with
  | nil =>
      rw [outputEntries, List.filterMap_nil, List.append_nil]
      exact (List.map_id' _).symm
  | append_singleton names last ih =>
      obtain ⟨hbefore, -, hapart⟩ := List.nodup_append.1 hdistinct
      have hnew : last ∉ names := fun h => hapart _ h _ (List.mem_singleton_self _) rfl
      rw [List.map_append, List.map_singleton, changedFields_append_singleton]
      cases hmade : made last with
      | kept => exact (ih hbefore).trans (outputEntries_append_of_kept hnew hmade).symm
      | replaced v => exact entries_insert_output hnew hmade (ih hbefore)

end Outputs

/-! ### The fields of an object -/

section Objects

variable (validate : Schema → Validator) (o : Options) (properties : Fields Schema)
  (extras : Extras Schema) (fields : Fields Value)

/-- The schema that validates the field of a name: the one declared for it, or else the one for
what is not declared. -/
def fieldSchema? (name : String) : Option Schema :=
  (properties.get? name).or extras.children.head?

/-- What comes out for the field of a name, which is undefined if it is missing. -/
def fieldOutput (name : String) : Output :=
  match fieldSchema? properties extras name with
  | some schema => outputOf (validate schema o ((fields.get? name).getD .undefined))
  | none => .kept

/-- Nothing is wrong with the fields: the declared ones are accepted, undefined standing for one
that is missing, so are the others if there is a schema for them, and there are no others if all
have to be declared. -/
structure FieldsAccepted : Prop where
  declared : ∀ e ∈ properties.entries,
    IsAccepted (validate e.2 o ((fields.get? e.1).getD .undefined))
  others : ∀ rest, extras = .validate rest → ∀ e ∈ fields.entries,
    properties.contains e.1 = false → IsAccepted (validate rest o e.2)
  exact : extras = .exact → ∀ e ∈ fields.entries, properties.contains e.1 = true

/-- The fields an object comes out with.  Those that were given stand in their order, less the
undeclared ones if they are dropped, and then come those that are made for missing properties. -/
def fieldsLeft : List (String × Value) :=
  let made := fieldOutput validate o properties extras fields
  (fields.entries.filter fun e => !extras.isStrip || properties.contains e.1).map
      (fun e => (e.1, (made e.1).resolve e.2)) ++
    properties.names.filterMap (addedField fields made)

variable {validate o properties extras fields} {settings : Settings}

theorem fieldOutput_of_declared {e : String × Schema} (he : e ∈ properties.entries) :
    fieldOutput validate o properties extras fields e.1 =
      outputOf (validate e.2 o ((fields.get? e.1).getD .undefined)) := by
  have hschema : fieldSchema? properties extras e.1 = some e.2 := by
    rw [fieldSchema?, Fields.get?_eq_some_iff.2 he]
    rfl
  rw [fieldOutput, hschema]

theorem fieldOutput_of_undeclared {e : String × Value} (he : e ∈ undeclared properties fields) :
    fieldOutput validate o properties extras fields e.1 =
      match extras with
      | .validate rest => outputOf (validate rest o e.2)
      | _ => .kept := by
  obtain ⟨hget, hundeclared⟩ := mem_undeclared_iff.1 he
  have hnone : properties.get? e.1 = none := by
    rw [Fields.get?_eq_none_iff, ← Fields.contains_iff, hundeclared]
    exact Bool.false_ne_true
  have hschema : fieldSchema? properties extras e.1 = extras.children.head? := by
    rw [fieldSchema?, hnone]
    rfl
  rw [fieldOutput, hschema, hget]
  cases extras <;> rfl

theorem objectVisits_eq :
    objectVisits (properties.map fun _ => validate) (extras.map validate) o fields =
      properties.entries.map (fun e =>
        (e.1, ⟨[.field e.1], (fields.get? e.1).getD .undefined, validate e.2 o⟩)) ++
      match extras with
      | .preserve | .strip => []
      | .exact => (undeclared properties fields).map fun e => (e.1, ⟨[.field e.1], e.2,
          fun v => .ok (.rejected (.single (Settings.unknownKeyIssue e.1 v)))⟩)
      | .validate rest => (undeclared properties fields).map fun e =>
          (e.1, ⟨[.field e.1], e.2, validate rest o⟩) := by
  rw [objectVisits, propertyVisits, Fields.entries_map, List.map_map]
  cases extras <;> rfl

theorem visits_accepted_iff :
    (∀ e ∈ objectVisits (properties.map fun _ => validate) (extras.map validate) o fields,
        IsAccepted (e.2.validate e.2.part)) ↔
      FieldsAccepted validate o properties extras fields := by
  have hothers : ∀ P : String × Value → Prop, (∀ e ∈ undeclared properties fields, P e) ↔
      ∀ e ∈ fields.entries, properties.contains e.1 = false → P e := by
    intro P
    simp only [undeclared, List.mem_filter, Bool.not_eq_true', and_imp]
  rw [objectVisits_eq, List.forall_mem_append, List.forall_mem_map]
  cases extras with
  | preserve | strip =>
      constructor
      · intro h
        exact ⟨h.1, by rintro rest ⟨⟩, by rintro ⟨⟩⟩
      · exact fun h => ⟨h.declared, List.forall_mem_nil _⟩
  | exact =>
      rw [List.forall_mem_map, hothers]
      -- An undeclared field is rejected whatever it holds, so there may be none.
      have hrejected : ∀ e : String × Value, ¬ IsAccepted
          (.ok (.rejected (.single (Settings.unknownKeyIssue e.1 e.2)))) := by
        rintro e ⟨output, houtput⟩
        cases houtput
      constructor
      · intro h
        refine ⟨h.1, by rintro rest ⟨⟩, fun _ e he => ?_⟩
        by_contra hundeclared
        exact hrejected e (h.2 e he (Bool.eq_false_iff.2 hundeclared))
      · intro h
        refine ⟨h.declared, fun e he hundeclared => ?_⟩
        rw [h.exact rfl e he] at hundeclared
        cases hundeclared
  | validate rest =>
      rw [List.forall_mem_map, hothers]
      constructor
      · rintro ⟨hdeclared, hrest⟩
        refine ⟨hdeclared, fun schema hschema => ?_, by rintro ⟨⟩⟩
        cases hschema
        exact hrest
      · exact fun h => ⟨h.declared, h.others rest rfl⟩

theorem outputOf_visit {e : String × Visit}
    (he : e ∈ objectVisits (properties.map fun _ => validate) (extras.map validate) o fields) :
    outputOf (e.2.validate e.2.part) = fieldOutput validate o properties extras fields e.1 := by
  rw [objectVisits_eq] at he
  rcases List.mem_append.1 he with hdeclared | hother
  · obtain ⟨property, hproperty, rfl⟩ := List.mem_map.1 hdeclared
    exact (fieldOutput_of_declared hproperty).symm
  · cases extras with
    | preserve | strip => exact absurd hother List.not_mem_nil
    | exact =>
        obtain ⟨field, hfield, rfl⟩ := List.mem_map.1 hother
        show Output.kept = fieldOutput validate o properties .exact fields field.1
        rw [fieldOutput_of_undeclared hfield]
    | validate rest =>
        obtain ⟨field, hfield, rfl⟩ := List.mem_map.1 hother
        show _ = fieldOutput validate o properties (.validate rest) fields field.1
        rw [fieldOutput_of_undeclared hfield]

theorem fieldOutput_of_unvisited {e : String × Value} (he : e ∈ fields.entries)
    (h : e.1 ∉ visitedNames properties extras fields) :
    fieldOutput validate o properties extras fields e.1 = .kept := by
  unfold visitedNames at h
  rw [List.mem_append, not_or] at h
  have hundeclared : e ∈ undeclared properties fields :=
    mem_undeclared_iff.2 ⟨Fields.get?_eq_some_iff.2 he,
      Bool.eq_false_iff.2 fun hc => h.1 (Fields.contains_iff.1 hc)⟩
  rw [fieldOutput_of_undeclared hundeclared]
  cases extras with
  | validate rest => exact absurd (List.mem_map.2 ⟨e, hundeclared, rfl⟩) h.2
  | _ => rfl

theorem zip_outputs :
    (visitedNames properties extras fields).zip
        (((objectVisits (properties.map fun _ => validate) (extras.map validate) o fields).map
          Prod.snd).map fun visit => outputOf (visit.validate visit.part)) =
      (visitedNames properties extras fields).map fun name =>
        (name, fieldOutput validate o properties extras fields name) := by
  rw [← visitedNames_map validate, ← map_fst_objectVisits, List.map_map,
    List.zip_map', List.map_map]
  exact List.map_congr_left fun e he => congrArg (Prod.mk e.1) (outputOf_visit he)

/-- Outputs for undeclared fields add nothing, as these fields are there. -/
theorem filterMap_addedField {made : String → Output} :
    (visitedNames properties extras fields).filterMap (addedField fields made) =
      properties.names.filterMap (addedField fields made) := by
  have hthere : ∀ name ∈ (undeclared properties fields).map Prod.fst,
      addedField fields made name = none := by
    rw [List.forall_mem_map]
    intro e he
    exact if_pos (Fields.contains_iff.2 (Fields.mem_names.2 ⟨e.2, List.mem_of_mem_filter he⟩))
  unfold visitedNames
  rw [List.filterMap_append]
  refine (congrArg (_ ++ ·) (List.filterMap_eq_nil_iff.2 ?_)).trans (List.append_nil _)
  cases extras with
  | preserve | strip => exact List.forall_mem_nil _
  | exact | validate rest => exact hthere

/-- With the outputs of the visits in their places, every field is as its output has it. -/
theorem entries_changedFields_visited :
    ((changedFields fields ((visitedNames properties extras fields).map fun name =>
        (name, fieldOutput validate o properties extras fields name))).getD fields).entries =
      fields.entries.map (fun e =>
          (e.1, (fieldOutput validate o properties extras fields e.1).resolve e.2)) ++
        properties.names.filterMap
          (addedField fields (fieldOutput validate o properties extras fields)) := by
  rw [entries_changedFields nodup_visitedNames, outputEntries, filterMap_addedField]
  refine congrArg (· ++ _) (List.map_congr_left fun e he => ?_)
  split
  · rfl
  · rename_i hunvisited
    rw [fieldOutput_of_unvisited he hunvisited]

theorem drops_iff :
    (extras.isStrip && !(undeclared properties fields).isEmpty) = false ↔
      (extras.isStrip = true → ∀ e ∈ fields.entries, properties.contains e.1 = true) := by
  cases extras.isStrip with
  | false => exact iff_of_true rfl nofun
  | true =>
      rw [Bool.true_and, Bool.not_eq_false', List.isEmpty_iff, undeclared, List.filter_eq_nil_iff]
      simp

/-- Once undeclared fields are dropped, the object has the fields that are left. -/
theorem entries_rebuildObject :
    ((rebuildObject properties extras fields ((visitedNames properties extras fields).map
        fun name => (name, fieldOutput validate o properties extras fields name))).getD
      fields).entries = fieldsLeft validate o properties extras fields := by
  unfold rebuildObject
  split
  · rename_i hdrops
    obtain ⟨hstrip, -⟩ := Bool.and_eq_true_iff.1 hdrops
    have hadded : ∀ e ∈ properties.names.filterMap
        (addedField fields (fieldOutput validate o properties extras fields)),
        properties.contains e.1 = true :=
      fun e he => Fields.contains_iff.2 (mem_of_mem_added he).1
    rw [Option.getD_some, Fields.entries_filter, entries_changedFields_visited, List.filter_append,
      List.filter_map, List.filter_eq_self.2 hadded, fieldsLeft, hstrip]
    rfl
  · rename_i hdrops
    have hdeclared := drops_iff.1 (Bool.eq_false_iff.2 hdrops)
    have hall : ∀ e ∈ fields.entries, (!extras.isStrip || properties.contains e.1) = true := by
      intro e he
      cases hstrip : extras.isStrip with
      | false => rfl
      | true => exact hdeclared hstrip e he
    rw [entries_changedFields_visited, fieldsLeft, List.filter_eq_self.2 hall]

theorem rebuildObject_eq_none_iff :
    rebuildObject properties extras fields ((visitedNames properties extras fields).map
        fun name => (name, fieldOutput validate o properties extras fields name)) = none ↔
      (∀ name ∈ properties.names ++ fields.names,
          fieldOutput validate o properties extras fields name = .kept) ∧
        (extras.isStrip = true → ∀ e ∈ fields.entries, properties.contains e.1 = true) := by
  have hvisited : (∀ name ∈ visitedNames properties extras fields,
        fieldOutput validate o properties extras fields name = .kept) ↔
      ∀ name ∈ properties.names ++ fields.names,
        fieldOutput validate o properties extras fields name = .kept := by
    constructor
    · intro h name hname
      by_cases hvisit : name ∈ visitedNames properties extras fields
      · exact h name hvisit
      · rcases List.mem_append.1 hname with hproperty | hfield
        · exact absurd (List.mem_append_left _ hproperty) hvisit
        · obtain ⟨v, he⟩ := Fields.mem_names.1 hfield
          exact fieldOutput_of_unvisited he hvisit
    · intro h name hname
      rcases mem_visitedNames hname with hproperty | ⟨v, he⟩
      · exact h name (List.mem_append_left _ hproperty)
      · exact h name (List.mem_append_right _ (Fields.mem_names.2 ⟨v, List.mem_of_mem_filter he⟩))
  rw [← hvisited, ← drops_iff]
  unfold rebuildObject
  cases extras.isStrip && !(undeclared properties fields).isEmpty with
  | true => exact iff_of_false nofun fun h => nomatch h.2
  | false =>
      rw [if_neg Bool.false_ne_true, changedFields_eq_none_iff, List.forall_mem_map]
      exact (and_iff_left rfl).symm

end Objects

namespace Schema

variable {validate : Schema → Validator} {o : Options} {properties : Fields Schema}
  {extras : Extras Schema} {fields : Fields Value} {settings : Settings} {output : Output}

/-- An object is in order exactly if nothing is wrong with its fields, and then it is rebuilt from
their outputs. -/
theorem fittedBy_object_eq_clean_iff :
    fittedBy validate ⟨settings, .object properties extras⟩ o (.object fields) =
        .ok (.clean output) ↔
      FieldsAccepted validate o properties extras fields ∧
        output = Output.orRebuilt .kept ((rebuildObject properties extras fields
          ((visitedNames properties extras fields).map fun name =>
            (name, fieldOutput validate o properties extras fields name))).map .object) := by
  rw [fittedBy_object, fitObject_object, visitParts_eq_clean_iff_accepted, List.forall_mem_map,
    visits_accepted_iff, map_fst_objectVisits, visitedNames_map, zip_outputs, rebuildObject_map]

/-- **The output of an object.**  Let no child break down that is asked about a field.  Then the
object has the structure, and no issue is found exactly if nothing is wrong with its fields.  In
that case it comes out with the fields that were given, in their order and each as its schema has
it, less the undeclared ones if these are dropped, and after them the missing fields that were
made, in the order of the properties.  It comes out as the value it was exactly if no field is new
and none is dropped. -/
theorem object_output (settings : Settings)
    (hmade : ∀ visit ∈ Visit.made o.verbose (propertyWalk validate o properties extras fields),
      ∃ outcome, visit.validate visit.part = .ok outcome) :
    ∃ start, fittedBy validate ⟨settings, .object properties extras⟩ o (.object fields) =
        .ok (.fits start) ∧
      (start.issues = [] ↔ FieldsAccepted validate o properties extras fields) ∧
      (start.issues = [] →
        (∃ left, start.output.resolve (.object fields) = .object left ∧
          left.entries = fieldsLeft validate o properties extras fields) ∧
        (start.output = .kept ↔
          (∀ name ∈ properties.names ++ fields.names,
            fieldOutput validate o properties extras fields name = .kept) ∧
          (extras.isStrip = true → ∀ e ∈ fields.entries, properties.contains e.1 = true))) := by
  have hreport := Visit.report_eq hmade
  rw [← objectVisits_eq_propertyWalk] at hreport
  obtain ⟨start, hfits, -⟩ := visitParts_of_report hreport
  have hfitted : fittedBy validate ⟨settings, .object properties extras⟩ o (.object fields) =
      .ok (.fits start) := by
    rw [fittedBy_object, fitObject_object]
    exact hfits
  have hclean : start.issues = [] → fittedBy validate ⟨settings, .object properties extras⟩ o
      (.object fields) = .ok (.clean start.output) := by
    intro hissues
    rw [hfitted, Fit.clean, ← hissues]
  refine ⟨start, hfitted, ⟨fun hissues => ?_, fun haccepted => ?_⟩, fun hissues => ?_⟩
  · exact (fittedBy_object_eq_clean_iff.1 (hclean hissues)).1
  · have hboth := hfitted.symm.trans (fittedBy_object_eq_clean_iff.2 ⟨haccepted, rfl⟩)
    cases hboth
    rfl
  · obtain ⟨-, houtput⟩ := fittedBy_object_eq_clean_iff.1 (hclean hissues)
    rw [houtput]
    refine ⟨⟨_, resolve_orRebuilt rfl, entries_rebuildObject⟩, ?_⟩
    rw [← rebuildObject_eq_none_iff]
    exact orRebuilt_kept_eq_kept_iff.trans Option.map_eq_none_iff

/-- Of the fields that were given one is dropped and the other stays, and the property that was
missing comes last, though it is declared first. -/
theorem object_output_strip :
    let properties : Fields Schema :=
      .ofList [("a", ⟨{ coerces := true }, .scalar .boolean⟩), ("b", ⟨{}, .unknown⟩)]
    let fields : Fields Value := .ofList [("x", .null), ("b", .null)]
    ∃ start left,
      fittedBy apply ⟨{}, .object properties .strip⟩ {} (.object fields) = .ok (.fits start) ∧
      start.issues = [] ∧ start.output.resolve (.object fields) = .object left ∧
      left.entries = [("b", .null), ("a", .bool false)] ∧ start.output ≠ .kept := by
  intro properties fields
  have hboolean : apply ⟨{ coerces := true }, .scalar .boolean⟩ {} .undefined =
      .ok (.accepted (.replaced (.bool false))) := rfl
  have hunknown : apply ⟨{}, .unknown⟩ {} .null = .ok (.accepted .kept) := rfl
  have hmade : ∀ visit ∈ Visit.made ({} : Options).verbose
      (propertyWalk apply {} properties .strip fields),
      ∃ outcome, visit.validate visit.part = .ok outcome := by
    intro visit hvisit
    rcases List.mem_cons.1 hvisit with rfl | hvisit
    · exact ⟨_, hboolean⟩
    · obtain rfl := List.mem_singleton.1 hvisit
      exact ⟨_, hunknown⟩
  have haccepted : FieldsAccepted apply {} properties .strip fields := by
    refine ⟨fun e he => ?_, nofun, nofun⟩
    rcases List.mem_cons.1 he with rfl | he
    · exact ⟨_, hboolean⟩
    · obtain rfl := List.mem_singleton.1 he
      exact ⟨_, hunknown⟩
  obtain ⟨start, hfitted, hissues, houtput⟩ := object_output {} hmade
  obtain ⟨⟨left, hleft, hentries⟩, hkept⟩ := houtput (hissues.2 haccepted)
  refine ⟨start, left, hfitted, hissues.2 haccepted, hleft, hentries.trans rfl, fun h => ?_⟩
  have hdropped := (hkept.1 h).2 rfl ("x", .null) List.mem_cons_self
  cases hdropped

end Schema

end Conform
