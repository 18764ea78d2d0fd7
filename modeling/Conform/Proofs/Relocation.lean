/-
The issues of a container are those of its parts, at their places.

A container takes its parts in a fixed order and hands each to a child.  What a child finds by
itself reaches the rules of the container unchanged but for the segment in front of every path:
all of it if everything is to be reported, and otherwise what the first child to fail found.
The walk through a container is written down here as one list, by index, entry or field, and
the forms are then shown to report what the visits on that list find.
-/
import Conform.Proofs.Refusals

namespace Conform

/-! ### What visits report -/

/-- The issues that were found. -/
def Findings.toList : Findings → List Issue
  | outputs _ => []
  | issues found => found.toList

theorem Issues.toList_placed (issues : Issues) (place : Path) :
    (issues.placed place).toList =
      issues.toList.map fun issue => { issue with path := place ++ issue.path } := by
  induction place with
  | nil =>
      have hid : (fun issue : Issue => { issue with path := [] ++ issue.path }) = id := by
        funext issue
        cases issue
        rfl
      rw [hid]
      exact (List.map_id _).symm
  | cons s rest ih =>
      have hstep : (issues.placed (s :: rest)).toList =
          (issues.placed rest).toList.map fun issue => issue.within s := rfl
      rw [hstep, ih, List.map_map]
      rfl

namespace Visit

/-- The part is rejected. -/
def fails (visit : Visit) : Bool :=
  match visit.validate visit.part with
  | .ok (.rejected _) => true
  | _ => false

/-- The issues of the part by itself, with the place in front of every path. -/
def found (visit : Visit) : List Issue :=
  match visit.validate visit.part with
  | .ok (.rejected issues) =>
    issues.toList.map fun issue => { issue with path := visit.place ++ issue.path }
  | _ => []

/-- The visits that are made: all if everything is to be reported, and otherwise those up to
the first that fails. -/
def made (verbose : Bool) : List Visit → List Visit
  | [] => []
  | visit :: rest => if !verbose && visit.fails then [visit] else visit :: made verbose rest

/-- What the visits report in the end. -/
def report (verbose : Bool) (visits : List Visit) : Except Fault (List Issue) :=
  (all verbose visits).map Findings.toList

variable {verbose : Bool} {visit : Visit} {rest visits : List Visit} {output : Output}

theorem mem_of_mem_made (h : visit ∈ made verbose visits) : visit ∈ visits := by
  induction visits with
  | nil => exact h
  | cons first rest ih =>
      unfold made at h
      split at h
      · exact List.mem_singleton.1 h ▸ List.mem_cons_self
      · rcases List.mem_cons.1 h with rfl | hrest
        · exact List.mem_cons_self
        · exact List.mem_cons_of_mem _ (ih hrest)

/-- A part that is accepted reports nothing.  One that is rejected reports what was found, and
ends the report unless everything is to be reported. -/
theorem report_cons :
    report verbose (visit :: rest) =
      match visit.validate visit.part with
      | .error fault => .error fault
      | .ok (.accepted _) => report verbose rest
      | .ok (.rejected _) =>
        if verbose then (report verbose rest).map fun later => visit.found ++ later
        else .ok visit.found := by
  unfold report
  rw [all]
  rcases hvisit : visit.validate visit.part with fault | outcome
  · rfl
  · cases outcome with
    | accepted output =>
        rcases all verbose rest with fault | findings
        · rfl
        · cases findings <;> rfl
    | rejected issues =>
        have hfound : visit.found = (issues.placed visit.place).toList := by
          rw [found, hvisit, Issues.toList_placed]
        rw [hfound]
        cases verbose with
        | false => rfl
        | true =>
            rcases all true rest with fault | findings
            · rfl
            · cases findings with
              | outputs later => exact congrArg Except.ok (List.append_nil _).symm
              | issues later => rfl

theorem report_cons_congr {rest' : List Visit} (h : report verbose rest = report verbose rest') :
    report verbose (visit :: rest) = report verbose (visit :: rest') := by
  rw [report_cons, report_cons, h]

/-- Where no visit that is made breaks down, everything is reported, or else what the first
visit to fail found. -/
theorem report_eq
    (h : ∀ visit ∈ made verbose visits, ∃ outcome, visit.validate visit.part = .ok outcome) :
    report verbose visits = .ok (if verbose then visits.flatMap found
      else ((visits.find? fails).map found).getD []) := by
  induction visits with
  | nil => cases verbose <;> rfl
  | cons visit rest ih =>
      have hmade : visit ∈ made verbose (visit :: rest) := by
        rw [made]
        split <;> exact List.mem_cons_self
      obtain ⟨outcome, houtcome⟩ := h visit hmade
      cases outcome with
      | accepted output =>
          have hfails : visit.fails = false := by rw [fails, houtcome]
          have hfound : visit.found = [] := by rw [found, houtcome]
          have hrest : ∀ visit ∈ made verbose rest, ∃ outcome,
              visit.validate visit.part = .ok outcome := by
            rw [made, hfails, Bool.and_false, if_neg Bool.false_ne_true] at h
            exact (List.forall_mem_cons.1 h).2
          rw [report_cons, houtcome, ih hrest, List.flatMap_cons, hfound, List.nil_append,
            List.find?_cons, hfails]
      | rejected issues =>
          have hfails : visit.fails = true := by rw [fails, houtcome]
          rw [report_cons, houtcome]
          cases verbose with
          | false =>
              rw [List.find?_cons, hfails]
              rfl
          | true =>
              rw [made, Bool.not_true, Bool.false_and, if_neg Bool.false_ne_true] at h
              show (report true rest).map _ = _
              rw [ih (List.forall_mem_cons.1 h).2]
              rfl

/-- The visits that are made find what is reported in the end: a part that is not rejected adds
nothing to it. -/
theorem flatMap_found_made :
    (made verbose visits).flatMap found = if verbose then visits.flatMap found
      else ((visits.find? fails).map found).getD [] := by
  induction visits with
  | nil => cases verbose <;> rfl
  | cons visit rest ih =>
      unfold made
      cases verbose with
      | true =>
          rw [if_pos rfl] at ih
          rw [Bool.not_true, Bool.false_and, if_neg Bool.false_ne_true, List.flatMap_cons, ih,
            if_pos rfl, List.flatMap_cons]
      | false =>
          rw [if_neg Bool.false_ne_true] at ih
          rw [Bool.not_false, Bool.true_and, List.find?_cons]
          cases hfails : visit.fails with
          | true =>
              rw [if_pos rfl, if_neg Bool.false_ne_true, List.flatMap_singleton]
              rfl
          | false =>
              -- A part that is accepted adds nothing, and the walk goes on.
              have hfound : visit.found = [] := by
                unfold found
                unfold fails at hfails
                split
                · rename_i hvisit
                  rw [hvisit] at hfails
                  cases hfails
                · rfl
              rw [if_neg Bool.false_ne_true, List.flatMap_cons, hfound, List.nil_append, ih,
                if_neg Bool.false_ne_true]

theorem found_ne_nil (h : visit.fails = true) : visit.found ≠ [] := by
  unfold fails at h
  unfold found
  split at h
  · simp [Issues.toList]
  · cases h

end Visit

theorem visitParts_of_report {verbose : Bool} {base : Output} {visits : List Visit}
    {rebuild : List Output → Option Value} {issues : List Issue}
    (h : Visit.report verbose visits = .ok issues) :
    ∃ start, visitParts verbose base visits rebuild = .ok (.fits start) ∧
      start.issues = issues := by
  obtain ⟨findings, hall, rfl⟩ := map_eq_ok_iff.1 h
  unfold visitParts
  rw [hall]
  cases findings with
  | issues found => exact ⟨_, rfl, rfl⟩
  | outputs all =>
      cases hrebuild : rebuild all with
      | none => exact ⟨⟨base, []⟩, by simp only [Except.map, hrebuild]; rfl, rfl⟩
      | some rebuilt =>
          exact ⟨⟨.replaced rebuilt, []⟩, by simp only [Except.map, hrebuild]; rfl, rfl⟩

/-! ### The walk through a container -/

/-- A container has parts that children validate one by one. -/
def Form.isContainer {α : Type} : Form α → Bool
  | array _ _ | object _ _ | record _ _ | map _ _ | set _ => true
  | _ => false

section Walks

variable (validate : Schema → Validator) (o : Options)

/-- Elements in their order, `child` giving the schema for each index. -/
def elementWalk (child : Nat → Option Schema) (items : List Value) : List Visit :=
  items.zipIdx.filterMap fun (item, i) =>
    (child i).map fun schema => ⟨[.index i], item, validate schema o⟩

/-- Entries in their order, of each the key and then the value, both under the key. -/
def entryWalk (key value : Schema) (entries : List (Value × Value)) : List Visit :=
  entries.flatMap fun (k, v) => [⟨[.key k], k, validate key o⟩, ⟨[.key k], v, validate value o⟩]

/-- The fields of a record in their order, of each the name, if names are validated, and then
the value, both under the name. -/
def fieldWalk (key : Option Schema) (value : Schema) (fields : Fields Value) : List Visit :=
  fields.entries.flatMap fun (name, v) =>
    (key.toList.map fun key => ⟨[.field name], .string name, validate key o⟩) ++
      [⟨[.field name], v, validate value o⟩]

/-- The declared properties in their order, with undefined for a missing one, and then the
other fields in theirs: each is an issue if all have to be declared, and is validated if there
is a schema for the rest. -/
def propertyWalk (properties : Fields Schema) (extras : Extras Schema) (fields : Fields Value) :
    List Visit :=
  let others := fields.entries.filter fun e => !properties.contains e.1
  (properties.entries.map fun (name, property) =>
    ⟨[.field name], (fields.get? name).getD .undefined, validate property o⟩) ++
  match extras with
  | .preserve | .strip => []
  | .exact => others.map fun (name, v) =>
    ⟨[.field name], v, fun v => .ok (.rejected (.single (Settings.unknownKeyIssue name v)))⟩
  | .validate rest => others.map fun (name, v) => ⟨[.field name], v, validate rest o⟩

/-- The visits that a container makes of a value whose structure it accepts.  Arrays, sets and
maps are walked as they are after coercion. -/
def Schema.walk? (schema : Schema) (v : Value) : Option (List Visit) :=
  let coercing := schema.settings.coercesUnder o
  match schema.form with
  | .array head rest => do
    let (_, items) ← receive coercing arrayItems? (fun v => some (Coercion.toItems v)) .array v
    if (if rest.isSome then head.length ≤ items.length else items.length = head.length) then
      some (elementWalk validate o (fun i => head[i]?.or rest) items)
    else none
  | .set element => do
    let (_, items) ← receive coercing setItems? (fun v => some (Coercion.toElements v)) .set v
    some (elementWalk validate o (fun _ => some element) items)
  | .map key value => do
    let (_, entries) ← receive coercing mapEntries? Coercion.toEntries? .map v
    some (entryWalk validate o key value entries)
  | .record key value =>
    match v with
    | .object fields => some (fieldWalk validate o key value fields)
    | _ => none
  | .object properties extras =>
    match v with
    | .object fields => some (propertyWalk validate o properties extras fields)
    | _ => none
  | _ => none

variable {validate o}

theorem itemVisits_eq_elementWalk (child : Nat → Option Schema) {validators : List Validator}
    {items : List Value} {start : Nat} (hlength : validators.length = items.length)
    (hplace : ∀ i validator, validators[i]? = some validator →
      ∃ schema, child (start + i) = some schema ∧ validator = validate schema) :
    itemVisits o start validators items = (items.zipIdx start).filterMap fun (item, i) =>
      (child i).map fun schema => ⟨[.index i], item, validate schema o⟩ := by
  induction validators generalizing items start with
  | nil =>
      rw [List.length_nil, eq_comm, List.length_eq_zero_iff] at hlength
      rw [hlength]
      rfl
  | cons validator rest ih =>
      cases items with
      | nil => cases hlength
      | cons item items =>
          obtain ⟨schema, hchild, rfl⟩ := hplace 0 validator rfl
          have hrest : ∀ i validator, rest[i]? = some validator →
              ∃ schema, child (start + 1 + i) = some schema ∧ validator = validate schema := by
            intro i validator hi
            rw [Nat.add_assoc, Nat.add_comm 1 i]
            exact hplace (i + 1) validator hi
          rw [itemVisits, ih (Nat.succ.inj hlength) hrest, List.zipIdx_cons, List.filterMap_cons]
          rw [Nat.add_zero] at hchild
          simp only [hchild, Option.map_some]

theorem exists_schema_of_place {head : List Schema} {rest : Option Schema} {length i : Nat}
    {validator : Validator}
    (h : (placeValidators (head.map validate) (rest.map validate) length)[i]? = some validator) :
    ∃ schema, head[i]?.or rest = some schema ∧ validator = validate schema := by
  unfold placeValidators at h
  rw [List.getElem?_append] at h
  split at h
  · rw [List.getElem?_map, Option.map_eq_some_iff] at h
    obtain ⟨schema, hschema, rfl⟩ := h
    rw [hschema]
    exact ⟨schema, rfl, rfl⟩
  · rename_i hlong
    rw [List.length_map, Nat.not_lt] at hlong
    rw [List.getElem?_eq_none hlong]
    cases rest with
    | none => cases h
    | some schema =>
        have hmem := List.mem_of_getElem? h
        exact ⟨schema, rfl, List.eq_of_mem_replicate hmem⟩

/-- Names that are not validated are kept, and report nothing. -/
theorem report_fieldVisits {key : Option Schema} {value : Schema} {verbose : Bool}
    {fields : Fields Value} :
    Visit.report verbose (entryVisits (fun name => .field (fieldName name))
        ((key.map validate).getD .keep) (validate value) o
        (fields.entries.map fun e => (Value.string e.1, e.2))) =
      Visit.report verbose (fieldWalk validate o key value fields) := by
  rw [entryVisits, fieldWalk, List.flatMap_map]
  cases key with
  | some key => rfl
  | none =>
      induction fields.entries with
      | nil => rfl
      | cons e rest ih =>
          rw [List.flatMap_cons, List.flatMap_cons]
          exact Visit.report_cons.trans (Visit.report_cons_congr ih)

theorem placeVisits_eq_elementWalk {head : List Schema} {rest : Option Schema}
    {items : List Value}
    (hfills : FillsPlaces (head.map validate) (rest.map validate) items.length) :
    itemVisits o 0 (placeValidators (head.map validate) (rest.map validate) items.length) items =
      elementWalk validate o (fun i => head[i]?.or rest) items := by
  refine itemVisits_eq_elementWalk (fun i => head[i]?.or rest) (length_placeValidators hfills)
    fun i validator h => ?_
  rw [Nat.zero_add]
  exact exists_schema_of_place h

theorem replicateVisits_eq_elementWalk {element : Schema} {items : List Value} :
    itemVisits o 0 (List.replicate items.length (validate element)) items =
      elementWalk validate o (fun _ => some element) items := by
  refine itemVisits_eq_elementWalk (fun _ => some element) List.length_replicate
    fun i validator h => ?_
  exact ⟨element, rfl, List.eq_of_mem_replicate (List.mem_of_getElem? h)⟩

theorem objectVisits_eq_propertyWalk {properties : Fields Schema} {extras : Extras Schema}
    {fields : Fields Value} :
    (objectVisits (properties.map fun _ => validate) (extras.map validate) o fields).map Prod.snd =
      propertyWalk validate o properties extras fields := by
  have hothers : undeclared (properties.map fun _ => validate) fields =
      fields.entries.filter fun e => !properties.contains e.1 := rfl
  rw [objectVisits, propertyVisits, Fields.entries_map, List.map_append, List.map_map,
    List.map_map, hothers]
  cases extras with
  | preserve | strip => rfl
  | exact | validate rest =>
      rw [Extras.map, extraVisits, List.map_map]
      rfl

end Walks

/-! ### Containers -/

/-- What a container stands as before its parts are looked at: the value as it is, or coerced
where it is no array, set or map yet. -/
def Form.base {α : Type} (form : Form α) (v : Value) : Output :=
  match form with
  | array _ _ => if (arrayItems? v).isSome then .kept else .replaced (.array (Coercion.toItems v))
  | set _ => if (setItems? v).isSome then .kept else .replaced (.set (Coercion.toElements v))
  | map _ _ =>
    if (mapEntries? v).isSome then .kept
    else .replaced (.map ((Coercion.toEntries? v).getD []))
  | _ => .kept

theorem Form.base_mapChildren {α β : Type} (f : α → β) (form : Form α) (v : Value) :
    (form.mapChildren f).base v = form.base v := by
  cases form <;> rfl

namespace Schema

variable {validate : Schema → Validator} {settings : Settings} {o : Options} {v : Value}

theorem fitArray_of_fills {head : List Validator} {rest : Option Validator} {base : Output}
    {items : List Value}
    (hreceive : receive (settings.coercesUnder o) arrayItems? (fun v => some (Coercion.toItems v))
      .array v = some (base, items))
    (hfills : FillsPlaces head rest items.length) :
    fitArray settings head rest o v =
      visitParts o.verbose base (itemVisits o 0 (placeValidators head rest items.length) items)
        fun outputs => (rebuildItems items outputs).map .array := by
  unfold fitArray
  rw [hreceive]
  refine if_pos ?_
  unfold FillsPlaces at hfills
  split <;> simp_all

theorem fitArray_of_not_fills {head : List Validator} {rest : Option Validator} {base : Output}
    {items : List Value}
    (hreceive : receive (settings.coercesUnder o) arrayItems? (fun v => some (Coercion.toItems v))
      .array v = some (base, items))
    (hfills : ¬ FillsPlaces head rest items.length) :
    fitArray settings head rest o v =
      .ok (.refuse (Settings.tupleLengthIssue head.length items.length v)) := by
  unfold fitArray
  rw [hreceive]
  refine if_neg ?_
  unfold FillsPlaces at hfills
  split <;> simp_all

theorem base_of_receive {α : Type} {coercing : Bool} {content? coerced? : Value → Option α}
    {build : α → Value} {base : Output} {content : α}
    (h : receive coercing content? coerced? build v = some (base, content)) (fallback : α) :
    base = if (content? v).isSome then .kept
      else .replaced (build ((coerced? v).getD fallback)) := by
  rcases receive_eq_some_iff.1 h with ⟨hcontent, hbase⟩ | ⟨-, hcontent, hcoerced, hbase⟩
  · rw [hbase, hcontent]
    rfl
  · rw [hbase, hcontent, hcoerced]
    rfl

/-- A container takes a value that it has a walk through as what it stands as, and reports what
the visits of the walk report. -/
theorem visitParts_of_walk {schema : Schema} {visits : List Visit}
    (h : schema.walk? validate o v = some visits) :
    ∃ visits' rebuild,
      schema.fittedBy validate o v =
          visitParts o.verbose (schema.form.base v) visits' rebuild ∧
        Visit.report o.verbose visits' = Visit.report o.verbose visits := by
  obtain ⟨settings, form⟩ := schema
  cases form with
  | array head rest =>
      obtain ⟨⟨base, items⟩, hreceive, hvisits⟩ := Option.bind_eq_some_iff.1 h
      by_cases hfills : FillsPlaces (head.map validate) (rest.map validate) items.length
      · obtain rfl := Option.some.inj ((if_pos (fillsPlaces_map_iff.1 hfills)).symm.trans hvisits)
        obtain rfl := base_of_receive hreceive []
        rw [fittedBy_array, fitArray_of_fills hreceive hfills, placeVisits_eq_elementWalk hfills]
        exact ⟨_, _, rfl, rfl⟩
      · cases (if_neg (mt fillsPlaces_map_iff.2 hfills)).symm.trans hvisits
  | object properties extras =>
      rw [fittedBy_object]
      cases v with
      | object fields =>
          obtain rfl := Option.some.inj h
          rw [fitObject_object, objectVisits_eq_propertyWalk]
          exact ⟨_, _, rfl, rfl⟩
      | _ => cases h
  | record key value =>
      rw [fittedBy_record]
      cases v with
      | object fields =>
          obtain rfl := Option.some.inj h
          exact ⟨_, _, rfl, report_fieldVisits⟩
      | _ => cases h
  | map key value =>
      obtain ⟨⟨base, entries⟩, hreceive, hvisits⟩ := Option.bind_eq_some_iff.1 h
      obtain rfl := Option.some.inj hvisits
      obtain rfl := base_of_receive hreceive []
      show ∃ _ _, fitMap settings (validate key) (validate value) o v = _ ∧ _
      rw [fitMap, hreceive]
      exact ⟨_, _, rfl, rfl⟩
  | set element =>
      obtain ⟨⟨base, items⟩, hreceive, hvisits⟩ := Option.bind_eq_some_iff.1 h
      obtain rfl := Option.some.inj hvisits
      obtain rfl := base_of_receive hreceive []
      show ∃ _ _, fitSet settings (validate element) o v = _ ∧ _
      rw [fitSet, hreceive, ← replicateVisits_eq_elementWalk]
      exact ⟨_, _, rfl, rfl⟩
  | _ => cases h

theorem base_of_uncoerced {schema : Schema} {visits : List Visit}
    (h : schema.walk? validate o v = some visits)
    (huncoerced : schema.settings.coercesUnder o = false) : schema.form.base v = .kept := by
  obtain ⟨settings, form⟩ := schema
  cases form with
  | array head rest =>
      obtain ⟨⟨base, items⟩, hreceive, -⟩ := Option.bind_eq_some_iff.1 h
      exact (base_of_receive hreceive []).symm.trans (receive_of_uncoerced huncoerced hreceive)
  | map key value =>
      obtain ⟨⟨base, entries⟩, hreceive, -⟩ := Option.bind_eq_some_iff.1 h
      exact (base_of_receive hreceive []).symm.trans (receive_of_uncoerced huncoerced hreceive)
  | set element =>
      obtain ⟨⟨base, items⟩, hreceive, -⟩ := Option.bind_eq_some_iff.1 h
      exact (base_of_receive hreceive []).symm.trans (receive_of_uncoerced huncoerced hreceive)
  | _ => rfl

theorem fittedBy_of_walk {schema : Schema} {visits : List Visit}
    (h : schema.walk? validate o v = some visits) :
    ∃ base visits' rebuild,
      schema.fittedBy validate o v = visitParts o.verbose
          (if schema.settings.coercesUnder o then base else .kept) visits' rebuild ∧
        Visit.report o.verbose visits' = Visit.report o.verbose visits := by
  obtain ⟨visits', rebuild, hfitted, hreport⟩ := visitParts_of_walk h
  refine ⟨schema.form.base v, visits', rebuild, ?_, hreport⟩
  rw [hfitted]
  cases hcoerces : schema.settings.coercesUnder o with
  | true => rfl
  | false =>
      rw [base_of_uncoerced h hcoerces]
      rfl

theorem fittedBy_array_of_no_walk {head : List Schema} {rest : Option Schema}
    (h : walk? validate o ⟨settings, .array head rest⟩ v = none) :
    ∃ issue, fittedBy validate ⟨settings, .array head rest⟩ o v = .ok (.refuse issue) ∧
      Refusal ⟨settings, .array head rest⟩ o v issue := by
  rw [fittedBy_array]
  cases hreceive : receive (settings.coercesUnder o) arrayItems?
      (fun v => some (Coercion.toItems v)) .array v with
  | none =>
      refine ⟨settings.typeIssue .array v, by rw [fitArray, hreceive], ?_⟩
      exact refusal_typeIssue .array (miscount?_of_not_received hreceive)
  | some received =>
      obtain ⟨base, items⟩ := received
      have hfills : ¬ FillsPlaces (head.map validate) (rest.map validate) items.length := by
        intro hfills
        have hwalk : walk? validate o ⟨settings, .array head rest⟩ v = some _ :=
          Option.bind_eq_some_iff.2
            ⟨(base, items), hreceive, if_pos (fillsPlaces_map_iff.1 hfills)⟩
        rw [hwalk] at h
        cases h
      refine ⟨_, fitArray_of_not_fills hreceive hfills, ?_⟩
      rw [List.length_map]
      exact .miscounted (miscount?_of_not_fills hreceive hfills)

theorem fitMap_of_no_walk {key value : Schema}
    (h : walk? validate o ⟨settings, .map key value⟩ v = none) :
    fitMap settings (validate key) (validate value) o v =
      .ok (.refuse (settings.typeIssue .map v)) := by
  cases hreceive : receive (settings.coercesUnder o) mapEntries? Coercion.toEntries? .map v with
  | none => rw [fitMap, hreceive]
  | some received =>
      have hwalk : walk? validate o ⟨settings, .map key value⟩ v = some _ :=
        Option.bind_eq_some_iff.2 ⟨received, hreceive, rfl⟩
      rw [hwalk] at h
      cases h

theorem fitSet_of_no_walk {element : Schema}
    (h : walk? validate o ⟨settings, .set element⟩ v = none) :
    fitSet settings (validate element) o v = .ok (.refuse (settings.typeIssue .set v)) := by
  cases hreceive : receive (settings.coercesUnder o) setItems?
      (fun v => some (Coercion.toElements v)) .set v with
  | none => rw [fitSet, hreceive]
  | some received =>
      have hwalk : walk? validate o ⟨settings, .set element⟩ v = some _ :=
        Option.bind_eq_some_iff.2 ⟨received, hreceive, rfl⟩
      rw [hwalk] at h
      cases h

/-- A container has one thing to say of a value that it has no walk through. -/
theorem exists_refusal_of_no_walk {schema : Schema} (hcontainer : schema.form.isContainer = true)
    (h : schema.walk? validate o v = none) :
    ∃ issue, schema.fittedBy validate o v = .ok (.refuse issue) ∧ schema.Refusal o v issue := by
  obtain ⟨settings, form⟩ := schema
  cases form with
  | array head rest => exact fittedBy_array_of_no_walk h
  | object properties extras =>
      cases v with
      | object fields => cases h
      | _ => exact ⟨_, rfl, refusal_typeIssue .object rfl⟩
  | record key value =>
      cases v with
      | object fields => cases h
      | _ => exact ⟨_, rfl, refusal_typeIssue .object rfl⟩
  | map key value => exact ⟨_, fitMap_of_no_walk h, refusal_typeIssue .map rfl⟩
  | set element => exact ⟨_, fitSet_of_no_walk h, refusal_typeIssue .set rfl⟩
  | _ => cases hcontainer

theorem exists_mismatch_of_no_walk {schema : Schema} (hcontainer : schema.form.isContainer = true)
    (h : schema.walk? validate o v = none) :
    ∃ issues, schema.fittedBy validate o v = .ok (.mismatch issues) := by
  obtain ⟨issue, hrefuse, -⟩ := exists_refusal_of_no_walk hcontainer h
  exact ⟨.single issue, hrefuse⟩

/-- **The issues of a container are those of its parts, at their places.**  Let a container
accept the structure of a value, and let no visit that is made break down.  Then what its rules
start from are the issues that the parts have by themselves, with the segment of the part in
front of every path: those of all parts in order if everything is to be reported, and otherwise
those of the first part that is rejected.  It makes no difference whether the children are
waited for: `validate` is `apply` or `applyAsync`, or anything else. -/
theorem issues_of_container {schema : Schema} (hcontainer : schema.form.isContainer = true)
    (haccepted : ∀ issues, schema.fittedBy validate o v ≠ .ok (.mismatch issues)) :
    ∃ visits, schema.walk? validate o v = some visits ∧
      ((∀ visit ∈ Visit.made o.verbose visits, ∃ outcome,
          visit.validate visit.part = .ok outcome) →
        ∃ start, schema.fittedBy validate o v = .ok (.fits start) ∧
          start.issues = if o.verbose then visits.flatMap Visit.found
            else ((visits.find? Visit.fails).map Visit.found).getD []) := by
  cases hwalk : schema.walk? validate o v with
  | none =>
      obtain ⟨issues, hmismatch⟩ := exists_mismatch_of_no_walk hcontainer hwalk
      exact absurd hmismatch (haccepted issues)
  | some visits =>
      refine ⟨visits, rfl, fun hmade => ?_⟩
      obtain ⟨base, visits', rebuild, hfitted, hreport⟩ := fittedBy_of_walk hwalk
      rw [hfitted]
      exact visitParts_of_report (hreport.trans (Visit.report_eq hmade))

/-- Two elements of a property and then an undeclared field, though it was given first. -/
theorem issues_of_container_exact :
    ∃ start,
      fittedBy apply ⟨{}, .object (.ofList [("a", ⟨{}, .array [] (some ⟨{}, .never⟩)⟩)]) .exact⟩
          { verbose := true }
          (.object (.ofList [("b", .null), ("a", .array [.null, .bool true])])) =
        .ok (.fits start) ∧
      start.issues.map Issue.path =
        [[.field "a", .index 0], [.field "a", .index 1], [.field "b"]] := by
  have haccepted : ∀ issues,
      fittedBy apply ⟨{}, .object (.ofList [("a", ⟨{}, .array [] (some ⟨{}, .never⟩)⟩)]) .exact⟩
          { verbose := true }
          (.object (.ofList [("b", .null), ("a", .array [.null, .bool true])])) ≠
        .ok (.mismatch issues) := by
    intro issues h
    cases h
  obtain ⟨visits, hwalk, hissues⟩ := issues_of_container rfl haccepted
  obtain rfl := Option.some.inj hwalk
  obtain ⟨start, hfitted, hstart⟩ := hissues <| by
    intro visit hvisit
    rcases List.mem_cons.1 hvisit with rfl | hvisit
    · exact ⟨_, rfl⟩
    · obtain rfl := List.mem_singleton.1 hvisit
      exact ⟨_, rfl⟩
  refine ⟨start, hfitted, ?_⟩
  rw [hstart]
  rfl

end Schema

end Conform
