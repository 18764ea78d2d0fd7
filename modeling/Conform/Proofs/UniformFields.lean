/-
Objects whose fields are all validated alike.

An object that declares nothing and has a schema for the rest validates every field by it, and so
does a record that leaves the names alone.  The two walk alike, but for the visits that a record
makes of its names and that find nothing.  They are rebuilt in different ways: the object is copied
and overwritten, and the record is filled anew from the first field that changes.  What comes out
is the same, whichever fields change and whichever fail.
-/
import Conform.Proofs.ContainerOutput
import Conform.Proofs.EntryPoints
import Conform.Schema.Build

namespace Conform

/-- Two containers come to the same if their visits report the same, and if they come to the same
whenever nothing is reported. -/
theorem visitParts_congr {verbose : Bool} {base : Output} {visits visits' : List Visit}
    {rebuild rebuild' : List Output → Option Value}
    (hreport : Visit.report verbose visits = Visit.report verbose visits')
    (hclean : ∀ output, visitParts verbose base visits rebuild = .ok (.clean output) ↔
      visitParts verbose base visits' rebuild' = .ok (.clean output)) :
    visitParts verbose base visits rebuild = visitParts verbose base visits' rebuild' := by
  cases hfirst : visitParts verbose base visits rebuild with
  | error fault =>
      have hfault : Visit.report verbose visits' = .error fault :=
        hreport ▸ map_eq_error_iff.2 (map_eq_error_iff.1 hfirst)
      exact (map_eq_error_iff.2 (map_eq_error_iff.1 hfault)).symm
  | ok fit =>
      rcases visitParts_cases hfirst with ⟨output, rfl⟩ | ⟨issues, rfl, hissues⟩
      · exact ((hclean output).1 hfirst).symm
      · have hfits : ∃ start, visitParts verbose base visits' rebuild' = .ok (.fits start) ∧
            start.issues = issues.toList := visitParts_of_report (hreport ▸ hissues)
        obtain ⟨start, hsecond, hsame⟩ := hfits
        rcases visitParts_cases hsecond with ⟨output, hstart⟩ | ⟨issues', hstart, -⟩
        · cases hstart
          exact absurd hsame.symm (List.cons_ne_nil _ _)
        · cases hstart
          rw [hsecond, ← hsame]

section Fields

variable {validate : Schema → Validator} {o : Options} {value : Schema} {fields : Fields Value}

theorem fieldOutput_of_uniform {e : String × Value} (he : e ∈ fields.entries) :
    fieldOutput validate o .empty (.validate value) fields e.1 =
      outputOf (validate value o e.2) := by
  have hundeclared : e ∈ undeclared (.empty : Fields Schema) fields :=
    mem_undeclared_iff.2 ⟨Fields.get?_eq_some_iff.2 he, rfl⟩
  rw [fieldOutput_of_undeclared hundeclared]

/-- The object visits what a record visits whose names are not validated. -/
theorem propertyWalk_uniform :
    propertyWalk validate o .empty (.validate value) fields =
      fieldWalk validate o none value fields := by
  have hundeclared : (fields.entries.filter fun e =>
      !(Fields.empty : Fields Schema).contains e.1) = fields.entries :=
    List.filter_eq_self.2 fun _ _ => rfl
  unfold propertyWalk fieldWalk
  dsimp only
  rw [hundeclared]
  exact List.map_eq_flatMap

theorem fieldsAccepted_uniform_iff :
    FieldsAccepted validate o .empty (.validate value) fields ↔
      ∀ visit ∈ fieldWalk validate o none value fields,
        IsAccepted (visit.validate visit.part) := by
  rw [forall_fieldWalk_iff (P := fun result _ => IsAccepted result)]
  constructor
  · exact fun h e he => ⟨nofun, h.others value rfl e he rfl⟩
  · intro h
    refine ⟨fun e he => absurd he List.not_mem_nil, fun rest hrest e he _ => ?_, nofun⟩
    cases hrest
    exact (h e he).2

theorem fieldsLeft_uniform :
    fieldsLeft validate o .empty (.validate value) fields =
      renamedEntries validate o none value fields := by
  have hdropped : (fields.entries.filter fun e =>
      !(Extras.validate value).isStrip || (Fields.empty : Fields Schema).contains e.1) =
        fields.entries :=
    List.filter_eq_self.2 fun _ _ => rfl
  have hmissing : (Fields.empty : Fields Schema).names.filterMap
      (addedField fields (fieldOutput validate o .empty (.validate value) fields)) = [] := rfl
  unfold fieldsLeft renamedEntries
  dsimp only
  rw [hdropped, hmissing, List.append_nil]
  refine List.map_congr_left fun e he => ?_
  rw [fieldOutput_of_uniform he]
  rfl

theorem rebuildObject_uniform :
    (rebuildObject .empty (.validate value) fields
      ((visitedNames .empty (.validate value) fields).map fun name =>
        (name, fieldOutput validate o .empty (.validate value) fields name))).getD fields =
      .ofList (renamedEntries validate o none value fields) := by
  rw [← fieldsLeft_uniform, ← entries_rebuildObject, Fields.ofList_entries]

theorem rebuildObject_uniform_eq_none_iff :
    rebuildObject .empty (.validate value) fields
        ((visitedNames .empty (.validate value) fields).map fun name =>
          (name, fieldOutput validate o .empty (.validate value) fields name)) = none ↔
      RenamedKept validate o none value fields := by
  rw [rebuildObject_eq_none_iff]
  constructor
  · rintro ⟨hkept, -⟩ e he
    refine ⟨rfl, ?_⟩
    rw [← fieldOutput_of_uniform he]
    exact hkept e.1 (Fields.mem_names.2 ⟨e.2, he⟩)
  · refine fun h => ⟨fun name hname => ?_, nofun⟩
    obtain ⟨v, he⟩ := Fields.mem_names.1 hname
    rw [fieldOutput_of_uniform he]
    exact (h _ he).2

end Fields

namespace Schema

variable {validate : Schema → Validator} {settings : Settings} {o : Options} {value : Schema}
  {v : Value}

theorem fittedBy_uniform :
    fittedBy validate ⟨settings, .object .empty (.validate value)⟩ o v =
      fittedBy validate ⟨settings, .record none value⟩ o v := by
  cases v with
  | object fields =>
      have hclean : ∀ output,
          fittedBy validate ⟨settings, .object .empty (.validate value)⟩ o (.object fields) =
              .ok (.clean output) ↔
            fittedBy validate ⟨settings, .record none value⟩ o (.object fields) =
              .ok (.clean output) := by
        intro output
        have hbase : Output.kept.resolve (.object fields) = .object fields := rfl
        rw [fittedBy_object_eq_clean_iff, fittedBy_record_eq_clean_iff, fieldsAccepted_uniform_iff,
          eq_orRebuilt_iff hbase, rebuildObject_uniform, rebuildObject_uniform_eq_none_iff]
      rw [fittedBy_object, fitObject_object] at hclean ⊢
      rw [fittedBy_record, fitRecord] at hclean ⊢
      refine visitParts_congr ?_ hclean
      rw [objectVisits_eq_propertyWalk, propertyWalk_uniform]
      exact report_fieldVisits.symm
  | _ => rfl

/-- **Objects and records of uniform fields.**  An object with nothing but a schema for the rest
and a record with no schema for the names are the same validator, whatever is added to both.  Every
value is accepted or rejected by both, and comes out of both as the same output or with the same
issues in the same order, or both end in the same fault. -/
theorem uniform_object_eq_record (settings : Settings) (value : Schema) :
    let asObject : Schema := ⟨settings, (object.withExtras (.validate value)).form⟩
    let asRecord : Schema := ⟨settings, (record none value).form⟩
    asObject.apply = asRecord.apply ∧ asObject.applyAsync = asRecord.applyAsync ∧
      asObject.parse = asRecord.parse ∧ asObject.parseAsync = asRecord.parseAsync := by
  intro asObject asRecord
  have hchildren : asObject.hasAsyncChildren = asRecord.hasAsyncChildren := rfl
  have hasync : asObject.isAsync = asRecord.isAsync := by
    rw [isAsync_eq, isAsync_eq, hchildren]
  have happly : asObject.apply = asRecord.apply := by
    funext o v
    by_cases hwaits : asObject.isAsync = true
    · rw [apply_eq, if_pos hwaits, apply_eq, if_pos (hasync ▸ hwaits)]
    · have hsync : asObject.isAsync = false := Bool.eq_false_iff.2 hwaits
      rw [apply_eq_conclude hsync, apply_eq_conclude (hasync ▸ hsync)]
      exact congrArg (· >>= _) fittedBy_uniform
  have happlyAsync : asObject.applyAsync = asRecord.applyAsync := by
    funext o v
    rw [applyAsync_eq_conclude, applyAsync_eq_conclude]
    exact congrArg (· >>= _) fittedBy_uniform
  refine ⟨happly, happlyAsync, funext₂ fun o v => ?_, funext₂ fun o v => ?_⟩
  · rw [parse, tryParse, happly]
    rfl
  · rw [parseAsync, tryParseAsync, happlyAsync]
    rfl

end Schema

end Conform
