/-
Containers whose parts come out equal to what they were.

A container is copied as soon as a part comes out new, and what a rule makes is new even where it
equals what the rule was given.  So a container can be copied though nothing in it changes, and
the copy has to equal the original.  It does for every part that lies in the value.  But a property
that is missing is validated as undefined, and if that comes out new it is inserted, whatever it
is: the object then has a field that it did not have.
-/
import Conform.Proofs.ContainerOutput
import Conform.Proofs.Equality
import Conform.Schema.Build

namespace Conform

/-- The part is accepted and comes out equal to what it was, new or not. -/
def GivesBack (result : Except Fault Outcome) (part : Value) : Prop :=
  IsAccepted result ∧ ((outputOf result).resolve part).Same part

namespace Value

theorem same_object_of_entries {f g : Fields Value}
    (h : List.Forall₂ (fun a b => a.1 = b.1 ∧ Same a.2 b.2) f.entries g.entries) :
    Same (object f) (object g) := by
  refine same_object_iff.2 ⟨?_, fun e he => ?_⟩
  · have hlength := h.length_eq
    rw [← List.length_map Prod.fst, ← List.length_map Prod.fst, Fields.map_fst_entries,
      Fields.map_fst_entries] at hlength
    exact hlength
  · obtain ⟨⟨name, v⟩, hzip, rfl, hsame⟩ := exists_partner h he
    exact ⟨v, Fields.get?_eq_some_iff.2 (List.of_mem_zip hzip).2, hsame⟩

/-- The value with undefined under names it lacks, if it has fields. -/
def withUndefined (v : Value) (names : List String) : Value :=
  match v with
  | object fields => object (.ofList (fields.entries ++ names.map fun name => (name, undefined)))
  | v => v

theorem withUndefined_nil (v : Value) : v.withUndefined [] = v := by
  cases v with
  | object fields =>
      rw [withUndefined, List.map_nil, List.append_nil, Fields.ofList_entries]
  | _ => rfl

section Missing

variable {fields : Fields Value} {names : List String}

theorem entries_withUndefined (hdistinct : names.Nodup)
    (hmissing : ∀ name ∈ names, name ∉ fields.names) :
    (Fields.ofList (fields.entries ++ names.map fun name => (name, undefined))).entries =
      fields.entries ++ names.map fun name => (name, undefined) := by
  have hnames : (names.map fun name => (name, undefined)).map Prod.fst = names :=
    List.map_map.trans (List.map_id' names)
  refine Fields.entries_ofList ?_
  rw [List.map_append, Fields.map_fst_entries, hnames]
  refine List.nodup_append.2 ⟨fields.distinct, hdistinct, ?_⟩
  rintro name hname _ hadded rfl
  exact hmissing name hadded hname

/-- An object equals itself with undefined under names it lacks only if there are no such names. -/
theorem eq_nil_of_same_withUndefined (hdistinct : names.Nodup)
    (hmissing : ∀ name ∈ names, name ∉ fields.names)
    (h : Same ((object fields).withUndefined names) (object fields)) : names = [] := by
  have hsize := (same_object_iff.1 h).1
  rw [Fields.size, Fields.size, ← Fields.map_fst_entries, entries_withUndefined hdistinct hmissing,
    List.map_append, Fields.map_fst_entries, List.length_append, List.length_map,
    List.length_map] at hsize
  exact List.length_eq_zero_iff.1 (by omega)

end Missing

end Value

variable {validate : Schema → Validator} {o : Options} {v : Value}

theorem Remakes.exists_same {α : Type} {result : Except Fault Fit} {content : List α}
    {received : Option (Output × List α)} {build : List α → Value} {accepted : List α → Prop}
    {made : List α → List α} {unchanged : List α → Prop}
    (h : Remakes result (build content) received build accepted made unchanged)
    (hreceived : received = some (.kept, content)) (haccepted : accepted content)
    (hsame : (build (made content)).Same (build content)) :
    ∃ output, result = .ok (.clean output) ∧
      (output.resolve (build content)).Same (build content) := by
  obtain ⟨output, hclean⟩ := h.clean.2 ⟨_, _, hreceived, haccepted⟩
  obtain ⟨base, content', hreceived', -, houtput⟩ := h.output output hclean
  rw [hreceived] at hreceived'
  cases hreceived'
  exact ⟨output, hclean, by rwa [houtput.value]⟩

/-! ### Elements and entries -/

theorem forall₂_elementsMade {child : Nat → Option Schema} {items : List Value}
    (h : ∀ visit ∈ elementWalk validate o child items,
      GivesBack (visit.validate visit.part) visit.part) :
    List.Forall₂ Value.Same (elementsMade validate o child items) items := by
  refine List.forall₂_iff_get.2 ⟨List.length_mapIdx, fun i _ hi => ?_⟩
  rw [List.get_eq_getElem, List.get_eq_getElem]
  simp only [elementsMade, List.getElem_mapIdx]
  cases hschema : child i with
  | none => exact Value.same_refl _
  | some schema =>
      exact (h _ (mem_elementWalk_of_getElem? (List.getElem?_eq_getElem hi) hschema)).2

theorem forall₂_entriesMade {key value : Schema} {entries : List (Value × Value)}
    (h : ∀ e ∈ entries, GivesBack (validate key o e.1) e.1 ∧ GivesBack (validate value o e.2) e.2) :
    List.Forall₂ (fun a b => Value.Same a.1 b.1 ∧ Value.Same a.2 b.2)
      (entriesMade validate o key value entries) entries := by
  rw [entriesMade, List.forall₂_map_left_iff, List.forall₂_same]
  exact fun e he => ⟨(h e he).1.2, (h e he).2.2⟩

theorem Output.rename_eq_self {output : Output} {name : String}
    (h : (output.resolve (.string name)).Same (.string name)) : output.rename name = name := by
  cases output with
  | kept => rfl
  | replaced v =>
      cases v with
      | string s => exact beq_iff_eq.1 h
      | _ => cases h

theorem forall₂_renamedEntries {key : Option Schema} {value : Schema} {fields : Fields Value}
    (h : ∀ e ∈ fields.entries,
      (∀ schema ∈ key, GivesBack (validate schema o (.string e.1)) (.string e.1)) ∧
        GivesBack (validate value o e.2) e.2) :
    List.Forall₂ (fun a b => a.1 = b.1 ∧ Value.Same a.2 b.2)
      (renamedEntries validate o key value fields) fields.entries := by
  rw [renamedEntries, List.forall₂_map_left_iff, List.forall₂_same]
  refine fun e he => ⟨?_, (h e he).2.2⟩
  cases key with
  | none => rfl
  | some key => exact Output.rename_eq_self ((h e he).1 key rfl).2

/-! ### Fields of objects -/

section Objects

variable {properties : Fields Schema} {extras : Extras Schema} {fields : Fields Value}

theorem same_fieldOutput {name : String} (hname : name ∈ properties.names ++ fields.names)
    (h : ∀ visit ∈ propertyWalk validate o properties extras fields,
      GivesBack (visit.validate visit.part) visit.part) :
    ((fieldOutput validate o properties extras fields name).resolve
      ((fields.get? name).getD .undefined)).Same ((fields.get? name).getD .undefined) := by
  unfold propertyWalk at h
  rw [List.forall_mem_append, List.forall_mem_map] at h
  -- A name that is neither declared nor given is not visited, and nothing is known of it.
  by_cases hdeclared : name ∈ properties.names
  · obtain ⟨schema, he⟩ := Fields.mem_names.1 hdeclared
    rw [fieldOutput_of_declared he]
    exact (h.1 (name, schema) he).2
  · obtain ⟨w, hw⟩ := Fields.mem_names.1 ((List.mem_append.1 hname).resolve_left hdeclared)
    have he : (name, w) ∈ undeclared properties fields :=
      mem_undeclared_iff.2 ⟨Fields.get?_eq_some_iff.2 hw,
        Bool.eq_false_iff.2 fun hc => hdeclared (Fields.contains_iff.1 hc)⟩
    rw [fieldOutput_of_undeclared he, Fields.get?_eq_some_iff.2 hw]
    cases extras with
    | validate rest => exact (h.2 _ (List.mem_map_of_mem he)).2
    | _ => exact Value.same_refl _

/-- A missing field that is made for undefined is undefined again. -/
theorem forall₂_addedFields {made : String → Output} {names : List String}
    (h : ∀ name ∈ names, name ∉ fields.names → ((made name).resolve .undefined).Same .undefined) :
    List.Forall₂ (fun a b => a.1 = b.1 ∧ Value.Same a.2 b.2)
      (names.filterMap (addedField fields made))
      ((names.filter fun name => !fields.contains name && !(made name).isKept).map
        fun name => (name, .undefined)) := by
  induction names with
  | nil => exact .nil
  | cons name rest ih =>
      rw [List.forall_mem_cons] at h
      rw [List.filterMap_cons, List.filter_cons, addedField]
      cases hthere : fields.contains name with
      | true => exact ih h.2
      | false =>
          cases hmade : made name with
          | kept => exact ih h.2
          | replaced w =>
              have hmissing : name ∉ fields.names :=
                fun hname => Bool.false_ne_true (hthere.symm.trans (Fields.contains_iff.2 hname))
              have hsame := h.1 hmissing
              rw [hmade] at hsame
              exact .cons ⟨rfl, hsame⟩ (ih h.2)

end Objects

namespace Schema

variable {schema : Schema}

/-- The properties that the object lacks and for which undefined comes out new. -/
def insertedNames (validate : Schema → Validator) (o : Options) (schema : Schema) (v : Value) :
    List String :=
  match schema.form, v with
  | .object properties extras, .object fields =>
    properties.names.filter fun name =>
      !fields.contains name && !(fieldOutput validate o properties extras fields name).isKept
  | _, _ => []

theorem nodup_insertedNames : (schema.insertedNames validate o v).Nodup := by
  unfold insertedNames
  split
  · rename_i properties extras fields _
    exact properties.distinct.filter _
  · exact .nil

theorem missing_of_inserted {settings : Settings} {properties : Fields Schema}
    {extras : Extras Schema} {fields : Fields Value} {name : String}
    (h : name ∈ insertedNames validate o ⟨settings, .object properties extras⟩ (.object fields)) :
    name ∉ fields.names := by
  obtain ⟨-, hnew⟩ := List.mem_filter.1 h
  rw [Bool.and_eq_true, Bool.not_eq_true'] at hnew
  exact fun hname => Bool.false_ne_true (hnew.1.symm.trans (Fields.contains_iff.2 hname))

theorem same_withUndefined {output : Output} (hnone : schema.insertedNames validate o v = [])
    (hsame : (output.resolve v).Same v) :
    (output.resolve v).Same (v.withUndefined (schema.insertedNames validate o v)) := by
  rwa [hnone, Value.withUndefined_nil]

theorem insertedNames_eq_nil_of_same
    (h : (v.withUndefined (schema.insertedNames validate o v)).Same v) :
    schema.insertedNames validate o v = [] := by
  obtain ⟨settings, form⟩ := schema
  cases form with
  | object properties extras =>
      cases v with
      | object fields =>
          exact Value.eq_nil_of_same_withUndefined nodup_insertedNames
            (fun _ => missing_of_inserted) h
      | _ => rfl
  | _ => rfl

/-- The copy of an object holds what was there, and undefined for what is inserted. -/
theorem exists_output_of_object {settings : Settings} {properties : Fields Schema}
    {extras : Extras Schema} {fields : Fields Value} (hstrip : extras.isStrip = false)
    (hparts : ∀ visit ∈ propertyWalk validate o properties extras fields,
      GivesBack (visit.validate visit.part) visit.part) :
    ∃ output,
      fittedBy validate ⟨settings, .object properties extras⟩ o (.object fields) =
        .ok (.clean output) ∧
      (output.resolve (.object fields)).Same ((Value.object fields).withUndefined
        (insertedNames validate o ⟨settings, .object properties extras⟩ (.object fields))) := by
  have haccepted : FieldsAccepted validate o properties extras fields := by
    rw [← visits_accepted_iff]
    intro e he
    refine (hparts e.2 ?_).1
    rw [← objectVisits_eq_propertyWalk]
    exact List.mem_map_of_mem he
  refine ⟨_, fittedBy_object_eq_clean_iff.2 ⟨haccepted, rfl⟩, ?_⟩
  have hbase : Output.kept.resolve (.object fields) = .object fields := rfl
  rw [resolve_orRebuilt hbase]
  have hall : (fields.entries.filter fun e => !false || properties.contains e.1) =
      fields.entries := List.filter_eq_self.2 fun _ _ => rfl
  refine Value.same_object_of_entries ?_
  rw [entries_rebuildObject, fieldsLeft, hstrip, hall,
    Value.entries_withUndefined nodup_insertedNames fun _ => missing_of_inserted]
  refine List.rel_append ?_ (forall₂_addedFields fun name hname hnew => ?_)
  · rw [List.forall₂_map_left_iff, List.forall₂_same]
    intro e he
    have hsame := same_fieldOutput
      (List.mem_append_right properties.names (Fields.mem_names.2 ⟨e.2, he⟩)) hparts
    rw [Fields.get?_eq_some_iff.2 he] at hsame
    exact ⟨rfl, hsame⟩
  · have hsame := same_fieldOutput (List.mem_append_left fields.names hname) hparts
    rw [Fields.get?_eq_none_iff.2 hnew] at hsame
    exact hsame

/-- Names that come out equal stay distinct, so no fields are made one. -/
theorem exists_output_of_record {settings : Settings} {key : Option Schema} {value : Schema}
    {fields : Fields Value}
    (hparts : ∀ visit ∈ fieldWalk validate o key value fields,
      GivesBack (visit.validate visit.part) visit.part) :
    ∃ output,
      fittedBy validate ⟨settings, .record key value⟩ o (.object fields) = .ok (.clean output) ∧
      (output.resolve (.object fields)).Same (.object fields) := by
  have hrenamed := forall₂_renamedEntries (forall_fieldWalk_iff.1 hparts)
  have hnames : (renamedEntries validate o key value fields).map Prod.fst = fields.names := by
    rw [← Fields.map_fst_entries fields, ← List.forall₂_eq_eq_eq, List.forall₂_map_left_iff,
      List.forall₂_map_right_iff]
    exact hrenamed.imp fun _ _ h => h.1
  have hbase : Output.kept.resolve (.object fields) = .object fields := rfl
  obtain ⟨output, houtput⟩ := exists_comesOut hbase ofList_renamedEntries_of_kept
  refine ⟨output, fittedBy_record_eq_clean_iff.2
    ⟨fun visit hvisit => (hparts visit hvisit).1, houtput⟩, ?_⟩
  rw [houtput.value]
  refine Value.same_object_of_entries ?_
  rwa [Fields.entries_ofList (hnames ▸ fields.distinct)]

/-! Elements and entries keep their places, and equality compares them place by place. -/

section Places

variable {settings : Settings} {visits : List Visit}
  (hparts : ∀ visit ∈ visits, GivesBack (visit.validate visit.part) visit.part)

include hparts

theorem exists_output_of_array {head : List Schema} {rest : Option Schema}
    (hwalk : walk? validate o ⟨settings, .array head rest⟩ v = some visits)
    (huncoerced : (Form.array head rest).base v = .kept) :
    ∃ output, fittedBy validate ⟨settings, .array head rest⟩ o v = .ok (.clean output) ∧
      (output.resolve v).Same v := by
  obtain ⟨⟨base, items⟩, hreceive, hvisits⟩ := Option.bind_eq_some_iff.1 hwalk
  obtain ⟨hplaces, hvisits⟩ := Option.ite_none_right_eq_some.1 hvisits
  cases hvisits
  obtain rfl : base = .kept := (base_of_receive hreceive []).trans huncoerced
  obtain rfl : v = .array items := resolve_of_receive arrayItems?_eq_some_iff.1 hreceive
  have haccepted := (forall_elementWalk_accepted_iff (isSome_place hplaces)).1
    fun visit hvisit => (hparts visit hvisit).1
  exact array_remakes.exists_same hreceive ⟨hplaces, haccepted⟩
    (Value.sameList_iff.2 (forall₂_elementsMade hparts))

theorem exists_output_of_set {element : Schema}
    (hwalk : walk? validate o ⟨settings, .set element⟩ v = some visits)
    (huncoerced : (Form.set element).base v = .kept) :
    ∃ output, fittedBy validate ⟨settings, .set element⟩ o v = .ok (.clean output) ∧
      (output.resolve v).Same v := by
  obtain ⟨⟨base, items⟩, hreceive, hvisits⟩ := Option.bind_eq_some_iff.1 hwalk
  cases hvisits
  obtain rfl : base = .kept := (base_of_receive hreceive []).trans huncoerced
  obtain rfl : v = .set items := resolve_of_receive setItems?_eq_some_iff.1 hreceive
  have haccepted := (forall_elementWalk_accepted_iff fun _ _ => rfl).1
    fun visit hvisit => (hparts visit hvisit).1
  exact set_remakes.exists_same hreceive haccepted
    (Value.sameList_iff.2 (forall₂_elementsMade hparts))

theorem exists_output_of_map {key value : Schema}
    (hwalk : walk? validate o ⟨settings, .map key value⟩ v = some visits)
    (huncoerced : (Form.map key value).base v = .kept) :
    ∃ output, fittedBy validate ⟨settings, .map key value⟩ o v = .ok (.clean output) ∧
      (output.resolve v).Same v := by
  obtain ⟨⟨base, entries⟩, hreceive, hvisits⟩ := Option.bind_eq_some_iff.1 hwalk
  cases hvisits
  obtain rfl : base = .kept := (base_of_receive hreceive []).trans huncoerced
  obtain rfl : v = .map entries := resolve_of_receive mapEntries?_eq_some_iff.1 hreceive
  have hentries := forall_entryVisits_iff.1 hparts
  exact map_remakes.exists_same hreceive
    (fun e he => ⟨(hentries e he).1.1, (hentries e he).2.1⟩)
    (Value.sameEntries_iff.2 (forall₂_entriesMade hentries))

end Places

/-- Where parts come out equal, so does the container, but for what is inserted. -/
theorem exists_output_of_givesBack {visits : List Visit}
    (hwalk : schema.walk? validate o v = some visits) (hstrips : schema.form.strips = false)
    (huncoerced : schema.form.base v = .kept)
    (hparts : ∀ visit ∈ visits, GivesBack (visit.validate visit.part) visit.part) :
    ∃ output, schema.fittedBy validate o v = .ok (.clean output) ∧
      (output.resolve v).Same (v.withUndefined (schema.insertedNames validate o v)) := by
  obtain ⟨settings, form⟩ := schema
  cases form with
  | array head rest =>
      obtain ⟨output, hfitted, hsame⟩ := exists_output_of_array hparts hwalk huncoerced
      exact ⟨output, hfitted, same_withUndefined rfl hsame⟩
  | set element =>
      obtain ⟨output, hfitted, hsame⟩ := exists_output_of_set hparts hwalk huncoerced
      exact ⟨output, hfitted, same_withUndefined rfl hsame⟩
  | map key value =>
      obtain ⟨output, hfitted, hsame⟩ := exists_output_of_map hparts hwalk huncoerced
      exact ⟨output, hfitted, same_withUndefined rfl hsame⟩
  | record key value =>
      cases v with
      | object fields =>
          cases hwalk
          obtain ⟨output, hfitted, hsame⟩ := exists_output_of_record hparts
          exact ⟨output, hfitted, same_withUndefined rfl hsame⟩
      | _ => cases hwalk
  | object properties extras =>
      cases v with
      | object fields =>
          cases hwalk
          exact exists_output_of_object hstrips hparts
      | _ => cases hwalk
  | _ => cases hwalk

/-- **Parts that come out equal.**  Let a container that drops no fields take a value without
coercing it, and let every part that is visited come out equal to what it was, new or not, where
undefined stands for a property that is missing.  Then the container comes out without issues, and
equal to the value with undefined under the names of the missing properties for which that came
out new.  So it comes out equal to the value itself exactly if there are none of these, as there
are not in an array, a set, a map or a record. -/
theorem output_of_equal_parts {visits : List Visit}
    (hwalk : schema.walk? validate o v = some visits) (hstrips : schema.form.strips = false)
    (huncoerced : schema.form.base v = .kept)
    (hparts : ∀ visit ∈ Visit.made o.verbose visits,
      GivesBack (visit.validate visit.part) visit.part) :
    ∃ output, schema.fittedBy validate o v = .ok (.clean output) ∧
      (output.resolve v).Same (v.withUndefined (schema.insertedNames validate o v)) ∧
      ((output.resolve v).Same v ↔ schema.insertedNames validate o v = []) := by
  rw [Visit.made_eq_self fun visit hvisit => (hparts visit hvisit).1] at hparts
  obtain ⟨output, hfitted, hsame⟩ := exists_output_of_givesBack hwalk hstrips huncoerced hparts
  refine ⟨output, hfitted, hsame, fun h => ?_, fun hnone => ?_⟩
  · exact insertedNames_eq_nil_of_same (Value.same_trans (Value.same_symm hsame) h)
  · rwa [hnone, Value.withUndefined_nil] at hsame

/-- A record is copied for the one name that is made anew, and the copy equals it. -/
theorem output_of_equal_parts_record :
    let again : Rule := { action := .alter fun v _ _ => .ok v }
    let schema : Schema := ⟨{}, .record (some ⟨{ rules := [again] }, .unknown⟩) ⟨{}, .unknown⟩⟩
    let v : Value := .object (.ofList [("a", .null)])
    ∃ output, schema.fittedBy apply {} v = .ok (.clean output) ∧ output ≠ .kept ∧
      (output.resolve v).Same v := by
  intro again schema v
  have hparts : ∀ visit ∈ Visit.made ({} : Options).verbose
      (fieldWalk apply {} (some ⟨{ rules := [again] }, .unknown⟩) ⟨{}, .unknown⟩
        (.ofList [("a", .null)])),
      GivesBack (visit.validate visit.part) visit.part := by
    intro visit hvisit
    rcases List.mem_cons.1 hvisit with rfl | hvisit
    · exact ⟨⟨.replaced (.string "a"), rfl⟩, rfl⟩
    · obtain rfl := List.mem_singleton.1 hvisit
      exact ⟨⟨.kept, rfl⟩, rfl⟩
  have hwalk : schema.walk? apply {} v = some _ := rfl
  obtain ⟨output, hfitted, -, hsame⟩ := output_of_equal_parts hwalk rfl rfl hparts
  have hnew : schema.fittedBy apply {} v =
      .ok (.clean (.replaced (.object (.ofList [("a", .null)])))) := rfl
  obtain rfl := Fit.clean_inj.1 (Except.ok.inj (hfitted.symm.trans hnew))
  exact ⟨_, hfitted, nofun, hsame.2 rfl⟩

/-- A property that may be missing has its text made upper case, which leaves undefined as it is
but makes it anew.  So an object without the property comes out with it. -/
theorem missing_property_inserted :
    let upper : Rule := { action := .alter fun v _ _ => .ok (match v with
      | .string s => .string s.toUpper
      | v => v) }
    let property : Schema := ⟨{ rules := [upper] }, (optional (scalar .string)).form⟩
    let schema : Schema := ⟨{}, .object (.ofList [("a", property)]) .preserve⟩
    let v : Value := .object .empty
    schema.form.strips = false ∧ schema.form.base v = .kept ∧
      (∃ visits, schema.walk? apply {} v = some visits ∧
        ∀ visit ∈ Visit.made ({} : Options).verbose visits,
          GivesBack (visit.validate visit.part) visit.part) ∧
      ∃ output, schema.fittedBy apply {} v = .ok (.clean output) ∧ ¬ (output.resolve v).Same v := by
  intro upper property schema v
  refine ⟨rfl, rfl, ⟨_, rfl, fun visit hvisit => ?_⟩, .replaced (.object (.ofList
    [("a", .undefined)])), rfl, nofun⟩
  obtain rfl := List.mem_singleton.1 hvisit
  exact ⟨⟨.replaced .undefined, rfl⟩, rfl⟩

end Schema

end Conform
