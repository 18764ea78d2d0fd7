/-
What arrays, sets, maps and records come out as.

A copy is made when the first part comes out new, and the parts after it are written into the copy
while the walk goes on.  A record is not even copied: its fields are inserted one by one from the
first that changes, those before it first.  In the end none of this can be told.  The container
holds what came out of every part, in its place, as if all parts had been replaced at once, and it
is the value itself exactly if that was not coerced and no part is new.
-/
import Conform.Proofs.ObjectOutput

namespace Conform

variable {validate : Schema → Validator} {o : Options} {v : Value} {base output : Output}
  {settings : Settings}

theorem Visit.made_eq_self {verbose : Bool} {visits : List Visit}
    (h : ∀ visit ∈ made verbose visits, IsAccepted (visit.validate visit.part)) :
    made verbose visits = visits := by
  induction visits with
  | nil => rfl
  | cons visit rest ih =>
      unfold made at h ⊢
      split
      · rename_i hlast
        rw [if_pos hlast, List.forall_mem_singleton] at h
        obtain ⟨output, haccepted⟩ := h
        rw [fails, haccepted, Bool.and_false] at hlast
        cases hlast
      · rename_i hmore
        rw [if_neg hmore, List.forall_mem_cons] at h
        rw [ih h.2]

/-- The container `made` comes out, and as the value itself exactly if it stood as that and no part
is new. -/
structure ComesOut (v : Value) (base output : Output) (made : Value) (unchanged : Prop) : Prop where
  value : output.resolve v = made
  kept : output = .kept ↔ base = .kept ∧ unchanged

/-- A container is rebuilt exactly if something is new, and then holds what is built. -/
theorem eq_orRebuilt_iff {α : Type} {build : α → Value} {content : α} {rebuilt : Option α}
    (hbase : base.resolve v = build content) :
    output = base.orRebuilt (rebuilt.map build) ↔
      ComesOut v base output (build (rebuilt.getD content)) (rebuilt = none) := by
  constructor
  · rintro rfl
    refine ⟨resolve_orRebuilt hbase, ?_⟩
    cases rebuilt with
    | none => exact (and_iff_left rfl).symm
    | some new => exact iff_of_false nofun fun h => nomatch h.2
  · rintro ⟨hvalue, hkept⟩
    cases rebuilt with
    | some new =>
        cases output with
        | kept => exact absurd (hkept.1 rfl).2 (Option.some_ne_none new)
        | replaced w => exact congrArg Output.replaced hvalue
    | none =>
        show output = base
        cases output with
        | kept => exact (hkept.1 rfl).1.symm
        | replaced w =>
            cases base with
            | kept => exact absurd (hkept.2 ⟨rfl, rfl⟩) nofun
            | replaced content => exact congrArg Output.replaced (hvalue.trans hbase.symm)

/-- Something comes out so, if what is unchanged is made of itself. -/
theorem exists_comesOut {α : Type} {build : α → Value} {content made : α} {unchanged : Prop}
    (hbase : base.resolve v = build content) (hmade : unchanged → made = content) :
    ∃ output, ComesOut v base output (build made) unchanged := by
  by_cases hunchanged : unchanged
  · exact ⟨base, hbase.trans (congrArg build (hmade hunchanged).symm),
      (and_iff_left hunchanged).symm⟩
  · exact ⟨.replaced (build made), rfl, iff_of_false nofun fun h => hunchanged h.2⟩

/-- A call takes a value without issues exactly if it is received with content that is accepted.
In that case the container comes out with the content made, member by member. -/
structure Remakes {α : Type} (result : Except Fault Fit) (v : Value)
    (received : Option (Output × List α)) (build : List α → Value) (accepted : List α → Prop)
    (made : List α → List α) (unchanged : List α → Prop) : Prop where
  clean : (∃ output, result = .ok (.clean output)) ↔
    ∃ base content, received = some (base, content) ∧ accepted content
  output : ∀ output, result = .ok (.clean output) →
    ∃ base content, received = some (base, content) ∧
      (made content).length = content.length ∧
      ComesOut v base output (build (made content)) (unchanged content)

theorem Remakes.of_iff {α : Type} {result : Except Fault Fit}
    {received : Option (Output × List α)} {build : List α → Value}
    {accepted : List α → Prop} {made : List α → List α} {unchanged : List α → Prop}
    (hclean : ∀ output, result = .ok (.clean output) ↔
      ∃ base content, received = some (base, content) ∧ accepted content ∧
        ComesOut v base output (build (made content)) (unchanged content))
    (hreceived : ∀ base content, received = some (base, content) →
      base.resolve v = build content)
    (hlength : ∀ content, (made content).length = content.length)
    (hmade : ∀ content, unchanged content → made content = content) :
    Remakes result v received build accepted made unchanged := by
  refine ⟨⟨?_, ?_⟩, fun output h => ?_⟩
  · rintro ⟨output, h⟩
    obtain ⟨base, content, hcontent, haccepted, -⟩ := (hclean output).1 h
    exact ⟨base, content, hcontent, haccepted⟩
  · rintro ⟨base, content, hcontent, haccepted⟩
    obtain ⟨output, houtput⟩ := exists_comesOut (hreceived base content hcontent) (hmade content)
    exact ⟨output, (hclean output).2 ⟨base, content, hcontent, haccepted, houtput⟩⟩
  · obtain ⟨base, content, hcontent, -, houtput⟩ := (hclean output).1 h
    exact ⟨base, content, hcontent, hlength content, houtput⟩

/-- What comes out of a part, which is kept where there is no schema for it. -/
def partOutput (validate : Schema → Validator) (o : Options) (schema? : Option Schema)
    (part : Value) : Output :=
  match schema? with
  | some schema => outputOf (validate schema o part)
  | none => .kept

/-! ### Elements -/

section Elements

variable (validate o) (child : Nat → Option Schema) (items : List Value)

/-- Every element is accepted by the schema for its index, and there is one. -/
def ElementsAccepted : Prop :=
  ∀ i item, items[i]? = some item →
    ∃ schema, child i = some schema ∧ IsAccepted (validate schema o item)

/-- The elements, each as the schema for its index has it. -/
def elementsMade : List Value :=
  items.mapIdx fun i item => (partOutput validate o (child i) item).resolve item

/-- No element is new. -/
def ElementsKept : Prop :=
  ∀ i item, items[i]? = some item → partOutput validate o (child i) item = .kept

variable {validate o child items}

theorem map_outputOf_elementWalk (hchild : ∀ i < items.length, (child i).isSome = true) :
    (elementWalk validate o child items).map (fun visit => outputOf (visit.validate visit.part)) =
      items.mapIdx fun i item => partOutput validate o (child i) item := by
  rw [elementWalk, List.map_filterMap, List.mapIdx_eq_zipIdx_map,
    List.filterMap_eq_map_iff_forall_eq_some]
  rintro ⟨item, i⟩ hitem
  obtain ⟨hi, -⟩ := List.getElem?_eq_some_iff.1 (List.mem_zipIdx_iff_getElem?.1 hitem)
  obtain ⟨schema, hschema⟩ := Option.isSome_iff_exists.1 (hchild i hi)
  simp only [hschema]
  rfl

theorem mem_elementWalk_of_getElem? {i : Nat} {item : Value} {schema : Schema}
    (hitem : items[i]? = some item) (hschema : child i = some schema) :
    ⟨[.index i], item, validate schema o⟩ ∈ elementWalk validate o child items :=
  List.mem_filterMap.2 ⟨(item, i), List.mem_zipIdx_iff_getElem?.2 hitem,
    Option.map_eq_some_iff.2 ⟨schema, hschema, rfl⟩⟩

theorem forall_elementWalk_accepted_iff (hchild : ∀ i < items.length, (child i).isSome = true) :
    (∀ visit ∈ elementWalk validate o child items, IsAccepted (visit.validate visit.part)) ↔
      ElementsAccepted validate o child items := by
  constructor
  · intro h i item hitem
    obtain ⟨hi, -⟩ := List.getElem?_eq_some_iff.1 hitem
    obtain ⟨schema, hschema⟩ := Option.isSome_iff_exists.1 (hchild i hi)
    exact ⟨schema, hschema, h _ (mem_elementWalk_of_getElem? hitem hschema)⟩
  · intro h visit hvisit
    obtain ⟨i, item, schema, hitem, hschema, rfl⟩ := mem_elementWalk hvisit
    obtain ⟨other, hother, haccepted⟩ := h i item hitem
    rw [hschema] at hother
    cases hother
    exact haccepted

/-- A container of elements comes out with every element made. -/
theorem visitParts_elementWalk_eq_clean_iff {verbose : Bool} {build : List Value → Value}
    (hbase : base.resolve v = build items)
    (hchild : ∀ i < items.length, (child i).isSome = true) :
    visitParts verbose base (elementWalk validate o child items)
        (fun outputs => (rebuildItems items outputs).map build) = .ok (.clean output) ↔
      ElementsAccepted validate o child items ∧
        ComesOut v base output (build (elementsMade validate o child items))
          (ElementsKept validate o child items) := by
  have hlength : (items.mapIdx fun i item => partOutput validate o (child i) item).length =
      items.length := List.length_mapIdx
  have hmade : (rebuildItems items
      (items.mapIdx fun i item => partOutput validate o (child i) item)).getD items =
        elementsMade validate o child items := by
    rw [rebuildItems_getD hlength, elementsMade]
    refine List.ext_getElem? fun i => ?_
    rw [List.getElem?_zipWith, List.getElem?_mapIdx, List.getElem?_mapIdx]
    cases items[i]? <;> rfl
  have hkept : rebuildItems items
      (items.mapIdx fun i item => partOutput validate o (child i) item) = none ↔
        ElementsKept validate o child items := by
    rw [rebuildItems_eq_none_iff, List.mapIdx_eq_zipIdx_map, List.forall_mem_map]
    constructor
    · exact fun h i item hitem => h (item, i) (List.mem_zipIdx_iff_getElem?.2 hitem)
    · exact fun h e he => h e.2 e.1 (List.mem_zipIdx_iff_getElem?.1 he)
  rw [visitParts_eq_clean_iff_accepted, forall_elementWalk_accepted_iff hchild,
    map_outputOf_elementWalk hchild, eq_orRebuilt_iff hbase, hmade, hkept]

theorem elementsMade_of_kept (h : ElementsKept validate o child items) :
    elementsMade validate o child items = items := by
  refine List.ext_getElem? fun i => ?_
  rw [elementsMade, List.getElem?_mapIdx]
  cases hitem : items[i]? with
  | none => rfl
  | some item =>
      rw [Option.map_some, h i item hitem]
      rfl

end Elements

/-! ### Entries -/

section Visits

variable {segment : Value → Segment} {key value : Validator} {entries : List (Value × Value)}

theorem map_outputOf_entryVisits :
    (entryVisits segment key value o entries).map
        (fun visit => outputOf (visit.validate visit.part)) =
      inTurn (entries.map fun e => (outputOf (key o e.1), outputOf (value o e.2))) := by
  rw [entryVisits, inTurn, List.map_flatMap, List.flatMap_map]
  rfl

theorem forall_entryVisits_iff {P : Except Fault Outcome → Value → Prop} :
    (∀ visit ∈ entryVisits segment key value o entries,
        P (visit.validate visit.part) visit.part) ↔
      ∀ e ∈ entries, P (key o e.1) e.1 ∧ P (value o e.2) e.2 := by
  rw [entryVisits, List.forall_mem_flatMap]
  refine forall₂_congr fun e _ => ?_
  rw [List.forall_mem_cons, List.forall_mem_singleton]

end Visits

section Entries

variable (validate o) (key value : Schema) (entries : List (Value × Value))

/-- Every key and every value is accepted. -/
def EntriesAccepted : Prop :=
  ∀ e ∈ entries, IsAccepted (validate key o e.1) ∧ IsAccepted (validate value o e.2)

/-- The entries, each with its key and its value as their schemas have them. -/
def entriesMade : List (Value × Value) :=
  entries.map fun e =>
    ((outputOf (validate key o e.1)).resolve e.1, (outputOf (validate value o e.2)).resolve e.2)

/-- No key and no value is new. -/
def EntriesKept : Prop :=
  ∀ e ∈ entries,
    outputOf (validate key o e.1) = .kept ∧ outputOf (validate value o e.2) = .kept

variable {validate o key value entries}

theorem entriesMade_of_kept (h : EntriesKept validate o key value entries) :
    entriesMade validate o key value entries = entries := by
  refine (List.map_congr_left fun e he => ?_).trans (List.map_id' _)
  rw [(h e he).1, (h e he).2]
  rfl

/-- A map comes out with every entry made. -/
theorem visitParts_entries_eq_clean_iff {verbose : Bool} (hbase : base.resolve v = .map entries) :
    visitParts verbose base (entryVisits .key (validate key) (validate value) o entries)
        (fun outputs => (copyOnWrite entries (changedEntries outputs entries)).map .map) =
          .ok (.clean output) ↔
      EntriesAccepted validate o key value entries ∧
        ComesOut v base output (.map (entriesMade validate o key value entries))
          (EntriesKept validate o key value entries) := by
  have hlength : (entries.map fun e =>
      (outputOf (validate key o e.1), outputOf (validate value o e.2))).length =
        entries.length := List.length_map _
  rw [visitParts_eq_clean_iff_accepted,
    forall_entryVisits_iff (P := fun result _ => IsAccepted result), map_outputOf_entryVisits,
    eq_orRebuilt_iff hbase, changedEntries_getD hlength, changedEntries_eq_none_iff hlength,
    List.forall_mem_map, List.zipWith_map_left, List.zipWith_self]
  exact Iff.rfl

end Entries

/-! ### Fields under other names -/

section Renaming

variable (validate o) (key : Option Schema) (value : Schema) (fields : Fields Value)

/-- The fields under the names and with the values that their schemas make of them.  Names may
have become equal. -/
def renamedEntries : List (String × Value) :=
  fields.entries.map fun e =>
    ((partOutput validate o key (.string e.1)).rename e.1,
      (outputOf (validate value o e.2)).resolve e.2)

/-- No name and no value is new. -/
def RenamedKept : Prop :=
  ∀ e ∈ fields.entries, partOutput validate o key (.string e.1) = .kept ∧
    outputOf (validate value o e.2) = .kept

variable {validate o key value fields}

theorem ofList_renamedEntries_of_kept (h : RenamedKept validate o key value fields) :
    Fields.ofList (renamedEntries validate o key value fields) = fields := by
  have hentries : renamedEntries validate o key value fields = fields.entries := by
    refine (List.map_congr_left fun e he => ?_).trans (List.map_id' _)
    rw [(h e he).1, (h e he).2]
    rfl
  rw [hentries, Fields.ofList_entries]

theorem outputOf_key {v : Value} :
    outputOf ((key.map validate).getD .keep o v) = partOutput validate o key v := by
  cases key <;> rfl

theorem forall_fieldWalk_iff {P : Except Fault Outcome → Value → Prop} :
    (∀ visit ∈ fieldWalk validate o key value fields,
        P (visit.validate visit.part) visit.part) ↔
      ∀ e ∈ fields.entries,
        (∀ schema ∈ key, P (validate schema o (.string e.1)) (.string e.1)) ∧
          P (validate value o e.2) e.2 := by
  rw [fieldWalk, List.forall_mem_flatMap]
  refine forall₂_congr fun e _ => ?_
  rw [List.forall_mem_append, List.forall_mem_singleton, List.forall_mem_map]
  simp only [Option.mem_toList, Option.mem_def]

/-- Names are accepted where there is no schema for them. -/
theorem forall_fieldVisits_accepted_iff :
    (∀ visit ∈ entryVisits (fun name => .field (fieldName name))
          ((key.map validate).getD .keep) (validate value) o
          (fields.entries.map fun e => (Value.string e.1, e.2)),
        IsAccepted (visit.validate visit.part)) ↔
      ∀ visit ∈ fieldWalk validate o key value fields,
        IsAccepted (visit.validate visit.part) := by
  rw [forall_entryVisits_iff (P := fun result _ => IsAccepted result), List.forall_mem_map,
    forall_fieldWalk_iff (P := fun result _ => IsAccepted result)]
  refine forall₂_congr fun e _ => and_congr_left fun _ => ?_
  cases key with
  | none => exact iff_of_true ⟨.kept, rfl⟩ nofun
  | some key => exact ⟨fun h schema hschema => Option.some.inj hschema ▸ h, fun h => h key rfl⟩

end Renaming

namespace Schema

variable {head : List Schema} {rest : Option Schema} {element key value : Schema}
  {fields : Fields Value}

theorem isSome_place {length : Nat}
    (h : if rest.isSome then head.length ≤ length else length = head.length) :
    ∀ i < length, (head[i]?.or rest).isSome = true := by
  intro i hi
  cases rest with
  | none =>
      have hlength : length = head.length := h
      rw [Option.or_none, isSome_getElem?, ← hlength]
      exact hi
  | some schema => rw [Option.isSome_or, Option.isSome_some, Bool.or_true]

theorem fittedBy_array_eq_clean_iff :
    fittedBy validate ⟨settings, .array head rest⟩ o v = .ok (.clean output) ↔
      ∃ base items,
        receive (settings.coercesUnder o) arrayItems? (fun v => some (Coercion.toItems v)) .array
          v = some (base, items) ∧
        (if rest.isSome then head.length ≤ items.length else items.length = head.length) ∧
        ElementsAccepted validate o (fun i => head[i]?.or rest) items ∧
        ComesOut v base output
          (.array (elementsMade validate o (fun i => head[i]?.or rest) items))
          (ElementsKept validate o (fun i => head[i]?.or rest) items) := by
  rw [fittedBy_array, fitArray_eq_clean_iff]
  refine exists₂_congr fun base items => and_congr_right fun hreceive => ?_
  refine Iff.trans (and_congr_right fun hfills => ?_) (and_congr_left' fillsPlaces_map_iff)
  rw [placeVisits_eq_elementWalk hfills]
  exact visitParts_elementWalk_eq_clean_iff
    (resolve_of_receive arrayItems?_eq_some_iff.1 hreceive)
    (isSome_place (fillsPlaces_map_iff.1 hfills))

theorem fittedBy_set_eq_clean_iff :
    fittedBy validate ⟨settings, .set element⟩ o v = .ok (.clean output) ↔
      ∃ base items,
        receive (settings.coercesUnder o) setItems? (fun v => some (Coercion.toElements v)) .set
          v = some (base, items) ∧
        ElementsAccepted validate o (fun _ => some element) items ∧
        ComesOut v base output (.set (elementsMade validate o (fun _ => some element) items))
          (ElementsKept validate o (fun _ => some element) items) := by
  show fitSet settings (validate element) o v = _ ↔ _
  rw [fitSet_eq_clean_iff]
  refine exists₂_congr fun base items => and_congr_right fun hreceive => ?_
  rw [replicateVisits_eq_elementWalk]
  exact visitParts_elementWalk_eq_clean_iff
    (resolve_of_receive setItems?_eq_some_iff.1 hreceive) fun _ _ => rfl

theorem fittedBy_map_eq_clean_iff :
    fittedBy validate ⟨settings, .map key value⟩ o v = .ok (.clean output) ↔
      ∃ base entries,
        receive (settings.coercesUnder o) mapEntries? Coercion.toEntries? .map v =
          some (base, entries) ∧
        EntriesAccepted validate o key value entries ∧
        ComesOut v base output (.map (entriesMade validate o key value entries))
          (EntriesKept validate o key value entries) := by
  show fitMap settings (validate key) (validate value) o v = _ ↔ _
  rw [fitMap_eq_clean_iff]
  refine exists₂_congr fun base entries => and_congr_right fun hreceive => ?_
  exact visitParts_entries_eq_clean_iff (resolve_of_receive mapEntries?_eq_some_iff.1 hreceive)

/-- However late its rebuilding is begun, a record comes out with all fields inserted anew. -/
theorem fittedBy_record_eq_clean_iff {key : Option Schema} :
    fittedBy validate ⟨settings, .record key value⟩ o (.object fields) = .ok (.clean output) ↔
      (∀ visit ∈ fieldWalk validate o key value fields,
          IsAccepted (visit.validate visit.part)) ∧
        ComesOut (.object fields) .kept output
          (.object (.ofList (renamedEntries validate o key value fields)))
          (RenamedKept validate o key value fields) := by
  let pair (e : String × Value) : Output × Output :=
    (partOutput validate o key (.string e.1), outputOf (validate value o e.2))
  have hlength : (fields.entries.map pair).length = fields.entries.length := List.length_map _
  have houtputs : (entryVisits (fun name => .field (fieldName name))
      ((key.map validate).getD .keep) (validate value) o
      (fields.entries.map fun e => (Value.string e.1, e.2))).map
        (fun visit => outputOf (visit.validate visit.part)) =
          inTurn (fields.entries.map pair) := by
    rw [map_outputOf_entryVisits, List.map_map]
    refine congrArg inTurn (List.map_congr_left fun e _ => ?_)
    exact congrArg (·, _) outputOf_key
  have hbase : Output.kept.resolve (.object fields) = .object fields := rfl
  rw [fittedBy_record, fitRecord, visitParts_eq_clean_iff_accepted,
    forall_fieldVisits_accepted_iff, houtputs, eq_orRebuilt_iff hbase, rebuildFields_getD hlength,
    rebuildFields_eq_none_iff hlength, List.forall_mem_map, List.zipWith_map_left,
    List.zipWith_self]
  exact Iff.rfl

/-! ### The outputs -/

theorem array_remakes :
    Remakes (fittedBy validate ⟨settings, .array head rest⟩ o v) v
      (receive (settings.coercesUnder o) arrayItems? (fun v => some (Coercion.toItems v)) .array v)
      .array
      (fun items =>
        (if rest.isSome then head.length ≤ items.length else items.length = head.length) ∧
          ElementsAccepted validate o (fun i => head[i]?.or rest) items)
      (elementsMade validate o fun i => head[i]?.or rest)
      (ElementsKept validate o fun i => head[i]?.or rest) := by
  refine .of_iff (fun output => ?_) (fun _ _ => resolve_of_receive arrayItems?_eq_some_iff.1)
    (fun _ => List.length_mapIdx) fun _ => elementsMade_of_kept
  simp only [fittedBy_array_eq_clean_iff, and_assoc]

theorem set_remakes :
    Remakes (fittedBy validate ⟨settings, .set element⟩ o v) v
      (receive (settings.coercesUnder o) setItems? (fun v => some (Coercion.toElements v)) .set v)
      .set (ElementsAccepted validate o fun _ => some element)
      (elementsMade validate o fun _ => some element)
      (ElementsKept validate o fun _ => some element) :=
  .of_iff (fun _ => fittedBy_set_eq_clean_iff)
    (fun _ _ => resolve_of_receive setItems?_eq_some_iff.1)
    (fun _ => List.length_mapIdx) fun _ => elementsMade_of_kept

theorem map_remakes :
    Remakes (fittedBy validate ⟨settings, .map key value⟩ o v) v
      (receive (settings.coercesUnder o) mapEntries? Coercion.toEntries? .map v)
      .map (EntriesAccepted validate o key value) (entriesMade validate o key value)
      (EntriesKept validate o key value) :=
  .of_iff (fun _ => fittedBy_map_eq_clean_iff)
    (fun _ _ => resolve_of_receive mapEntries?_eq_some_iff.1)
    (fun _ => List.length_map _) fun _ => entriesMade_of_kept

/-- **The outputs of arrays, sets and maps.**  A value is taken without issues exactly if it is a
container of the kind or is coerced to one, it has as many elements as an array asks for, and
every part is accepted by the schema for its place.  In that case the container comes out with as
many parts, each as its schema has it and none made one with another.  It comes out as the value
itself exactly if it was not coerced and no part is new. -/
theorem collection_output (validate : Schema → Validator) (settings : Settings) (o : Options)
    (v : Value) :
    (∀ head rest,
      Remakes (fittedBy validate ⟨settings, .array head rest⟩ o v) v
        (receive (settings.coercesUnder o) arrayItems? (fun v => some (Coercion.toItems v)) .array v)
        .array
        (fun items =>
          (if rest.isSome then head.length ≤ items.length else items.length = head.length) ∧
            ElementsAccepted validate o (fun i => head[i]?.or rest) items)
        (elementsMade validate o fun i => head[i]?.or rest)
        (ElementsKept validate o fun i => head[i]?.or rest)) ∧
      (∀ element,
        Remakes (fittedBy validate ⟨settings, .set element⟩ o v) v
          (receive (settings.coercesUnder o) setItems? (fun v => some (Coercion.toElements v)) .set
            v)
          .set (ElementsAccepted validate o fun _ => some element)
          (elementsMade validate o fun _ => some element)
          (ElementsKept validate o fun _ => some element)) ∧
      ∀ key value,
        Remakes (fittedBy validate ⟨settings, .map key value⟩ o v) v
          (receive (settings.coercesUnder o) mapEntries? Coercion.toEntries? .map v)
          .map (EntriesAccepted validate o key value) (entriesMade validate o key value)
          (EntriesKept validate o key value) :=
  ⟨fun _ _ => array_remakes, fun _ => set_remakes, fun _ _ => map_remakes⟩

/-- **The output of a record.**  Let every visit that is made be accepted.  Then the record comes
out without issues and with its fields inserted in order, each under the name and with the value
that their schemas make of it: names that are or become equal share the first place and have the
last value.  It comes out as the value itself exactly if no name and no value is new, and then it
has the fields it had. -/
theorem record_output {key : Option Schema} (settings : Settings)
    (haccepted : ∀ visit ∈ Visit.made o.verbose (fieldWalk validate o key value fields),
      IsAccepted (visit.validate visit.part)) :
    let entries := renamedEntries validate o key value fields
    ∃ output left,
      fittedBy validate ⟨settings, .record key value⟩ o (.object fields) =
        .ok (.clean output) ∧
      output.resolve (.object fields) = .object left ∧ left = .ofList entries ∧
      left.names = (entries.map Prod.fst).eraseDups ∧
      (∀ name, left.get? name =
        (entries.filter fun e => e.1 == name).getLast?.map Prod.snd) ∧
      (output = .kept ↔ RenamedKept validate o key value fields) ∧
      (output = .kept → left = fields) := by
  intro entries
  have hmade : RenamedKept validate o key value fields → Fields.ofList entries = fields :=
    ofList_renamedEntries_of_kept
  have hbase : Output.kept.resolve (.object fields) = .object fields := rfl
  obtain ⟨output, houtput⟩ := exists_comesOut hbase hmade
  have hkept : output = .kept ↔ RenamedKept validate o key value fields :=
    houtput.kept.trans (and_iff_right rfl)
  rw [Visit.made_eq_self haccepted] at haccepted
  exact ⟨output, .ofList entries, fittedBy_record_eq_clean_iff.2 ⟨haccepted, houtput⟩,
    houtput.value, rfl, Fields.names_ofList entries, Fields.get?_ofList entries, hkept,
    fun h => hmade (hkept.1 h)⟩

/-- The first name is kept and the second becomes the same, so one field is left, in the first
place and with the second value. -/
theorem record_output_collision :
    let becomesA : Rule := { action := .alter fun _ _ _ => .ok (.string "a") }
    let key : Schema :=
      ⟨{}, .union [⟨{}, .literal (.string "a")⟩, ⟨{ rules := [becomesA] }, .unknown⟩]⟩
    let fields : Fields Value := .ofList [("a", .null), ("b", .bool true)]
    ∃ output left,
      fittedBy apply ⟨{}, .record (some key) ⟨{}, .unknown⟩⟩ {} (.object fields) =
        .ok (.clean output) ∧
      output.resolve (.object fields) = .object left ∧ left.entries = [("a", .bool true)] ∧
      output ≠ .kept := by
  intro becomesA key fields
  have haccepted : ∀ visit ∈ Visit.made ({} : Options).verbose
      (fieldWalk apply {} (some key) ⟨{}, .unknown⟩ fields),
      IsAccepted (visit.validate visit.part) := by
    intro visit hvisit
    rcases List.mem_cons.1 hvisit with rfl | hvisit
    · exact ⟨.kept, rfl⟩
    rcases List.mem_cons.1 hvisit with rfl | hvisit
    · exact ⟨.kept, rfl⟩
    rcases List.mem_cons.1 hvisit with rfl | hvisit
    · exact ⟨.replaced (.string "a"), rfl⟩
    · obtain rfl := List.mem_singleton.1 hvisit
      exact ⟨.kept, rfl⟩
  obtain ⟨output, left, hfitted, hleft, hentries, -, -, hkept, -⟩ :=
    record_output {} haccepted
  refine ⟨output, left, hfitted, hleft, (congrArg Fields.entries hentries).trans rfl, fun h => ?_⟩
  have hsecond := (hkept.1 h ("b", .bool true) (List.mem_cons_of_mem _ List.mem_cons_self)).1
  cases hsecond

end Schema

end Conform
