/-
Containers take their own outputs as they are.

A container comes out with what came out of its parts, in the same places: it was coerced
to its kind, missing fields that were filled in are there, and fields that were dropped are
gone.  So if the parts are stable the container is, the parts of its output being outputs of
its parts.  Only the keys of a record have to be kept the first time: keys that change may
collide, and then the last value takes the place of the others.
-/
import Conform.Proofs.Validation

namespace Conform

variable {o : Options} {v : Value} {output : Output}

/-! ### Elements -/

theorem resolve_of_receive {α : Type} {coercing : Bool} {content? coerced? : Value → Option α}
    {build : α → Value} {base : Output} {content : α}
    (hcontent : ∀ {content}, content? v = some content → v = build content)
    (h : receive coercing content? coerced? build v = some (base, content)) :
    base.resolve v = build content := by
  rcases receive_eq_some_iff.1 h with ⟨hfound, rfl⟩ | ⟨-, -, -, rfl⟩
  · exact hcontent hfound
  · rfl

theorem length_itemVisits {start : Nat} {validators : List Validator} {items : List Value}
    (h : validators.length = items.length) :
    (itemVisits o start validators items).length = items.length := by
  induction validators generalizing start items with
  | nil => exact h
  | cons validate rest ih =>
      cases items with
      | nil => simp at h
      | cons item items =>
          rw [List.length_cons, List.length_cons, Nat.add_right_cancel_iff] at h
          rw [itemVisits, List.length_cons, ih h, List.length_cons]

/-- The outputs of elements are accepted and kept where the elements were. -/
theorem accepts_kept_itemVisits {start : Nat} {validators : List Validator} {items : List Value}
    {outputs : List Output} (hstable : ∀ validate ∈ validators, Stable (validate o))
    (h : List.Forall₂ Visit.Accepts (itemVisits o start validators items) outputs) :
    ∀ visit ∈ itemVisits o start validators (List.zipWith Output.resolve outputs items),
      visit.Accepts .kept := by
  induction validators generalizing start items outputs with
  | nil => exact fun visit hvisit => absurd hvisit List.not_mem_nil
  | cons validate rest ih =>
      rw [List.forall_mem_cons] at hstable
      cases items with
      | nil =>
          rw [List.zipWith_nil_right]
          exact fun visit hvisit => absurd hvisit List.not_mem_nil
      | cons item items =>
          rw [itemVisits] at h
          cases h with
          | cons hitem hitems =>
              rw [List.zipWith_cons_cons, itemVisits, List.forall_mem_cons]
              exact ⟨hstable.1 _ _ hitem, ih hstable.2 hitems⟩

/-- A container of elements comes out with as many of them, and is then kept. -/
theorem visitParts_items_stable {verbose : Bool} {base : Output} {validators : List Validator}
    {items : List Value} {build : List Value → Value} (hbase : base.resolve v = build items)
    (hlength : validators.length = items.length)
    (hstable : ∀ validate ∈ validators, Stable (validate o))
    (h : visitParts verbose base (itemVisits o 0 validators items)
      (fun outputs => (rebuildItems items outputs).map build) = .ok (.clean output)) :
    ∃ items', output.resolve v = build items' ∧ items'.length = items.length ∧
      visitParts verbose .kept (itemVisits o 0 validators items')
        (fun outputs => (rebuildItems items' outputs).map build) = .ok (.clean .kept) := by
  obtain ⟨outputs, hvisits, rfl⟩ := visitParts_eq_clean_iff.1 h
  have hcount : outputs.length = items.length := by
    rw [← hvisits.length_eq, length_itemVisits hlength]
  refine ⟨List.zipWith Output.resolve outputs items, ?_, ?_, ?_⟩
  · rw [resolve_orRebuilt hbase, rebuildItems_getD hcount]
  · rw [List.length_zipWith, hcount, Nat.min_self]
  · refine visitParts_of_kept (accepts_kept_itemVisits hstable hvisits) ?_
    intro outputs houtputs
    rw [rebuildItems_eq_none_iff.2 houtputs]
    rfl

variable {settings : Settings}

theorem fitArray_stable {head : List Validator} {rest : Option Validator}
    (hstable : ∀ validate ∈ head ++ rest.toList, Stable (validate o))
    (h : fitArray settings head rest o v = .ok (.clean output)) :
    fitArray settings head rest o (output.resolve v) = .ok (.clean .kept) := by
  obtain ⟨base, items, hreceive, hfills, hparts⟩ := fitArray_eq_clean_iff.1 h
  have hbase := resolve_of_receive arrayItems?_eq_some_iff.1 hreceive
  obtain ⟨items', houtput, hlength, hkept⟩ := visitParts_items_stable hbase
    (length_placeValidators hfills) (fun _ hvalidate => hstable _ (mem_placeValidators hvalidate))
    hparts
  rw [houtput]
  refine fitArray_eq_clean_iff.2 ⟨.kept, items', ?_, ?_, ?_⟩
  · exact receive_eq_some_iff.2 (Or.inl ⟨rfl, rfl⟩)
  · rwa [hlength]
  · rwa [hlength]

theorem fitSet_stable {element : Validator} (hstable : Stable (element o))
    (h : fitSet settings element o v = .ok (.clean output)) :
    fitSet settings element o (output.resolve v) = .ok (.clean .kept) := by
  obtain ⟨base, items, hreceive, hparts⟩ := fitSet_eq_clean_iff.1 h
  have hbase := resolve_of_receive setItems?_eq_some_iff.1 hreceive
  obtain ⟨items', houtput, hlength, hkept⟩ := visitParts_items_stable hbase
    List.length_replicate
    (fun validate hvalidate => by rwa [List.eq_of_mem_replicate hvalidate]) hparts
  rw [houtput]
  refine fitSet_eq_clean_iff.2 ⟨.kept, items', ?_, ?_⟩
  · exact receive_eq_some_iff.2 (Or.inl ⟨rfl, rfl⟩)
  · rwa [hlength]

/-! ### Entries -/

/-- The key and the value of the entry are accepted, with the given outputs. -/
def AcceptsEntry (o : Options) (key value : Validator) (e : Value × Value)
    (p : Output × Output) : Prop :=
  key o e.1 = .ok (.accepted p.1) ∧ value o e.2 = .ok (.accepted p.2)

variable {segment : Value → Segment} {key value : Validator} {entries : List (Value × Value)}
  {pairs : List (Output × Output)}

theorem exists_pairs_of_entryVisits {outputs : List Output}
    (h : List.Forall₂ Visit.Accepts (entryVisits segment key value o entries) outputs) :
    ∃ pairs, outputs = inTurn pairs ∧ List.Forall₂ (AcceptsEntry o key value) entries pairs := by
  induction entries generalizing outputs with
  | nil =>
      cases h
      exact ⟨[], rfl, .nil⟩
  | cons e rest ih =>
      rw [entryVisits, List.flatMap_cons] at h
      cases h with
      | cons hkey hlater =>
          cases hlater with
          | cons hvalue hrest =>
              obtain ⟨pairs, rfl, hpairs⟩ := ih hrest
              exact ⟨(_, _) :: pairs, rfl, .cons ⟨hkey, hvalue⟩ hpairs⟩

theorem accepts_kept_entryVisits
    (h : ∀ e ∈ entries, AcceptsEntry o key value e (.kept, .kept)) :
    ∀ visit ∈ entryVisits segment key value o entries, visit.Accepts .kept := by
  intro visit hvisit
  obtain ⟨e, he, hmem⟩ := List.mem_flatMap.1 hvisit
  rcases List.mem_pair.1 hmem with rfl | rfl
  · exact (h e he).1
  · exact (h e he).2

/-- The outputs of entries are accepted and kept where the entries were. -/
theorem acceptsEntry_resolved (hkey : Stable (key o)) (hvalue : Stable (value o))
    (h : List.Forall₂ (AcceptsEntry o key value) entries pairs) :
    ∀ e ∈ List.zipWith resolveEntry pairs entries, AcceptsEntry o key value e (.kept, .kept) := by
  induction h with
  | nil => exact fun e he => absurd he List.not_mem_nil
  | cons hentry _ ih =>
      rw [List.zipWith_cons_cons, List.forall_mem_cons]
      exact ⟨⟨hkey _ _ hentry.1, hvalue _ _ hentry.2⟩, ih⟩

theorem fitMap_stable (hkey : Stable (key o)) (hvalue : Stable (value o))
    (h : fitMap settings key value o v = .ok (.clean output)) :
    fitMap settings key value o (output.resolve v) = .ok (.clean .kept) := by
  obtain ⟨base, entries, hreceive, hparts⟩ := fitMap_eq_clean_iff.1 h
  have hbase := resolve_of_receive mapEntries?_eq_some_iff.1 hreceive
  obtain ⟨outputs, hvisits, rfl⟩ := visitParts_eq_clean_iff.1 hparts
  obtain ⟨pairs, rfl, hpairs⟩ := exists_pairs_of_entryVisits hvisits
  rw [resolve_orRebuilt hbase, changedEntries_getD hpairs.length_eq.symm]
  refine fitMap_eq_clean_iff.2 ⟨.kept, _, receive_eq_some_iff.2 (Or.inl ⟨rfl, rfl⟩), ?_⟩
  refine visitParts_of_kept
    (accepts_kept_entryVisits (acceptsEntry_resolved hkey hvalue hpairs)) ?_
  intro outputs houtputs
  rw [changedEntries_of_kept houtputs]
  rfl

/-- A field of a record, as the entry that is visited. -/
def fieldEntry (e : String × Value) : Value × Value :=
  (.string e.1, e.2)

/-- Names that are kept stay what they were, and so they stay distinct. -/
theorem map_fst_renameEntry {fields : List (String × Value)} (hkey : Keeps (key o))
    (h : List.Forall₂ (AcceptsEntry o key value) (fields.map fieldEntry) pairs) :
    (List.zipWith renameEntry pairs fields).map Prod.fst = fields.map Prod.fst := by
  rw [List.forall₂_map_left_iff] at h
  induction h with
  | nil => rfl
  | cons hentry _ ih =>
      rw [List.zipWith_cons_cons, List.map_cons, List.map_cons, ih, renameEntry,
        hkey _ _ hentry.1]
      rfl

/-- The outputs of fields are accepted and kept where the fields were. -/
theorem acceptsEntry_renamed {fields : List (String × Value)} (hkey : Keeps (key o))
    (hvalue : Stable (value o))
    (h : List.Forall₂ (AcceptsEntry o key value) (fields.map fieldEntry) pairs) :
    ∀ e ∈ List.zipWith renameEntry pairs fields,
      AcceptsEntry o key value (fieldEntry e) (.kept, .kept) := by
  rw [List.forall₂_map_left_iff] at h
  induction h with
  | nil => exact fun e he => absurd he List.not_mem_nil
  | @cons e p _ _ hentry _ ih =>
      rw [List.zipWith_cons_cons, List.forall_mem_cons]
      refine ⟨?_, ih⟩
      obtain ⟨name, value⟩ := p
      obtain ⟨hname, hvalue'⟩ := hentry
      obtain rfl : name = .kept := hkey _ _ hname
      exact ⟨hname, hvalue _ _ hvalue'⟩

theorem fitRecord_stable {key : Option Validator} (hkey : Keeps (key.getD .keep o))
    (hvalue : Stable (value o)) (h : fitRecord settings key value o v = .ok (.clean output)) :
    fitRecord settings key value o (output.resolve v) = .ok (.clean .kept) := by
  obtain ⟨fields, rfl⟩ := exists_object_of_fitRecord h
  obtain ⟨outputs, hvisits, rfl⟩ := visitParts_eq_clean_iff.1 h
  obtain ⟨pairs, rfl, hpairs⟩ := exists_pairs_of_entryVisits hvisits
  have hbase : Output.kept.resolve (.object fields) = .object fields := rfl
  have hlength : pairs.length = fields.entries.length := by
    rw [← hpairs.length_eq, List.length_map]
  have hnames : (List.zipWith renameEntry pairs fields.entries).map Prod.fst =
      fields.entries.map Prod.fst := map_fst_renameEntry hkey hpairs
  have hentries := Fields.entries_ofList (hnames ▸ fields.nodup_entries)
  rw [resolve_orRebuilt hbase, rebuildFields_getD hlength]
  refine visitParts_of_kept (accepts_kept_entryVisits ?_) ?_
  · rw [hentries]
    exact List.forall_mem_map.2 (acceptsEntry_renamed hkey hvalue hpairs)
  · intro outputs houtputs
    rw [rebuildFields_of_kept houtputs]
    rfl

/-! ### Fields -/

section Objects

variable {properties : Fields Validator} {extras : Extras Validator} {fields : Fields Value}
  {outputs : List Output} {name : String}

theorem mem_undeclared_iff {α : Type} {properties : Fields α} :
    (name, v) ∈ undeclared properties fields ↔
      fields.get? name = some v ∧ properties.contains name = false := by
  rw [undeclared, List.mem_filter, Fields.get?_eq_some_iff, Bool.not_eq_true']

section Names

variable {α : Type} {properties : Fields α} {extras : Extras α}

theorem mem_visitedNames (h : name ∈ visitedNames properties extras fields) :
    name ∈ properties.names ∨ ∃ v, (name, v) ∈ undeclared properties fields := by
  unfold visitedNames at h
  refine (List.mem_append.1 h).imp_right fun hother => ?_
  cases extras with
  | preserve | strip => exact absurd hother List.not_mem_nil
  | exact | validate _ =>
      obtain ⟨⟨_, v⟩, he, rfl⟩ := List.mem_map.1 hother
      exact ⟨v, he⟩

theorem nodup_visitedNames : (visitedNames properties extras fields).Nodup := by
  have hothers : ((undeclared properties fields).map Prod.fst).Nodup :=
    (List.filter_sublist.map Prod.fst).nodup fields.nodup_entries
  have hapart : ∀ other ∈ (undeclared properties fields).map Prod.fst,
      other ∉ properties.names := by
    rw [List.forall_mem_map]
    rintro ⟨other, v⟩ he
    rw [← Fields.contains_iff, (mem_undeclared_iff.1 he).2]
    exact Bool.false_ne_true
  unfold visitedNames
  cases extras with
  | preserve | strip => rw [List.append_nil]; exact properties.distinct
  | exact | validate _ =>
      refine List.nodup_append.2 ⟨properties.distinct, hothers, ?_⟩
      rintro a ha b hb rfl
      exact hapart a hb ha

end Names

/-- The outputs of the visits of an object, under the names they go to. -/
def objectUpdates (properties : Fields Validator) (extras : Extras Validator) (o : Options)
    (fields : Fields Value) (outputs : List Output) : List (String × Output) :=
  ((objectVisits properties extras o fields).map Prod.fst).zip outputs

/-- The object that the outputs of the visits make. -/
def rebuiltFields (properties : Fields Validator) (extras : Extras Validator) (o : Options)
    (fields : Fields Value) (outputs : List Output) : Fields Value :=
  (rebuildObject properties extras fields
    (objectUpdates properties extras o fields outputs)).getD fields

theorem map_fst_objectUpdates
    (h : List.Forall₂ Visit.Accepts ((objectVisits properties extras o fields).map Prod.snd)
      outputs) :
    (objectUpdates properties extras o fields outputs).map Prod.fst =
      visitedNames properties extras fields := by
  rw [← map_fst_objectVisits]
  refine List.map_fst_zip (Nat.le_of_eq ?_)
  rw [← h.length_eq, List.length_map, List.length_map]

/-- Where a field is visited and not dropped, its value in the end is what came out for it. -/
theorem get?_rebuiltFields {visit : Visit}
    (h : List.Forall₂ Visit.Accepts ((objectVisits properties extras o fields).map Prod.snd)
      outputs)
    (hvisit : (name, visit) ∈ objectVisits properties extras o fields)
    (hstays : extras.isStrip = false ∨ properties.contains name = true) :
    ∃ output, visit.Accepts output ∧
      (rebuiltFields properties extras o fields outputs).get? name =
        output.new?.or (fields.get? name) := by
  have hdistinct : ((objectUpdates properties extras o fields outputs).map Prod.fst).Nodup := by
    rw [map_fst_objectUpdates h]
    exact nodup_visitedNames
  rw [List.forall₂_map_left_iff] at h
  obtain ⟨output, hzip, haccept⟩ := exists_partner h hvisit
  have hupdate : (name, output) ∈ objectUpdates properties extras o fields outputs := by
    rw [objectUpdates, List.zip_map_left]
    exact List.mem_map_of_mem (f := Prod.map Prod.fst id) hzip
  refine ⟨output, haccept, ?_⟩
  rw [rebuiltFields, get?_rebuildObject, if_neg, get?_changedFields hdistinct hupdate]
  rcases hstays with hstrip | hdeclared
  · simp [hstrip]
  · simp [hdeclared]

/-- A field that is there in the end and undeclared was there and undeclared before. -/
theorem exists_undeclared_of_rebuilt
    (h : List.Forall₂ Visit.Accepts ((objectVisits properties extras o fields).map Prod.snd)
      outputs)
    (hmem : (name, v) ∈
      undeclared properties (rebuiltFields properties extras o fields outputs)) :
    ∃ w, (name, w) ∈ undeclared properties fields := by
  obtain ⟨hget, hundeclared⟩ := mem_undeclared_iff.1 hmem
  rw [rebuiltFields, get?_rebuildObject] at hget
  split at hget
  · cases hget
  · by_cases hname : name ∈ (objectUpdates properties extras o fields outputs).map Prod.fst
    · rw [map_fst_objectUpdates h] at hname
      rcases mem_visitedNames hname with hdeclared | hother
      · rw [← Fields.contains_iff, hundeclared] at hdeclared
        exact absurd hdeclared Bool.false_ne_true
      · exact hother
    · rw [get?_changedFields_of_not_mem hname] at hget
      exact ⟨v, mem_undeclared_iff.2 ⟨hget, hundeclared⟩⟩

theorem undeclared_rebuiltFields_of_strip (hstrip : extras.isStrip = true)
    (h : List.Forall₂ Visit.Accepts ((objectVisits properties extras o fields).map Prod.snd)
      outputs) :
    undeclared properties (rebuiltFields properties extras o fields outputs) = [] := by
  refine List.eq_nil_iff_forall_not_mem.2 ?_
  rintro ⟨name, v⟩ hmem
  obtain ⟨w, hw⟩ := exists_undeclared_of_rebuilt h hmem
  obtain ⟨hget, hundeclared⟩ := mem_undeclared_iff.1 hmem
  have hsome : (undeclared properties fields).isEmpty = false := by
    rw [List.isEmpty_eq_false_iff]
    exact List.ne_nil_of_mem hw
  rw [rebuiltFields, get?_rebuildObject, hstrip, hsome, hundeclared] at hget
  cases hget

theorem getD_or_new? (output : Output) (found : Option Value) :
    (output.new?.or found).getD .undefined = output.resolve (found.getD .undefined) := by
  cases output <;> rfl

theorem accepts_kept_propertyVisits
    (hstable : ∀ validate ∈ properties.values, Stable (validate o))
    (h : List.Forall₂ Visit.Accepts ((objectVisits properties extras o fields).map Prod.snd)
      outputs) :
    ∀ visit ∈ (propertyVisits properties o
      (rebuiltFields properties extras o fields outputs)).map Prod.snd, visit.Accepts .kept := by
  rw [propertyVisits, List.map_map, List.forall_mem_map]
  rintro ⟨name, validate⟩ he
  have hvisit : (name, (⟨[.field name], (fields.get? name).getD .undefined, validate o⟩ : Visit)) ∈
      objectVisits properties extras o fields :=
    List.mem_append_left _ (List.mem_map.2 ⟨(name, validate), he, rfl⟩)
  have hdeclared : properties.contains name = true :=
    Fields.contains_iff.2 (Fields.mem_names.2 ⟨validate, he⟩)
  obtain ⟨output, haccept, hget⟩ := get?_rebuiltFields h hvisit (Or.inr hdeclared)
  have hkept := hstable validate (List.mem_map.2 ⟨_, he, rfl⟩) _ _ haccept
  rw [← getD_or_new?, ← hget] at hkept
  exact hkept

theorem accepts_kept_extraVisits (hstable : ∀ validate ∈ extras.children, Stable (validate o))
    (h : List.Forall₂ Visit.Accepts ((objectVisits properties extras o fields).map Prod.snd)
      outputs) :
    ∀ visit ∈ (extraVisits extras o
      (undeclared properties (rebuiltFields properties extras o fields outputs))).map Prod.snd,
      visit.Accepts .kept := by
  cases extras with
  | preserve | strip => exact List.forall_mem_nil _
  | exact =>
      rw [extraVisits, List.map_map, List.forall_mem_map]
      rintro ⟨name, v⟩ he
      obtain ⟨w, hw⟩ := exists_undeclared_of_rebuilt h he
      have hvisit := List.mem_append_right (propertyVisits properties o fields)
        (List.mem_map.2 ⟨(name, w), hw, rfl⟩ : _ ∈ extraVisits .exact o _)
      obtain ⟨output, haccept, -⟩ := get?_rebuiltFields h hvisit (Or.inl rfl)
      cases haccept
  | validate validate =>
      rw [extraVisits, List.map_map, List.forall_mem_map]
      rintro ⟨name, v⟩ he
      obtain ⟨w, hw⟩ := exists_undeclared_of_rebuilt h he
      have hvisit := List.mem_append_right (propertyVisits properties o fields)
        (List.mem_map.2 ⟨(name, w), hw, rfl⟩ : _ ∈ extraVisits (.validate validate) o _)
      obtain ⟨output, haccept, hget⟩ := get?_rebuiltFields h hvisit (Or.inl rfl)
      rw [(mem_undeclared_iff.1 he).1, (mem_undeclared_iff.1 hw).1] at hget
      -- What is there in the end is what came out of the value that was there.
      have hv : v = output.resolve w := by
        cases output <;> exact Option.some.inj hget
      rw [hv]
      exact hstable validate (List.mem_singleton_self _) _ _ haccept

theorem fitObject_stable (hproperties : ∀ validate ∈ properties.values, Stable (validate o))
    (hextras : ∀ validate ∈ extras.children, Stable (validate o))
    (h : fitObject settings properties extras o v = .ok (.clean output)) :
    fitObject settings properties extras o (output.resolve v) = .ok (.clean .kept) := by
  obtain ⟨fields, rfl⟩ := exists_object_of_fitObject h
  obtain ⟨outputs, hvisits, rfl⟩ := visitParts_eq_clean_iff.1 h
  have hbase : Output.kept.resolve (.object fields) = .object fields := rfl
  rw [resolve_orRebuilt hbase]
  show fitObject settings properties extras o
    (.object (rebuiltFields properties extras o fields outputs)) = _
  rw [fitObject_object]
  refine visitParts_of_kept ?_ ?_
  · rw [objectVisits, List.map_append, List.forall_mem_append]
    exact ⟨accepts_kept_propertyVisits hproperties hvisits,
      accepts_kept_extraVisits hextras hvisits⟩
  · intro outputs' houtputs'
    have hnone : extras.isStrip = false ∨
        undeclared properties (rebuiltFields properties extras o fields outputs) = [] := by
      cases hstrip : extras.isStrip with
      | false => exact Or.inl rfl
      | true => exact Or.inr (undeclared_rebuiltFields_of_strip hstrip hvisits)
    rw [rebuildObject_of_kept hnone houtputs']
    rfl

end Objects

end Conform
