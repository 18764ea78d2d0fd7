/-
Two calls of one container.

A container hands parts of the value to its children, and what it makes of the value follows from
what they make of these.  So a relation between two calls of every child, under other options or
with another way to validate, is one between two calls of the container.  This is shown here once,
for arrays, sets, maps, records and objects, and for whatever is to be compared.  A proof that
compares two calls has to say which relation of the visits it needs and what a list of such visits
comes to.
-/
import Conform.Proofs.Relocation

namespace Conform

variable {o o' : Options} {V : Visit → Visit → Prop}

/-! ### The visits -/

/-- Related visits are made of any part at any place, with the one validator and the other. -/
def VisitAlike (V : Visit → Visit → Prop) (o o' : Options) (validate validate' : Validator) :
    Prop :=
  ∀ place part, V ⟨place, part, validate o⟩ ⟨place, part, validate' o'⟩

theorem visits_related {α : Type} {items : List α} {visit visit' : α → Visit}
    (h : ∀ item ∈ items, V (visit item) (visit' item)) :
    List.Forall₂ V (items.map visit) (items.map visit') := by
  rw [List.forall₂_map_left_iff, List.forall₂_map_right_iff, List.forall₂_same]
  exact h

section Visits

variable {validate validate' : Schema → Validator}

theorem itemVisits_related {places : List Schema} {items : List Value} {start : Nat}
    (h : ∀ place ∈ places, VisitAlike V o o' (validate place) (validate' place)) :
    List.Forall₂ V (itemVisits o start (places.map validate) items)
      (itemVisits o' start (places.map validate') items) := by
  induction places generalizing start items with
  | nil => exact .nil
  | cons place rest ih =>
      rw [List.forall_mem_cons] at h
      cases items with
      | nil => exact .nil
      | cons item items => exact .cons (h.1 _ item) (ih h.2)

/-- The validators of the elements are those of schemas, of which each is a child. -/
theorem exists_places (head : List Schema) (rest : Option Schema) (length : Nat) :
    ∃ places : List Schema, (∀ place ∈ places, place ∈ head ++ rest.toList) ∧
      ∀ validate : Schema → Validator,
        placeValidators (head.map validate) (rest.map validate) length = places.map validate := by
  cases rest with
  | none =>
      refine ⟨head, fun place hplace => by simpa using hplace, fun validate => ?_⟩
      simp [placeValidators]
  | some schema =>
      refine ⟨head ++ List.replicate (length - head.length) schema, ?_, fun validate => ?_⟩
      · intro place hplace
        rcases List.mem_append.1 hplace with hhead | hrest
        · exact List.mem_append_left _ hhead
        · rw [List.eq_of_mem_replicate hrest]
          exact List.mem_append_right _ (List.mem_singleton_self schema)
      · simp [placeValidators]

theorem entryVisits_related {segment : Value → Segment} {key value key' value' : Validator}
    {entries : List (Value × Value)} (hkey : VisitAlike V o o' key key')
    (hvalue : VisitAlike V o o' value value') :
    List.Forall₂ V (entryVisits segment key value o entries)
      (entryVisits segment key' value' o' entries) := by
  induction entries with
  | nil => exact .nil
  | cons e rest ih => exact .cons (hkey _ e.1) (.cons (hvalue _ e.2) ih)

variable {properties : Fields Schema} {extras : Extras Schema} {fields : Fields Value}

theorem undeclared_map : undeclared (properties.map fun _ => validate) fields =
    undeclared properties fields :=
  rfl

theorem objectVisits_related
    (hsame : ∀ visit outcome, visit.validate visit.part = .ok outcome → V visit visit)
    (h : ∀ child ∈ properties.values ++ extras.children,
      VisitAlike V o o' (validate child) (validate' child)) :
    List.Forall₂ V
      ((objectVisits (properties.map fun _ => validate) (extras.map validate) o fields).map
        Prod.snd)
      ((objectVisits (properties.map fun _ => validate') (extras.map validate') o' fields).map
        Prod.snd) := by
  rw [List.forall_mem_append] at h
  obtain ⟨hproperties, hextras⟩ := h
  simp only [objectVisits, propertyVisits, List.map_append, List.map_map, Fields.entries_map,
    undeclared_map]
  refine List.rel_append (visits_related fun e he => ?_) ?_
  · exact hproperties e.2 (List.mem_map_of_mem he) _ _
  · cases extras with
    | preserve | strip => exact .nil
    | exact =>
        simp only [Extras.map, extraVisits, List.map_map]
        exact visits_related fun e _ => hsame _ _ rfl
    | validate rest =>
        simp only [Extras.map, extraVisits, List.map_map]
        exact visits_related fun e _ => hextras rest List.mem_cons_self _ e.2

/-- Which fields are visited does not depend on how they are validated. -/
theorem visitedNames_map (validate : Schema → Validator) :
    visitedNames (properties.map fun _ => validate) (extras.map validate) fields =
      visitedNames properties extras fields := by
  cases extras <;> rfl

theorem rebuildObject_map {updates : List (String × Output)} :
    rebuildObject (properties.map fun _ => validate) (extras.map validate) fields updates =
      rebuildObject properties extras fields updates := by
  unfold rebuildObject
  rw [Extras.isStrip_map, undeclared_map]
  rfl

end Visits

/-! ### The containers -/

/-- More is coerced in the second call, if anything, and then a value that is received without
the difference is received alike. -/
theorem receive_cases {α : Type} (settings : Settings) (content? coerced? : Value → Option α)
    (build : α → Value) (v : Value) (hcoerces : o.coerce = true → o'.coerce = true) :
    (receive (settings.coercesUnder o) content? coerced? build v = none ∧
        (o.coerce = o'.coerce →
          receive (settings.coercesUnder o') content? coerced? build v = none)) ∨
      ∃ received, receive (settings.coercesUnder o) content? coerced? build v = some received ∧
        receive (settings.coercesUnder o') content? coerced? build v = some received := by
  cases hreceive : receive (settings.coercesUnder o) content? coerced? build v with
  | none =>
      refine Or.inl ⟨rfl, fun hsame => ?_⟩
      rwa [Settings.coercesUnder, ← hsame]
  | some received =>
      refine Or.inr ⟨received, rfl, ?_⟩
      obtain ⟨base, content⟩ := received
      have hcoercing : settings.coercesUnder o = true → settings.coercesUnder o' = true := by
        intro h
        rw [Settings.coercesUnder, Bool.or_eq_true] at h ⊢
        exact h.imp_right hcoerces
      rcases receive_eq_some_iff.1 hreceive with h | ⟨h, hcontent, hcoerced, hbase⟩
      · exact receive_eq_some_iff.2 (Or.inl h)
      · exact receive_eq_some_iff.2 (Or.inr ⟨hcoercing h, hcontent, hcoerced, hbase⟩)

/-- `E` is a relation between what two calls of a container come to that follows from a relation
`V` between their visits. -/
structure Follows (o o' : Options) (V : Visit → Visit → Prop)
    (E : Except Fault Fit → Except Fault Fit → Prop) : Prop where
  /-- Where the first call coerces, so does the second. -/
  coerces : o.coerce = true → o'.coerce = true
  /-- A visit that comes to an outcome is related to itself. -/
  same : ∀ visit outcome, visit.validate visit.part = .ok outcome → V visit visit
  /-- A value that the first call refuses is refused by the second as well, unless it coerces
  and the first does not. -/
  refused : ∀ issue second, (o.coerce = o'.coerce → second = .ok (.refuse issue)) →
    E (.ok (.refuse issue)) second
  parts : ∀ base visits visits' rebuild, List.Forall₂ V visits visits' →
    E (visitParts o.verbose base visits rebuild) (visitParts o'.verbose base visits' rebuild)

variable {E : Except Fault Fit → Except Fault Fit → Prop} {settings : Settings} {v : Value}

/-- A value that one call refuses the other refuses as well, or receives it by coercing, and what
both receive is all there is to compare. -/
theorem Follows.of_receive {α : Type} {content? coerced? : Value → Option α} {build : α → Value}
    {first second : Except Fault Fit} {issue : Issue} (hfollows : Follows o o' V E)
    (hnone : receive (settings.coercesUnder o) content? coerced? build v = none →
      first = .ok (.refuse issue))
    (hnone' : receive (settings.coercesUnder o') content? coerced? build v = none →
      second = .ok (.refuse issue))
    (hsome : ∀ received, receive (settings.coercesUnder o) content? coerced? build v =
        some received →
      receive (settings.coercesUnder o') content? coerced? build v = some received →
        E first second) : E first second := by
  rcases receive_cases settings content? coerced? build v hfollows.coerces with
    ⟨hrefused, hrefused'⟩ | ⟨received, hreceived, hreceived'⟩
  · rw [hnone hrefused]
    exact hfollows.refused issue second fun hsame => hnone' (hrefused' hsame)
  · exact hsome received hreceived hreceived'

namespace Schema

variable {validate validate' : Schema → Validator}

theorem fitArray_related {head : List Schema} {rest : Option Schema}
    (hfollows : Follows o o' V E)
    (hchildren : ∀ child ∈ head ++ rest.toList,
      VisitAlike V o o' (validate child) (validate' child)) :
    E (fitArray settings (head.map validate) (rest.map validate) o v)
      (fitArray settings (head.map validate') (rest.map validate') o' v) := by
  refine hfollows.of_receive (fun hnone => by rw [fitArray, hnone])
    (fun hnone => by rw [fitArray, hnone]) ?_
  rintro ⟨base, items⟩ hsome hsome'
  -- Whether the elements fill the places does not depend on how these are validated.
  have hsame : FillsPlaces (head.map validate) (rest.map validate) items.length ↔
      FillsPlaces (head.map validate') (rest.map validate') items.length :=
    fillsPlaces_map_iff.trans fillsPlaces_map_iff.symm
  by_cases hfills : FillsPlaces (head.map validate) (rest.map validate) items.length
  · obtain ⟨places, hplaces, hvalidators⟩ := exists_places head rest items.length
    rw [fitArray_of_fills hsome hfills, fitArray_of_fills hsome' (hsame.1 hfills), hvalidators,
      hvalidators]
    refine hfollows.parts _ _ _ _ (itemVisits_related fun place hplace => ?_)
    exact hchildren place (hplaces place hplace)
  · rw [fitArray_of_not_fills hsome hfills, fitArray_of_not_fills hsome' (mt hsame.2 hfills),
      List.length_map, List.length_map]
    exact hfollows.refused _ _ fun _ => rfl

theorem fitSet_related {element : Schema} (hfollows : Follows o o' V E)
    (helement : VisitAlike V o o' (validate element) (validate' element)) :
    E (fitSet settings (validate element) o v) (fitSet settings (validate' element) o' v) := by
  refine hfollows.of_receive (fun hnone => by rw [fitSet, hnone])
    (fun hnone => by rw [fitSet, hnone]) ?_
  rintro ⟨base, items⟩ hsome hsome'
  rw [fitSet, hsome, fitSet, hsome']
  dsimp only
  rw [← List.map_replicate, ← List.map_replicate]
  refine hfollows.parts _ _ _ _ (itemVisits_related fun place hplace => ?_)
  rwa [List.eq_of_mem_replicate hplace]

variable {key value key' value' : Validator}

theorem fitMap_related (hfollows : Follows o o' V E) (hkey : VisitAlike V o o' key key')
    (hvalue : VisitAlike V o o' value value') :
    E (fitMap settings key value o v) (fitMap settings key' value' o' v) := by
  refine hfollows.of_receive (fun hnone => by rw [fitMap, hnone])
    (fun hnone => by rw [fitMap, hnone]) ?_
  rintro ⟨base, entries⟩ hsome hsome'
  rw [fitMap, hsome, fitMap, hsome']
  exact hfollows.parts _ _ _ _ (entryVisits_related hkey hvalue)

/-- Names that no schema is given for are kept by both calls. -/
theorem fitRecord_related {key : Option Schema} (hfollows : Follows o o' V E)
    (hkey : ∀ child ∈ key.toList, VisitAlike V o o' (validate child) (validate' child))
    (hvalue : VisitAlike V o o' value value') :
    E (fitRecord settings (key.map validate) value o v)
      (fitRecord settings (key.map validate') value' o' v) := by
  have hnames : VisitAlike V o o' ((key.map validate).getD .keep)
      ((key.map validate').getD .keep) := by
    cases key with
    | none => exact fun place part => hfollows.same _ _ rfl
    | some key => exact hkey key (List.mem_singleton_self key)
  cases v with
  | object fields => exact hfollows.parts _ _ _ _ (entryVisits_related hnames hvalue)
  | _ => exact hfollows.refused _ _ fun _ => rfl

theorem fitObject_related {properties : Fields Schema} {extras : Extras Schema}
    (hfollows : Follows o o' V E)
    (hchildren : ∀ child ∈ properties.values ++ extras.children,
      VisitAlike V o o' (validate child) (validate' child)) :
    E (fitObject settings (properties.map fun _ => validate) (extras.map validate) o v)
      (fitObject settings (properties.map fun _ => validate') (extras.map validate') o' v) := by
  cases v with
  | object fields =>
      rw [fitObject_object, fitObject_object]
      simp only [map_fst_objectVisits, visitedNames_map, rebuildObject_map]
      exact hfollows.parts _ _ _ _ (objectVisits_related hfollows.same hchildren)
  | _ => exact hfollows.refused _ _ fun _ => rfl

/-- What two calls of a container come to is related as what follows from its visits, where the
visits of every child are. -/
theorem fittedBy_related {schema : Schema} (hfollows : Follows o o' V E)
    (hcontainer : schema.form.isContainer = true)
    (hchildren : ∀ child ∈ schema.form.children,
      VisitAlike V o o' (validate child) (validate' child)) :
    E (schema.fittedBy validate o v) (schema.fittedBy validate' o' v) := by
  obtain ⟨settings, form⟩ := schema
  cases form with
  | array head rest =>
      rw [fittedBy_array, fittedBy_array]
      exact fitArray_related hfollows hchildren
  | set element =>
      exact fitSet_related hfollows (hchildren element (List.mem_singleton_self element))
  | map key value =>
      rw [Form.children, List.forall_mem_cons, List.forall_mem_singleton] at hchildren
      exact fitMap_related hfollows hchildren.1 hchildren.2
  | record key value =>
      rw [fittedBy_record, fittedBy_record]
      rw [Form.children, List.forall_mem_append, List.forall_mem_singleton] at hchildren
      exact fitRecord_related hfollows hchildren.1 hchildren.2
  | object properties extras =>
      rw [fittedBy_object, fittedBy_object]
      exact fitObject_related hfollows hchildren
  | _ => cases hcontainer

end Schema

end Conform
