/-
What the forms accept, one by one.

Each function that fits a value to a form is read here from its success: which values it
takes, what it asks of the parts, and what the value comes out as.  Nothing is said of
failures, and how issues are reported makes no difference to a success.
-/
import Conform.Proofs.Acceptance
import Conform.Proofs.Visits

namespace Conform

theorem Fit.refuse_ne_clean {issue : Issue} {output : Output} :
    Fit.refuse issue ≠ Fit.clean output := by
  simp [Fit.refuse, Fit.clean]

/-! ### On the way in -/

/-- A value is received as it is if it has content, and otherwise by coercing it. -/
theorem receive_eq_some_iff {α : Type} {coercing : Bool} {content? coerced? : Value → Option α}
    {build : α → Value} {v : Value} {base : Output} {content : α} :
    receive coercing content? coerced? build v = some (base, content) ↔
      (content? v = some content ∧ base = .kept) ∨
        (coercing = true ∧ content? v = none ∧ coerced? v = some content ∧
          base = .replaced (build content)) := by
  unfold receive
  cases hcontent : content? v with
  | some found =>
      simp only [Option.some.injEq, Prod.mk.injEq, reduceCtorEq, false_and, and_false, or_false]
      constructor
      · intro h
        obtain ⟨rfl, rfl⟩ := h
        exact ⟨rfl, rfl⟩
      · intro h
        obtain ⟨rfl, rfl⟩ := h
        exact ⟨rfl, rfl⟩
  | none =>
      cases coercing with
      | false => simp
      | true =>
          simp only [if_true, Option.map_eq_some_iff, Prod.mk.injEq, reduceCtorEq, false_and,
            true_and, false_or]
          constructor
          · intro h
            obtain ⟨found, hfound, rfl, rfl⟩ := h
            exact ⟨hfound, rfl⟩
          · intro h
            obtain ⟨hfound, rfl⟩ := h
            exact ⟨content, hfound, rfl, rfl⟩

/-- What is not coerced is received as it is. -/
theorem receive_of_uncoerced {α : Type} {content? coerced? : Value → Option α}
    {build : α → Value} {base : Output} {content : α} {coercing : Bool}
    (hcoercing : coercing = false)
    (h : receive coercing content? coerced? build v = some (base, content)) : base = .kept := by
  rcases receive_eq_some_iff.1 h with ⟨-, hbase⟩ | ⟨hcoerces, -⟩
  · exact hbase
  · rw [hcoercing] at hcoerces
    exact absurd hcoerces Bool.false_ne_true

theorem arrayItems?_eq_some_iff {v : Value} {items : List Value} :
    arrayItems? v = some items ↔ v = .array items := by
  cases v <;> simp [arrayItems?]

theorem setItems?_eq_some_iff {v : Value} {items : List Value} :
    setItems? v = some items ↔ v = .set items := by
  cases v <;> simp [setItems?]

theorem mapEntries?_eq_some_iff {v : Value} {entries : List (Value × Value)} :
    mapEntries? v = some entries ↔ v = .map entries := by
  cases v <;> simp [mapEntries?]

variable {settings : Settings} {o : Options} {v : Value} {output : Output}

theorem fitScalar_eq_clean_iff {target : Scalar} :
    fitScalar settings target o v = .clean output ↔
      (target.accepts v = true ∧ output = .kept) ∨
        (settings.coercesUnder o = true ∧ target.accepts v = false ∧
          ∃ w, Coercion.toScalar? target v = some w ∧ output = .replaced w) := by
  have hfit : fitScalar settings target o v = .clean output ↔ ∃ content,
      receive (settings.coercesUnder o) (fun v => if target.accepts v then some v else none)
        (Coercion.toScalar? target) id v = some (output, content) := by
    unfold fitScalar
    split
    · rename_i base content hsome
      rw [hsome, Fit.clean_inj]
      simp
    · rename_i hnone
      simp [hnone, Fit.refuse_ne_clean]
  rw [hfit]
  simp only [receive_eq_some_iff]
  cases target.accepts v <;> simp

/-! ### Arrays and sets -/

/-- The array has as many elements as there are places, or at least as many if there may be
more. -/
def FillsPlaces (head : List Validator) (rest : Option Validator) (length : Nat) : Prop :=
  if rest.isSome then head.length ≤ length else length = head.length

theorem length_placeValidators {head : List Validator} {rest : Option Validator} {length : Nat}
    (h : FillsPlaces head rest length) : (placeValidators head rest length).length = length := by
  unfold FillsPlaces at h
  cases rest with
  | none =>
      rw [if_neg (by simp)] at h
      simp [placeValidators, h]
  | some validate =>
      rw [if_pos (by simp)] at h
      simp only [placeValidators, Option.elim_some, List.length_append, List.length_replicate]
      omega

theorem fitArray_eq_clean_iff {head : List Validator} {rest : Option Validator} :
    fitArray settings head rest o v = .ok (.clean output) ↔
      ∃ base items,
        receive (settings.coercesUnder o) arrayItems? (fun v => some (Coercion.toItems v))
          .array v = some (base, items) ∧
        FillsPlaces head rest items.length ∧
        visitParts o.verbose base (itemVisits o 0 (placeValidators head rest items.length) items)
          (fun outputs => (rebuildItems items outputs).map .array) = .ok (.clean output) := by
  unfold fitArray
  split
  · rename_i hnone
    simp [hnone, Fit.refuse_ne_clean]
  · rename_i base items hsome
    have henough : (if rest.isSome then decide (head.length ≤ items.length)
        else decide (items.length = head.length)) = true ↔
          FillsPlaces head rest items.length := by
      unfold FillsPlaces
      split <;> rw [decide_eq_true_iff]
    rw [hsome]
    simp only [Option.some.injEq, Prod.mk.injEq]
    constructor
    · intro h
      by_cases hfills : FillsPlaces head rest items.length
      · rw [if_pos (henough.2 hfills)] at h
        exact ⟨base, items, ⟨rfl, rfl⟩, hfills, h⟩
      · rw [if_neg (mt henough.1 hfills), Except.ok.injEq] at h
        exact absurd h Fit.refuse_ne_clean
    · intro h
      obtain ⟨_, _, ⟨rfl, rfl⟩, hfills, h⟩ := h
      rw [if_pos (henough.2 hfills)]
      exact h

theorem fitSet_eq_clean_iff {element : Validator} :
    fitSet settings element o v = .ok (.clean output) ↔
      ∃ base items,
        receive (settings.coercesUnder o) setItems? (fun v => some (Coercion.toElements v))
          .set v = some (base, items) ∧
        visitParts o.verbose base (itemVisits o 0 (List.replicate items.length element) items)
          (fun outputs => (rebuildItems items outputs).map .set) = .ok (.clean output) := by
  unfold fitSet
  split
  · rename_i hnone
    simp [hnone, Fit.refuse_ne_clean]
  · rename_i base items hsome
    rw [hsome]
    simp only [Option.some.injEq, Prod.mk.injEq]
    constructor
    · exact fun h => ⟨base, items, ⟨rfl, rfl⟩, h⟩
    · intro h
      obtain ⟨_, _, ⟨rfl, rfl⟩, h⟩ := h
      exact h

/-! ### Maps, records and objects -/

theorem fitMap_eq_clean_iff {key value : Validator} :
    fitMap settings key value o v = .ok (.clean output) ↔
      ∃ base entries,
        receive (settings.coercesUnder o) mapEntries? Coercion.toEntries? .map v =
          some (base, entries) ∧
        visitParts o.verbose base (entryVisits .key key value o entries)
          (fun outputs => (copyOnWrite entries (changedEntries outputs entries)).map .map) =
            .ok (.clean output) := by
  unfold fitMap
  split
  · rename_i hnone
    simp [hnone, Fit.refuse_ne_clean]
  · rename_i base entries hsome
    rw [hsome]
    simp only [Option.some.injEq, Prod.mk.injEq]
    constructor
    · exact fun h => ⟨base, entries, ⟨rfl, rfl⟩, h⟩
    · intro h
      obtain ⟨_, _, ⟨rfl, rfl⟩, h⟩ := h
      exact h

/-- A record is an object. -/
theorem exists_object_of_fitRecord {key : Option Validator} {value : Validator}
    (h : fitRecord settings key value o v = .ok (.clean output)) :
    ∃ fields, v = .object fields := by
  unfold fitRecord at h
  split at h
  · exact ⟨_, rfl⟩
  · simp [Fit.refuse_ne_clean] at h

theorem exists_object_of_fitObject {properties : Fields Validator} {extras : Extras Validator}
    (h : fitObject settings properties extras o v = .ok (.clean output)) :
    ∃ fields, v = .object fields := by
  unfold fitObject at h
  split at h
  · exact ⟨_, rfl⟩
  · simp [Fit.refuse_ne_clean] at h

/-- The visits of an object with the names they are made under. -/
def objectVisits (properties : Fields Validator) (extras : Extras Validator) (o : Options)
    (fields : Fields Value) : List (String × Visit) :=
  propertyVisits properties o fields ++ extraVisits extras o (undeclared properties fields)

theorem fitObject_object {properties : Fields Validator} {extras : Extras Validator}
    {fields : Fields Value} :
    fitObject settings properties extras o (.object fields) =
      visitParts o.verbose .kept ((objectVisits properties extras o fields).map Prod.snd)
        fun outputs => (rebuildObject properties extras fields
          (((objectVisits properties extras o fields).map Prod.fst).zip outputs)).map .object :=
  rfl

/-- The names of the fields that are visited, in order. -/
def visitedNames {α : Type} (properties : Fields α) (extras : Extras α) (fields : Fields Value) :
    List String :=
  properties.names ++
    match extras with
    | .preserve | .strip => []
    | .exact | .validate _ => (undeclared properties fields).map Prod.fst

theorem map_fst_objectVisits {properties : Fields Validator} {extras : Extras Validator}
    {fields : Fields Value} :
    (objectVisits properties extras o fields).map Prod.fst =
      visitedNames properties extras fields := by
  unfold visitedNames
  rw [objectVisits, propertyVisits, List.map_append, List.map_map, ← Fields.map_fst_entries]
  cases extras with
  | preserve | strip => rfl
  | exact | validate _ =>
      rw [extraVisits, List.map_map]
      rfl

/-! ### Unions -/

/-- The validator rejects the value, and its issues are the group. -/
def RejectsWith (o : Options) (v : Value) (validate : Validator) (group : List Issue) : Prop :=
  ∃ issues, validate o v = .ok (.rejected issues) ∧ issues.toList = group

theorem Attempts.all_cons {validate : Validator} {rest : List Validator} :
    all o v (validate :: rest) = validate o v >>= fun
      | .accepted output => .ok (.accepted output)
      | .rejected issues => (all o v rest).map (·.afterFailure issues.toList) := by
  rw [all]
  rcases validate o v with fault | outcome
  · rfl
  · cases outcome <;> rfl

/-- The attempts end with the first validator that accepts the value. -/
theorem Attempts.all_eq_accepted_iff {validators : List Validator} :
    Attempts.all o v validators = .ok (.accepted output) ↔
      ∃ before validate after, validators = before ++ validate :: after ∧
        (∀ earlier ∈ before, ∃ group, RejectsWith o v earlier group) ∧
        validate o v = .ok (.accepted output) := by
  induction validators with
  | nil => simp [all]
  | cons first rest ih =>
      unfold all
      constructor
      · intro h
        split at h
        · cases h
        · rename_i found hfirst
          cases h
          exact ⟨[], first, rest, rfl, by simp, hfirst⟩
        · rename_i issues hfirst
          obtain ⟨attempts, hattempts, hafter⟩ := map_eq_ok_iff.1 h
          cases attempts with
          | failed groups => cases hafter
          | accepted found =>
              cases hafter
              obtain ⟨before, validate, after, rfl, hbefore, haccept⟩ := ih.1 hattempts
              refine ⟨first :: before, validate, after, rfl, ?_, haccept⟩
              rw [List.forall_mem_cons]
              exact ⟨⟨_, issues, hfirst, rfl⟩, hbefore⟩
      · intro h
        obtain ⟨before, validate, after, hsplit, hbefore, haccept⟩ := h
        cases before with
        | nil =>
            rw [List.nil_append, List.cons.injEq] at hsplit
            rw [hsplit.1, haccept]
        | cons earlier before =>
            rw [List.cons_append, List.cons.injEq] at hsplit
            rw [List.forall_mem_cons] at hbefore
            obtain ⟨⟨group, issues, hearlier, -⟩, hbefore⟩ := hbefore
            rw [hsplit.1, hearlier]
            exact map_eq_ok_iff.2
              ⟨_, ih.2 ⟨before, validate, after, hsplit.2, hbefore, haccept⟩, rfl⟩

/-- The attempts fail with the issues of every validator, in order. -/
theorem Attempts.all_eq_failed_iff {validators : List Validator} {groups : List (List Issue)} :
    Attempts.all o v validators = .ok (.failed groups) ↔
      List.Forall₂ (RejectsWith o v) validators groups := by
  induction validators generalizing groups with
  | nil => simp [all, eq_comm]
  | cons first rest ih =>
      unfold all
      constructor
      · intro h
        split at h
        · cases h
        · cases h
        · rename_i issues hfirst
          obtain ⟨attempts, hattempts, hafter⟩ := map_eq_ok_iff.1 h
          cases attempts with
          | accepted found => cases hafter
          | failed later =>
              cases hafter
              exact .cons ⟨issues, hfirst, rfl⟩ (ih.1 hattempts)
      · rintro (_ | ⟨⟨issues, hfirst, rfl⟩, hrest⟩)
        rw [hfirst]
        exact map_eq_ok_iff.2 ⟨_, ih.2 hrest, rfl⟩

/-- The candidates for a value are the members whose inputs admit its kind, in order. -/
theorem Buckets.candidates_ofMembers {α : Type} (members : List ((Bool → List InputType) × α))
    (coerce : Bool) (v : Value) :
    (ofMembers members).candidates coerce v.kind =
      (members.filter fun member => (member.1 coerce).any (·.admits v.kind)).map Prod.snd := by
  have hlookup (members : List (List InputType × α)) :
      (((bucket members).find? fun entry => entry.1 == v.kind).map Prod.snd).getD [] =
        (members.filter fun member => member.1.any (·.admits v.kind)).map Prod.snd := by
    cases v <;> rfl
  unfold candidates ofMembers
  cases coerce with
  | false =>
      rw [if_neg Bool.false_ne_true, hlookup, List.filter_map, List.map_map]
      rfl
  | true =>
      rw [if_pos rfl, hlookup, List.filter_map, List.map_map]
      rfl

/-- The options that a union hands to its members. -/
def Settings.memberOptions (settings : Settings) (o : Options) : Options :=
  { o with coerce := settings.coercesUnder o }

/-- The members of a union that are tried on a value. -/
def Schema.candidates (members : List Schema) (o : Options) (v : Value) : List Schema :=
  members.filter fun member => (member.inputTypes o.coerce).any (·.admits v.kind)

/-! ### Intersections -/

/-- An intersection takes what every member accepts, as it is if no member changes it, and
otherwise merged from what the members make of it. -/
theorem fitIntersection_eq_clean_iff {members : List Validator} :
    fitIntersection settings members o v = .ok (.clean output) ↔
      ∃ outputs, List.Forall₂ (fun validate output => validate o v = .ok (.accepted output))
          members outputs ∧
        if outputs.all Output.isKept then output = .kept
        else ∃ merged, mergeAll? (outputs.map (·.resolve v)) = some merged ∧
          output = .replaced merged := by
  unfold fitIntersection
  rw [map_eq_ok_iff]
  constructor
  · intro h
    obtain ⟨findings, hall, hfit⟩ := h
    cases findings with
    | issues found => cases hfit
    | outputs outputs =>
        have hvisits := Visit.all_eq_outputs_iff.1 hall
        rw [List.forall₂_map_left_iff] at hvisits
        refine ⟨outputs, hvisits, ?_⟩
        simp only at hfit
        split at hfit
        · rename_i hkept
          rw [if_pos hkept]
          exact (Fit.clean_inj.1 hfit).symm
        · rename_i hkept
          rw [if_neg hkept]
          split at hfit
          · rename_i merged hmerged
            exact ⟨merged, hmerged, (Fit.clean_inj.1 hfit).symm⟩
          · exact absurd hfit Fit.refuse_ne_clean
  · intro h
    obtain ⟨outputs, hmembers, houtput⟩ := h
    refine ⟨.outputs outputs, Visit.all_eq_outputs_iff.2 (List.forall₂_map_left_iff.2 hmembers),
      ?_⟩
    simp only
    split
    · rename_i hkept
      rw [if_pos hkept] at houtput
      rw [houtput]
    · rename_i hkept
      rw [if_neg hkept] at houtput
      obtain ⟨merged, hmerged, rfl⟩ := houtput
      rw [hmerged]

/-! ### The forms of a schema -/

namespace Schema

/-- What the form of the schema makes of a value, with each child validated by `validate`. -/
def fittedBy (validate : Schema → Validator) (schema : Schema) (o : Options) (v : Value) :
    Except Fault Fit :=
  fit schema.settings (schema.form.mapChildren fun child => (child, validate child)) o v

variable {validate : Schema → Validator}

theorem fittedBy_array {head : List Schema} {rest : Option Schema} :
    fittedBy validate ⟨settings, .array head rest⟩ o v =
      fitArray settings (head.map validate) (rest.map validate) o v := by
  simp only [fittedBy, fit, Form.mapChildren, List.map_map, Option.map_map, Function.comp_def]

theorem fittedBy_record {key : Option Schema} {value : Schema} :
    fittedBy validate ⟨settings, .record key value⟩ o v =
      fitRecord settings (key.map validate) (validate value) o v := by
  simp only [fittedBy, fit, Form.mapChildren, Option.map_map, Function.comp_def]

theorem fittedBy_object {properties : Fields Schema} {extras : Extras Schema} :
    fittedBy validate ⟨settings, .object properties extras⟩ o v =
      fitObject settings (properties.map fun _ => validate) (extras.map validate) o v := by
  rw [fittedBy, Form.mapChildren, fit, Fields.map_map]
  cases extras <;> rfl

/-- A union tries its candidates, under the options for its members. -/
theorem fittedBy_union {members : List Schema} :
    fittedBy validate ⟨settings, .union members⟩ o v =
      (Attempts.all (settings.memberOptions o) v
        ((candidates members (settings.memberOptions o) v).map validate)).map fun
          | .accepted output => .clean output
          | .failed groups => .refuse (settings.unionIssue
              (inputTypes ⟨settings, .union members⟩ (settings.coercesUnder o)) groups v) := by
  simp only [fittedBy, fit, Form.mapChildren, List.map_map, fitUnion,
    Buckets.candidates_ofMembers, candidates, List.filter_map, Function.comp_def, List.map_id']
  rfl

theorem fittedBy_intersection {members : List Schema} :
    fittedBy validate ⟨settings, .intersection members⟩ o v =
      fitIntersection settings (members.map validate) o v := by
  simp only [fittedBy, fit, Form.mapChildren, List.map_map, Function.comp_def]

theorem fitted_literal {expected : Value} :
    fitted ⟨settings, .literal expected⟩ o v =
      .ok (if v == expected then .clean .kept else .refuse (settings.literalIssue expected v)) :=
  rfl

/-- A literal takes what equals it, as it is. -/
theorem fitted_literal_eq_clean_iff {expected : Value} :
    fitted ⟨settings, .literal expected⟩ o v = .ok (.clean output) ↔
      (v == expected) = true ∧ output = .kept := by
  rw [fitted_literal, Except.ok.injEq]
  split
  · rename_i hv
    rw [Fit.clean_inj, and_iff_right hv, eq_comm]
  · rename_i hv
    exact iff_of_false Fit.refuse_ne_clean fun h => hv h.1

theorem fitted_array {head : List Schema} {rest : Option Schema} :
    fitted ⟨settings, .array head rest⟩ o v =
      fitArray settings (head.map apply) (rest.map apply) o v :=
  fittedBy_array

theorem fitted_record {key : Option Schema} {value : Schema} :
    fitted ⟨settings, .record key value⟩ o v =
      fitRecord settings (key.map apply) value.apply o v :=
  fittedBy_record

theorem fitted_object {properties : Fields Schema} {extras : Extras Schema} :
    fitted ⟨settings, .object properties extras⟩ o v =
      fitObject settings (properties.map fun _ => apply) (extras.map apply) o v :=
  fittedBy_object

theorem fitted_union (settings : Settings) (members : List Schema) (o : Options) (v : Value) :
    fitted ⟨settings, .union members⟩ o v =
      (Attempts.all (settings.memberOptions o) v
        ((candidates members (settings.memberOptions o) v).map apply)).map fun
          | .accepted output => .clean output
          | .failed groups => .refuse (settings.unionIssue
              (inputTypes ⟨settings, .union members⟩ (settings.coercesUnder o)) groups v) :=
  fittedBy_union

/-- If a union takes a value, some candidate does. -/
theorem exists_member_of_fitted_union {members : List Schema}
    (h : fitted ⟨settings, .union members⟩ o v = .ok (.clean output)) :
    ∃ member ∈ candidates members (settings.memberOptions o) v,
      member.apply (settings.memberOptions o) v = .ok (.accepted output) := by
  rw [fitted_union] at h
  obtain ⟨attempts, hattempts, hfit⟩ := map_eq_ok_iff.1 h
  cases attempts with
  | failed groups => exact absurd hfit Fit.refuse_ne_clean
  | accepted found =>
      obtain rfl := Fit.clean_inj.1 hfit
      obtain ⟨before, validate, after, hsplit, -, haccept⟩ :=
        Attempts.all_eq_accepted_iff.1 hattempts
      have hmem : validate ∈ (candidates members (settings.memberOptions o) v).map apply := by
        rw [hsplit]
        exact List.mem_append_right _ List.mem_cons_self
      obtain ⟨member, hmember, rfl⟩ := List.mem_map.1 hmem
      exact ⟨member, hmember, haccept⟩

theorem fitted_intersection {members : List Schema} :
    fitted ⟨settings, .intersection members⟩ o v =
      fitIntersection settings (members.map apply) o v :=
  fittedBy_intersection

end Schema

end Conform
