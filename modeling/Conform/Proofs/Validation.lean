/-
A schema that only validates hands on what it was given.

There are three ways in which a schema changes values: a rule alters them, they are
coerced, or an object drops the fields it does not declare.  Where none of these is there,
neither in the schema nor in what lies inside it, a value that is accepted comes out
untouched, and not merely as an equal one.  Nor is it changed anywhere on the way: every
schema inside has what it is given handed on as it is, also where it goes on to reject it.
-/
import Conform.Proofs.EntryPoints
import Conform.Proofs.Places
import Conform.Proofs.Rebuild

namespace Conform

variable {o : Options} {v : Value} {output : Output}

/-! ### The validators of the visits -/

section Visits

variable {P : (Value → Except Fault Outcome) → Prop}

theorem forall_itemVisits {validators : List Validator} {items : List Value} {start : Nat}
    (h : ∀ validate ∈ validators, P (validate o)) :
    ∀ visit ∈ itemVisits o start validators items, P visit.validate := by
  induction validators generalizing start items with
  | nil => exact fun visit hvisit => absurd hvisit List.not_mem_nil
  | cons validate rest ih =>
      cases items with
      | nil => exact fun visit hvisit => absurd hvisit List.not_mem_nil
      | cons item items =>
          rw [List.forall_mem_cons] at h
          rw [itemVisits, List.forall_mem_cons]
          exact ⟨h.1, ih h.2⟩

theorem mem_placeValidators {head : List Validator} {rest : Option Validator} {length : Nat}
    {validate : Validator} (h : validate ∈ placeValidators head rest length) :
    validate ∈ head ++ rest.toList := by
  rw [placeValidators, List.mem_append] at h
  rcases h with hhead | hrest
  · exact List.mem_append_left _ hhead
  · cases rest with
    | none => exact absurd hrest List.not_mem_nil
    | some other =>
        rw [Option.elim_some] at hrest
        rw [List.eq_of_mem_replicate hrest]
        exact List.mem_append_right _ (List.mem_singleton_self _)

theorem forall_entryVisits {segment : Value → Segment} {key value : Validator}
    {entries : List (Value × Value)} (hkey : P (key o)) (hvalue : P (value o)) :
    ∀ visit ∈ entryVisits segment key value o entries, P visit.validate := by
  intro visit hvisit
  obtain ⟨e, -, he⟩ := List.mem_flatMap.1 hvisit
  rcases List.mem_pair.1 he with rfl | rfl
  · exact hkey
  · exact hvalue

theorem forall_objectVisits {properties : Fields Validator} {extras : Extras Validator}
    {fields : Fields Value} (hproperties : ∀ validate ∈ properties.values, P (validate o))
    (hextras : ∀ validate ∈ extras.children, P (validate o))
    (hunknown : ∀ name,
      P fun v => .ok (.rejected (.single (Settings.unknownKeyIssue name v)))) :
    ∀ visit ∈ (objectVisits properties extras o fields).map Prod.snd, P visit.validate := by
  rw [objectVisits, List.map_append, List.forall_mem_append]
  constructor
  · rw [propertyVisits, List.map_map, List.forall_mem_map]
    exact fun e he => hproperties e.2 (List.mem_map_of_mem he)
  · cases extras with
    | preserve | strip => exact List.forall_mem_nil _
    | exact =>
        rw [extraVisits, List.map_map, List.forall_mem_map]
        exact fun e _ => hunknown e.1
    | validate validate =>
        rw [extraVisits, List.map_map, List.forall_mem_map]
        exact fun _ _ => hextras validate (List.mem_singleton_self _)

end Visits

theorem keeps_of_rejects {validate : Value → Except Fault Outcome}
    (h : ∀ v, ∃ issues, validate v = .ok (.rejected issues)) : Keeps validate := by
  intro v output haccept
  obtain ⟨issues, hreject⟩ := h v
  rw [hreject] at haccept
  cases haccept

theorem keep_keeps : Keeps (Validator.keep o) := by
  intro v output h
  cases h
  rfl

/-! ### The forms -/

/-- Undeclared fields are dropped. -/
def Form.strips {α : Type} : Form α → Bool
  | object _ extras => extras.isStrip
  | _ => false

namespace Schema

/-- The schema itself changes no value when it is called without coercion. -/
structure Preserves (schema : Schema) : Prop where
  checks : schema.OnlyChecks
  coerces : schema.settings.coerces = false
  strips : schema.form.strips = false

/-- Nothing in the schema changes a value in a call that coerces, or does not. -/
structure ValidatesOnly (schema : Schema) (coerce : Bool) : Prop where
  uncoerced : coerce = false
  preserves : schema.Everywhere Preserves

theorem memberOptions_of_uncoerced {settings : Settings} (h : settings.coerces = false) :
    settings.memberOptions o = o := by
  rw [Settings.memberOptions, Settings.coercesUnder, h, Bool.false_or]

/-! ### Containers

A container that is received as it is, and whose parts come out as they are, has nothing to
rebuild.
-/

section Containers

variable {settings : Settings} {key value element : Validator}

theorem eq_kept_of_fitArray {head : List Validator} {rest : Option Validator}
    (hcoercing : settings.coercesUnder o = false)
    (hkeeps : ∀ validate ∈ head ++ rest.toList, Keeps (validate o))
    (h : fitArray settings head rest o v = .ok (.clean output)) : output = .kept := by
  obtain ⟨base, items, hreceive, -, hparts⟩ := fitArray_eq_clean_iff.1 h
  rw [receive_of_uncoerced hcoercing hreceive] at hparts
  refine eq_base_of_keeps (forall_itemVisits fun validate hvalidate => ?_) ?_ hparts
  · exact hkeeps validate (mem_placeValidators hvalidate)
  · intro outputs houtputs
    rw [rebuildItems_eq_none_iff.2 houtputs]
    rfl

theorem eq_kept_of_fitSet (hcoercing : settings.coercesUnder o = false)
    (helement : Keeps (element o))
    (h : fitSet settings element o v = .ok (.clean output)) : output = .kept := by
  obtain ⟨base, items, hreceive, hparts⟩ := fitSet_eq_clean_iff.1 h
  rw [receive_of_uncoerced hcoercing hreceive] at hparts
  refine eq_base_of_keeps (forall_itemVisits fun validate hvalidate => ?_) ?_ hparts
  · rwa [List.eq_of_mem_replicate hvalidate]
  · intro outputs houtputs
    rw [rebuildItems_eq_none_iff.2 houtputs]
    rfl

theorem eq_kept_of_fitMap (hcoercing : settings.coercesUnder o = false) (hkey : Keeps (key o))
    (hvalue : Keeps (value o)) (h : fitMap settings key value o v = .ok (.clean output)) :
    output = .kept := by
  obtain ⟨base, entries, hreceive, hparts⟩ := fitMap_eq_clean_iff.1 h
  rw [receive_of_uncoerced hcoercing hreceive] at hparts
  refine eq_base_of_keeps (forall_entryVisits hkey hvalue) (fun outputs houtputs => ?_) hparts
  rw [changedEntries_of_kept houtputs]
  rfl

theorem eq_kept_of_fitRecord {key : Option Validator}
    (hkey : ∀ validate ∈ key.toList, Keeps (validate o)) (hvalue : Keeps (value o))
    (h : fitRecord settings key value o v = .ok (.clean output)) : output = .kept := by
  obtain ⟨fields, rfl⟩ := exists_object_of_fitRecord h
  have hnames : Keeps (key.getD .keep o) := by
    cases key with
    | none => exact keep_keeps (o := o)
    | some key => exact hkey key (List.mem_singleton_self key)
  refine eq_base_of_keeps (forall_entryVisits hnames hvalue) (fun outputs houtputs => ?_) h
  rw [rebuildFields_of_kept houtputs]
  rfl

theorem eq_kept_of_fitObject {properties : Fields Validator} {extras : Extras Validator}
    (hstrips : extras.isStrip = false)
    (hproperties : ∀ validate ∈ properties.values, Keeps (validate o))
    (hextras : ∀ validate ∈ extras.children, Keeps (validate o))
    (h : fitObject settings properties extras o v = .ok (.clean output)) : output = .kept := by
  obtain ⟨fields, rfl⟩ := exists_object_of_fitObject h
  rw [fitObject_object] at h
  refine eq_base_of_keeps (forall_objectVisits hproperties hextras fun name => ?_) ?_ h
  · exact keeps_of_rejects fun v => ⟨_, rfl⟩
  · intro outputs houtputs
    rw [rebuildObject_of_kept (Or.inl hstrips) houtputs]
    rfl

end Containers

/-- A container of children that keep what they accept is not rebuilt, unless it drops fields. -/
theorem eq_kept_of_container {schema : Schema} (hcontainer : schema.form.isContainer = true)
    (hcoercing : schema.settings.coercesUnder o = false) (hstrips : schema.form.strips = false)
    (hchildren : ∀ child ∈ schema.form.children, Keeps (child.apply o))
    (h : schema.fitted o v = .ok (.clean output)) : output = .kept := by
  obtain ⟨settings, form⟩ := schema
  cases form with
  | array head rest =>
      rw [fitted_array] at h
      refine eq_kept_of_fitArray hcoercing ?_ h
      rwa [Option.toList_map, ← List.map_append, List.forall_mem_map]
  | set element =>
      exact eq_kept_of_fitSet hcoercing (hchildren element (List.mem_singleton_self _)) h
  | map key value =>
      rw [Form.children, List.forall_mem_cons, List.forall_mem_singleton] at hchildren
      exact eq_kept_of_fitMap hcoercing hchildren.1 hchildren.2 h
  | record key value =>
      rw [fitted_record] at h
      rw [Form.children, List.forall_mem_append, List.forall_mem_singleton] at hchildren
      refine eq_kept_of_fitRecord ?_ hchildren.2 h
      rw [Option.toList_map, List.forall_mem_map]
      exact hchildren.1
  | object properties extras =>
      rw [fitted_object] at h
      rw [Form.children, List.forall_mem_append] at hchildren
      refine eq_kept_of_fitObject ((Extras.isStrip_map apply extras).trans hstrips) ?_ ?_ h
      · rw [Fields.values_map, List.forall_mem_map]
        exact hchildren.1
      · rw [Extras.children_map, List.forall_mem_map]
        exact hchildren.2
  | _ => cases hcontainer

theorem Preserves.coercesUnder {schema : Schema} (h : schema.Preserves)
    (huncoerced : o.coerce = false) : schema.settings.coercesUnder o = false := by
  rw [Settings.coercesUnder, h.coerces, huncoerced]
  rfl

theorem eq_kept_of_fitted {schema : Schema} (hpreserves : schema.Preserves)
    (huncoerced : o.coerce = false)
    (hchildren : ∀ child ∈ schema.form.children, Keeps (child.apply o))
    (h : schema.fitted o v = .ok (.clean output)) : output = .kept := by
  have hcoercing : schema.settings.coercesUnder o = false := hpreserves.coercesUnder huncoerced
  by_cases hcontainer : schema.form.isContainer = true
  · exact eq_kept_of_container hcontainer hcoercing hpreserves.strips hchildren h
  obtain ⟨settings, form⟩ := schema
  cases form with
  | scalar target =>
      rcases fitScalar_eq_clean_iff.1 (Except.ok.inj h) with ⟨-, hkept⟩ | ⟨hcoerces, -⟩
      · exact hkept
      · rw [hcoercing] at hcoerces
        exact absurd hcoerces Bool.false_ne_true
  | literal expected => exact (fitted_literal_eq_clean_iff.1 h).2
  | unknown => exact (Fit.clean_inj.1 (Except.ok.inj h)).symm
  | never => exact absurd (Except.ok.inj h) Fit.refuse_ne_clean
  | array | object | record | map | set => exact absurd rfl hcontainer
  | union members =>
      obtain ⟨member, hcandidate, haccept⟩ := exists_member_of_fitted_union h
      have hmember := (List.mem_filter.1 hcandidate).1
      rw [memberOptions_of_uncoerced hpreserves.coerces] at haccept
      exact hchildren member hmember _ _ haccept
  | intersection members =>
      rw [fitted_intersection] at h
      obtain ⟨outputs, haccepts, houtput⟩ := fitIntersection_eq_clean_iff.1 h
      have hkept : outputs.all Output.isKept = true := by
        rw [List.forall₂_map_left_iff] at haccepts
        rw [List.all_eq_true]
        intro out hout
        obtain ⟨member, hzip, haccept⟩ := exists_partner haccepts.flip hout
        exact Output.isKept_iff.2 (hchildren member (List.of_mem_zip hzip).2 _ _ haccept)
      rwa [if_pos hkept] at houtput

theorem keeps_of_validatesOnly {schema : Schema} (h : schema.ValidatesOnly o.coerce) :
    Keeps (schema.apply o) := by
  obtain ⟨huncoerced, hpreserves⟩ := h
  induction schema using Schema.induction with
  | step schema ih =>
      intro v output haccept
      have happlied : schema.AppliedBy apply := Or.inl ⟨rfl, isAsync_of_apply haccept⟩
      have hfitted := ((happlied.eq_accepted_iff hpreserves.here.checks).1 haccept).1
      refine eq_kept_of_fitted hpreserves.here huncoerced ?_ hfitted
      exact fun child hchild => ih child hchild (hpreserves.child hchild)

theorem eq_kept_of_validatesOnly {schema : Schema} (h : schema.ValidatesOnly o.coerce)
    (hfitted : schema.fitted o v = .ok (.clean output)) : output = .kept := by
  refine eq_kept_of_fitted h.preserves.here h.uncoerced (fun child hchild => ?_) hfitted
  exact keeps_of_validatesOnly ⟨h.uncoerced, h.preserves.child hchild⟩

/-! ### Inside a call -/

/-- What is called further inside is called without coercion too. -/
theorem ValidatesOnly.of_reaches {schema inner : Schema} {coerce coerce' : Bool}
    (h : schema.ValidatesOnly coerce) (hreaches : Reaches inner coerce' schema coerce) :
    inner.ValidatesOnly coerce' := by
  induction hreaches with
  | here => exact h
  | deeper hchild _ ih =>
      refine ih ⟨?_, h.preserves.child hchild⟩
      unfold handsDown
      split
      · rw [h.preserves.here.coerces, h.uncoerced]
        rfl
      · exact h.uncoerced

/-- Whatever issues the parts have, the value is handed on to the rules as it is. -/
theorem output_of_fitted {schema : Schema} {start : Progress}
    (h : schema.ValidatesOnly o.coerce) (hfitted : schema.fitted o v = .ok (.fits start)) :
    start.output = .kept := by
  cases arises_of_fitted hfitted with
  | clean output => exact eq_kept_of_validatesOnly h hfitted
  | parts huncoerced => exact (huncoerced (h.preserves.here.coercesUnder h.uncoerced)).1

/-- The rules have nothing else to hand on. -/
theorem output_of_run {schema : Schema} {start p : Progress} (h : schema.ValidatesOnly o.coerce)
    (hstart : start.output = .kept)
    (hrun : schema.settings.rules.run o v start = .ok p) : p.output = .kept := by
  have hstep : ∀ rule ∈ schema.settings.rules, ∀ childFailed q q', q.output = .kept →
      rule.apply childFailed o v q = .ok q' → q'.output = .kept := by
    intro rule hrule childFailed q q' hq happly
    rw [Rule.output_of_apply (h.preserves.here.checks rule hrule) happly, hq]
  exact Rules.run_keeps hstep hstart hrun

/-- **A schema that only validates changes nothing, at any depth.**  Let no rule in a schema alter
values, nothing in it coerce and no object in it drop fields, and let it be called without
coercion.  Then what it accepts comes out as it is, and this is so all the way down: what is
called further inside is called without coercion, hands the value to its rules as it is, also when
parts of it are rejected, and has it back from them as it is. -/
theorem kept_throughout {schema : Schema} (hpreserves : schema.Everywhere Preserves)
    (huncoerced : o.coerce = false) :
    (∀ v output, schema.apply o v = .ok (.accepted output) → output = .kept) ∧
      ∀ inner coerce, Reaches inner coerce schema o.coerce →
        { o with coerce } = o ∧
          ∀ v start, inner.fitted o v = .ok (.fits start) →
            start.output = .kept ∧
              ∀ p, inner.settings.rules.run o v start = .ok p → p.output = .kept := by
  have hvalidates : schema.ValidatesOnly o.coerce := ⟨huncoerced, hpreserves⟩
  refine ⟨keeps_of_validatesOnly hvalidates, fun inner coerce hreaches => ?_⟩
  have hinner : inner.ValidatesOnly coerce := hvalidates.of_reaches hreaches
  obtain rfl : coerce = o.coerce := hinner.uncoerced.trans huncoerced.symm
  refine ⟨rfl, fun v start hfitted => ?_⟩
  have hstart : start.output = .kept := output_of_fitted hinner hfitted
  exact ⟨hstart, fun p hrun => output_of_run hinner hstart hrun⟩

/-- A record of pairs, the second of which is a choice, takes one as it is, and when a pair is
rejected the record is still handed to its rules as it is. -/
theorem kept_throughout_record :
    let choice : Schema := ⟨{}, .union [⟨{}, .never⟩, ⟨{}, .scalar .boolean⟩]⟩
    let pair : Schema := ⟨{}, .array [⟨{}, .scalar .boolean⟩, choice] none⟩
    let schema : Schema := ⟨{}, .record none pair⟩
    let v : Value → Value := fun w => .object (.ofList [("a", .array [.bool true, w])])
    schema.apply {} (v (.bool false)) = .ok (.accepted .kept) ∧
      ∃ issues, schema.fitted {} (v .null) = .ok (.fits ⟨.kept, issues⟩) := by
  intro choice pair schema v
  have hhere : ∀ {form}, Form.strips form = false → Preserves ⟨{}, form⟩ :=
    fun hstrips => ⟨nofun, rfl, hstrips⟩
  have hscalar : (⟨{}, .scalar .boolean⟩ : Schema).Everywhere Preserves :=
    everywhere_of_childless rfl (hhere rfl)
  have hchoice : choice.Everywhere Preserves := everywhere_iff.2
    ⟨hhere rfl, List.forall_mem_cons.2 ⟨everywhere_of_childless rfl (hhere rfl),
      List.forall_mem_singleton.2 hscalar⟩⟩
  have hpair : pair.Everywhere Preserves :=
    everywhere_iff.2 ⟨hhere rfl, List.forall_mem_cons.2 ⟨hscalar,
      List.forall_mem_singleton.2 hchoice⟩⟩
  have hpreserves : schema.Everywhere Preserves :=
    everywhere_iff.2 ⟨hhere rfl, List.forall_mem_singleton.2 hpair⟩
  obtain ⟨hkeeps, hinside⟩ := kept_throughout (o := {}) hpreserves rfl
  constructor
  · have haccept : ∃ output, schema.apply {} (v (.bool false)) = .ok (.accepted output) :=
      ⟨_, rfl⟩
    obtain ⟨output, haccept⟩ := haccept
    rw [haccept, hkeeps _ output haccept]
  · have hfitted : ∃ start, schema.fitted {} (v .null) = .ok (.fits start) := ⟨_, rfl⟩
    obtain ⟨⟨output, issues⟩, hfitted⟩ := hfitted
    obtain rfl : output = .kept := ((hinside schema false .here).2 _ _ hfitted).1
    exact ⟨issues, hfitted⟩

end Schema

end Conform
