/-
What is stripped has no influence.

An object that drops undeclared fields looks at the declared ones only.  It may have to be copied
for that or not, and undeclared fields may stand before, between and after the others, but once
the parts are in order its rules see the same value, and they cannot tell how it came about.  If a
part fails, the object is handed on with its undeclared fields, and only forced rules would see
them.  So where no rule is forced, two objects with the same declared fields come to the same.
-/
import Conform.Proofs.EntryPoints
import Conform.Proofs.Isolation
import Conform.Proofs.ObjectOutput

namespace Conform

/-! ### Runs that see the same -/

/-- Two runs of two steps end alike in what is seen of them, if the second steps do so wherever the
first ones look alike. -/
theorem map_bind_congr {ε α β γ δ : Type} {x y : Except ε α} {f g : α → Except ε β}
    {seen seen' : α → γ} {result result' : β → δ} (hfirst : x.map seen = y.map seen')
    (hthen : ∀ a b, seen a = seen' b → (f a).map result = (g b).map result') :
    (x >>= f).map result = (y >>= g).map result' := by
  cases x with
  | error e =>
      rw [map_eq_error_iff.1 hfirst.symm]
      rfl
  | ok a =>
      obtain ⟨b, rfl, hseen⟩ := map_eq_ok_iff.1 hfirst.symm
      exact hthen a b hseen.symm

/-- What a rule sees of the progress of a run: the value as it stands and the issues so far. -/
def Progress.view (input : Value) (p : Progress) : Value × List Issue :=
  (p.output.resolve input, p.issues)

section Views

variable {rule : Rule} {rules : Rules} {o : Options} {input input' : Value} {p q : Progress}

theorem Rule.view_absorb (h : p.view input = q.view input') (found : List Issue) :
    (rule.absorb p found).view input = (rule.absorb q found).view input' := by
  obtain ⟨hvalue, hissues⟩ := Prod.mk.inj h
  exact congrArg₂ Prod.mk hvalue (congrArg (· ++ rule.worded found) hissues)

theorem Rule.view_execute (h : p.view input = q.view input') :
    (rule.execute o input p).map (Progress.view input) =
      (rule.execute o input' q).map (Progress.view input') := by
  obtain ⟨hvalue, hissues⟩ := Prod.mk.inj h
  have habsorb : ∀ found, (rule.absorb p found).view input = (rule.absorb q found).view input' :=
    view_absorb h
  unfold execute
  dsimp only
  rw [hvalue]
  cases rule.action with
  | check find =>
      dsimp only
      rcases find (q.output.resolve input') rule.param o with (found | text) | found
      · exact congrArg Except.ok (habsorb found)
      · rfl
      · exact congrArg Except.ok (habsorb found)
  | alter replace =>
      dsimp only
      rcases replace (q.output.resolve input') rule.param o with (found | text) | altered
      · exact congrArg Except.ok (habsorb found)
      · rfl
      · exact congrArg Except.ok (congrArg (Prod.mk altered) hissues)

theorem Rule.view_applyAsync {childFailed : Bool} (h : p.view input = q.view input') :
    (rule.applyAsync childFailed o input p).map (Progress.view input) =
      (rule.applyAsync childFailed o input' q).map (Progress.view input') := by
  have hissues : p.issues = q.issues := congrArg Prod.snd h
  unfold applyAsync
  rw [hissues]
  split
  · exact congrArg Except.ok h
  · exact view_execute h

theorem Rules.view_runAsync (h : p.view input = q.view input') :
    (rules.runAsync o input p).map (Progress.view input) =
      (rules.runAsync o input' q).map (Progress.view input') := by
  have hissues : p.issues = q.issues := congrArg Prod.snd h
  unfold runAsync
  rw [hissues]
  -- Whether a part failed is settled before the first rule.
  generalize (!q.issues.isEmpty) = childFailed
  clear hissues
  induction rules generalizing p q with
  | nil => exact congrArg Except.ok h
  | cons rule rest ih =>
      rw [List.foldlM_cons, List.foldlM_cons]
      exact map_bind_congr (Rule.view_applyAsync h) fun p q => ih

theorem Progress.valueOf_outcome_congr (h : p.view input = q.view input') :
    Schema.valueOf input p.outcome = Schema.valueOf input' q.outcome := by
  obtain ⟨hvalue, hissues⟩ := Prod.mk.inj h
  unfold outcome
  rw [hissues]
  cases Issues.ofList? q.issues with
  | none => exact congrArg Except.ok hvalue
  | some issues => rfl

theorem Rules.valueOf_runAsync_congr (h : p.view input = q.view input') :
    ((rules.runAsync o input p).map Progress.outcome).map (Schema.valueOf input) =
      ((rules.runAsync o input' q).map Progress.outcome).map (Schema.valueOf input') := by
  have hruns : (rules.runAsync o input p).map (Progress.view input) =
      (rules.runAsync o input' q).map (Progress.view input') := view_runAsync h
  cases hp : rules.runAsync o input p with
  | error fault =>
      rw [hp] at hruns
      rw [map_eq_error_iff.1 hruns.symm]
      rfl
  | ok p' =>
      rw [hp] at hruns
      obtain ⟨q', hq, hview⟩ := map_eq_ok_iff.1 hruns.symm
      rw [hq]
      exact congrArg Except.ok (Progress.valueOf_outcome_congr hview.symm)

end Views

/-! ### What the form hands to the rules -/

namespace Fit

/-- The form makes of two values what the rules of a schema without forced ones cannot tell apart:
both break down alike, or are handed on with the same issues, or have come out the same. -/
inductive Alike (v v' : Value) : Except Fault Fit → Except Fault Fit → Prop
  | fault (fault : Fault) : Alike v v' (.error fault) (.error fault)
  | failed (issues : Issues) :
      Alike v v' (.ok (.fits ⟨.kept, issues.toList⟩)) (.ok (.fits ⟨.kept, issues.toList⟩))
  | clean {output output' : Output} (h : output.resolve v = output'.resolve v') :
      Alike v v' (.ok (.clean output)) (.ok (.clean output'))

theorem conclude_of_failed {settings : Settings} {o : Options} {v : Value}
    (hunforced : ∀ rule ∈ settings.rules, rule.forced = false) (issues : Issues) :
    conclude settings o v (.fits ⟨.kept, issues.toList⟩) = .ok (.rejected issues) := by
  have hnone : (settings.rules.filter fun rule => rule.forced) = [] :=
    List.filter_eq_nil_iff.2 fun rule hrule => Bool.eq_false_iff.1 (hunforced rule hrule)
  have hfailed : issues.toList ≠ [] := List.cons_ne_nil _ _
  rw [conclude, Rules.runAsync_of_failed hfailed, hnone]
  rfl

theorem Alike.conclude_eq {settings : Settings} {o : Options} {v v' : Value}
    {a b : Except Fault Fit} (h : Alike v v' a b)
    (hunforced : ∀ rule ∈ settings.rules, rule.forced = false) :
    (a >>= conclude settings o v).map (Schema.valueOf v) =
      (b >>= conclude settings o v').map (Schema.valueOf v') := by
  cases h with
  | fault fault => rfl
  | failed issues =>
      have hrejected : ∀ w, (Except.ok (fits ⟨.kept, issues.toList⟩) >>= conclude settings o w) =
          .ok (.rejected issues) := fun w => conclude_of_failed hunforced issues
      rw [hrejected, hrejected]
      rfl
  | @clean output output' hsame =>
      have hview : Progress.view v ⟨output, []⟩ = Progress.view v' ⟨output', []⟩ :=
        congrArg (Prod.mk · []) hsame
      exact Rules.valueOf_runAsync_congr hview

end Fit

/-! ### The declared fields -/

/-- The fields that the properties declare. -/
def declaredFields {α : Type} (properties : Fields α) (fields : Fields Value) :
    List (String × Value) :=
  fields.entries.filter fun e => properties.contains e.1

section Declared

variable {validate : Schema → Validator} {o : Options} {properties : Fields Schema}
  {f g : Fields Value}

theorem get?_eq_of_declared (h : declaredFields properties f = declaredFields properties g)
    {name : String} (hname : properties.contains name = true) : f.get? name = g.get? name := by
  have hfilter : (f.filter fun name _ => properties.contains name) =
      g.filter fun name _ => properties.contains name := by
    refine Fields.ext ?_
    rw [Fields.entries_filter, Fields.entries_filter]
    exact h
  have hget := Fields.get?_filter_name f (fun name => properties.contains name) name
  rw [hfilter, Fields.get?_filter_name, if_pos hname, if_pos hname] at hget
  exact hget.symm

theorem propertyWalk_strip_congr (h : declaredFields properties f = declaredFields properties g) :
    propertyWalk validate o properties .strip f = propertyWalk validate o properties .strip g := by
  unfold propertyWalk
  refine congrArg (· ++ _) (List.map_congr_left fun e he => ?_)
  have hname : properties.contains e.1 = true :=
    Fields.contains_iff.2 (Fields.mem_names.2 ⟨e.2, he⟩)
  dsimp only
  rw [get?_eq_of_declared h hname]

theorem fieldOutput_strip_congr (h : declaredFields properties f = declaredFields properties g)
    {name : String} (hname : properties.contains name = true) :
    fieldOutput validate o properties .strip f name =
      fieldOutput validate o properties .strip g name := by
  unfold fieldOutput
  rw [get?_eq_of_declared h hname]

theorem fieldsLeft_strip_congr (h : declaredFields properties f = declaredFields properties g) :
    fieldsLeft validate o properties .strip f = fieldsLeft validate o properties .strip g := by
  have hadded : ∀ name ∈ properties.names,
      addedField f (fieldOutput validate o properties .strip f) name =
        addedField g (fieldOutput validate o properties .strip g) name := by
    intro name hmem
    have hname : properties.contains name = true := Fields.contains_iff.2 hmem
    have hthere : f.contains name = g.contains name := by
      rw [Bool.eq_iff_iff, Fields.contains_iff, Fields.contains_iff, Fields.mem_names_iff_get?,
        Fields.mem_names_iff_get?, get?_eq_of_declared h hname]
    unfold addedField
    rw [hthere, fieldOutput_strip_congr h hname]
  have hgiven : (declaredFields properties f).map (fun e =>
      (e.1, (fieldOutput validate o properties .strip f e.1).resolve e.2)) =
        (declaredFields properties f).map fun e =>
          (e.1, (fieldOutput validate o properties .strip g e.1).resolve e.2) :=
    List.map_congr_left fun e he => by
      rw [fieldOutput_strip_congr h (List.mem_filter.1 he).2]
  have hleft : ∀ fields, fieldsLeft validate o properties .strip fields =
      (declaredFields properties fields).map (fun e =>
          (e.1, (fieldOutput validate o properties .strip fields e.1).resolve e.2)) ++
        properties.names.filterMap
          (addedField fields (fieldOutput validate o properties .strip fields)) :=
    fun _ => rfl
  rw [hleft, hleft, hgiven, h, List.filterMap_congr hadded]

theorem fieldsAccepted_strip_congr (h : declaredFields properties f = declaredFields properties g)
    (haccepted : FieldsAccepted validate o properties .strip f) :
    FieldsAccepted validate o properties .strip g := by
  refine ⟨fun e he => ?_, nofun, nofun⟩
  have hname : properties.contains e.1 = true :=
    Fields.contains_iff.2 (Fields.mem_names.2 ⟨e.2, he⟩)
  rw [← get?_eq_of_declared h hname]
  exact haccepted.declared e he

end Declared

namespace Schema

variable {validate : Schema → Validator} {o : Options} {properties : Fields Schema}
  {settings : Settings} {f g : Fields Value} {output : Output}

/-- If the parts are in order, both objects come out the same. -/
theorem fittedBy_strip_of_clean (h : declaredFields properties f = declaredFields properties g)
    (hclean : fittedBy validate ⟨settings, .object properties .strip⟩ o (.object f) =
      .ok (.clean output)) :
    ∃ output', fittedBy validate ⟨settings, .object properties .strip⟩ o (.object g) =
        .ok (.clean output') ∧
      output.resolve (.object f) = output'.resolve (.object g) := by
  obtain ⟨haccepted, rfl⟩ := fittedBy_object_eq_clean_iff.1 hclean
  refine ⟨_, fittedBy_object_eq_clean_iff.2 ⟨fieldsAccepted_strip_congr h haccepted, rfl⟩, ?_⟩
  have hbase : ∀ fields, Output.kept.resolve (.object fields) = .object fields := fun _ => rfl
  rw [resolve_orRebuilt (hbase f), resolve_orRebuilt (hbase g)]
  refine congrArg Value.object (Fields.ext ?_)
  rw [entries_rebuildObject, entries_rebuildObject, fieldsLeft_strip_congr h]

/-- The form makes the same of both objects, unless both are handed on with issues of their
parts. -/
theorem fittedBy_strip_alike (h : declaredFields properties f = declaredFields properties g) :
    Fit.Alike (.object f) (.object g)
      (fittedBy validate ⟨settings, .object properties .strip⟩ o (.object f))
      (fittedBy validate ⟨settings, .object properties .strip⟩ o (.object g)) := by
  have hparts : ∀ fields, ∃ rebuild,
      fittedBy validate ⟨settings, .object properties .strip⟩ o (.object fields) =
        visitParts o.verbose .kept (propertyWalk validate o properties .strip fields) rebuild := by
    intro fields
    rw [fittedBy_object, fitObject_object, objectVisits_eq_propertyWalk]
    exact ⟨_, rfl⟩
  -- The same parts are visited in both, and only the rebuilding sees the other fields.
  obtain ⟨rebuild, hf⟩ := hparts f
  obtain ⟨rebuild', hg⟩ := hparts g
  rw [propertyWalk_strip_congr h] at hf
  cases hresult : visitParts o.verbose .kept (propertyWalk validate o properties .strip g)
    rebuild with
  | error fault =>
      have hall := map_eq_error_iff.1 hresult
      rw [hf, hresult, hg, visitParts, hall]
      exact .fault fault
  | ok fit =>
      rcases visitParts_cases hresult with ⟨output, rfl⟩ | ⟨issues, rfl, hreport⟩
      · obtain ⟨output', hclean, hsame⟩ := fittedBy_strip_of_clean h (hf.trans hresult)
        rw [hf, hresult, hclean]
        exact .clean hsame
      · rw [hf, hresult, hg, Visit.visitParts_of_failed hreport (List.cons_ne_nil _ _)]
        exact .failed issues

theorem AppliedBy.strip_congr (happlied : AppliedBy validate ⟨settings, .object properties .strip⟩)
    (hunforced : ∀ rule ∈ settings.rules, rule.forced = false)
    (h : declaredFields properties f = declaredFields properties g) :
    (validate ⟨settings, .object properties .strip⟩ o (.object f)).map (valueOf (.object f)) =
      (validate ⟨settings, .object properties .strip⟩ o (.object g)).map
        (valueOf (.object g)) := by
  rw [happlied.eq_conclude, happlied.eq_conclude]
  exact (fittedBy_strip_alike h).conclude_eq hunforced

/-- **Undeclared fields have no influence where they are stripped.**  Let an object schema drop
what it does not declare and have no forced rules, and let two objects have the same declared
fields in the same order, whatever else they have and wherever.  Then the schema comes to the same
for both, waiting or not: it accepts both with the same value, or rejects both with the same
issues, or ends in the same fault, whatever its rules do. -/
theorem strip_ignores_undeclared
    (hunforced : ∀ rule ∈ settings.rules, rule.forced = false)
    (h : declaredFields properties f = declaredFields properties g) (o : Options) :
    let schema : Schema := ⟨settings, .object properties .strip⟩
    schema.tryParse o (.object f) = schema.tryParse o (.object g) ∧
      schema.tryParseAsync o (.object f) = schema.tryParseAsync o (.object g) := by
  intro schema
  refine ⟨?_, AppliedBy.strip_congr (Or.inr rfl) hunforced h⟩
  by_cases hasync : schema.isAsync = true
  · rw [tryParse, tryParse, apply_eq, if_pos hasync, apply_eq, if_pos hasync]
    rfl
  · exact AppliedBy.strip_congr (Or.inl ⟨rfl, Bool.eq_false_iff.2 hasync⟩) hunforced h

/-- The one object has to be copied and the other not.  The rule is passed by both, though it takes
objects of one field only. -/
theorem strip_ignores_undeclared_one :
    let rule : Rule := { action := .check fun v _ _ => .ok <|
      match v with
      | .object ⟨[_], _, _⟩ => []
      | _ => [.raise Code.never v "has more than one field"] }
    let schema : Schema := ⟨{ rules := [rule] }, .object (.ofList [("a", ⟨{}, .unknown⟩)]) .strip⟩
    let f : Fields Value := .ofList [("x", .null), ("a", .bool true), ("y", .bool false)]
    let g : Fields Value := .ofList [("a", .bool true)]
    schema.tryParse {} (.object f) = .ok (.ok (.object g)) ∧
      schema.tryParse {} (.object f) = schema.tryParse {} (.object g) ∧
      schema.tryParseAsync {} (.object f) = schema.tryParseAsync {} (.object g) := by
  intro rule schema f g
  have hunforced : ∀ rule ∈ schema.settings.rules, rule.forced = false := by
    intro rule hrule
    rw [List.mem_singleton.1 hrule]
  exact ⟨rfl, strip_ignores_undeclared hunforced rfl {}⟩

end Schema

end Conform
