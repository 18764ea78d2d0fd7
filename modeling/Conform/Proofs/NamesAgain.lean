/-
Records whose names are coerced, and applied to what comes out.

A name is a text, and the key of a record may make a number, a truth, an integer or an instant of
it.  As a name that becomes a text again, the one that is shown of such a value, and not always one
that is read: integers are shown with an `n` behind them that no integer is read with, and years
that do not have four digits with a sign.  Of all other values the text reads back, to a value with
the same text.  So a record takes what came out of it, and leaves it as it is, exactly if no name
became one of these.
-/
import Conform.Proofs.ContainerOutput
import Conform.Proofs.EntryPoints
import Conform.Proofs.InstantText
import Conform.Proofs.NumberText
import Conform.Schema.Build

namespace Conform

/-! ### Scalars -/

/-- The text that is shown of the value is one that the value, or one with the same text, is read
from. -/
def Value.ReadsBack : Value → Prop
  | .bigint _ => False
  | .date t => 0 ≤ t.date.year ∧ t.date.year ≤ 9999
  | _ => True

theorem Value.readsBack_date_iff {t : Instant} :
    (Value.date t).ReadsBack ↔ 0 ≤ t.date.year ∧ t.date.year ≤ 9999 :=
  Iff.rfl

namespace Coercion

theorem trimmed_eq {s : String} (h : ∀ c ∈ s.toList, Text.isBlank c = false) :
    trimmed s = s.toList :=
  Text.trim_eq_self h

theorem numberOf?_text {n : Number} (hfinite : n.isFinite = true) :
    ∃ read, numberOf? (.string n.text) = some read ∧ read.isFinite = true ∧
      read.text = n.text := by
  have hread : numberOf? (.string n.text) = Number.ofText? n.text := by
    rw [numberOf?, trimmed_eq fun c => Number.isBlank_of_mem_text hfinite, String.ofList_toList]
  rw [hread]
  cases hzero : n.isZero with
  | true =>
      have htext : n.text = "0" := by
        rw [Number.text_eq hfinite, hzero, if_pos rfl]
      rw [htext]
      exact ⟨Number.zero, rfl, rfl, rfl⟩
  | false => exact ⟨n, Number.ofText?_text hfinite hzero, hfinite, rfl⟩

/-- No integer is read from the text of an integer, which ends in a letter. -/
theorem bigintOf?_text (i : Int) : bigintOf? (.string (Value.bigint i).text) = none := by
  have htext : (Value.bigint i).text = i.repr ++ "n" := rfl
  have hmem : 'n' ∈ (i.repr ++ "n").toList := by
    rw [String.toList_append]
    exact List.mem_append_right _ List.mem_cons_self
  have hletter : 'n' ∈ trimmed (i.repr ++ "n") := Text.mem_trim hmem rfl
  have hnone : Text.readInt? (trimmed (i.repr ++ "n")) = none :=
    Text.readInt?_eq_none hletter rfl (by decide) (by decide)
  rw [htext, bigintOf?, hnone]
  rfl

/-- An instant is read from its text to the millisecond, if its year has four digits. -/
theorem dateOf?_text (t : Instant) : dateOf? (.string t.text) =
    if 0 ≤ t.date.year ∧ t.date.year ≤ 9999 then some t.truncated else none := by
  rw [dateOf?, trimmed_eq fun c => Instant.isBlank_of_mem_text]
  exact Instant.ofText?_text t

theorem toScalar?_number (s : String) : toScalar? .number (.string s) =
    ((numberOf? (.string s)).filter Number.isFinite).map .number :=
  rfl

theorem toScalar?_date (s : String) :
    toScalar? .date (.string s) = (dateOf? (.string s)).map .date :=
  rfl

theorem toScalar?_text {target : Scalar} {name : String} {w : Value} (hstring : target ≠ .string)
    (h : toScalar? target (.string name) = some w) :
    fieldName w = w.text ∧
      (w.ReadsBack → ∃ again, toScalar? target (.string w.text) = some again ∧
        fieldName again = w.text) ∧
      (¬ w.ReadsBack → toScalar? target (.string w.text) = none) := by
  cases target with
  | string => exact absurd rfl hstring
  | number =>
      rw [toScalar?_number] at h
      obtain ⟨n, hn, rfl⟩ := Option.map_eq_some_iff.1 h
      obtain ⟨-, hfinite⟩ := Option.filter_eq_some_iff.1 hn
      -- Zero loses its sign on the way, so it is the text that is the same and not the number.
      obtain ⟨read, hread, hreadFinite, htext⟩ := numberOf?_text hfinite
      have hshown : ∀ n, (Value.number n).text = n.text := fun _ => rfl
      have hname : ∀ n, fieldName (.number n) = n.text := fun _ => rfl
      rw [hname, hshown]
      refine ⟨rfl, fun _ => ⟨.number read, ?_, (hname read).trans htext⟩,
        fun hback => absurd trivial hback⟩
      rw [toScalar?_number, hread, Option.filter_some_pos hreadFinite]
      rfl
  | boolean =>
      obtain ⟨b, -, rfl⟩ := Option.map_eq_some_iff.1 h
      refine ⟨rfl, fun _ => ⟨.bool b, ?_, rfl⟩, fun hback => absurd trivial hback⟩
      cases b <;> rfl
  | bigint =>
      obtain ⟨i, -, rfl⟩ := Option.map_eq_some_iff.1 h
      refine ⟨rfl, fun hback => hback.elim, fun _ => ?_⟩
      show (bigintOf? (.string (Value.bigint i).text)).map Value.bigint = none
      rw [bigintOf?_text]
      rfl
  | date =>
      rw [toScalar?_date] at h
      obtain ⟨t, -, rfl⟩ := Option.map_eq_some_iff.1 h
      have hshown : (Value.date t).text = t.text := rfl
      have hname : ∀ t, fieldName (.date t) = t.text := fun _ => rfl
      rw [hname, hshown, toScalar?_date, dateOf?_text, Value.readsBack_date_iff]
      refine ⟨rfl, fun hyear => ?_, fun hyear => ?_⟩
      · rw [if_pos hyear]
        exact ⟨_, rfl, (hname _).trans t.text_truncated⟩
      · rw [if_neg hyear]
        rfl

end Coercion

namespace Schema

variable {validate : Schema → Validator} {key : Schema} {settings : Settings} {o : Options}
  {v : Value} {output : Output} {name : String} {fields : Fields Value}

/-! ### Names -/

/-- The schema takes scalars of one type, or a single value, and has no rules. -/
def IsPlainScalar (schema : Schema) : Prop :=
  schema.settings.rules = [] ∧
    ((∃ target, schema.form = .scalar target) ∨ ∃ v, schema.form = .literal v)

theorem IsPlainScalar.accepts_iff (hkey : key.IsPlainScalar) (happlied : key.AppliedBy validate) :
    validate key o v = .ok (.accepted output) ↔
      key.fittedBy validate o v = .ok (.clean output) := by
  have hnone : ∀ P : Rule → Prop, ∀ rule ∈ key.settings.rules, P rule := by
    rw [hkey.1]
    exact fun P => List.forall_mem_nil P
  rw [happlied.eq_accepted_iff (hnone _)]
  exact and_iff_left (hnone _)

/-- No text is a scalar of another type, so it has to be coerced. -/
theorem IsPlainScalar.accepts_name_iff (hkey : key.IsPlainScalar)
    (happlied : key.AppliedBy validate) {target : Scalar} (hform : key.form = .scalar target)
    (hstring : target ≠ .string) :
    validate key o (.string name) = .ok (.accepted output) ↔
      key.settings.coercesUnder o = true ∧
        ∃ w, Coercion.toScalar? target (.string name) = some w ∧ output = .replaced w := by
  have haccepts : target.accepts (.string name) = false := by
    cases target with
    | string => exact absurd rfl hstring
    | _ => rfl
  obtain ⟨settings, form⟩ := key
  obtain rfl : form = .scalar target := hform
  have hfitted : fittedBy validate ⟨settings, .scalar target⟩ o (.string name) =
      .ok (fitScalar settings target o (.string name)) := rfl
  rw [hkey.accepts_iff happlied, hfitted, Except.ok.injEq, fitScalar_eq_clean_iff, haccepts]
  simp

theorem IsPlainScalar.eq_kept_or_coerced (hkey : key.IsPlainScalar)
    (happlied : key.AppliedBy validate)
    (h : validate key o (.string name) = .ok (.accepted output)) :
    output = .kept ∨ ∃ target, key.form = .scalar target ∧ target ≠ .string := by
  obtain ⟨settings, form⟩ := key
  rcases hkey.2 with ⟨target, hform⟩ | ⟨expected, hform⟩
  · obtain rfl : form = .scalar target := hform
    by_cases hstring : target = .string
    · left
      subst hstring
      have hkept : fittedBy validate ⟨settings, .scalar .string⟩ o (.string name) =
          .ok (.clean .kept) := rfl
      rw [hkey.accepts_iff happlied, hkept, Except.ok.injEq, Fit.clean_inj] at h
      exact h.symm
    · exact Or.inr ⟨target, rfl, hstring⟩
  · left
    obtain rfl : form = .literal expected := hform
    exact (fitted_literal_eq_clean_iff.1 ((hkey.accepts_iff happlied).1 h)).2

/-- The value that a key makes of a name. -/
def nameValue (validate : Schema → Validator) (o : Options) (key : Schema) (name : String) :
    Value :=
  (outputOf (validate key o (.string name))).resolve (.string name)

/-- The name that this value becomes. -/
def nameMade (validate : Schema → Validator) (o : Options) (key : Schema) (name : String) :
    String :=
  (outputOf (validate key o (.string name))).rename name

theorem nameValue_of_accepted (h : validate key o (.string name) = .ok (.accepted output)) :
    nameValue validate o key name = output.resolve (.string name) := by
  rw [nameValue, h]
  rfl

theorem nameMade_of_accepted (h : validate key o (.string name) = .ok (.accepted output)) :
    nameMade validate o key name = output.rename name := by
  rw [nameMade, h]
  rfl

/-- The name that a name became is accepted again exactly if its value reads back, and then it
becomes no other. -/
theorem IsPlainScalar.nameMade_again (hkey : key.IsPlainScalar) (happlied : key.AppliedBy validate)
    (haccepted : IsAccepted (validate key o (.string name))) :
    (IsAccepted (validate key o (.string (nameMade validate o key name))) ↔
        (nameValue validate o key name).ReadsBack) ∧
      (IsAccepted (validate key o (.string (nameMade validate o key name))) →
        nameMade validate o key (nameMade validate o key name) = nameMade validate o key name) := by
  obtain ⟨output, h⟩ := haccepted
  rw [nameValue_of_accepted h, nameMade_of_accepted h]
  rcases hkey.eq_kept_or_coerced happlied h with rfl | ⟨target, hform, hstring⟩
  · have hname : Output.kept.rename name = name := rfl
    rw [hname]
    exact ⟨iff_of_true ⟨_, h⟩ trivial, fun _ => nameMade_of_accepted h⟩
  · obtain ⟨hcoerces, w, hw, rfl⟩ := (hkey.accepts_name_iff happlied hform hstring).1 h
    obtain ⟨hname, hback, hnone⟩ := Coercion.toScalar?_text hstring hw
    have hrename : (Output.replaced w).rename name = w.text := hname
    rw [hrename]
    refine ⟨⟨?_, fun hreads => ?_⟩, ?_⟩
    · rintro ⟨again, hagain⟩
      obtain ⟨-, w', hw', -⟩ := (hkey.accepts_name_iff happlied hform hstring).1 hagain
      by_contra hreads
      rw [hnone hreads] at hw'
      cases hw'
    · obtain ⟨w', hw', -⟩ := hback hreads
      exact ⟨_, (hkey.accepts_name_iff happlied hform hstring).2 ⟨hcoerces, w', hw', rfl⟩⟩
    · rintro ⟨again, hagain⟩
      obtain ⟨-, w', hw', rfl⟩ := (hkey.accepts_name_iff happlied hform hstring).1 hagain
      rw [nameMade_of_accepted hagain]
      -- What reads back is all that has to be looked at, for of other values nothing is read.
      by_cases hreads : w.ReadsBack
      · obtain ⟨w'', hw'', htext⟩ := hback hreads
        rw [hw'] at hw''
        cases hw''
        exact htext
      · rw [hnone hreads] at hw'
        cases hw'

theorem IsPlainScalar.readsBack (hkey : key.IsPlainScalar) (happlied : key.AppliedBy validate)
    (hbigint : key.form ≠ .scalar .bigint) (hdate : key.form ≠ .scalar .date)
    (haccepted : IsAccepted (validate key o (.string name))) :
    (nameValue validate o key name).ReadsBack := by
  obtain ⟨output, h⟩ := haccepted
  rw [nameValue_of_accepted h]
  rcases hkey.eq_kept_or_coerced happlied h with rfl | ⟨target, hform, hstring⟩
  · exact trivial
  · obtain ⟨-, w, hw, rfl⟩ := (hkey.accepts_name_iff happlied hform hstring).1 h
    cases target with
    | number =>
        rw [Coercion.toScalar?_number] at hw
        obtain ⟨n, -, rfl⟩ := Option.map_eq_some_iff.1 hw
        exact trivial
    | boolean =>
        obtain ⟨b, -, rfl⟩ := Option.map_eq_some_iff.1 hw
        exact trivial
    | string => exact absurd rfl hstring
    | bigint => exact absurd hform hbigint
    | date => exact absurd hform hdate

/-! ### Records -/

theorem AppliedBy.unknown_eq (happlied : unknown.AppliedBy validate) :
    validate unknown o v = .ok (.accepted .kept) :=
  happlied.eq_outcome rfl

theorem accepts_names_iff (happlied : AppliedBy validate ⟨settings, .record (some key) unknown⟩)
    (hchecks : ∀ rule ∈ settings.rules, rule.IsCheck) :
    validate ⟨settings, .record (some key) unknown⟩ o (.object fields) =
        .ok (.accepted output) ↔
      (∀ name ∈ fields.names, IsAccepted (validate key o (.string name))) ∧
        ComesOut (.object fields) .kept output
          (.object (.ofList (renamedEntries validate o (some key) unknown fields)))
          (RenamedKept validate o (some key) unknown fields) ∧
        ∀ rule ∈ settings.rules, rule.Passes o (output.resolve (.object fields)) := by
  have hunknown : ∀ v, IsAccepted (validate unknown o v) := fun v =>
    ⟨.kept, AppliedBy.unknown_eq
      (happlied.child (List.mem_append_right _ (List.mem_singleton_self _)))⟩
  rw [happlied.eq_accepted_iff hchecks, fittedBy_record_eq_clean_iff, and_assoc]
  refine and_congr_left fun _ => ?_
  rw [forall_fieldWalk_iff (P := fun result _ => IsAccepted result), ← Fields.map_fst_entries,
    List.forall_mem_map]
  refine forall₂_congr fun e _ => ?_
  constructor
  · exact fun h => h.1 key rfl
  · exact fun h => ⟨fun schema hschema => Option.some.inj hschema ▸ h, hunknown e.2⟩

theorem forall_renamed_iff {P : String → Prop} :
    (∀ name ∈ (Fields.ofList (renamedEntries validate o (some key) unknown fields)).names, P name) ↔
      ∀ name ∈ fields.names, P (nameMade validate o key name) := by
  have hfirst : (renamedEntries validate o (some key) unknown fields).map Prod.fst =
      fields.names.map (nameMade validate o key) := by
    rw [renamedEntries, List.map_map, ← Fields.map_fst_entries, List.map_map]
    rfl
  simp only [Fields.mem_names_ofList, hfirst, List.forall_mem_map]

theorem ofList_renamedEntries_of_names
    (happlied : AppliedBy validate ⟨settings, .record (some key) unknown⟩)
    (h : ∀ name ∈ fields.names, nameMade validate o key name = name) :
    Fields.ofList (renamedEntries validate o (some key) unknown fields) = fields := by
  have hentries : renamedEntries validate o (some key) unknown fields = fields.entries := by
    refine (List.map_congr_left fun e he => ?_).trans (List.map_id' _)
    have hname := h e.1 (Fields.mem_names.2 ⟨e.2, he⟩)
    have hvalue : outputOf (validate unknown o e.2) = .kept :=
      congrArg outputOf (AppliedBy.unknown_eq
        (happlied.child (List.mem_append_right _ (List.mem_singleton_self _))))
    exact Prod.ext hname (by rw [hvalue]; rfl)
  rw [hentries, Fields.ofList_entries]

/-- A record that passes the checks, and whose names stay if they are accepted at all, is accepted
exactly if they are, and comes out as it is. -/
theorem accepts_iff_of_staying_names
    (happlied : AppliedBy validate ⟨settings, .record (some key) unknown⟩)
    (hchecks : ∀ rule ∈ settings.rules, rule.IsCheck)
    (hpasses : ∀ rule ∈ settings.rules, rule.Passes o (.object fields))
    (hstays : ∀ name ∈ fields.names, IsAccepted (validate key o (.string name)) →
      nameMade validate o key name = name) :
    (IsAccepted (validate ⟨settings, .record (some key) unknown⟩ o (.object fields)) ↔
        ∀ name ∈ fields.names, IsAccepted (validate key o (.string name))) ∧
      ∀ again, validate ⟨settings, .record (some key) unknown⟩ o (.object fields) =
        .ok (.accepted again) → again.resolve (.object fields) = .object fields := by
  have hsame : (∀ name ∈ fields.names, IsAccepted (validate key o (.string name))) →
      Fields.ofList (renamedEntries validate o (some key) unknown fields) = fields :=
    fun haccepts => ofList_renamedEntries_of_names happlied fun name hname =>
      hstays name hname (haccepts name hname)
  refine ⟨⟨?_, fun haccepts => ?_⟩, fun again hagain => ?_⟩
  · rintro ⟨again, hagain⟩
    exact ((accepts_names_iff happlied hchecks).1 hagain).1
  · have hbase : Output.kept.resolve (.object fields) = .object fields := rfl
    have hmade : RenamedKept validate o (some key) unknown fields →
        Fields.ofList (renamedEntries validate o (some key) unknown fields) = fields :=
      ofList_renamedEntries_of_kept
    obtain ⟨again, hagain⟩ := exists_comesOut hbase hmade
    have hvalue : again.resolve (.object fields) = .object fields := by
      rw [hagain.value, hsame haccepts]
    exact ⟨again, (accepts_names_iff happlied hchecks).2
      ⟨haccepts, hagain, fun rule hrule => hvalue.symm ▸ hpasses rule hrule⟩⟩
  · obtain ⟨haccepts, hout, -⟩ := (accepts_names_iff happlied hchecks).1 hagain
    rw [hout.value, hsame haccepts]

/-- **Records of coerced names, once more.**  Let the key of a record be a scalar or a literal
without rules, coercing or not, let any value do, and let its own rules be checks.  If it accepts an
object with the output `w`, it accepts `w` exactly if all values that the key made of the names read
back, as they do unless the key is for integers or instants.  And if it accepts `w`, it comes out as
it is. -/
theorem record_names_again (hkey : key.IsPlainScalar)
    (hchecks : ∀ rule ∈ settings.rules, rule.IsCheck)
    (happlied : AppliedBy validate ⟨settings, .record (some key) unknown⟩)
    (haccepted : validate ⟨settings, .record (some key) unknown⟩ o (.object fields) =
      .ok (.accepted output)) :
    let w := output.resolve (.object fields)
    (IsAccepted (validate ⟨settings, .record (some key) unknown⟩ o w) ↔
        ∀ name ∈ fields.names, (nameValue validate o key name).ReadsBack) ∧
      (key.form ≠ .scalar .bigint → key.form ≠ .scalar .date →
        ∀ name ∈ fields.names, (nameValue validate o key name).ReadsBack) ∧
      ∀ again, validate ⟨settings, .record (some key) unknown⟩ o w = .ok (.accepted again) →
        again.resolve w = w := by
  intro w
  have hkeyApplied : key.AppliedBy validate := happlied.child List.mem_cons_self
  obtain ⟨hnames, houtput, hpasses⟩ := (accepts_names_iff happlied hchecks).1 haccepted
  have hagain := fun name hname => hkey.nameMade_again hkeyApplied (hnames name hname)
  let made := Fields.ofList (renamedEntries validate o (some key) unknown fields)
  have hw : w = .object made := houtput.value
  have hpassesAgain : ∀ rule ∈ settings.rules, rule.Passes o w := hpasses
  have hreads : (∀ name ∈ made.names, IsAccepted (validate key o (.string name))) ↔
      ∀ name ∈ fields.names, (nameValue validate o key name).ReadsBack :=
    forall_renamed_iff.trans (forall₂_congr fun name hname => (hagain name hname).1)
  have hstays : ∀ name ∈ made.names, IsAccepted (validate key o (.string name)) →
      nameMade validate o key name = name :=
    forall_renamed_iff.2 fun name hname => (hagain name hname).2
  -- The names of `w` stay, so its rules are asked about `w` again.
  rw [hw] at hpassesAgain ⊢
  obtain ⟨haccepts, hsame⟩ := accepts_iff_of_staying_names happlied hchecks hpassesAgain hstays
  refine ⟨haccepts.trans hreads, fun hbigint hdate name hname => ?_, hsame⟩
  exact hkey.readsBack hkeyApplied hbigint hdate (hnames name hname)

/-- A date that is coerced becomes its midnight, which is a name that stays. -/
theorem record_names_again_date :
    let schema := record (some (scalar .date).coercing) unknown
    let fields : Fields Value := .ofList [("2024-02-29", .null)]
    let w : Value := .object (.ofList [("2024-02-29T00:00:00.000Z", .null)])
    schema.apply {} (.object fields) = .ok (.accepted (.replaced w)) ∧
      IsAccepted (schema.apply {} w) ∧
      ∀ again, schema.apply {} w = .ok (.accepted again) → again.resolve w = w := by
  intro schema fields w
  have haccepted : schema.apply {} (.object fields) = .ok (.accepted (.replaced w)) := rfl
  have hkey : (scalar .date).coercing.IsPlainScalar := ⟨rfl, Or.inl ⟨.date, rfl⟩⟩
  obtain ⟨hagain, -, hsame⟩ :=
    record_names_again hkey (List.forall_mem_nil _) (Or.inl ⟨rfl, rfl⟩) haccepted
  refine ⟨haccepted, hagain.2 fun name hname => ?_, hsame⟩
  obtain rfl := List.mem_singleton.1 hname
  exact ⟨by decide, by decide⟩

/-- An integer becomes a name that no integer is read from. -/
theorem record_names_again_bigint :
    let schema := record (some (scalar .bigint).coercing) unknown
    let w : Value := .object (.ofList [("12n", .null)])
    schema.apply {} (.object (.ofList [("12", .null)])) = .ok (.accepted (.replaced w)) ∧
      ¬ ∃ again, schema.apply {} w = .ok (.accepted again) ∧ again.resolve w = w := by
  intro schema w
  refine ⟨rfl, ?_⟩
  rintro ⟨again, hagain, -⟩
  obtain ⟨issues, hrejected⟩ : ∃ issues, schema.apply {} w = .ok (.rejected issues) := ⟨_, rfl⟩
  rw [hrejected] at hagain
  cases hagain

end Schema

end Conform
