/-
What a run of rules comes to.

Issues are only ever added, so a run that ends without any had none at any point, and then
every rule had its turn.  If the rules are checks, such a run has changed nothing, and
whether it ends so depends on the value alone and not on how the value came about.  That
is what lets a run be repeated on its own output.
-/
import Conform.Rule

namespace Conform

theorem bind_eq_ok_iff {ε α β : Type} {x : Except ε α} {f : α → Except ε β} {b : β} :
    x >>= f = .ok b ↔ ∃ a, x = .ok a ∧ f a = .ok b := by
  constructor
  · intro h
    cases x with
    | error e => cases h
    | ok a => exact ⟨a, rfl, h⟩
  · intro h
    obtain ⟨a, rfl, h⟩ := h
    exact h

theorem bind_eq_error_iff {ε α β : Type} {x : Except ε α} {f : α → Except ε β} {e : ε} :
    x >>= f = .error e ↔ x = .error e ∨ ∃ a, x = .ok a ∧ f a = .error e := by
  cases x with
  | error earlier =>
      constructor
      · exact fun h => Or.inl (congrArg Except.error (Except.error.inj h))
      · rintro (h | ⟨a, h, -⟩)
        · exact congrArg Except.error (Except.error.inj h)
        · cases h
  | ok a =>
      constructor
      · exact fun h => Or.inr ⟨a, rfl, h⟩
      · rintro (h | ⟨a', h, ha'⟩)
        · cases h
        · cases h
          exact ha'

theorem map_eq_ok_iff {ε α β : Type} {x : Except ε α} {f : α → β} {b : β} :
    x.map f = .ok b ↔ ∃ a, x = .ok a ∧ f a = b := by
  cases x <;> simp [Except.map]

theorem map_eq_error_iff {ε α β : Type} {x : Except ε α} {f : α → β} {e : ε} :
    x.map f = .error e ↔ x = .error e := by
  cases x <;> simp [Except.map]

variable {rule : Rule} {rules : Rules} {o : Options} {input : Value} {childFailed : Bool}

/-! ### The chain and the loop -/

namespace Rules

/-- The chain runs the rules one after the other, however it was put together. -/
theorem chain_eq_foldlM (rules : Rules) (p : Progress) :
    chain childFailed o input rules p =
      rules.foldlM (fun p rule => rule.apply childFailed o input p) p := by
  have hlong : ∀ p, rules.reverse.foldl
      (fun next rule p => rule.apply childFailed o input p >>= next) Except.ok p =
      rules.foldlM (fun p rule => rule.apply childFailed o input p) p := by
    rw [List.foldl_reverse]
    induction rules with
    | nil => exact fun _ => rfl
    | cons rule rest ih =>
        intro p
        rw [List.foldr_cons, List.foldlM_cons]
        exact congrArg _ (funext ih)
  unfold chain
  split
  · rfl
  · exact (bind_pure _).symm
  · rw [List.foldlM_cons]
    exact congrArg _ (funext fun p => (bind_pure _).symm)
  · exact hlong p

theorem run_eq_foldlM (rules : Rules) (start : Progress) :
    rules.run o input start =
      rules.foldlM (fun p rule => rule.apply (!start.issues.isEmpty) o input p) start := by
  unfold run
  split
  · rename_i hempty
    rw [List.isEmpty_iff.1 hempty]
    rfl
  · exact chain_eq_foldlM rules start

end Rules

/-! ### What a rule does

Issues are only added, and only an alteration changes the value.
-/

namespace Rule

theorem absorb_nil (p : Progress) : rule.absorb p [] = p := by
  cases h : rule.message <;> simp [absorb, worded, h]

theorem absorb_issues_eq_nil {p : Progress} {found : List Issue}
    (h : (rule.absorb p found).issues = []) : p.issues = [] ∧ found = [] := by
  rw [absorb, List.append_eq_nil_iff] at h
  refine ⟨h.1, ?_⟩
  cases hm : rule.message with
  | none => simpa [worded, hm] using h.2
  | some message => simpa [worded, hm] using h.2

/-- The rule finds the issues in the value, be it as an answer or as an error. -/
def Finds (rule : Rule) (o : Options) (v : Value) (found : List Issue) : Prop :=
  match rule.action with
  | .check find =>
    find v rule.param o = .ok found ∨ find v rule.param o = .error (.issues found)
  | .alter replace => replace v rule.param o = .error (.issues found)

/-- The rule looks at the value and leaves it as it is. -/
def IsCheck (rule : Rule) : Prop :=
  ∃ find, rule.action = .check find

/-- The rule puts the value `w` in the place of `v`. -/
def Makes (rule : Rule) (o : Options) (v w : Value) : Prop :=
  ∃ replace, rule.action = .alter replace ∧ replace v rule.param o = .ok w

/-- A rule that runs adds what it finds in the value, or replaces the value and finds nothing. -/
theorem execute_eq_ok_iff {p q : Progress} :
    rule.execute o input p = .ok q ↔
      (∃ found, rule.Finds o (p.output.resolve input) found ∧ q = rule.absorb p found) ∨
        ∃ w, rule.Makes o (p.output.resolve input) w ∧ q = { p with output := .replaced w } := by
  unfold execute Finds Makes
  cases rule.action with
  | check find =>
      rcases hfind : find (p.output.resolve input) rule.param o with (found | text) | found
      · simp [hfind, settle, eq_comm]
      · simp [hfind, settle]
      · simp [hfind, eq_comm]
  | alter replace =>
      rcases hreplace : replace (p.output.resolve input) rule.param o with (found | text) | w
      · simp [hreplace, settle, eq_comm]
      · simp [hreplace, settle]
      · simp [hreplace, eq_comm]

theorem execute_cases {p q : Progress} (h : rule.execute o input p = .ok q) :
    (∃ found, rule.Finds o (p.output.resolve input) found ∧ q = rule.absorb p found) ∨
      ¬ rule.IsCheck ∧ ∃ w, q = { p with output := .replaced w } := by
  refine (execute_eq_ok_iff.1 h).imp_right ?_
  rintro ⟨w, ⟨replace, haction, -⟩, hq⟩
  refine ⟨?_, w, hq⟩
  rintro ⟨find, hcheck⟩
  rw [haction] at hcheck
  cases hcheck

/-- In its turn a rule does not run, and nothing happens, or it does. -/
theorem apply_cases {p q : Progress} (h : rule.apply childFailed o input p = .ok q) :
    rule.runs childFailed p.issues o = false ∧ q = p ∨
      rule.runs childFailed p.issues o = true ∧ rule.execute o input p = .ok q := by
  unfold apply at h
  cases hruns : rule.runs childFailed p.issues o with
  | false =>
      rw [hruns] at h
      cases h
      exact Or.inl ⟨rfl, rfl⟩
  | true =>
      rw [hruns] at h
      refine Or.inr ⟨rfl, ?_⟩
      cases hasync : rule.isAsync with
      | false =>
          rw [hasync] at h
          exact h
      | true =>
          rw [hasync] at h
          cases h

/-- What was found before a rule stays, and comes first. -/
theorem prefix_of_apply {p p' : Progress} (h : rule.apply childFailed o input p = .ok p') :
    p.issues <+: p'.issues := by
  rcases apply_cases h with ⟨-, rfl⟩ | ⟨-, hexecute⟩
  · exact List.prefix_rfl
  · rcases execute_cases hexecute with ⟨found, -, rfl⟩ | ⟨-, w, rfl⟩
    · exact List.prefix_append _ _
    · exact List.prefix_rfl

theorem output_of_apply {p p' : Progress} (hcheck : rule.IsCheck)
    (h : rule.apply childFailed o input p = .ok p') : p'.output = p.output := by
  rcases apply_cases h with ⟨-, rfl⟩ | ⟨-, hexecute⟩
  · rfl
  · rcases execute_cases hexecute with ⟨found, -, rfl⟩ | ⟨halter, -⟩
    · rfl
    · exact absurd hcheck halter

theorem apply_of_clean (output : Output) (hsync : rule.isAsync = false) :
    rule.apply false o input ⟨output, []⟩ = rule.execute o input ⟨output, []⟩ := by
  simp [apply, runs, hsync]

end Rule

theorem Rules.foldlM_keeps {P : Progress → Prop} {p p' : Progress}
    (hstep : ∀ rule ∈ rules, ∀ q q', P q → rule.apply childFailed o input q = .ok q' → P q')
    (hp : P p) (h : rules.foldlM (fun p rule => rule.apply childFailed o input p) p = .ok p') :
    P p' := by
  induction rules generalizing p with
  | nil =>
      cases h
      exact hp
  | cons rule rest ih =>
      rw [List.forall_mem_cons] at hstep
      obtain ⟨q, hq, hrest⟩ := bind_eq_ok_iff.1 h
      exact ih hstep.2 (hstep.1 p q hp hq) hrest

theorem Rules.run_keeps {P : Progress → Prop} {start p : Progress}
    (hstep : ∀ rule ∈ rules, ∀ childFailed q q', P q →
      rule.apply childFailed o input q = .ok q' → P q')
    (hstart : P start) (h : rules.run o input start = .ok p) : P p := by
  rw [run_eq_foldlM] at h
  exact foldlM_keeps (fun rule hrule => hstep rule hrule _) hstart h

theorem Rules.prefix_of_foldlM {p p' : Progress}
    (h : rules.foldlM (fun p rule => rule.apply childFailed o input p) p = .ok p') :
    p.issues <+: p'.issues := by
  have hstep : ∀ rule ∈ rules, ∀ q q', p.issues <+: q.issues →
      rule.apply childFailed o input q = .ok q' → p.issues <+: q'.issues := by
    intro rule _ q q' hq happly
    exact hq.trans (Rule.prefix_of_apply happly)
  exact foldlM_keeps hstep List.prefix_rfl h

theorem Rules.run_issues_eq_nil {start p : Progress} (h : rules.run o input start = .ok p)
    (hnil : p.issues = []) : start.issues = [] := by
  rw [run_eq_foldlM] at h
  exact List.prefix_nil.1 (hnil ▸ prefix_of_foldlM h)

/-! ### Checks -/

namespace Rule

/-- The rule is a check that finds nothing in the value, be it as an answer or as an error. -/
def Passes (rule : Rule) (o : Options) (v : Value) : Prop :=
  ∃ find, rule.action = .check find ∧
    (find v rule.param o = .ok [] ∨ find v rule.param o = .error (.issues []))

theorem execute_eq_clean_iff (hcheck : rule.IsCheck) {output output' : Output} :
    rule.execute o input ⟨output, []⟩ = .ok ⟨output', []⟩ ↔
      output' = output ∧ rule.Passes o (output.resolve input) := by
  obtain ⟨find, haction⟩ := hcheck
  have habsorb : ∀ found : List Issue, rule.absorb ⟨output, []⟩ found = ⟨output', []⟩ ↔
      output' = output ∧ found = [] := by
    intro found
    constructor
    · intro h
      have hissues : (rule.absorb ⟨output, []⟩ found).issues = [] := by rw [h]
      have hnil : found = [] := (absorb_issues_eq_nil hissues).2
      rw [hnil, absorb_nil] at h
      exact ⟨(congrArg Progress.output h).symm, hnil⟩
    · intro h
      obtain ⟨rfl, rfl⟩ := h
      exact absorb_nil _
  simp only [execute, haction, Passes, Action.check.injEq, exists_eq_left']
  rcases hfind : find (output.resolve input) rule.param o with e | found
  · cases e <;> simp [settle, habsorb]
  · simp [habsorb]

end Rule

/-- Checks that end a run without issues all pass on the value, and do not change it. -/
theorem Rules.foldlM_eq_clean_iff (hchecks : ∀ rule ∈ rules, rule.IsCheck)
    (hsync : rules.isAsync = false) {output output' : Output} :
    rules.foldlM (fun p rule => rule.apply false o input p) ⟨output, []⟩ = .ok ⟨output', []⟩ ↔
      output' = output ∧ ∀ rule ∈ rules, rule.Passes o (output.resolve input) := by
  induction rules generalizing output with
  | nil => simp [List.foldlM, pure, Except.pure, eq_comm]
  | cons rule rest ih =>
      rw [List.forall_mem_cons] at hchecks
      rw [isAsync, List.any_cons, Bool.or_eq_false_iff] at hsync
      rw [List.foldlM_cons, bind_eq_ok_iff, Rule.apply_of_clean output hsync.1,
        List.forall_mem_cons]
      constructor
      · intro h
        obtain ⟨⟨mid, issues⟩, hmid, hrest⟩ := h
        obtain rfl : issues = [] := List.prefix_nil.1 (prefix_of_foldlM hrest)
        obtain ⟨rfl, hpass⟩ := (Rule.execute_eq_clean_iff hchecks.1).1 hmid
        obtain ⟨hout, hall⟩ := (ih hchecks.2 hsync.2).1 hrest
        exact ⟨hout, hpass, hall⟩
      · intro h
        obtain ⟨hout, hpass, hall⟩ := h
        exact ⟨⟨output, []⟩, (Rule.execute_eq_clean_iff hchecks.1).2 ⟨rfl, hpass⟩,
          (ih hchecks.2 hsync.2).2 ⟨hout, hall⟩⟩

theorem Rules.run_eq_clean_iff (hchecks : ∀ rule ∈ rules, rule.IsCheck)
    (hsync : rules.isAsync = false) {output output' : Output} :
    rules.run o input ⟨output, []⟩ = .ok ⟨output', []⟩ ↔
      output' = output ∧ ∀ rule ∈ rules, rule.Passes o (output.resolve input) := by
  rw [run_eq_foldlM]
  exact foldlM_eq_clean_iff hchecks hsync

end Conform
