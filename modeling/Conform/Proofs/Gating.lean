/-
Which rules of a run are executed.

A rule is let in or passed over by what was found before it, so a run decides as it goes along.
What it comes to can still be told without following these decisions: there is a part of the list
that, executed from one end to the other without asking, comes to the same.  Where parts failed
before the first rule it is the forced rules, and where everything is to be reported it is the
whole list.  Otherwise it is the list up to the first rule that finds something, which nothing can
keep from running, and of the rules after it those that are unguarded.
-/
import Conform.Proofs.Isolation

namespace Conform

namespace Rules

variable {rule : Rule} {rules rest taken : Rules} {o : Options} {input : Value}
  {start p q : Progress} {found : List Issue} {fault : Fault}

/-! ### Executing rules -/

/-- The rules, one after the other and whatever is found, take the progress to another.  A rule
adds what it finds, in its own words, and leaves the value, or it finds nothing and puts another
value in its place. -/
inductive Executes (o : Options) (input : Value) : Rules → Progress → Progress → Prop
  | done {p : Progress} : Executes o input [] p p
  | finds {rule : Rule} {rest : Rules} {p q : Progress} {found : List Issue}
      (hfinds : rule.Finds o (p.output.resolve input) found)
      (hrest : Executes o input rest ⟨p.output, p.issues ++ rule.worded found⟩ q) :
      Executes o input (rule :: rest) p q
  | makes {rule : Rule} {rest : Rules} {p q : Progress} {w : Value}
      (hmakes : rule.Makes o (p.output.resolve input) w)
      (hrest : Executes o input rest ⟨.replaced w, p.issues⟩ q) :
      Executes o input (rule :: rest) p q

/-- The rules before one of them are executed, and that one runs into the defect. -/
def BreakOn (rules : Rules) (o : Options) (input : Value) (start : Progress) (text : String) :
    Prop :=
  ∃ before rule after p, rules = before ++ rule :: after ∧ Executes o input before start p ∧
    rule.RunsInto o (p.output.resolve input) text

theorem executes_cons_iff :
    Executes o input (rule :: rest) p q ↔
      ∃ r, rule.execute o input p = .ok r ∧ Executes o input rest r q := by
  simp only [Rule.execute_eq_ok_iff]
  constructor
  · intro h
    cases h with
    | finds hfinds hrest => exact ⟨_, Or.inl ⟨_, hfinds, rfl⟩, hrest⟩
    | makes hmakes hrest => exact ⟨_, Or.inr ⟨_, hmakes, rfl⟩, hrest⟩
  · rintro ⟨r, ⟨found, hfinds, rfl⟩ | ⟨w, hmakes, rfl⟩, hrest⟩
    · exact .finds hfinds hrest
    · exact .makes hmakes hrest

theorem executeAll_cons :
    executeAll (rule :: rest) o input p =
      rule.execute o input p >>= executeAll rest o input :=
  List.foldlM_cons

theorem executeAll_eq_ok_iff : rules.executeAll o input p = .ok q ↔ Executes o input rules p q := by
  induction rules generalizing p with
  | nil =>
      constructor
      · intro h
        cases h
        exact .done
      · intro h
        cases h
        rfl
  | cons rule rest ih =>
      rw [executeAll_cons, bind_eq_ok_iff, executes_cons_iff]
      exact exists_congr fun r => and_congr_right fun _ => ih

theorem breakOn_cons_iff {text : String} :
    BreakOn (rule :: rest) o input p text ↔
      rule.RunsInto o (p.output.resolve input) text ∨
        ∃ r, rule.execute o input p = .ok r ∧ BreakOn rest o input r text := by
  constructor
  · rintro ⟨before, last, after, r, hsplit, hbefore, hdefect⟩
    cases before with
    | nil =>
        obtain ⟨rfl, rfl⟩ := List.cons.inj hsplit
        cases hbefore
        exact Or.inl hdefect
    | cons first before =>
        obtain ⟨rfl, rfl⟩ := List.cons.inj hsplit
        obtain ⟨s, hfirst, hbefore⟩ := executes_cons_iff.1 hbefore
        exact Or.inr ⟨s, hfirst, before, last, after, r, rfl, hbefore, hdefect⟩
  · rintro (hdefect | ⟨s, hfirst, before, last, after, r, rfl, hbefore, hdefect⟩)
    · exact ⟨[], rule, rest, p, rfl, .done, hdefect⟩
    · exact ⟨rule :: before, last, after, r, rfl, executes_cons_iff.2 ⟨s, hfirst, hbefore⟩,
        hdefect⟩

theorem executeAll_eq_error_iff :
    rules.executeAll o input p = .error fault ↔ fault.IsDefect (rules.BreakOn o input p) := by
  induction rules generalizing p with
  | nil =>
      constructor
      · intro h
        cases h
      · rintro ⟨text, -, before, rule, after, r, hsplit, -⟩
        exact absurd hsplit (by simp)
  | cons rule rest ih =>
      rw [executeAll_cons, bind_eq_error_iff, Rule.execute_eq_error_iff]
      unfold Fault.IsDefect at ih ⊢
      simp only [ih, breakOn_cons_iff]
      constructor
      · rintro (⟨text, htext, hdefect⟩ | ⟨r, hr, text, htext, hbreak⟩)
        · exact ⟨text, htext, Or.inl hdefect⟩
        · exact ⟨text, htext, Or.inr ⟨r, hr, hbreak⟩⟩
      · rintro ⟨text, htext, hdefect | ⟨r, hr, hbreak⟩⟩
        · exact Or.inl ⟨text, htext, hdefect⟩
        · exact Or.inr ⟨r, hr, text, htext, hbreak⟩

/-! ### The rules that are executed -/

/-- Nothing is found before it is the turn of the rule, which looks at the progress `p`. -/
structure Turn (rules : Rules) (o : Options) (input : Value) (start : Progress)
    (before : Rules) (rule : Rule) (after : Rules) (p : Progress) : Prop where
  split : rules = before ++ rule :: after
  executes : Executes o input before start p
  clean : p.issues = []

/-- `taken` is the part of the rules that a run from `start` executes. -/
inductive Taken (rules : Rules) (o : Options) (input : Value) (start : Progress) : Rules → Prop
  /-- Parts failed: the forced rules. -/
  | forced (hfailed : start.issues ≠ []) : Taken rules o input start (rules.filter (·.forced))
  /-- Everything is to be reported: every rule. -/
  | verbose (hclean : start.issues = []) (hverbose : o.verbose = true) :
      Taken rules o input start rules
  /-- No rule finds anything: every rule. -/
  | clean {p : Progress} (hclean : start.issues = []) (hearly : o.verbose = false)
      (hexecutes : Executes o input rules start p) (hnone : p.issues = []) :
      Taken rules o input start rules
  /-- A rule is the first to find something: those up to it, and the unguarded ones after it. -/
  | upToFinding {before after : Rules} {rule : Rule} {p : Progress} {found : List Issue}
      (hclean : start.issues = []) (hearly : o.verbose = false)
      (hturn : Turn rules o input start before rule after p)
      (hfinds : rule.Finds o (p.output.resolve input) found) (hfound : found ≠ []) :
      Taken rules o input start (before ++ rule :: after.filter (·.unguarded))
  /-- A rule runs into a defect before anything is found: those up to it. -/
  | upToDefect {before after : Rules} {rule : Rule} {p : Progress} {text : String}
      (hclean : start.issues = []) (hearly : o.verbose = false)
      (hturn : Turn rules o input start before rule after p)
      (hdefect : rule.RunsInto o (p.output.resolve input) text) :
      Taken rules o input start (before ++ [rule])

/-- Rules that find nothing are all executed, or else there is a first that finds something or runs
into a defect. -/
theorem executes_or_turn (hclean : start.issues = []) :
    (∃ p, Executes o input rules start p ∧ p.issues = []) ∨
      ∃ before rule after p, Turn rules o input start before rule after p ∧
        ((∃ found, rule.Finds o (p.output.resolve input) found ∧ found ≠ []) ∨
          ∃ text, rule.RunsInto o (p.output.resolve input) text) := by
  -- The first rule settles it, unless it leaves nothing found for the rest to start from.
  induction rules generalizing start with
  | nil => exact Or.inl ⟨start, .done, hclean⟩
  | cons rule rest ih =>
      cases hexecute : rule.execute o input start with
      | error fault =>
          obtain ⟨text, -, hdefect⟩ := Rule.execute_eq_error_iff.1 hexecute
          exact Or.inr ⟨[], rule, rest, start, ⟨rfl, .done, hclean⟩, Or.inr ⟨text, hdefect⟩⟩
      | ok r =>
          by_cases hnone : r.issues = []
          · rcases ih hnone with ⟨p, hexecutes, hp⟩ | ⟨before, last, after, p, hturn, hends⟩
            · exact Or.inl ⟨p, executes_cons_iff.2 ⟨r, hexecute, hexecutes⟩, hp⟩
            · obtain ⟨rfl, hbefore, hp⟩ := hturn
              have hlonger := executes_cons_iff.2 ⟨r, hexecute, hbefore⟩
              exact Or.inr ⟨rule :: before, last, after, p, ⟨rfl, hlonger, hp⟩, hends⟩
          · rcases Rule.execute_eq_ok_iff.1 hexecute with ⟨found, hfinds, rfl⟩ | ⟨w, -, rfl⟩
            · refine Or.inr ⟨[], rule, rest, start, ⟨rfl, .done, hclean⟩,
                Or.inl ⟨found, hfinds, ?_⟩⟩
              rintro rfl
              rw [Rule.absorb_nil] at hnone
              exact hnone hclean
            · exact absurd hclean hnone

theorem exists_taken (rules : Rules) (o : Options) (input : Value) (start : Progress) :
    ∃ taken, Taken rules o input start taken := by
  by_cases hclean : start.issues = []
  · cases hverbose : o.verbose with
    | true => exact ⟨_, .verbose hclean hverbose⟩
    | false =>
        rcases executes_or_turn hclean with ⟨p, hexecutes, hnone⟩ |
          ⟨before, rule, after, p, hturn, ⟨found, hfinds, hfound⟩ | ⟨text, hdefect⟩⟩
        · exact ⟨_, .clean hclean hverbose hexecutes hnone⟩
        · exact ⟨_, .upToFinding hclean hverbose hturn hfinds hfound⟩
        · exact ⟨_, .upToDefect hclean hverbose hturn hdefect⟩
  · exact ⟨_, .forced hclean⟩

/-! ### The loop -/

theorem Executes.prefix (h : Executes o input rules p q) : p.issues <+: q.issues := by
  induction h with
  | done => exact List.prefix_rfl
  | finds _ _ ih => exact (List.prefix_append _ _).trans ih
  | makes _ _ ih => exact ih

theorem foldlM_applyAsync_of_clean (h : Executes o input rules p q) (hnone : q.issues = []) :
    rules.foldlM (fun p rule => rule.applyAsync false o input p) p = .ok q := by
  induction rules generalizing p with
  | nil =>
      cases h
      rfl
  | cons rule rest ih =>
      have hclean : p.issues = [] := List.prefix_nil.1 (hnone ▸ h.prefix)
      obtain ⟨r, hr, hrest⟩ := executes_cons_iff.1 h
      have happly : rule.applyAsync false o input p = .ok r := by
        simp [Rule.applyAsync, Rule.runs, hclean, hr]
      rw [List.foldlM_cons, happly]
      exact ih hrest

/-- Once something is found, the unguarded rules are let in. -/
theorem foldlM_applyAsync_of_found (hearly : o.verbose = false) (hfound : p.issues ≠ []) :
    rules.foldlM (fun p rule => rule.applyAsync false o input p) p =
      executeAll (rules.filter (·.unguarded)) o input p := by
  refine foldlM_applyAsync_eq (P := fun p => p.issues ≠ []) ?_ ?_ hfound
  · intro rule p hp
    simp [Rule.runs, hp, hearly]
  · intro rule p q hp hexecute hq
    rcases Rule.execute_eq_ok_iff.1 hexecute with ⟨found, -, rfl⟩ | ⟨w, -, rfl⟩
    · exact hp (Rule.absorb_issues_eq_nil hq).1
    · exact hp hq

theorem foldlM_applyAsync_of_verbose (hverbose : o.verbose = true) :
    rules.foldlM (fun p rule => rule.applyAsync false o input p) p =
      executeAll rules o input p := by
  have hevery : rules.foldlM (fun p rule => rule.applyAsync false o input p) p =
      executeAll (rules.filter fun _ => true) o input p :=
    foldlM_applyAsync_eq (P := fun _ => True) (fun rule p _ => by simp [Rule.runs, hverbose])
      (fun _ _ _ _ _ => trivial) trivial
  rwa [List.filter_true] at hevery

theorem runAsync_of_clean (hclean : start.issues = []) :
    rules.runAsync o input start =
      rules.foldlM (fun p rule => rule.applyAsync false o input p) start := by
  unfold runAsync
  rw [hclean]
  rfl

/-- The loop comes to the rule whose turn it is, and executes it. -/
theorem Turn.foldlM_applyAsync {before after : Rules}
    (h : Turn rules o input start before rule after p) :
    rules.foldlM (fun p rule => rule.applyAsync false o input p) start =
      (rule.execute o input p >>=
        after.foldlM fun p rule => rule.applyAsync false o input p) := by
  have hruns : rule.applyAsync false o input p = rule.execute o input p := by
    simp [Rule.applyAsync, Rule.runs, h.clean]
  rw [h.split, List.foldlM_append, foldlM_applyAsync_of_clean h.executes h.clean, ← hruns]
  rfl

theorem Turn.executeAll_append {before after : Rules}
    (h : Turn rules o input start before rule after p) (rest : Rules) :
    executeAll (before ++ rule :: rest) o input start =
      rule.execute o input p >>= executeAll rest o input := by
  have hbefore : before.foldlM (fun p rule => rule.execute o input p) start = .ok p :=
    executeAll_eq_ok_iff.2 h.executes
  rw [executeAll, List.foldlM_append, hbefore]
  rfl

theorem Taken.runAsync_eq (h : Taken rules o input start taken) :
    rules.runAsync o input start = taken.executeAll o input start := by
  cases h with
  | forced hfailed => exact runAsync_of_failed hfailed
  | verbose hclean hverbose =>
      rw [runAsync_of_clean hclean, foldlM_applyAsync_of_verbose hverbose]
  | clean hclean hearly hexecutes hnone =>
      rw [runAsync_of_clean hclean, foldlM_applyAsync_of_clean hexecutes hnone,
        executeAll_eq_ok_iff.2 hexecutes]
  | @upToFinding before after rule p found hclean hearly hturn hfinds hfound =>
      have hexecute : rule.execute o input p = .ok (rule.absorb p found) :=
        Rule.execute_eq_ok_iff.2 (Or.inl ⟨found, hfinds, rfl⟩)
      have hafter : (rule.absorb p found).issues ≠ [] :=
        fun hnil => hfound (Rule.absorb_issues_eq_nil hnil).2
      rw [runAsync_of_clean hclean, hturn.foldlM_applyAsync, hturn.executeAll_append,
        hexecute]
      exact foldlM_applyAsync_of_found hearly hafter
  | @upToDefect before after rule p text hclean hearly hturn hdefect =>
      have hexecute : rule.execute o input p = .error (.defect text) :=
        Rule.execute_eq_error_iff.2 ⟨text, rfl, hdefect⟩
      rw [runAsync_of_clean hclean, hturn.foldlM_applyAsync, hturn.executeAll_append,
        hexecute]
      rfl

/-- **A run of rules is a run without gates of some of them.**  Let no rule have to be waited for.
Which rules a run executes is settled: the forced ones where parts failed, every rule where
everything is to be reported, and otherwise the rules up to the first that finds something and the
unguarded ones after it.  The run, as a chain or in a loop, ends exactly as these rules do, executed
one after the other, and it breaks down exactly with a defect that one of them runs into there. -/
theorem run_eq_taken (hsync : rules.isAsync = false) :
    (∃ taken, Taken rules o input start taken) ∧
      ∀ taken, Taken rules o input start taken →
        (∀ q, rules.run o input start = .ok q ↔ Executes o input taken start q) ∧
        (∀ fault, rules.run o input start = .error fault ↔
          fault.IsDefect (taken.BreakOn o input start)) ∧
        rules.runAsync o input start = rules.run o input start := by
  refine ⟨exists_taken rules o input start, fun taken htaken => ?_⟩
  have hchain : rules.run o input start = taken.executeAll o input start := by
    rw [← runAsync_of_sync hsync, htaken.runAsync_eq]
  refine ⟨fun q => ?_, fun fault => ?_, runAsync_of_sync hsync⟩
  · rw [hchain, executeAll_eq_ok_iff]
  · rw [hchain, executeAll_eq_error_iff]

/-- The second rule finds something, in words of its own.  The third would alter the value and is
passed over, and the fourth is unguarded and sees what the first made. -/
theorem run_eq_taken_unguarded :
    let makes (v : Value) : Rule := { action := .alter fun _ _ _ => .ok v }
    let odd : Rule := Rule.refine (fun _ => false) "odd"
    let rules : Rules :=
      [makes (.bool true), { odd with message := some "even" }, makes .null,
        { odd with unguarded := true }]
    ∃ q, rules.run {} .undefined ⟨.kept, []⟩ = .ok q ∧
      rules.runAsync {} .undefined ⟨.kept, []⟩ = .ok q ∧
      q.output = .replaced (.bool true) ∧ q.issues.map Issue.message = ["even", "odd"] ∧
      q.issues.map Issue.input = [.bool true, .bool true] := by
  intro makes odd rules
  have hturn : Turn rules {} .undefined ⟨.kept, []⟩ [makes (.bool true)]
      { odd with message := some "even" } [makes .null, { odd with unguarded := true }]
      ⟨.replaced (.bool true), []⟩ :=
    ⟨rfl, .makes ⟨_, rfl, rfl⟩ .done, rfl⟩
  have htaken := Taken.upToFinding rfl rfl hturn (Or.inl rfl) (List.cons_ne_nil _ _)
  have hsync : rules.isAsync = false := rfl
  obtain ⟨hended, -, hsame⟩ := (run_eq_taken hsync).2 _ htaken
  have hexecutes : Executes {} .undefined
      [makes (.bool true), { odd with message := some "even" }, { odd with unguarded := true }]
      ⟨.kept, []⟩ _ :=
    .makes ⟨_, rfl, rfl⟩ (.finds (Or.inl rfl) (.finds (Or.inl rfl) .done))
  have hrun := (hended _).2 hexecutes
  exact ⟨_, hrun, hsame.trans hrun, rfl, rfl, rfl⟩

end Rules

end Conform
