/-
Rules: the checks and alterations that a schema runs on what it has accepted.

A rule looks at the value as the rules before it left it.  Whether it runs at all
depends on the issues found so far: below a failed child only forced rules run, and
otherwise a rule runs until there is an issue, and after that only if it is unguarded
or everything is to be reported.
-/
import Conform.Fault
import Conform.Outcome

namespace Conform

/-- What a rule does with a value, its parameter and the options of the call. -/
inductive Action where
  /-- Finds issues and leaves the value as it is. -/
  | check (find : Value → Option Value → Options → Except RuleError (List Issue))
  /-- Puts another value in place of the value. -/
  | alter (replace : Value → Option Value → Options → Except RuleError Value)

/-- A check or an alteration, and when it runs. -/
structure Rule where
  action : Action
  /-- The name by which a later rule takes the place of this one. -/
  key : Option String := none
  param : Option Value := none
  /-- Runs even when earlier rules found issues. -/
  unguarded : Bool := false
  /-- Runs even when a child failed. -/
  forced : Bool := false
  /-- Takes the place of the message of every issue the rule raises. -/
  message : Option String := none
  /-- Its answer has to be waited for. -/
  isAsync : Bool := false

/-- Where a run of rules stands. -/
structure Progress where
  output : Output
  issues : List Issue

namespace Rule

/-- The rule runs after the issues `found`, `childFailed` saying that there were issues
before the first rule. -/
def runs (rule : Rule) (childFailed : Bool) (found : List Issue) (o : Options) : Bool :=
  if childFailed then rule.forced
  else found.isEmpty || rule.unguarded || o.verbose

/-- The issues with the message of the rule, if it has one. -/
def worded (rule : Rule) (found : List Issue) : List Issue :=
  match rule.message with
  | some message => found.map (·.withMessage message)
  | none => found

/-- The progress with more issues. -/
def absorb (rule : Rule) (p : Progress) (found : List Issue) : Progress :=
  { p with issues := p.issues ++ rule.worded found }

/-- The progress after the rule ended without a result. -/
def settle (rule : Rule) (p : Progress) : RuleError → Except Fault Progress
  | .issues found => .ok (rule.absorb p found)
  | .defect text => .error (.defect text)

/-- Runs the rule, whatever the issues so far.  Only an alteration that succeeds changes
the value. -/
def execute (rule : Rule) (o : Options) (input : Value) (p : Progress) :
    Except Fault Progress :=
  let value := p.output.resolve input
  match rule.action with
  | .check find =>
    match find value rule.param o with
    | .ok found => .ok (rule.absorb p found)
    | .error e => rule.settle p e
  | .alter replace =>
    match replace value rule.param o with
    | .ok altered => .ok { p with output := .replaced altered }
    | .error e => rule.settle p e

/-- The rule in a synchronous run, which cannot wait for an asynchronous rule. -/
def apply (rule : Rule) (childFailed : Bool) (o : Options) (input : Value) (p : Progress) :
    Except Fault Progress :=
  if !rule.runs childFailed p.issues o then .ok p
  else if rule.isAsync then .error .asyncSchema
  else rule.execute o input p

/-- The rule in an asynchronous run. -/
def applyAsync (rule : Rule) (childFailed : Bool) (o : Options) (input : Value)
    (p : Progress) : Except Fault Progress :=
  if !rule.runs childFailed p.issues o then .ok p else rule.execute o input p

end Rule

/-- The rules of a schema, in the order they run. -/
abbrev Rules := List Rule

namespace Rules

/-- Some rule has to be waited for. -/
def isAsync (rules : Rules) : Bool :=
  rules.any (·.isAsync)

/-- Adds a rule: in the place of the first rule with its key, and last if there is none
or it has no key. -/
def push (rules : Rules) (rule : Rule) : Rules :=
  let replaces (other : Rule) : Bool := rule.key.isSome && other.key == rule.key
  match rules with
  | [] => [rule]
  | other :: rest => if replaces other then rule :: rest else other :: push rest rule

/-- The rules with the last one changed. -/
def modifyLast (rules : Rules) (f : Rule → Rule) : Rules :=
  match rules with
  | [] => []
  | [rule] => [f rule]
  | rule :: rest => rule :: modifyLast rest f

/-- The rules as one function of the progress so far.  One rule stands alone and two follow
each other; more are joined from the last one back, each handing its progress on to what was
joined before it. -/
def chain (childFailed : Bool) (o : Options) (input : Value) :
    Rules → Progress → Except Fault Progress
  | [] => .ok
  | [rule] => rule.apply childFailed o input
  | [first, second] => fun p =>
    first.apply childFailed o input p >>= second.apply childFailed o input
  | rules =>
    rules.reverse.foldl (fun next rule p => rule.apply childFailed o input p >>= next) .ok

/-- Runs the rules on a value that is accepted with the issues of its children. -/
def run (rules : Rules) (o : Options) (input : Value) (start : Progress) :
    Except Fault Progress :=
  if rules.isEmpty then .ok start else chain (!start.issues.isEmpty) o input rules start

/-- Runs the rules and waits for those that are asynchronous. -/
def runAsync (rules : Rules) (o : Options) (input : Value) (start : Progress) :
    Except Fault Progress :=
  rules.foldlM (fun p rule => rule.applyAsync (!start.issues.isEmpty) o input p) start

end Rules

/-- The end of a validation whose rules have run. -/
def Progress.outcome (p : Progress) : Outcome :=
  match Issues.ofList? p.issues with
  | some issues => .rejected issues
  | none => .accepted p.output

end Conform
