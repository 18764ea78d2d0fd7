/-
What can go wrong besides the value.

A `Fault` is the validator's own: a schema used where it cannot be, or a rule that
broke down.  A `RuleError` is what a rule may answer with, and a `Failure` is what a
caller who wants only the value gets in its place.
-/
import Conform.Issue

namespace Conform

/-- A breakdown of the validator. -/
inductive Fault where
  /-- A schema with asynchronous parts was applied synchronously. -/
  | asyncSchema
  /-- A rule failed for a reason that has nothing to do with the value. -/
  | defect (text : String)
  deriving DecidableEq

/-- What is said of a fault. -/
def Fault.text : Fault → String
  | .asyncSchema => "shape is async, use an async entry point"
  | .defect text => text

/-- What a rule may answer with where it has no result. -/
inductive RuleError where
  /-- Issues, as if a check had found them. -/
  | issues (found : List Issue)
  | defect (text : String)

/-- What is said of a rule that gave no result. -/
def RuleError.text : RuleError → String
  | .issues found => "operation raised " ++ found.length.repr ++ " issue(s)"
  | .defect text => text

/-- Why a value could not be parsed. -/
inductive Failure where
  | invalid (issues : Issues)
  | fault (f : Fault)

namespace Failure

/-- What is said of a value that could not be parsed. -/
def text : Failure → String
  | invalid issues => issues.text
  | fault f => f.text

/-- The issues, if the value is at fault. -/
def issues? : Failure → Option Issues
  | invalid issues => some issues
  | fault _ => none

end Failure

namespace RuleError

/-- A fault is a defect of the rule that ran into it, whatever its cause. -/
def ofFault (f : Fault) : RuleError :=
  defect f.text

/-- The issues of a list of at least one. -/
def ofIssues (found : Issues) : RuleError :=
  issues found.toList

/-- What a rule answers with that parses by another schema and fails. -/
def ofFailure : Failure → RuleError
  | .invalid found => ofIssues found
  | .fault f => ofFault f

end RuleError

end Conform
