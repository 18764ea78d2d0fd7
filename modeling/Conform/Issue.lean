/-
Issues: what is wrong with a value.

An issue names the place, the rule that was broken and the value that broke it.  A
failed validation carries at least one, so its list of issues has a type of its own.
-/
import Conform.InputType
import Conform.Path

namespace Conform

/-- What an issue says beyond its message.  The parameter `Issue` is the type of issues,
which a union refers back to. -/
inductive IssueParam (Issue : Type) where
  /-- The limit that was passed, or the value that was expected. -/
  | value (v : Value)
  /-- The kind that was expected. -/
  | kind (k : Kind)
  /-- The inputs a union takes, and the issues of each member that was tried.  There are
  no groups where no member takes values of the kind at all. -/
  | union (inputs : List InputType) (groups : Option (List (List Issue)))

/-- One thing that is wrong with a value. -/
structure Issue where
  /-- The rule that was broken. -/
  code : String
  path : Path
  /-- The value that broke the rule, as the rule saw it. -/
  input : Value
  message : String
  param : Option (IssueParam Issue)
  /-- Whatever a rule of the user's own attaches. -/
  metadata : Option Value

namespace Issue

/-- An issue at the root, with a parameter if one is given. -/
def raise (code : String) (input : Value) (message : String)
    (param : Option (IssueParam Issue) := none) : Issue :=
  { code, input, message, param, path := [], metadata := none }

/-- The issue with its path continued from inside the segment. -/
def within (issue : Issue) (s : Segment) : Issue :=
  { issue with path := issue.path.within s }

/-- The issue with another message. -/
def withMessage (issue : Issue) (message : String) : Issue :=
  { issue with message }

/-- The place, the message and the code. -/
def text (issue : Issue) : String :=
  let place := if issue.path.isEmpty then "(root)" else issue.path.text
  place ++ ": " ++ issue.message ++ " [" ++ issue.code ++ "]"

end Issue

/-! ### The codes of the rules that schemas come with -/

namespace Code

def invalidType := "invalid_type"
def invalidLiteral := "invalid_literal"
def invalidUnion := "invalid_union"
def invalidIntersection := "invalid_intersection"
def never := "never"
def refine := "refine"
def unknownKey := "unknown_key"
def tupleLength := "tuple_length"
def minValue := "min_value"
def maxValue := "max_value"
def greaterThan := "greater_than"
def lessThan := "less_than"
def multipleOf := "multiple_of"
def integer := "integer"
def positive := "positive"
def nonNegative := "non_negative"
def negative := "negative"
def minLength := "min_length"
def maxLength := "max_length"
def unique := "unique"
def pattern := "pattern"

end Code

/-! ### Issues together -/

/-- At least one issue, in the order they were found. -/
structure Issues where
  first : Issue
  others : List Issue

namespace Issues

/-- One issue alone. -/
def single (issue : Issue) : Issues :=
  ⟨issue, []⟩

/-- The issues as a list, which is never empty. -/
def toList (issues : Issues) : List Issue :=
  issues.first :: issues.others

/-- The issues of a list, if it has any. -/
def ofList? : List Issue → Option Issues
  | [] => none
  | first :: others => some ⟨first, others⟩

/-- How many issues there are. -/
def size (issues : Issues) : Nat :=
  issues.others.length + 1

/-- The issues of both, in order. -/
def append (a b : Issues) : Issues :=
  ⟨a.first, a.others ++ b.toList⟩

instance : Append Issues := ⟨append⟩

/-- Changes every issue. -/
def map (f : Issue → Issue) (issues : Issues) : Issues :=
  ⟨f issues.first, issues.others.map f⟩

/-- The issues with their paths continued from inside the segment. -/
def within (issues : Issues) (s : Segment) : Issues :=
  issues.map (·.within s)

/-- The issues that lie at a place. -/
def atPath (issues : Issues) (p : Path) : List Issue :=
  issues.toList.filter fun issue => issue.path == p

/-- The issues that broke a rule. -/
def withCode (issues : Issues) (code : String) : List Issue :=
  issues.toList.filter fun issue => issue.code == code

/-- A line with the number of issues, and a numbered line for each. -/
def text (issues : Issues) : String :=
  let line (entry : Issue × Nat) : String :=
    "  " ++ (entry.2 + 1).repr ++ ". " ++ entry.1.text ++ "\n"
  "Validation failed with " ++ issues.size.repr ++ " issue(s):\n" ++
    String.join (issues.toList.zipIdx.map line)

@[simp] theorem length_toList (issues : Issues) : issues.toList.length = issues.size := rfl

end Issues

end Conform
