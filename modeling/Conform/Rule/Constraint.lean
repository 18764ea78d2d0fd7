/-
Rules that hold a value against a fixed condition.
-/
import Conform.Rule

namespace Conform.Rule

/-- A check that raises one issue wherever the condition is violated, with the parameter
of the rule in it. -/
def constraint (key : Option String) (code message : String) (param : Option Value)
    (violated : Value → Bool) : Rule where
  action := .check fun v _ _ =>
    .ok (if violated v then [.raise code v message (param.map .value)] else [])
  key := key
  param := param

/-- A check by a test of the user's own. -/
def refine (test : Value → Bool) (message : String) : Rule :=
  constraint none Code.refine message none fun v => !test v

end Conform.Rule
