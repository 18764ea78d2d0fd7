/-
Bounds on numbers, integers and dates.

Each bound has its key, so that giving it again moves it.  Values of other kinds are in
no bounds and pass.
-/
import Conform.Instant.Text
import Conform.Rule.Constraint

namespace Conform.Rule

/-! ### Numbers -/

/-- A rule on numbers with a number as its parameter. -/
def numberBound (key code message : String) (limit : Number) (passes : Number → Bool) : Rule :=
  constraint (some key) code message (some (.number limit)) fun
    | .number n => !passes n
    | _ => false

/-- The number is the limit or more. -/
def numberMin (limit : Number) : Rule :=
  numberBound "min" Code.minValue ("must be at least " ++ limit.text) limit limit.atMost

/-- The number is the limit or less. -/
def numberMax (limit : Number) : Rule :=
  numberBound "max" Code.maxValue ("must be at most " ++ limit.text) limit (·.atMost limit)

/-- The number is more than the limit. -/
def greaterThan (limit : Number) : Rule :=
  numberBound "gt" Code.greaterThan ("must be greater than " ++ limit.text) limit limit.below

/-- The number is less than the limit. -/
def lessThan (limit : Number) : Rule :=
  numberBound "lt" Code.lessThan ("must be less than " ++ limit.text) limit (·.below limit)

/-- The number is more than zero. -/
def positive : Rule :=
  numberBound "positive" Code.positive "must be positive" .zero Number.zero.below

/-- The number is zero or more. -/
def nonNegative : Rule :=
  numberBound "non_negative" Code.nonNegative "must be non-negative" .zero Number.zero.atMost

/-- The number is less than zero. -/
def negative : Rule :=
  numberBound "negative" Code.negative "must be negative" .zero (·.below .zero)

/-- The number has no fraction.  Infinity and NaN have no integer part to be equal to. -/
def integer : Rule :=
  constraint (some "integer") Code.integer "must be an integer" none fun
    | .number n => !n.isIntegral
    | _ => false

/-- The number is a multiple of the divisor. -/
def multipleOf (divisor : Number) : Rule :=
  numberBound "multiple_of" Code.multipleOf ("must be a multiple of " ++ divisor.text) divisor
    (·.isMultipleOf divisor)

/-! ### Integers of any size -/

/-- A rule on integers with an integer as its parameter. -/
def bigintBound (key code message : String) (limit : Int) (passes : Int → Bool) : Rule :=
  constraint (some key) code message (some (.bigint limit)) fun
    | .bigint i => !passes i
    | _ => false

/-- The integer is the limit or more. -/
def bigintMin (limit : Int) : Rule :=
  bigintBound "min" Code.minValue ("must be at least " ++ limit.repr) limit (limit ≤ ·)

/-- The integer is the limit or less. -/
def bigintMax (limit : Int) : Rule :=
  bigintBound "max" Code.maxValue ("must be at most " ++ limit.repr) limit (· ≤ limit)

/-! ### Dates -/

/-- A rule on dates with a date as its parameter. -/
def dateBound (key code message : String) (limit : Instant) (passes : Instant → Bool) : Rule :=
  constraint (some key) code message (some (.date limit)) fun
    | .date t => !passes t
    | _ => false

/-- The date is the limit or later. -/
def dateMin (limit : Instant) : Rule :=
  dateBound "min" Code.minValue ("must not be before " ++ limit.text) limit limit.atMost

/-- The date is the limit or earlier. -/
def dateMax (limit : Instant) : Rule :=
  dateBound "max" Code.maxValue ("must not be after " ++ limit.text) limit (·.atMost limit)

end Conform.Rule
