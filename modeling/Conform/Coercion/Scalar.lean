/-
Coercing to scalars.

A boxed primitive, or the only element of an array, is taken out first, one level deep,
and what comes out is converted by the rules of the kind.  A value with no rule cannot
be coerced.
-/
import Conform.Instant.Text
import Conform.Number.Decimal
import Conform.Value.Kind

namespace Conform

/-- The kinds whose values have no parts. -/
inductive Scalar where
  | number | string | boolean | bigint | date
  deriving DecidableEq, Repr

namespace Coercion

/-- The value that a boxed primitive or an array of one element stands for. -/
def unwrap : Value → Value
  | .boxed inner => inner
  | .array [.boxed inner] => inner
  | .array [item] => item
  | v => v

/-- The largest integer up to which every integer is a number. -/
def maxSafeInteger : Int := 9007199254740991

/-- The text without the blanks around it. -/
def trimmed (s : String) : List Char :=
  Text.trim s.toList

/-- The number of a scalar.  An integer that might not be a number exactly has none, and
a text of blanks is no zero. -/
def numberOf? : Value → Option Number
  | .number n => some n
  | .string s => Number.ofText? (String.ofList (trimmed s))
  | .bool b => some (Number.ofInt (if b then 1 else 0))
  | .bigint i =>
    if -maxSafeInteger ≤ i ∧ i ≤ maxSafeInteger then some (Number.ofInt i) else none
  | .date t => some (Number.ofInt t.toMillis)
  | .null => some Number.zero
  | _ => none

/-- The text of a scalar. -/
def stringOf? : Value → Option String
  | .string s => some s
  | .number n => if n.isFinite then some n.text else none
  | .bool b => some (if b then "true" else "false")
  | .bigint i => some i.repr
  | _ => none

/-- The truth of a scalar: of the two words, of one and zero, and of what is absent. -/
def booleanOf? : Value → Option Bool
  | .bool b => some b
  | .string s =>
    if s = "true" then some true else if s = "false" then some false else none
  | .number n =>
    if n.same (Number.ofInt 1) then some true else if n.isZero then some false else none
  | .null => some false
  | .undefined => some false
  | _ => none

/-- The integers that a text may spell, those of 128 bits, lie between this and its negative. -/
def textLimit : Int := 170141183460469231731687303715884105728

/-- The number nearest to 10 ^ 38, which an integral number must stay below. -/
def numberLimit : Nat := 99999999999999997748809823456034029568

/-- The integer of a scalar: of a number that is one, or of a text. -/
def bigintOf? : Value → Option Int
  | .bigint i => some i
  | .number n => n.toInt?.filter fun i => i.natAbs < numberLimit
  | .string s =>
    (Text.readInt? (trimmed s)).filter fun i => -textLimit ≤ i && i < textLimit
  | .bool b => some (if b then 1 else 0)
  | _ => none

/-- The instant of a scalar: of a number of milliseconds, or of a text. -/
def dateOf? : Value → Option Instant
  | .date t => some t
  | .number n => n.truncate? >>= Instant.ofMillis?
  | .string s => Instant.ofText? (trimmed s)
  | _ => none

/-- The value as one of the given kind, by the rules of that kind.  A number that is not
finite is no result. -/
def toScalar? (target : Scalar) (v : Value) : Option Value :=
  let inner := unwrap v
  match target with
  | .number => ((numberOf? inner).filter Number.isFinite).map .number
  | .string => (stringOf? inner).map .string
  | .boolean => (booleanOf? inner).map .bool
  | .bigint => (bigintOf? inner).map .bigint
  | .date => (dateOf? inner).map .date

end Coercion

namespace Scalar

/-- The kind of the values of a scalar type. -/
def kind : Scalar → Kind
  | number => .number
  | string => .string
  | boolean => .boolean
  | bigint => .bigint
  | date => .date

/-- The value is of the kind and has not to be coerced.  NaN is no good number. -/
def accepts : Scalar → Value → Bool
  | number, .number n => !n.isNaN
  | string, .string _ => true
  | boolean, .bool _ => true
  | bigint, .bigint _ => true
  | date, .date _ => true
  | _, _ => false

/-- The kinds of the values that can be coerced to the scalar. -/
def sources : Scalar → List Kind
  | number =>
    [.number, .string, .boolean, .bigint, .date, .null, .undefined, .array, .object]
  | string => [.string, .number, .boolean, .bigint, .array, .object]
  | boolean => [.boolean, .string, .number, .null, .undefined, .array, .object]
  | bigint => [.bigint, .number, .string, .boolean, .array, .object]
  | date => [.date, .number, .string, .array, .object]

end Scalar

end Conform
