/-
Kinds: what values are called in messages and dispatched by.

Every value has one kind.  `unknown` and `never` are the kinds of all values and of no
value; functions and promises have kinds, but no value here is one.
-/
import Conform.Value.Basic

namespace Conform

/-- A category of values. -/
inductive Kind where
  | unknown | never | undefined | null | boolean | number | bigint | string | symbol | date
  | array | object | map | set | function | promise
  deriving DecidableEq, Repr, Inhabited

namespace Kind

/-- The kinds that a value can be looked at as. -/
def all : List Kind :=
  [undefined, null, boolean, number, bigint, string, symbol, date, array, object, map, set,
    function, promise]

/-- The name of a kind in messages. -/
def name : Kind → String
  | unknown => "unknown"
  | never => "never"
  | undefined => "undefined"
  | null => "null"
  | boolean => "boolean"
  | number => "number"
  | bigint => "bigint"
  | string => "string"
  | symbol => "symbol"
  | date => "date"
  | array => "array"
  | object => "object"
  | map => "map"
  | set => "set"
  | function => "function"
  | promise => "promise"

/-- The kind with the given name. -/
def ofName? (name : String) : Option Kind :=
  (unknown :: never :: all).find? fun k => k.name == name

end Kind

/-- The kind of a value.  NaN is a number, and a boxed primitive an object. -/
def Value.kind : Value → Kind
  | undefined => .undefined
  | null => .null
  | bool _ => .boolean
  | number _ => .number
  | bigint _ => .bigint
  | string _ => .string
  | symbol _ => .symbol
  | date _ => .date
  | array _ => .array
  | object _ => .object
  | map _ => .map
  | set _ => .set
  | boxed _ => .object

end Conform
