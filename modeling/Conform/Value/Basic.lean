/-
The values that are validated.

A value is data that was already read from somewhere: the usual plain data, and beyond
it integers of any size, symbols, instants, maps, sets and boxed primitives.
-/
import Conform.Fields
import Conform.Instant.Basic
import Conform.Number.Basic

namespace Conform

/-- A unique token.  The identity makes the symbol; the description is for people. -/
structure Symbol where
  identity : Nat
  description : String
  deriving DecidableEq

/-- A value of unknown provenance. -/
inductive Value where
  | undefined
  | null
  | bool (b : Bool)
  | number (n : Number)
  | bigint (i : Int)
  | string (s : String)
  | symbol (s : Symbol)
  | date (t : Instant)
  | array (items : List Value)
  | object (fields : Fields Value)
  /-- Pairs of a key and a value, in order.  Keys may repeat. -/
  | map (entries : List (Value × Value))
  /-- Elements, in order.  They may repeat. -/
  | set (items : List Value)
  /-- An object around a primitive. -/
  | boxed (inner : Value)

namespace Value

instance : Inhabited Value := ⟨undefined⟩

/-- Neither a container nor a wrapper nor a date. -/
def isPrimitive : Value → Bool
  | undefined | null | bool _ | number _ | bigint _ | string _ | symbol _ => true
  | date _ | array _ | object _ | map _ | set _ | boxed _ => false

/-- What holds of the values without parts, and of a value whenever it holds of its
parts, holds of every value. -/
@[elab_as_elim] theorem induction {P : Value → Prop}
    (undefined : P undefined) (null : P null) (bool : ∀ b, P (bool b))
    (number : ∀ n, P (number n)) (bigint : ∀ i, P (bigint i)) (string : ∀ s, P (string s))
    (symbol : ∀ s, P (symbol s)) (date : ∀ t, P (date t))
    (array : ∀ items, (∀ item ∈ items, P item) → P (array items))
    (object : ∀ fields, (∀ e ∈ fields.entries, P e.2) → P (object fields))
    (map : ∀ entries, (∀ e ∈ entries, P e.1 ∧ P e.2) → P (map entries))
    (set : ∀ items, (∀ item ∈ items, P item) → P (set items))
    (boxed : ∀ inner, P inner → P (boxed inner)) (v : Value) : P v :=
  Value.rec (motive_1 := P)
    (motive_2 := fun items => ∀ item ∈ items, P item)
    (motive_3 := fun fields => ∀ e ∈ fields.entries, P e.2)
    (motive_4 := fun entries => ∀ e ∈ entries, P e.1 ∧ P e.2)
    (motive_5 := fun _ row => ∀ e ∈ row.toList, P e.2)
    (motive_6 := fun e => P e.1 ∧ P e.2)
    undefined null bool number bigint string symbol date array object map set boxed
    (fun _ h => absurd h List.not_mem_nil)
    (fun _ _ first rest => List.forall_mem_cons.2 ⟨first, rest⟩)
    (fun _ _ _ row => row)
    (fun _ h => absurd h List.not_mem_nil)
    (fun _ _ first rest => List.forall_mem_cons.2 ⟨first, rest⟩)
    (fun _ h => absurd h List.not_mem_nil)
    (fun _ _ _ first rest => List.forall_mem_cons.2 ⟨first, rest⟩)
    (fun _ _ first second => ⟨first, second⟩)
    v

end Value

end Conform
