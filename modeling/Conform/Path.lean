/-
Paths: where in a value something lies.

A path is read from the root down.  An issue begins at the root of the value that its
own schema was given, and every container around that schema puts the segment of its
child in front, so that the path ends up relative to the value of the outermost schema.
-/
import Conform.Value.Equality
import Conform.Value.Text

namespace Conform

/-- One step into a value. -/
inductive Segment where
  /-- The position of an element. -/
  | index (i : Nat)
  /-- The name of a field of an object. -/
  | field (name : String)
  /-- The key of an entry of a map. -/
  | key (v : Value)

/-- The segments are the same step, with keys compared as values. -/
def Segment.same : Segment → Segment → Bool
  | .index i, .index j => i == j
  | .field a, .field b => a == b
  | .key a, .key b => a == b
  | _, _ => false

instance : BEq Segment := ⟨Segment.same⟩

/-- A place in a value, as the steps that lead there.  The root is the empty path. -/
abbrev Path := List Segment

namespace Path

/-- The place that a path leads to from inside the step `s`. -/
def within (p : Path) (s : Segment) : Path :=
  s :: p

/-- The place one step further down. -/
def push (p : Path) (s : Segment) : Path :=
  p ++ [s]

/-- The place one step up, unless the path is the root. -/
def parent? (p : Path) : Option Path :=
  if p.isEmpty then none else some p.dropLast

/-- The text of a segment that comes after others, or at the start. -/
def segmentText (first : Bool) : Segment → String
  | .index i => "[" ++ i.repr ++ "]"
  | .field name => if first then name else "." ++ name
  | .key v => "[" ++ v.text ++ "]"

/-- The text of a path: fields with points between them, and indices and keys in
brackets. -/
def text : Path → String
  | [] => ""
  | s :: rest => segmentText true s ++ String.join (rest.map (segmentText false))

end Path

end Conform
