/-
Unions and intersections.

A union takes the first member that accepts the value, and tries only those whose input
types the value's kind is admitted by.  An intersection takes what all members accept,
and merges what they make of it.
-/
import Conform.Schema.Traversal
import Conform.Value.Merge

namespace Conform

/-! ### Unions -/

/-- What trying the members of a union came to. -/
inductive Attempts where
  | accepted (output : Output)
  /-- Every member failed, each with its issues. -/
  | failed (groups : List (List Issue))

namespace Attempts

/-- The attempts with a failure before them, which an acceptance makes void. -/
def afterFailure (group : List Issue) : Attempts → Attempts
  | accepted output => accepted output
  | failed groups => failed (group :: groups)

/-- Tries the members in order up to the first that accepts the value. -/
def all (o : Options) (v : Value) : List Validator → Except Fault Attempts
  | [] => .ok (failed [])
  | validate :: rest =>
    match validate o v with
    | .error fault => .error fault
    | .ok (.accepted output) => .ok (accepted output)
    | .ok (.rejected issues) => (all o v rest).map (·.afterFailure issues.toList)

end Attempts

/-- The members that may take values of each kind, in order.  Every member comes with the
types of its inputs. -/
def bucket {α : Type} (members : List (List InputType × α)) : List (Kind × List α) :=
  Kind.all.map fun k =>
    (k, (members.filter fun member => member.1.any (·.admits k)).map Prod.snd)

/-- The members of a union by the kinds of values they may take: as they are, and when
coercing. -/
structure Buckets (α : Type) where
  plain : List (Kind × List α)
  coerced : List (Kind × List α)

namespace Buckets

variable {α : Type}

/-- The buckets of members whose input types are known with and without coercion. -/
def ofMembers (members : List ((Bool → List InputType) × α)) : Buckets α where
  plain := bucket (members.map fun member => (member.1 false, member.2))
  coerced := bucket (members.map fun member => (member.1 true, member.2))

/-- The members worth trying on a value of the kind. -/
def candidates (buckets : Buckets α) (coerce : Bool) (k : Kind) : List α :=
  let table := if coerce then buckets.coerced else buckets.plain
  ((table.find? fun entry => entry.1 == k).map Prod.snd).getD []

end Buckets

/-- A union of members, each with the types of its inputs, `inputs` being the types of
the inputs of the whole.  The options are those of the members. -/
def fitUnion (settings : Settings) (inputs : List InputType)
    (members : List ((Bool → List InputType) × Validator)) (o : Options) (v : Value) :
    Except Fault Fit :=
  let candidates := (Buckets.ofMembers members).candidates o.coerce v.kind
  (Attempts.all o v candidates).map fun
    | .accepted output => .clean output
    | .failed groups => .refuse (settings.unionIssue inputs groups v)

/-! ### Intersections -/

/-- The least value that holds what all the values hold, if there is one. -/
def mergeAll? : List Value → Option Value
  | [] => none
  | first :: rest => rest.foldlM Value.merge? first

/-- An intersection of members.  If none of them changes the value, nothing is merged. -/
def fitIntersection (settings : Settings) (members : List Validator) (o : Options)
    (v : Value) : Except Fault Fit :=
  let visits := members.map fun validate => (⟨[], v, validate o⟩ : Visit)
  (Visit.all o.verbose visits).map fun
    | .issues found => .mismatch found
    | .outputs all =>
      if all.all Output.isKept then .clean .kept
      else
        match mergeAll? (all.map (·.resolve v)) with
        | some merged => .clean (.replaced merged)
        | none => .refuse (settings.intersectionIssue v)

end Conform
