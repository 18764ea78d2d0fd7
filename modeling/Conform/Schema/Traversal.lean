/-
Visiting the children of a value.

Every container is validated as a list of visits, each of which validates one part of
the value.  The issues of a part are placed under the segment that leads to it.  The
first part with issues ends the visits, unless everything is to be reported.
-/
import Conform.Schema.Fit

namespace Conform

/-- Validates values under the options of a call. -/
abbrev Validator := Options → Value → Except Fault Outcome

/-- Accepts everything as it is. -/
def Validator.keep : Validator :=
  fun _ _ => .ok (.accepted .kept)

/-- The validation of one part of a value. -/
structure Visit where
  /-- Where the part lies; a part that is the whole value lies nowhere further. -/
  place : Path
  part : Value
  validate : Value → Except Fault Outcome

/-- What the visits of a value found. -/
inductive Findings where
  /-- Every part was accepted.  There is one output for each. -/
  | outputs (all : List Output)
  | issues (found : Issues)

namespace Findings

/-- The findings with an output before them. -/
def consOutput (output : Output) : Findings → Findings
  | outputs all => outputs (output :: all)
  | issues found => issues found

/-- The findings with issues before them, which leave no outputs. -/
def prependIssues (earlier : Issues) : Findings → Findings
  | outputs _ => issues earlier
  | issues found => issues (earlier ++ found)

end Findings

/-- The issues of a part, as issues of the whole. -/
def Issues.placed (found : Issues) (place : Path) : Issues :=
  place.foldr (fun s issues => issues.within s) found

namespace Visit

/-- Makes the visits in order. -/
def all (verbose : Bool) : List Visit → Except Fault Findings
  | [] => .ok (.outputs [])
  | visit :: rest =>
    match visit.validate visit.part with
    | .error fault => .error fault
    | .ok (.accepted output) => (all verbose rest).map (·.consOutput output)
    | .ok (.rejected issues) =>
      let found := issues.placed visit.place
      if verbose then (all verbose rest).map (·.prependIssues found)
      else .ok (.issues found)

end Visit

/-- Makes the visits of a container that stands as `base`.  Where every part was accepted,
the container is what `rebuild` makes of the outputs, or `base` itself if it has nothing to
change. -/
def visitParts (verbose : Bool) (base : Output) (visits : List Visit)
    (rebuild : List Output → Option Value) : Except Fault Fit :=
  (Visit.all verbose visits).map fun
    | .issues found => .fits ⟨base, found.toList⟩
    | .outputs all =>
      match rebuild all with
      | some rebuilt => .clean (.replaced rebuilt)
      | none => .clean base

/-- The list with the items to write at their places, if there are any.  It is copied at
the first write. -/
def copyOnWrite {α : Type} (source : List α) (writes : List (Option α)) : Option (List α) :=
  writes.zipIdx.foldl (fun copy write =>
    match write.1 with
    | none => copy
    | some item => some ((copy.getD source).set write.2 item)) none

end Conform
