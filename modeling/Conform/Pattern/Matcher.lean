/-
Finding a pattern in a text.

A pattern leads from a place to every place where a match that begins there may end.
Only whether there is a match is asked, so sets of places are all that is kept, and no
way through the pattern is tried twice.
-/
import Conform.Pattern.Basic

namespace Conform

/-- A place in a text: the character before it and the characters after it. -/
structure Place where
  before : Option Char
  after : List Char

namespace Pattern

/-- The places without repeats.  Places in one text are equal if equally much is left. -/
def distinctPlaces : List Place → List Place
  | [] => []
  | p :: rest => p :: (distinctPlaces rest).filter fun q => q.after.length != p.after.length

/-- The result of `f` applied `n` times, or as often as there is something to apply it
to. -/
def iterate (f : List Place → List Place) : Nat → List Place → List Place
  | 0, places => places
  | n + 1, places => if places.isEmpty then [] else iterate f n (f places)

/-- The places where a match that begins at the place may end. -/
def ends : Pattern → Place → List Place
  | nothing, p => [p]
  | one set, p =>
    match p.after with
    | [] => []
    | x :: rest => if set.contains x then [⟨some x, rest⟩] else []
  | anchor a, p => if a.holds p.before p.after.head? then [p] else []
  | seq a b, p => distinctPlaces ((a.ends p).flatMap b.ends)
  | either a b, p => distinctPlaces (a.ends p ++ b.ends p)
  | times a least most, p =>
    let once (places : List Place) := distinctPlaces (places.flatMap a.ends)
    let onceMore (places : List Place) := distinctPlaces (places ++ places.flatMap a.ends)
    let room := p.after.length + 1
    let extra := most.elim room fun most => min (most - least) room
    iterate onceMore extra (iterate once least [p])
  | group a, p => a.ends p

/-- Every place of a text from the given one on. -/
def placesFrom (before : Option Char) : List Char → List Place
  | [] => [⟨before, []⟩]
  | c :: rest => ⟨before, c :: rest⟩ :: placesFrom (some c) rest

/-- A match of the pattern is somewhere in the text. -/
def isFoundIn (pattern : Pattern) (text : String) : Bool :=
  (placesFrom none text.toList).any fun p => !(pattern.ends p).isEmpty

end Pattern

end Conform
