/-
Which characters can be shown as they are.
-/
import Conform.Unicode.Property

namespace Conform.Text

open Unicode

/-- The characters that cannot be shown as they are: control, format, private-use and
unassigned ones, the separators other than the space, and those that extend the character
before them. -/
def unprintable : CharSet :=
  (other ∪ separator ∪ graphemeExtend) \ .single ' '

/-- The character is shown as it is. -/
def isPrintable (c : Char) : Bool :=
  if c.toNat < 0x7f then 0x20 ≤ c.toNat else !unprintable.contains c

end Conform.Text
