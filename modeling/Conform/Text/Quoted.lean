/-
Quoted text: a string between double quotes, in which nothing is ambiguous or unseen.
-/
import Conform.Text.Printable

namespace Conform.Text

/-- How a character is written between quotes.  The quote and the backslash are written
after a backslash, and a character that cannot be shown by its code point. -/
def escape (c : Char) : List Char :=
  match c with
  | '"' => ['\\', '"']
  | '\\' => ['\\', '\\']
  | '\n' => ['\\', 'n']
  | '\r' => ['\\', 'r']
  | '\t' => ['\\', 't']
  | '\x00' => ['\\', '0']
  | c =>
    if isPrintable c then [c]
    else ['\\', 'u', '{'] ++ Nat.toDigits 16 c.toNat ++ ['}']

/-- The text between quotes. -/
def quote (s : String) : String :=
  String.ofList ('"' :: s.toList.flatMap escape ++ ['"'])

end Conform.Text
