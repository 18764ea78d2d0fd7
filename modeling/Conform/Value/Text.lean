/-
The text of values, as messages and key names show it.
-/
import Conform.Instant.Text
import Conform.Number.Decimal
import Conform.Text.Quoted
import Conform.Value.Basic

namespace Conform.Value

/-- The texts with a comma between them. -/
def commaSeparated (texts : List String) : String :=
  ", ".intercalate texts

mutual

/-- The text of a value.  Arrays and objects show what they hold, maps and sets only how
much. -/
def text : Value → String
  | undefined => "undefined"
  | null => "null"
  | bool b => if b then "true" else "false"
  | number n => n.text
  | bigint i => i.repr ++ "n"
  | string s => Text.quote s
  | symbol s => "Symbol(" ++ s.description ++ ")"
  | date t => t.text
  | array items => "[" ++ commaSeparated (textList items) ++ "]"
  | object ⟨_, _, row⟩ => "\x7b" ++ commaSeparated (textRow row) ++ "\x7d"
  | map entries => "Map(" ++ entries.length.repr ++ ")"
  | set items => "Set(" ++ items.length.repr ++ ")"
  | boxed inner => "Object(" ++ text inner ++ ")"
  termination_by structural v => v

/-- The texts of the values. -/
def textList : List Value → List String
  | [] => []
  | item :: rest => text item :: textList rest
  termination_by structural items => items

/-- The texts of the fields: the name as it is, and the text of the value. -/
def textRow {names : List String} (row : Row Value names) : List String :=
  match row with
  | .nil => []
  | .cons name value rest => (name ++ ": " ++ text value) :: textRow rest
  termination_by structural row

end

end Conform.Value
