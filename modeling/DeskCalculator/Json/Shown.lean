import DeskCalculator.Decimal.Notation
import DeskCalculator.Json.Value

/-!
# JSON values in messages

A message shows a value with its words for nothing, truth and falsehood, with quoted texts, and
with brackets or braces around what a value holds.

* `Json.shown` — the text that shows a value.
* `Json.plain` — the same, where a string stands for itself.
-/

namespace DeskCalculator.Json

mutual

/-- The text that shows a value. -/
def shown : Json → List Char
  | .null => "None".toList
  | .bool true => "True".toList
  | .bool false => "False".toList
  | .int n => intText n
  | .float v => fullText v
  | .string s => quoted s
  | .surrogates s => s.quoted
  | .array items => '[' :: (joinWith ", ".toList (shownItems items) ++ [']'])
  | .object members => '\x7b' :: (joinWith ", ".toList (shownMembers members) ++ ['\x7d'])

/-- The texts that show the elements of an array. -/
def shownItems : List Json → List (List Char)
  | [] => []
  | item :: rest => shown item :: shownItems rest

/-- The texts that show the members of an object. -/
def shownMembers : List (List Char × Json) → List (List Char)
  | [] => []
  | (key, value) :: rest => (quoted key ++ ": ".toList ++ shown value) :: shownMembers rest

end

/-- The text of a value, where a string stands for itself. -/
def plain : Json → List Char
  | .string s => s
  | v => v.shown

/-- A list of values between parentheses; a single one has a comma after it. -/
def shownTuple : List Json → List Char
  | [v] => '(' :: (v.shown ++ ",)".toList)
  | values => '(' :: (joinWith ", ".toList (values.map shown) ++ [')'])

end DeskCalculator.Json
