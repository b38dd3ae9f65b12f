import DeskCalculator.Text.CodePoint

/-!
# JSON values

The values of a JSON text.  Whole numbers and numbers with a fraction or an exponent
are told apart; an object is a list of members in order.
-/

namespace DeskCalculator

/-- A JSON value. -/
inductive Json where
  | null
  | bool (b : Bool)
  | int (n : Int)
  | float (v : Float)
  | string (s : List Char)
  /-- A string with a surrogate in it. -/
  | surrogates (s : CodePoints)
  | array (items : List Json)
  | object (members : List (List Char × Json))

namespace Json

/-- A string from a literal. -/
def text (s : String) : Json := .string s.toList

/-- Give a key a value: a key that is there keeps its place, a new one comes last. -/
def putMember (members : List (List Char × Json)) (key : List Char) (value : Json) :
    List (List Char × Json) :=
  if members.any (·.1 == key) then
    members.map fun m => if m.1 == key then (key, value) else m
  else members ++ [(key, value)]

/-- One member for each key: the last value, in the place of the first. -/
def mergeMembers (members : List (List Char × Json)) : List (List Char × Json) :=
  members.foldl (fun merged m => putMember merged m.1 m.2) []

/-- The value of a key. -/
def get? (key : List Char) : Json → Option Json
  | .object members => (members.find? (·.1 == key)).map (·.2)
  | _ => none

end Json

end DeskCalculator
