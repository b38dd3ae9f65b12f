import DeskCalculator.Calendar
import DeskCalculator.Decimal.Notation
import DeskCalculator.Json.Reader
import DeskCalculator.Json.Value

/-!
# Plain data

The values that a settings document can hold: scalars, lists, sets and mappings, where a mapping
may have keys of many kinds.

* `Datum.isEmpty` — the values that stand for nothing.
* `Datum.sameKey` — when two keys are one: numbers by value, everything else by kind too.
* `Datum.pairs?` — the pairs that a value lists, if it is a mapping or a list of pairs.
-/

namespace DeskCalculator

/-- A plain value. -/
inductive Datum where
  | null
  | bool (b : Bool)
  | int (n : Int)
  | float (v : Float)
  | text (s : List Char)
  /-- A text with a surrogate in it. -/
  | surrogates (s : CodePoints)
  | bytes (octets : List Nat)
  | date (t : CalendarTime)
  | list (items : List Datum)
  | pair (first second : Datum)
  | set (members : List Datum)
  | mapping (entries : List (Datum × Datum))

namespace Datum

/-- A text from a literal. -/
def ofString (s : String) : Datum := .text s.toList

/-- A text from its code points. -/
def ofCodePoints (s : CodePoints) : Datum := (s.chars?.map Datum.text).getD (.surrogates s)

/-- The values that stand for nothing: null, falsehood, zero and what is empty. -/
def isEmpty : Datum → Bool
  | .null => true
  | .bool b => !b
  | .int n => n == 0
  | .float v => v == 0.0
  | .text s => s.isEmpty
  | .bytes octets => octets.isEmpty
  | .list items => items.isEmpty
  | .set members => members.isEmpty
  | .mapping entries => entries.isEmpty
  | .surrogates _ | .date _ | .pair _ _ => false

/-! ## Keys -/

/-- The number that a scalar stands for, if it is a truth value or a whole number. -/
def wholeKey? : Datum → Option Int
  | .bool b => some (if b then 1 else 0)
  | .int n => some n
  | .float v => wholeNumber? v
  | _ => none

/-- Whether two values are the same key.  What is not a number is one key, too. -/
def sameKey : Datum → Datum → Bool
  | .null, .null => true
  | .text s, .text t => s == t
  | .surrogates s, .surrogates t => s == t
  | .bytes s, .bytes t => s == t
  | .date s, .date t => s.isSame t
  | .pair a b, .pair c d => a.sameKey c && b.sameKey d
  | .float v, .float w => v == w || (v.isNaN && w.isNaN)
  | a, b =>
    match a.wholeKey?, b.wholeKey? with
    | some m, some n => m == n
    | _, _ => false

/-- Whether a value can be a key. -/
def isKey : Datum → Bool
  | .list _ | .set _ | .mapping _ => false
  | .pair a b => a.isKey && b.isKey
  | _ => true

/-- The text of a key.  Collections are no keys and have none. -/
def keyText : Datum → List Char
  | .null => "None".toList
  | .bool b => (if b then "True" else "False").toList
  | .int n => intText n
  | .float v => fullText v
  | .text s => quoted s
  | .surrogates s => s.quoted
  | .bytes octets => quotedBytes octets
  | .date t => t.shown
  | .pair a b => '(' :: (a.keyText ++ ", ".toList ++ b.keyText ++ [')'])
  | .list _ | .set _ | .mapping _ => []

/-- Whether a key has a text: a whole number with too many digits has none. -/
def hasText : Datum → Bool
  | .int n => n.natAbs < Nat.pow 10 maxIntegerDigits
  | .pair a b => a.hasText && b.hasText
  | _ => true

/-- What stands for a key without a text. -/
def unprintableText : Datum → List Char
  | .pair _ _ => "<unprintable tuple object>".toList
  | _ => "<unprintable int object>".toList

/-- What shows a key in a report. -/
def keyShown (d : Datum) : List Char := if d.hasText then d.keyText else d.unprintableText

/-- The value of a key in a list of pairs. -/
def lookup? {β : Type} (entries : List (Datum × β)) (key : Datum) : Option β :=
  (entries.find? fun e => e.1.sameKey key).map (·.2)

/-- Give a key a value: a key that is there keeps its place, a new one comes last. -/
def put {β : Type} (entries : List (Datum × β)) (key : Datum) (value : β) : List (Datum × β) :=
  if entries.any fun e => e.1.sameKey key then
    entries.map fun e => if e.1.sameKey key then (e.1, value) else e
  else entries ++ [(key, value)]

/-! ## Values as lists of pairs -/

/-- Why a value is no list of pairs. -/
inductive PairFailure where
  /-- An element has another number of parts than two. -/
  | wrongLength
  /-- The value or an element has no parts, or a key cannot be one. -/
  | wrongKind
deriving Repr, DecidableEq

/-- The parts of a value: the characters of a text, the bytes of bytes, the elements of a list or a
set, the keys of a mapping. -/
def parts? : Datum → Option (List Datum)
  | .text s => some (s.map fun c => .text [c])
  | .surrogates s => some (s.map fun n => ofCodePoints [n])
  | .bytes octets => some (octets.map fun (octet : Nat) => .int octet)
  | .list items => some items
  | .pair a b => some [a, b]
  | .set members => some members
  | .mapping entries => some (entries.map (·.1))
  | .null | .bool _ | .int _ | .float _ | .date _ => none

/-- The pair that an element of a list is. -/
def pair? (element : Datum) : Except PairFailure (Datum × Datum) :=
  match element.parts? with
  | none => .error .wrongKind
  | some [key, value] => if key.isKey then .ok (key, value) else .error .wrongKind
  | some _ => .error .wrongLength

/-- Put the pairs of a list after those that are there already. -/
def putPairs (entries : List (Datum × Datum)) :
    List Datum → Except PairFailure (List (Datum × Datum))
  | [] => .ok entries
  | element :: rest => do
    let (key, value) ← element.pair?
    putPairs (put entries key value) rest

/-- The pairs that a value lists. -/
def pairs? (data : Datum) : Except PairFailure (List (Datum × Datum)) :=
  match data with
  | .mapping entries => .ok entries
  | _ =>
    match data.parts? with
    | some elements => putPairs [] elements
    | none => .error .wrongKind

end Datum

/-! ## From JSON -/

mutual

/-- A JSON value as plain data. -/
def Json.datum : Json → Datum
  | .null => .null
  | .bool b => .bool b
  | .int n => .int n
  | .float v => .float v
  | .string s => .text s
  | .surrogates s => .surrogates s
  | .array items => .list (Json.dataOf items)
  | .object members => .mapping (Json.entriesOf members)

/-- The elements of an array as plain data. -/
def Json.dataOf : List Json → List Datum
  | [] => []
  | item :: rest => item.datum :: Json.dataOf rest

/-- The members of an object as plain data. -/
def Json.entriesOf : List (List Char × Json) → List (Datum × Datum)
  | [] => []
  | (key, value) :: rest => (.text key, value.datum) :: Json.entriesOf rest

end

end DeskCalculator
