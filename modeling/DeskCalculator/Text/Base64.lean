import DeskCalculator.Text.DecimalDigit

/-!
# Bytes as text

Four characters of an alphabet of sixty-four write three bytes; equals signs fill up the last four.
Characters outside the alphabet are passed over.

`decodeBase64?` gives the bytes, unless the last characters are too few.
-/

namespace DeskCalculator

/-- The six bits that a character of the alphabet writes. -/
def sextet? (c : Char) : Option Nat :=
  if 'A' ≤ c && c ≤ 'Z' then some (c.toNat - 65)
  else if 'a' ≤ c && c ≤ 'z' then some (c.toNat - 71)
  else if isDigit c then some (c.toNat + 4)
  else if c = '+' then some 62
  else if c = '/' then some 63
  else none

/-- Read on in the group of four characters that is begun: `group` holds the sextets read of it,
`fills` counts the equals signs since.  The group is over when the signs fill it up, and then what
follows does not count. -/
def decodeGroup (found group : List Nat) (fills : Nat) : List Char → Option (List Nat)
  | [] => if group.isEmpty then some found.reverse else none
  | c :: rest =>
    if c = '=' then
      if 2 ≤ group.length then
        if 4 ≤ group.length + (fills + 1) then some found.reverse
        else decodeGroup found group (fills + 1) rest
      else decodeGroup found group fills rest
    else
      match sextet? c with
      | none => decodeGroup found group fills rest
      | some n =>
        match group with
        | [] => decodeGroup found [n] 0 rest
        | [a] => decodeGroup ((a * 4 + n / 16) :: found) [a, n] 0 rest
        | [a, b] => decodeGroup ((b % 16 * 16 + n / 4) :: found) [a, b, n] 0 rest
        | _ :: _ :: b :: _ => decodeGroup ((b % 4 * 64 + n) :: found) [] 0 rest

/-- The bytes that a text writes. -/
def decodeBase64? (s : List Char) : Option (List Nat) := decodeGroup [] [] 0 s

example : decodeBase64? "aGVsbG8=".toList = some [104, 101, 108, 108, 111] := by decide
example : decodeBase64? " YW\nJj ".toList = some [97, 98, 99] := by decide
example : decodeBase64? "YWI".toList = none := by decide

end DeskCalculator
