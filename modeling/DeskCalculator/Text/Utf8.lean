/-!
# Characters as bytes

The encoding of characters in one to four bytes.  `charOfUtf8?` accepts exactly the shortest form
of each character and no surrogates.
-/

namespace DeskCalculator

/-- The six bits of a byte that continues a character. -/
def continuation? (b : Nat) : Option Nat :=
  if 0x80 ≤ b && b < 0xC0 then some (b - 0x80) else none

/-- Check that a code point is a character of at least a given number. -/
def charFrom? (least n : Nat) : Option Char :=
  if least ≤ n && n.isValidChar then some (Char.ofNat n) else none

/-- The character that the bytes in front encode, and what follows it. -/
def charOfUtf8? : List Nat → Option (Char × List Nat)
  | [] => none
  | a :: rest =>
    if a < 0x80 then some (Char.ofNat a, rest)
    else if 0xC0 ≤ a && a < 0xE0 then
      match rest with
      | b :: rest => do
        let n := (a - 0xC0) * 0x40 + (← continuation? b)
        return (← charFrom? 0x80 n, rest)
      | _ => none
    else if 0xE0 ≤ a && a < 0xF0 then
      match rest with
      | b :: c :: rest => do
        let n := ((a - 0xE0) * 0x40 + (← continuation? b)) * 0x40 + (← continuation? c)
        return (← charFrom? 0x800 n, rest)
      | _ => none
    else if 0xF0 ≤ a && a < 0xF8 then
      match rest with
      | b :: c :: d :: rest => do
        let n := (((a - 0xF0) * 0x40 + (← continuation? b)) * 0x40 + (← continuation? c)) * 0x40
          + (← continuation? d)
        return (← charFrom? 0x10000 n, rest)
      | _ => none
    else none

/-- Decode bytes, at most as many characters as the first argument says. -/
def decodeUtf8Within : Nat → List Nat → Option (List Char)
  | _, [] => some []
  | 0, _ => none
  | fuel + 1, bytes => do
    let (c, rest) ← charOfUtf8? bytes
    return c :: (← decodeUtf8Within fuel rest)

/-- The characters that bytes encode; `none` if they encode none. -/
def decodeUtf8? (bytes : List Nat) : Option (List Char) := decodeUtf8Within bytes.length bytes

example : decodeUtf8? [0x61, 0xC3, 0xA9, 0xE2, 0x82, 0xAC, 0xF0, 0x9F, 0x98, 0x80]
    = some ['a', 'é', '€', '😀'] := by decide
example : decodeUtf8? [0xC0, 0x80] = none := by decide
example : decodeUtf8? [0xED, 0xA0, 0x80] = none := by decide

end DeskCalculator
