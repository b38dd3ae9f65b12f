import DeskCalculator.Text.DecimalDigit
import DeskCalculator.Text.Quoted

/-!
# Code points

A code point is the number of a character or a surrogate, one of the halves of which pairs stand
for a character in units of sixteen bits.  Escapes can write surrogates one by one, so a text that
was read from escapes is a list of code points and need not be a list of characters.

* `CodePoints.chars?` — the characters, if there is nothing else.
* `CodePoints.replaced` — the characters, one for each code point.
* `CodePoints.joined` — the characters, where a pair of surrogates is one.
* `CodePoints.objection` — why a text with surrogates cannot be encoded.
-/

namespace DeskCalculator

/-- A text as numbers. -/
abbrev CodePoints := List Nat

/-- The character that stands for something that is none. -/
def replacement : Char := '\ufffd'

/-- The first half of a pair. -/
def isHighSurrogate (n : Nat) : Bool := 0xD800 ≤ n && n < 0xDC00

/-- The second half of a pair. -/
def isLowSurrogate (n : Nat) : Bool := 0xDC00 ≤ n && n < 0xE000

/-- Either half of a pair. -/
def isSurrogate (n : Nat) : Bool := isHighSurrogate n || isLowSurrogate n

/-- The number of the character that a pair stands for. -/
def pairedPoint (high low : Nat) : Nat := 0x10000 + (high - 0xD800) * 0x400 + (low - 0xDC00)

/-- The numbers of characters. -/
def codePoints (s : List Char) : CodePoints := s.map Char.toNat

namespace CodePoints

/-- The characters, if there is nothing else. -/
def chars? (s : CodePoints) : Option (List Char) :=
  if s.all fun n => n.isValidChar then some (s.map Char.ofNat) else none

/-- The characters, where each surrogate is replaced. -/
def replaced (s : CodePoints) : List Char :=
  s.map fun n => if isSurrogate n then replacement else Char.ofNat n

/-- The characters, where a pair of surrogates is one, and a surrogate that stands alone is
replaced. -/
def joined : CodePoints → List Char
  | [] => []
  | [n] => [if isSurrogate n then replacement else Char.ofNat n]
  | n :: next :: rest =>
    if isHighSurrogate n && isLowSurrogate next then
      Char.ofNat (pairedPoint n next) :: joined rest
    else (if isSurrogate n then replacement else Char.ofNat n) :: joined (next :: rest)

/-- A text between quotes, in which a surrogate is written as an escape. -/
def quoted (s : CodePoints) : List Char :=
  let quote := quoteFor ((s.filter fun n => !isSurrogate n).map Char.ofNat)
  let escaped := s.flatMap fun n =>
    if isSurrogate n then '\\' :: 'u' :: hexText 4 n else quotedChar quote (Char.ofNat n)
  quote :: (escaped ++ [quote])

/-- What is said of a text that cannot be encoded: where its first surrogates stand. -/
def objection (s : CodePoints) : List Char :=
  let first := (s.takeWhile fun n => !isSurrogate n).length
  let found := match (s.drop first).takeWhile isSurrogate with
    | [n] => "character '\\u".toList ++ hexText 4 n ++ "' in position ".toList ++ natText first
    | run =>
      "characters in position ".toList ++ natText first ++ ['-']
        ++ natText (first + run.length - 1)
  "'utf-8' codec can't encode ".toList ++ found ++ ": surrogates not allowed".toList

end CodePoints

end DeskCalculator
