/-!
# White space

Two classes of blank characters and the operations that depend on them.

* `isBlank` — what separates tokens on a line and what is trimmed from a line of
  a history file: the Unicode white space together with the four ASCII
  information separators.
* `isWhiteSpace` — the Unicode property alone.  Numbers are trimmed by this
  class, so an information separator next to a number makes it unreadable.
-/

namespace DeskCalculator

/-! ## The two classes -/

/-- The Unicode white space property. -/
def isWhiteSpace (c : Char) : Bool :=
  let n := c.toNat
  (9 ≤ n && n ≤ 13) || n == 0x20 || n == 0x85 || n == 0xA0 || n == 0x1680
    || (0x2000 ≤ n && n ≤ 0x200A) || n == 0x2028 || n == 0x2029 || n == 0x202F
    || n == 0x205F || n == 0x3000

/-- The four ASCII characters that separate files, groups, records and units. -/
def isInformationSeparator (c : Char) : Bool :=
  0x1C ≤ c.toNat && c.toNat ≤ 0x1F

/-- White space in the wide sense: the Unicode property or an information separator. -/
def isBlank (c : Char) : Bool :=
  isWhiteSpace c || isInformationSeparator c

/-! ## Trimming -/

/-- Drop the characters of a class from the end of a text. -/
def dropWhileEnd (p : Char → Bool) (s : List Char) : List Char :=
  (s.reverse.dropWhile p).reverse

/-- Drop the characters of a class from both ends of a text. -/
def trimBy (p : Char → Bool) (s : List Char) : List Char :=
  dropWhileEnd p (s.dropWhile p)

/-- Drop the blanks around a text. -/
def trimBlank : List Char → List Char := trimBy isBlank

/-- Drop the white space around a number. -/
def trimWhiteSpace : List Char → List Char := trimBy isWhiteSpace

end DeskCalculator
