/-!
# Lines

Two ways to cut a text into lines.

* `linesOf` — a line ends with its line feed, which belongs to it; the last line may have
  none.  The lines put together are the text (`flatten_linesOf`).
* `fileLines` — a line feed, a carriage return or the two together end a line and do not
  belong to it.
-/

namespace DeskCalculator

/-! ## Lines with their ends -/

/-- The lines of a text from one that is begun already, in reverse. -/
def linesFrom (begun : List Char) : List Char → List (List Char)
  | [] => if begun.isEmpty then [] else [begun.reverse]
  | c :: rest =>
    if c = '\n' then (c :: begun).reverse :: linesFrom [] rest
    else linesFrom (c :: begun) rest

/-- The lines of a text, each with its line feed. -/
def linesOf (s : List Char) : List (List Char) := linesFrom [] s

theorem flatten_linesFrom (s begun : List Char) :
    (linesFrom begun s).flatten = begun.reverse ++ s := by
  induction s generalizing begun with
  | nil =>
    unfold linesFrom
    split
    · simp_all
    · simp
  | cons c rest ih =>
    unfold linesFrom
    split <;> simp [ih]

theorem flatten_linesOf (s : List Char) : (linesOf s).flatten = s := by
  simp [linesOf, flatten_linesFrom]

/-! ## Lines without their ends -/

/-- Write every line end as a line feed. -/
def unifyLineEnds : List Char → List Char
  | '\r' :: '\n' :: rest => '\n' :: unifyLineEnds rest
  | '\r' :: rest => '\n' :: unifyLineEnds rest
  | c :: rest => c :: unifyLineEnds rest
  | [] => []

/-- The lines of a file, whichever way they end, each with a line feed except perhaps the
last. -/
def fileLines (s : List Char) : List (List Char) := linesOf (unifyLineEnds s)

end DeskCalculator
