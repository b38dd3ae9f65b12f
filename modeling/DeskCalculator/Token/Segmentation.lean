import DeskCalculator.Token.Lexer

/-!
# What the tokens of a line are

The tokens cut the line into pieces: they follow each other, each is a piece of the line and in
its class, what lies between them is blank, and none of them could be longer.  This says nothing
of how they are found.

* `Token.stop` — the column after a token.
* `IsMaximal` — no longer text of the class begins where the token does.
* `IsSegmentation` — the tokens are those of the line.
-/

namespace DeskCalculator

/-- The column after a token. -/
def Token.stop (t : Token) : Nat := t.position + t.text.length

/-- Whether a token covers a column. -/
def Token.covers (t : Token) (column : Nat) : Prop := t.position ≤ column ∧ column < t.stop

/-- The rest of a line after a token does not continue it: a number is followed by no digit and,
if it has no fraction, by no point with a digit after it; a word is followed by no character of a
word. -/
def IsMaximal (t : Token) (after : List Char) : Prop :=
  match t.kind with
  | .number =>
    (∀ c ∈ after.head?, isDigit c = false) ∧
      (t.text.contains '.' = false → after.head? = some '.' →
        ∀ c ∈ after[1]?, isDigit c = false)
  | .identifier => ∀ c ∈ after.head?, isWordChar c = false
  | .symbol => True

/-- A list of tokens cuts a line into its lexical units. -/
structure IsSegmentation (s : List Char) (tokens : List Token) : Prop where
  /-- Each token ends before the next one begins. -/
  ordered : tokens.Pairwise fun t u => t.stop ≤ u.position
  /-- The text of a token is what the line has at its column. -/
  sliced : ∀ t ∈ tokens, (s.drop t.position).take t.text.length = t.text
  /-- The text of a token is one of its class. -/
  classed : ∀ t ∈ tokens, t.kind.accepts t.text = true
  /-- What no token covers is blank. -/
  blank : ∀ column c, s[column]? = some c → (∀ t ∈ tokens, ¬ t.covers column) →
    isBlank c = true
  /-- No token could be longer. -/
  maximal : ∀ t ∈ tokens, IsMaximal t (s.drop t.stop)

end DeskCalculator
