/-!
# A place in a document

`Cursor` is what is left of a document's text together with its line and column.  The characters
that end a line are listed here, and how a line end is read.
-/

namespace DeskCalculator.Yaml

/-! ## Characters -/

/-- The end of the document, as a character. -/
def endMark : Char := '\x00'

/-- A character that ends a line. -/
def isBreak (c : Char) : Bool :=
  c == '\n' || c == '\r' || c == '\x85' || c == '\u2028' || c == '\u2029'

/-- A line end or the end of the document. -/
def isBreakOrEnd (c : Char) : Bool := isBreak c || c == endMark

/-- A space, a line end or the end of the document. -/
def isSpaceOrEnd (c : Char) : Bool := c == ' ' || isBreakOrEnd c

/-- A space, a tab, a line end or the end of the document. -/
def isBlankOrEnd (c : Char) : Bool := c == '\t' || isSpaceOrEnd c

/-- A character that a document may hold. -/
def isAllowed (c : Char) : Bool :=
  let n := c.toNat
  n == 0x09 || n == 0x0A || n == 0x0D || n == 0x85 || (0x20 ≤ n && n ≤ 0x7E)
    || (0xA0 ≤ n && n ≤ 0xD7FF) || (0xE000 ≤ n && n ≤ 0xFFFD) || 0x10000 ≤ n

/-! ## Cursors -/

/-- What is left of a text, and where that is. -/
structure Cursor where
  rest : List Char
  index : Nat := 0
  line : Nat := 0
  column : Nat := 0
deriving Repr

namespace Cursor

/-- The next character. -/
def peek (c : Cursor) : Char := c.rest.headD endMark

/-- The character that is `n` further. -/
def peekAt (c : Cursor) (n : Nat) : Char := (c.rest.drop n).headD endMark

/-- One character further.  A carriage return before a line feed does not yet end the line, and
a byte order mark takes no column. -/
def next (c : Cursor) : Cursor :=
  match c.rest with
  | [] => c
  | ch :: rest =>
    let ends := isBreak ch && !(ch == '\r' && rest.head? == some '\n')
    { rest, index := c.index + 1,
      line := if ends then c.line + 1 else c.line,
      column := if ends then 0 else if ch == '\ufeff' then c.column else c.column + 1 }

/-- Some characters further. -/
def skip (c : Cursor) : Nat → Cursor
  | 0 => c
  | n + 1 => c.next.skip n

/-- The characters of a class that come next, and the place after them. -/
def span (c : Cursor) (p : Char → Bool) : List Char × Cursor :=
  let s := c.rest.takeWhile p
  (s, c.skip s.length)

/-- The place after the characters of a class that come next. -/
def skipWhile (c : Cursor) (p : Char → Bool) : Cursor := (c.span p).2

/-- A line end that comes next, by the character it stands for, and the place after it. -/
def lineBreak? (c : Cursor) : Option (Char × Cursor) :=
  match c.rest with
  | '\r' :: '\n' :: _ => some ('\n', c.skip 2)
  | ch :: _ =>
    if ch == '\n' || ch == '\r' || ch == '\x85' then some ('\n', c.next)
    else if ch == '\u2028' || ch == '\u2029' then some (ch, c.next)
    else none
  | [] => none

/-- Whether three given characters and then a blank come next. -/
def atMark (c : Cursor) (mark : List Char) : Bool :=
  mark.isPrefixOf c.rest && isBlankOrEnd (c.peekAt mark.length)

/-- Whether a line that begins or ends a document comes next. -/
def atDocumentMark (c : Cursor) : Bool := c.atMark ['-', '-', '-'] || c.atMark ['.', '.', '.']

/-- The place after a comment, if one begins here. -/
def skipComment (c : Cursor) : Cursor :=
  if c.peek == '#' then c.skipWhile fun ch => !isBreakOrEnd ch else c

end Cursor

end DeskCalculator.Yaml
