import DeskCalculator.Yaml.Cursor
import DeskCalculator.Yaml.Token

/-!
# The text of a scalar

A scalar is written plain, between quotes, or as a block of lines.  A line end inside a plain or
quoted scalar is folded: alone it stands for a space, and of several the first is dropped.

* `readPlain` — a plain scalar, to where its line or the block it is in ends.
* `readQuoted` — a quoted scalar, single or double.
* `readBlock` — a block of lines, kept or folded.
-/

namespace DeskCalculator.Yaml

/-! ## Plain scalars -/

/-- Whether a colon followed by a given character ends a plain scalar. -/
def colonEnds (flow : Bool) (following : Char) : Bool :=
  isBlankOrEnd following || (flow && [',', '[', ']', '\x7b', '\x7d'].contains following)

/-- Whether a character of its own ends a plain scalar inside brackets. -/
def endsInFlow (c : Char) : Bool := [',', '?', '[', ']', '\x7b', '\x7d'].contains c

/-- The characters of a plain scalar up to the next blank. -/
def plainPiece (flow : Bool) : List Char → List Char
  | [] => []
  | c :: rest =>
    if isBlankOrEnd c || (c == ':' && colonEnds flow (rest.headD endMark))
        || (flow && endsInFlow c) then []
    else c :: plainPiece flow rest

/-- The line ends and spaces that come next.  The answer is `none` after the line ends when a
line comes that begins or ends a document. -/
def plainBreaks (found : List Char) (c : Cursor) : Nat → Option (List Char) × Cursor
  | 0 => (some found.reverse, c)
  | fuel + 1 =>
    if c.peek == ' ' then plainBreaks found c.next fuel
    else
      match c.lineBreak? with
      | none => (some found.reverse, c)
      | some (ch, c) =>
        if c.atDocumentMark then (none, c) else plainBreaks (ch :: found) c fuel

/-- What line ends stand for: the first one, and those after it. -/
def folded (first : Char) (later : List Char) : List Char :=
  if first != '\n' then first :: later else if later.isEmpty then [' '] else later

/-- The blanks after a piece of a plain scalar by what they stand for, the place after them, and
whether a line ended. -/
def plainSpaces (c : Cursor) : List Char × Cursor × Bool :=
  let (spaces, c) := c.span (· == ' ')
  match c.lineBreak? with
  | none => (spaces, c, false)
  | some (first, c) =>
    if c.atDocumentMark then ([], c, true)
    else
      match plainBreaks [] c c.rest.length with
      | (some later, c) => (folded first later, c, true)
      | (none, c) => ([], c, true)

/-- A plain scalar that was read: its text, the place after it, and whether a key may begin
there. -/
structure PlainScalar where
  text : List Char
  cursor : Cursor
  keyAllowed : Bool

/-- Read on in a plain scalar.  Lines that go on must reach beyond a column, except inside
brackets. -/
def readPlainFrom (flow : Bool) (indent : Int) (text spaces : List Char) (c : Cursor)
    (keyAllowed : Bool) : Nat → PlainScalar
  | 0 => ⟨text, c, keyAllowed⟩
  | fuel + 1 =>
    if c.peek == '#' then ⟨text, c, keyAllowed⟩
    else
      let piece := plainPiece flow c.rest
      if piece.isEmpty then ⟨text, c, keyAllowed⟩
      else
        let text := text ++ spaces ++ piece
        let (spaces, c, newLine) := plainSpaces (c.skip piece.length)
        if spaces.isEmpty || c.peek == '#' || (!flow && (c.column : Int) < indent) then
          ⟨text, c, newLine⟩
        else readPlainFrom flow indent text spaces c newLine fuel

/-- Read a plain scalar. -/
def readPlain (flow : Bool) (indent : Int) (c : Cursor) : PlainScalar :=
  readPlainFrom flow indent [] [] c false (c.rest.length + 1)

/-! ## Quoted scalars -/

/-- What a letter after a backslash stands for. -/
def escapedChar? : Char → Option Char
  | '0' => some '\x00'
  | 'a' => some '\x07'
  | 'b' => some '\x08'
  | 't' => some '\t'
  | '\t' => some '\t'
  | 'n' => some '\n'
  | 'v' => some '\x0b'
  | 'f' => some '\x0c'
  | 'r' => some '\r'
  | 'e' => some '\x1b'
  | ' ' => some ' '
  | '"' => some '"'
  | '\\' => some '\\'
  | '/' => some '/'
  | 'N' => some '\x85'
  | '_' => some '\xa0'
  | 'L' => some '\u2028'
  | 'P' => some '\u2029'
  | _ => none

/-- The number of hexadecimal digits that follow a letter after a backslash. -/
def escapeWidth? : Char → Option Nat
  | 'x' => some 2
  | 'u' => some 4
  | 'U' => some 8
  | _ => none

/-- The number that hexadecimal digits write, if there are as many as are due. -/
def hexNumber? (width : Nat) (s : List Char) : Option Nat :=
  let digits := s.take width
  if digits.length < width then none
  else (digits.mapM Json.hexValue?).map fun values => values.foldl (fun n d => 16 * n + d) 0

/-- The least number that an escape cannot have. -/
def hugeNumber : Nat := 0x80000000

/-- The code point of a number that an escape writes.  Surrogates can be written. -/
def codePointOf (n : Nat) : Except ScalarFailure Nat :=
  if hugeNumber ≤ n then .error .hugeCodePoint
  else if 0x110000 ≤ n then .error .noCodePoint
  else .ok n

/-- The line ends inside a quoted scalar, with the blanks around them. -/
def quotedBreaks (found : List Char) (c : Cursor) : Nat → Except Failure (List Char × Cursor)
  | 0 => .ok (found.reverse, c)
  | fuel + 1 =>
    if c.atDocumentMark then .error .malformed
    else
      let c := c.skipWhile fun ch => ch == ' ' || ch == '\t'
      match c.lineBreak? with
      | none => .ok (found.reverse, c)
      | some (ch, c) => quotedBreaks (ch :: found) c fuel

/-- The blanks inside a quoted scalar by what they stand for. -/
def quotedSpaces (c : Cursor) : Except Failure (List Char × Cursor) :=
  let (spaces, c) := c.span fun ch => ch == ' ' || ch == '\t'
  if c.rest.isEmpty then .error .malformed
  else
    match c.lineBreak? with
    | none => .ok (spaces, c)
    | some (first, c) => do
      let (later, c) ← quotedBreaks [] c (c.rest.length + 1)
      .ok (folded first later, c)

/-- What an escape stands for, from the character after the backslash on. -/
def readEscape (c : Cursor) : Except Failure (CodePoints × Cursor) :=
  match escapedChar? c.peek with
  | some ch => .ok ([ch.toNat], c.next)
  | none =>
    match escapeWidth? c.peek with
    | some width =>
      match hexNumber? width c.next.rest with
      | none => .error .malformed
      | some n =>
        match codePointOf n with
        | .error e => .error (.badScalar e)
        | .ok code => .ok ([code], c.next.skip width)
    | none =>
      match c.lineBreak? with
      | some (_, c) => do
        let (breaks, c) ← quotedBreaks [] c (c.rest.length + 1)
        .ok (codePoints breaks, c)
      | none => .error .malformed

/-- Whether a character of a quoted scalar stands for itself, apart from the other quote. -/
def isPlainQuoted (c : Char) : Bool :=
  !(c == '\'' || c == '"' || c == '\\' || isBlankOrEnd c)

/-- The text of a quoted scalar up to the next blank or the closing quote. -/
def quotedPiece (double : Bool) (found : CodePoints) (c : Cursor) :
    Nat → Except Failure (CodePoints × Cursor)
  | 0 => .ok (found, c)
  | fuel + 1 =>
    let (piece, c) := c.span isPlainQuoted
    let found := found ++ codePoints piece
    let ch := c.peek
    if !double && ch == '\'' && c.peekAt 1 == '\'' then
      quotedPiece double (found ++ codePoints ['\'']) (c.skip 2) fuel
    else if (double && ch == '\'') || (!double && (ch == '"' || ch == '\\')) then
      quotedPiece double (found ++ codePoints [ch]) c.next fuel
    else if double && ch == '\\' then do
      let (escape, c) ← readEscape c.next
      quotedPiece double (found ++ escape) c fuel
    else .ok (found, c)

/-- Read on in a quoted scalar to its closing quote. -/
def readQuotedFrom (double : Bool) (found : CodePoints) (c : Cursor) :
    Nat → Except Failure (CodePoints × Cursor)
  | 0 => .error .malformed
  | fuel + 1 => do
    let (found, c) ← quotedPiece double found c (c.rest.length + 1)
    if c.peek == (if double then '"' else '\'') then .ok (found, c.next)
    else
      let (spaces, c) ← quotedSpaces c
      readQuotedFrom double (found ++ codePoints spaces) c fuel

/-- Read a quoted scalar from its opening quote on. -/
def readQuoted (double : Bool) (c : Cursor) : Except Failure (CodePoints × Cursor) :=
  readQuotedFrom double [] c.next (c.rest.length + 1)

/-! ## Blocks of lines -/

/-- What becomes of the line ends at the end of a block. -/
inductive Chomping where
  | strip
  | clip
  | keep
deriving Repr, DecidableEq

/-- The digit that says how far a block is indented. -/
def indentDigit? (c : Char) : Except Failure (Option Nat) :=
  match asciiDigit? c with
  | none => .ok none
  | some 0 => .error .malformed
  | some n => .ok (some n)

/-- The sign that says what becomes of the last line ends. -/
def chompingSign? (c : Char) : Option Chomping :=
  if c == '+' then some .keep else if c == '-' then some .strip else none

/-- The signs after the one that begins a block, in either order. -/
def blockSigns (c : Cursor) : Except Failure ((Chomping × Option Nat) × Cursor) := do
  let (chomping, increment?, c) ←
    match chompingSign? c.peek with
    | some chomping =>
      let c := c.next
      match ← indentDigit? c.peek with
      | some n => pure (chomping, some n, c.next)
      | none => pure (chomping, none, c)
    | none =>
      match ← indentDigit? c.peek with
      | some n =>
        let c := c.next
        match chompingSign? c.peek with
        | some chomping => pure (chomping, some n, c.next)
        | none => pure (.clip, some n, c)
      | none => pure (.clip, none, c)
  if isSpaceOrEnd c.peek then .ok ((chomping, increment?), c) else .error .malformed

/-- The rest of the line on which a block begins. -/
def blockHeaderEnd (c : Cursor) : Except Failure Cursor :=
  let c := (c.skipWhile (· == ' ')).skipComment
  if isBreakOrEnd c.peek then
    match c.lineBreak? with
    | some (_, c) => .ok c
    | none => .ok c
  else .error .malformed

/-- The empty lines before the first line of a block, and the greatest column that its spaces
reach. -/
def blockIndentation (found : List Char) (greatest : Nat) (c : Cursor) :
    Nat → List Char × Nat × Cursor
  | 0 => (found.reverse, greatest, c)
  | fuel + 1 =>
    if c.peek == ' ' then
      let c := c.next
      blockIndentation found (max greatest c.column) c fuel
    else
      match c.lineBreak? with
      | some (ch, c) => blockIndentation (ch :: found) greatest c fuel
      | none => (found.reverse, greatest, c)

/-- Skip spaces up to a column. -/
def skipToColumn (column : Nat) (c : Cursor) : Nat → Cursor
  | 0 => c
  | fuel + 1 => if c.column < column && c.peek == ' ' then skipToColumn column c.next fuel else c

/-- The empty lines that come next in a block, and the place where the next line of text begins. -/
def blockBreaks (column : Nat) (found : List Char) (c : Cursor) : Nat → List Char × Cursor
  | 0 => (found.reverse, c)
  | fuel + 1 =>
    let c := skipToColumn column c column
    match c.lineBreak? with
    | some (ch, c) => blockBreaks column (ch :: found) c fuel
    | none => (found.reverse, c)

/-- Read the lines of a block.  `last` is the end of the line before, `breaks` the empty lines
after it. -/
def blockLines (fold : Bool) (column : Nat) (text last breaks : List Char) (c : Cursor) :
    Nat → List Char × List Char × List Char × Cursor
  | 0 => (text, last, breaks, c)
  | fuel + 1 =>
    if c.column == column && !c.rest.isEmpty then
      let text := text ++ breaks
      let startsPlain := !(c.peek == ' ' || c.peek == '\t')
      let (line, c) := c.span fun ch => !isBreakOrEnd ch
      let text := text ++ line
      let (last, c) := match c.lineBreak? with
        | some (ch, c) => ([ch], c)
        | none => ([], c)
      let (breaks, c) := blockBreaks column [] c (c.rest.length + 1)
      if c.column == column && !c.rest.isEmpty then
        let joined :=
          if fold && last == ['\n'] && startsPlain && !(c.peek == ' ' || c.peek == '\t') then
            if breaks.isEmpty then [' '] else []
          else last
        blockLines fold column (text ++ joined) last breaks c fuel
      else (text, last, breaks, c)
    else (text, last, breaks, c)

/-- Read a block of lines from its sign on, inside a block of the given column. -/
def readBlock (fold : Bool) (indent : Int) (c : Cursor) : Except Failure (List Char × Cursor) := do
  let ((chomping, increment?), c) ← blockSigns c.next
  let c ← blockHeaderEnd c
  let least := (max (indent + 1) 1).toNat
  let (breaks, column, c) : List Char × Nat × Cursor :=
    match increment? with
    | none =>
      let (breaks, greatest, c) := blockIndentation [] 0 c (c.rest.length + 1)
      (breaks, max least greatest, c)
    | some n =>
      let column := least + n - 1
      let (breaks, c) := blockBreaks column [] c (c.rest.length + 1)
      (breaks, column, c)
  let (text, last, breaks, c) := blockLines fold column [] [] breaks c (c.rest.length + 1)
  let ending := match chomping with
    | .strip => []
    | .clip => last
    | .keep => last ++ breaks
  .ok (text ++ ending, c)

end DeskCalculator.Yaml
