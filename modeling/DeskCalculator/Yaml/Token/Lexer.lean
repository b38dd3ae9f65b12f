import DeskCalculator.Yaml.ScalarText
import DeskCalculator.Yaml.Token.Name

/-!
# From a document to its tokens

Columns decide where blocks begin and end: a block begins where an entry or a key stands further
to the right than the block around it, and ends where a line begins further to the left.  Whether
something is a key is known only when its colon comes, so the token for it is put in afterwards.

* `LexState` — what has been read, the columns of the open blocks, and the possible keys.
* `LexState.fetchHere` — the next token.
* `tokensOf` — all tokens of a document, as far as it can be read.
-/

namespace DeskCalculator.Yaml

/-! ## The state -/

/-- A place where a key may have begun. -/
structure PossibleKey where
  /-- The number of brackets around it. -/
  level : Nat
  /-- The number of tokens before it. -/
  tokenNumber : Nat
  /-- Whether it has to be a key, since it stands where the block's keys do. -/
  required : Bool
  index : Nat
  line : Nat
  column : Nat
deriving Repr

/-- What has been read of a document. -/
structure LexState where
  cursor : Cursor
  tokens : Array Token := #[]
  /-- The number of brackets around the place. -/
  flow : Nat := 0
  /-- The column of the block that is open. -/
  indent : Int := -1
  /-- The columns of the blocks around it, the nearest first. -/
  outer : List Int := []
  /-- Whether a key may begin at the place. -/
  keyAllowed : Bool := true
  keys : List PossibleKey := []
deriving Repr

namespace LexState

/-- Whether the place is inside brackets. -/
def inFlow (st : LexState) : Bool := st.flow != 0

/-- Add a token. -/
def emit (st : LexState) (t : Token) : LexState := { st with tokens := st.tokens.push t }

/-- Put a token before those from a given number on. -/
def insert (st : LexState) (number : Nat) (t : Token) : LexState :=
  let before := st.tokens.extract 0 number
  { st with tokens := before.push t ++ st.tokens.extract number st.tokens.size }

/-! ## Possible keys -/

/-- Forget the keys that cannot be keys any more: those on an earlier line and those too long
ago.  One that had to be a key is an error. -/
def dropStaleKeys (st : LexState) : Except Failure LexState :=
  let isStale (k : PossibleKey) : Bool :=
    k.line != st.cursor.line || 1024 < st.cursor.index - k.index
  if st.keys.any fun k => isStale k && k.required then .error .malformed
  else .ok { st with keys := st.keys.filter fun k => !isStale k }

/-- Forget the possible key inside the present brackets. -/
def dropKey (st : LexState) : Except Failure LexState :=
  if st.keys.any fun k => k.level == st.flow && k.required then .error .malformed
  else .ok { st with keys := st.keys.filter fun k => k.level != st.flow }

/-- Note that a key may begin here. -/
def saveKey (st : LexState) : Except Failure LexState :=
  if st.keyAllowed then do
    let st ← st.dropKey
    let c := st.cursor
    let key : PossibleKey :=
      ⟨st.flow, st.tokens.size, !st.inFlow && st.indent == (c.column : Int), c.index, c.line,
        c.column⟩
    .ok { st with keys := key :: st.keys }
  else .ok st

/-! ## Blocks -/

/-- End the blocks that lie further to the right than a column. -/
def unwind (column : Int) : List Int → LexState → LexState
  | [], st => st
  | next :: rest, st =>
    if column < st.indent then
      unwind column rest { (st.emit .blockEnd) with indent := next, outer := rest }
    else st

/-- End the blocks that lie further to the right than a column, outside brackets. -/
def unwindTo (st : LexState) (column : Int) : LexState :=
  if st.inFlow then st else unwind column st.outer st

/-- Begin a block at a column if that is further to the right than the one that is open, with
a token that goes before those from a given number on. -/
def openBlock (st : LexState) (column : Nat) (number : Nat) (t : Token) : LexState :=
  if st.indent < (column : Int) then
    { (st.insert number t) with outer := st.indent :: st.outer, indent := column }
  else st

/-! ## Fetching -/

/-- Go to a place. -/
def moveTo (st : LexState) (c : Cursor) : LexState := { st with cursor := c }

/-- Skip spaces, comments and line ends.  A line end allows a key outside brackets. -/
def skipBlanks (st : LexState) : Nat → LexState
  | 0 => st
  | fuel + 1 =>
    let c := (st.cursor.skipWhile (· == ' ')).skipComment
    match c.lineBreak? with
    | some (_, c) =>
      skipBlanks { st with cursor := c, keyAllowed := st.keyAllowed || !st.inFlow } fuel
    | none => st.moveTo c

/-- A sign that begins or ends a document, or a directive: all blocks end before it. -/
def fetchMark (st : LexState) (t : Token) (c : Cursor) : Except Failure LexState := do
  let st ← (st.unwindTo (-1)).dropKey
  .ok { (st.emit t) with keyAllowed := false, cursor := c }

/-- An opening bracket. -/
def fetchFlowStart (st : LexState) (t : Token) : Except Failure LexState := do
  let st ← st.saveKey
  .ok { (st.emit t) with flow := st.flow + 1, keyAllowed := true, cursor := st.cursor.next }

/-- A closing bracket. -/
def fetchFlowEnd (st : LexState) (t : Token) : Except Failure LexState := do
  let st ← st.dropKey
  if st.inFlow then
    .ok { (st.emit t) with flow := st.flow - 1, keyAllowed := false, cursor := st.cursor.next }
  else .error .malformed

/-- A comma between brackets. -/
def fetchFlowEntry (st : LexState) : Except Failure LexState := do
  let st ← st.dropKey
  .ok { (st.emit .flowEntry) with keyAllowed := true, cursor := st.cursor.next }

/-- A dash before an entry. -/
def fetchBlockEntry (st : LexState) : Except Failure LexState := do
  if !st.inFlow && !st.keyAllowed then .error .malformed
  else
    let st := if st.inFlow then st
      else st.openBlock st.cursor.column st.tokens.size .blockSequenceStart
    let st ← st.dropKey
    .ok { (st.emit .blockEntry) with keyAllowed := true, cursor := st.cursor.next }

/-- A question mark before a key. -/
def fetchKey (st : LexState) : Except Failure LexState := do
  if !st.inFlow && !st.keyAllowed then .error .malformed
  else
    let st := if st.inFlow then st
      else st.openBlock st.cursor.column st.tokens.size .blockMappingStart
    let st ← st.dropKey
    .ok { (st.emit .key) with keyAllowed := !st.inFlow, cursor := st.cursor.next }

/-- A colon.  If a key may have begun before, it did. -/
def fetchValue (st : LexState) : Except Failure LexState := do
  match st.keys.find? (·.level == st.flow) with
  | some k =>
    let st := { st with keys := st.keys.filter fun k => k.level != st.flow }
    let st := st.insert k.tokenNumber .key
    let st := if st.inFlow then st else st.openBlock k.column k.tokenNumber .blockMappingStart
    .ok { (st.emit .value) with keyAllowed := false, cursor := st.cursor.next }
  | none =>
    if !st.inFlow && !st.keyAllowed then .error .malformed
    else
      let st := if st.inFlow then st
        else st.openBlock st.cursor.column st.tokens.size .blockMappingStart
      let st := { st with keyAllowed := !st.inFlow }
      let st ← st.dropKey
      .ok { (st.emit .value) with cursor := st.cursor.next }

/-- A token after which no key may begin, but that may be a key itself. -/
def fetchLeaf (st : LexState) (read : Cursor → Except Failure (Token × Cursor)) :
    Except Failure LexState := do
  let st ← st.saveKey
  let (t, c) ← read st.cursor
  .ok { (st.emit t) with keyAllowed := false, cursor := c }

/-- A block of lines. -/
def fetchBlock (st : LexState) (fold : Bool) : Except Failure LexState := do
  let st ← st.dropKey
  let (text, c) ← readBlock fold st.indent st.cursor
  .ok { (st.emit (.scalar false (codePoints text))) with keyAllowed := true, cursor := c }

/-- A plain scalar. -/
def fetchPlain (st : LexState) : Except Failure LexState := do
  let st ← st.saveKey
  let s := readPlain st.inFlow (st.indent + 1) st.cursor
  .ok
    { (st.emit (.scalar true (codePoints s.text))) with
      keyAllowed := s.keyAllowed, cursor := s.cursor }

/-- Whether a plain scalar may begin with the character at a place. -/
def beginsPlain (st : LexState) : Bool :=
  let c := st.cursor.peek
  !(isBlankOrEnd c || "-?:,[]\x7b\x7d#&*!|>'\"%@`".toList.contains c)
    || (!isBlankOrEnd (st.cursor.peekAt 1)
      && (c == '-' || (!st.inFlow && (c == '?' || c == ':'))))

/-- Fetch the token that begins at the place. -/
def fetchHere (st : LexState) : Except Failure LexState :=
  let c := st.cursor
  let ch := c.peek
  let alone := isBlankOrEnd (c.peekAt 1)
  if ch == '%' && c.column == 0 then do
    let (d, after) ← readDirective c
    st.fetchMark (.directive d) after
  else if c.column == 0 && c.atMark ['-', '-', '-'] then st.fetchMark .documentStart (c.skip 3)
  else if c.column == 0 && c.atMark ['.', '.', '.'] then st.fetchMark .documentEnd (c.skip 3)
  else if ch == '[' then st.fetchFlowStart .flowSequenceStart
  else if ch == '\x7b' then st.fetchFlowStart .flowMappingStart
  else if ch == ']' then st.fetchFlowEnd .flowSequenceEnd
  else if ch == '\x7d' then st.fetchFlowEnd .flowMappingEnd
  else if ch == ',' then st.fetchFlowEntry
  else if ch == '-' && alone then st.fetchBlockEntry
  else if ch == '?' && (st.inFlow || alone) then st.fetchKey
  else if ch == ':' && (st.inFlow || alone) then st.fetchValue
  else if ch == '*' then
    st.fetchLeaf fun c => (readName c).map fun (name, c) => (.alias name, c)
  else if ch == '&' then
    st.fetchLeaf fun c => (readName c).map fun (name, c) => (.anchor name, c)
  else if ch == '!' then st.fetchLeaf fun c => (readTag c).map fun (t, c) => (.tag t, c)
  else if ch == '|' && !st.inFlow then st.fetchBlock false
  else if ch == '>' && !st.inFlow then st.fetchBlock true
  else if ch == '\'' then
    st.fetchLeaf fun c => (readQuoted false c).map fun (s, c) => (.scalar false s, c)
  else if ch == '"' then
    st.fetchLeaf fun c => (readQuoted true c).map fun (s, c) => (.scalar false s, c)
  else if st.beginsPlain then st.fetchPlain
  else .error .malformed

/-! ## Fetching all -/

/-- The number of tokens that nothing will be put in front of any more. -/
def settled (st : LexState) : Nat :=
  st.keys.foldl (fun n k => min n k.tokenNumber) st.tokens.size

/-- The first tokens, when the document cannot be read on. -/
def breakOff (st : LexState) (count : Nat) (e : Failure) : Array Token :=
  (st.tokens.extract 0 count).push (.broken e)

/-- Fetch what comes next, and say whether it is the end of the document. -/
def fetchNext (st : LexState) : Except Failure (LexState × Bool) := do
  let st ← (st.skipBlanks (st.cursor.rest.length + 1)).dropStaleKeys
  let st := st.unwindTo st.cursor.column
  if st.cursor.rest.isEmpty then .ok (← (st.unwindTo (-1)).dropKey, true)
  else .ok (← st.fetchHere, false)

/-- Fetch all tokens from the place on.  `count` is the number of tokens that were settled before
the last one was fetched; when the document cannot be read on, only settled tokens are known. -/
def fetchAll (st : LexState) (count : Nat) : Nat → Array Token
  | 0 => st.breakOff count .malformed
  | fuel + 1 =>
    match st.dropStaleKeys with
    | .error e => st.breakOff count e
    | .ok st =>
      match st.fetchNext with
      | .error e => st.breakOff st.settled e
      | .ok (last, true) => last.tokens
      | .ok (next, false) => next.fetchAll st.settled fuel

end LexState

/-- The tokens of a document.  A byte order mark in front does not count. -/
def tokensOf (text : List Char) : List Token :=
  if text.all isAllowed then
    let start : Cursor := { rest := text }
    let start := if start.peek == '\ufeff' then start.next else start
    (({ cursor := start : LexState }).fetchAll 0 (text.length + 1)).toList
  else [.broken .malformed]

end DeskCalculator.Yaml
