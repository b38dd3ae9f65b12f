import DeskCalculator.Text.Utf8
import DeskCalculator.Yaml.Cursor
import DeskCalculator.Yaml.Token

/-!
# Names, tags and directives

The lexemes of a document that begin with an ampersand, an asterisk, an exclamation mark or a
percent sign.
-/

namespace DeskCalculator.Yaml

/-! ## Anchors -/

/-- A character of a name. -/
def isNameChar (c : Char) : Bool := isLetter c || isDigit c || c == '-' || c == '_'

/-- The name of an anchor, from the sign before it on. -/
def readName (c : Cursor) : Except Failure (List Char × Cursor) :=
  let (name, c) := c.next.span isNameChar
  let follows := isBlankOrEnd c.peek || "?:,]\x7d%@`".toList.contains c.peek
  if name.isEmpty || !follows then .error .malformed else .ok (name, c)

/-! ## Tags -/

/-- A character of a tag, apart from the percent sign. -/
def isTagChar (c : Char) : Bool :=
  isLetter c || isDigit c || "-;/?:@&=+$,_.!~*'()[]".toList.contains c

/-- The byte that a percent sign and two hexadecimal digits write. -/
def escapedByte? (c : Cursor) : Option Nat :=
  match c.rest with
  | '%' :: a :: b :: _ => do return (← Json.hexValue? a) * 16 + (← Json.hexValue? b)
  | _ => none

/-- The bytes that come next, each after a percent sign. -/
def readBytes (c : Cursor) : Nat → Except Failure (List Nat × Cursor)
  | 0 => .ok ([], c)
  | fuel + 1 =>
    if c.peek == '%' then
      match escapedByte? c with
      | none => .error .malformed
      | some byte => do
        let (bytes, c) ← readBytes (c.skip 3) fuel
        .ok (byte :: bytes, c)
    else .ok ([], c)

/-- The text of a tag.  Bytes that follow each other have to encode characters. -/
def readTagText (found : List Char) (c : Cursor) : Nat → Except Failure (List Char × Cursor)
  | 0 => .ok (found, c)
  | fuel + 1 => do
    let (piece, c) := c.span isTagChar
    let found := found ++ piece
    if c.peek == '%' then
      let (bytes, c) ← readBytes c (c.rest.length + 1)
      match decodeUtf8? bytes with
      | none => .error .malformed
      | some chars => readTagText (found ++ chars) c fuel
    else if found.isEmpty then .error .malformed
    else .ok (found, c)

/-- Whether another exclamation mark comes before the next space. -/
def hasHandle (c : Cursor) : Bool :=
  (c.next.rest.takeWhile fun ch => !isSpaceOrEnd ch).contains '!'

/-- The handle of a tag: a name between exclamation marks. -/
def readHandle (c : Cursor) : Except Failure (List Char × Cursor) :=
  if c.peek == '!' then
    let (name, after) := c.next.span isNameChar
    if after.peek == '!' then .ok ('!' :: name ++ ['!'], after.next)
    else if c.peekAt 1 == ' ' then .ok (['!'], c.next)
    else .error .malformed
  else .error .malformed

/-- Read a tag from its exclamation mark on. -/
def readTag (c : Cursor) : Except Failure (TagText × Cursor) := do
  let (tag, c) ←
    if c.peekAt 1 == '<' then
      let (suffix, c) ← readTagText [] (c.skip 2) c.rest.length
      if c.peek == '>' then pure (⟨none, suffix⟩, c.next) else .error .malformed
    else if isBlankOrEnd (c.peekAt 1) then pure (⟨none, ['!']⟩, c.next)
    else if hasHandle c then
      let (handle, c) ← readHandle c
      let (suffix, c) ← readTagText [] c (c.rest.length + 1)
      pure (⟨some handle, suffix⟩, c)
    else
      let (suffix, c) ← readTagText [] c.next (c.rest.length + 1)
      pure (⟨some ['!'], suffix⟩, c)
  if isSpaceOrEnd c.peek then .ok (tag, c) else .error .malformed

/-! ## Directives -/

/-- A number of a version. -/
def readVersionPart (c : Cursor) : Except Failure (Nat × Cursor) :=
  let (digits, c) := c.span isDigit
  if digits.isEmpty then .error .malformed
  else if maxIntegerDigits < digits.length then
    .error (.badScalar (.tooManyDigits digits.length))
  else .ok (digitsValue digits, c)

/-- What the directive of a given name says. -/
def readDirectiveValue (name : List Char) (c : Cursor) : Except Failure (Directive × Cursor) := do
  let skipSpaces (c : Cursor) := c.skipWhile (· == ' ')
  match String.ofList name with
  | "YAML" =>
    let (major, c) ← readVersionPart (skipSpaces c)
    if c.peek == '.' then
      let (_, c) ← readVersionPart c.next
      if isSpaceOrEnd c.peek then .ok (.version major, c) else .error .malformed
    else .error .malformed
  | "TAG" =>
    let (handle, c) ← readHandle (skipSpaces c)
    if c.peek == ' ' then
      let (start, c) ← readTagText [] (skipSpaces c) (c.rest.length + 1)
      if isSpaceOrEnd c.peek then .ok (.tag handle start, c) else .error .malformed
    else .error .malformed
  | _ => .ok (.other, c.skipWhile fun ch => !isBreakOrEnd ch)

/-- Read a directive from its percent sign on, to the end of its line. -/
def readDirective (c : Cursor) : Except Failure (Directive × Cursor) := do
  let (name, c) := c.next.span isNameChar
  if name.isEmpty || !isSpaceOrEnd c.peek then .error .malformed
  else
    let (d, c) ← readDirectiveValue name c
    let c := (c.skipWhile (· == ' ')).skipComment
    if isBreakOrEnd c.peek then
      match c.lineBreak? with
      | some (_, c) => .ok (d, c)
      | none => .ok (d, c)
    else .error .malformed

end DeskCalculator.Yaml
