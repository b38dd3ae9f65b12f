import DeskCalculator.Text.CodePoint
import DeskCalculator.Text.Pieces
import DeskCalculator.Text.Utf8

/-!
# File paths

A path is a root and the names below it.  Reading a path drops what does not matter: repeated
slashes, the name `.`, and a slash at the end.  The name `..` is kept, since it need not undo
the name before it.  Two slashes in front are a root of their own; three or more are one.

A name is a text that may have surrogates.  Some of them stand for bytes in the name that a file
has in the system; with another one a path is of no use there.

* `FilePath.ofCodePoints` and `FilePath.text` — reading and writing.
* `FilePath.way` — the names before the last one.
* `FilePath.systemNames?` — the names as they are in the system.
-/

namespace DeskCalculator

/-- A path: what stands before the first name, and the names. -/
structure FilePath where
  root : List Char
  names : List CodePoints
deriving Repr, DecidableEq

namespace FilePath

/-! ## Reading and writing -/

/-- Whether a code point is the slash between names. -/
def isSlash (n : Nat) : Bool := n == '/'.toNat

/-- Whether a piece between slashes is a name that counts. -/
def isName (piece : CodePoints) : Bool := !piece.isEmpty && piece != codePoints ['.']

/-- The root that a text begins with. -/
def rootOf (s : CodePoints) : List Char :=
  match (s.takeWhile isSlash).length with
  | 0 => []
  | 2 => ['/', '/']
  | _ => ['/']

/-- Read a path. -/
def ofCodePoints (s : CodePoints) : FilePath := ⟨rootOf s, (piecesAt isSlash [] s).filter isName⟩

/-- Read a path from a text of characters. -/
def ofText (s : List Char) : FilePath := ofCodePoints (codePoints s)

/-- Write a path.  The path without root and names is the working directory. -/
def text (p : FilePath) : CodePoints :=
  let s := codePoints p.root ++ joinWith (codePoints ['/']) p.names
  if s.isEmpty then codePoints ['.'] else s

/-- A path in a message. -/
def shown (p : FilePath) : List Char := p.text.joined

/-! ## Parts -/

/-- The name that leads one directory back. -/
def backName : List Char := ['.', '.']

/-- The names before the last one. -/
def way (p : FilePath) : List CodePoints := p.names.dropLast

/-! ## In the system -/

/-- The bytes that stand for a code point of a name: a character has its own, and a surrogate may
stand for one byte that is none of ASCII. -/
def nameBytes? (n : Nat) : Option (List Nat) :=
  if isSurrogate n then if 0xDC80 ≤ n && n ≤ 0xDCFF then some [n - 0xDC00] else none
  else some ((String.utf8EncodeChar (Char.ofNat n)).map UInt8.toNat)

/-- A name as it is in the system, if it can be encoded.  Bytes that encode no character are
replaced. -/
def systemName? (name : CodePoints) : Option (List Char) :=
  (name.mapM nameBytes?).map fun bytes => (decodeUtf8? bytes.flatten).getD name.replaced

/-- The names of a path as they are in the system, if they can be encoded. -/
def systemNames? (p : FilePath) : Option (List (List Char)) := p.names.mapM systemName?

/-- A path with its names as they are in the system. -/
def systemText (p : FilePath) (names : List (List Char)) : List Char :=
  let s := p.root ++ joinWith ['/'] names
  if s.isEmpty then ['.'] else s

/-- Whether the null character is in a path. -/
def hasNull (p : FilePath) : Bool := p.names.any fun name => name.contains 0

/-- What is said of a path with the null character. -/
def nullMessage : List Char := "embedded null byte".toList

/-- Why a path cannot be given to the system, if it cannot. -/
def objection? (p : FilePath) : Option (List Char) :=
  if p.systemNames?.isNone then some p.text.objection
  else if p.hasNull then some nullMessage
  else none

example : systemName? [0xDCC3, 0xDCA9, 0x2E] = some ['é', '.'] := by decide
example : systemName? [0xD83D, 0xDE00] = none := by decide

end FilePath

end DeskCalculator
