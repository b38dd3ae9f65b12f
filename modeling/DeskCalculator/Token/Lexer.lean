import DeskCalculator.Token
import DeskCalculator.Text.Blank
import DeskCalculator.Text.DecimalDigit

/-!
# From a line to its tokens

A line is read from left to right, each time taking the longest lexeme that begins where the
last one ended: a run of blanks, a number, a word or one symbol.

* `Lexeme.munch?` — the lexeme at the front of a text.
* `tokenize` — all tokens of a line, or the first character that begins none.
* `words` and `mentionsExit` — the words of a line that may not have tokens at all.

`IsNumber`, `IsIdentifier` and `IsSymbol` are the three classes as predicates on texts.
-/

namespace DeskCalculator

/-! ## Classes of texts -/

/-- A character that begins a word. -/
def isWordStart (c : Char) : Bool := isLetter c || c == '_'

/-- A character that continues a word. -/
def isWordChar (c : Char) : Bool := isWordStart c || isDigit c

/-- One of the six symbols. -/
def isSymbolChar (c : Char) : Bool :=
  c == '(' || c == ')' || c == '*' || c == '/' || c == '+' || c == '-'

/-- The text of a number: digits, and with a point at least one more digit after it. -/
def isNumber (s : List Char) : Bool :=
  let whole := s.takeWhile isDigit
  !whole.isEmpty &&
    match s.dropWhile isDigit with
    | [] => true
    | point :: fraction => point == '.' && !fraction.isEmpty && fraction.all isDigit

/-- The text of a word. -/
def isIdentifier : List Char → Bool
  | [] => false
  | c :: rest => isWordStart c && rest.all isWordChar

/-- The text of a symbol. -/
def isSymbol : List Char → Bool
  | [c] => isSymbolChar c
  | _ => false

/-- Whether a text is one of a given class. -/
def TokenKind.accepts : TokenKind → List Char → Bool
  | .number => isNumber
  | .identifier => isIdentifier
  | .symbol => isSymbol

/-! ## The lexeme at the front -/

/-- The extent of a lexeme, and its class unless it is a run of blanks. -/
structure Lexeme where
  kind? : Option TokenKind
  length : Nat
deriving Repr, DecidableEq

/-- The length of the number at the front of a text that begins with a digit. -/
def numberLength (s : List Char) : Nat :=
  let whole := (s.takeWhile isDigit).length
  match s.dropWhile isDigit with
  | '.' :: rest =>
    let fraction := (rest.takeWhile isDigit).length
    if fraction = 0 then whole else whole + 1 + fraction
  | _ => whole

/-- The longest lexeme at the front of a text. -/
def Lexeme.munch? : List Char → Option Lexeme
  | [] => none
  | c :: rest =>
    if isBlank c then some ⟨none, ((c :: rest).takeWhile isBlank).length⟩
    else if isDigit c then some ⟨some .number, numberLength (c :: rest)⟩
    else if isWordStart c then
      some ⟨some .identifier, ((c :: rest).takeWhile isWordChar).length⟩
    else if isSymbolChar c then some ⟨some .symbol, 1⟩
    else none

/-! ## All tokens -/

/-- A character at which no lexeme begins, and its column. -/
structure LexFailure where
  found : Char
  column : Nat
deriving Repr, DecidableEq

/-- Put the tokens from a column on behind those that were found before, which are given in
reverse.  The first `skip` characters belong to a lexeme that was taken already. -/
def tokenizeFrom (found : List Token) (column skip : Nat) :
    List Char → Except LexFailure (List Token)
  | [] => .ok found.reverse
  | c :: rest =>
    match skip with
    | skip + 1 => tokenizeFrom found (column + 1) skip rest
    | 0 =>
      match Lexeme.munch? (c :: rest) with
      | none => .error ⟨c, column⟩
      | some ⟨none, length⟩ => tokenizeFrom found (column + 1) (length - 1) rest
      | some ⟨some kind, length⟩ =>
        tokenizeFrom (⟨kind, (c :: rest).take length, column⟩ :: found) (column + 1)
          (length - 1) rest

/-- The tokens of a line, in order. -/
def tokenize (line : List Char) : Except LexFailure (List Token) := tokenizeFrom [] 0 0 line

/-! ## Words -/

/-- The words of a text, given the reversed beginning of one that is being read. -/
def wordsFrom (begun : List Char) : List Char → List (List Char)
  | [] => if begun.isEmpty then [] else [begun.reverse]
  | c :: rest =>
    if begun.isEmpty then wordsFrom (if isWordStart c then [c] else []) rest
    else if isWordChar c then wordsFrom (c :: begun) rest
    else begun.reverse :: wordsFrom [] rest

/-- The words of a text from left to right, whatever stands between them. -/
def words (text : List Char) : List (List Char) := wordsFrom [] text

/-- Whether a line that may not have tokens asks to end the session. -/
def mentionsExit (line : List Char) : Bool := (words line).any isExitWord

end DeskCalculator
