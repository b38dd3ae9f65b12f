import DeskCalculator.Text.Letter

/-!
# Tokens

The lexical units of a calculator line: numbers, words and single symbols, each with
the column at which it starts.  Two words have a meaning of their own: `ans` stands for
the previous result, and `quit` and `exit` end a session.
-/

namespace DeskCalculator

/-- The lexical class of a token. -/
inductive TokenKind where
  | number
  | identifier
  | symbol
deriving Repr, DecidableEq

/-- A lexical unit and its column. -/
structure Token where
  kind : TokenKind
  text : List Char
  position : Nat := 0
deriving Repr, DecidableEq

/-- Whether a word stands for the previous result. -/
def isAnswerWord (word : List Char) : Bool := isKeyword "ans" word

/-- Whether a word ends the session. -/
def isExitWord (word : List Char) : Bool := isKeyword "quit" word || isKeyword "exit" word

namespace Token

/-- A token for the previous result. -/
def isAnswer (t : Token) : Bool := t.kind == .identifier && isAnswerWord t.text

/-- A token that ends the session. -/
def isExit (t : Token) : Bool := t.kind == .identifier && isExitWord t.text

/-- A token that stands for a value. -/
def isOperand (t : Token) : Bool := t.kind == .number || t.isAnswer

end Token

/-- The text of a line without the blanks between its tokens. -/
def joinTokens (tokens : List Token) : List Char := tokens.flatMap Token.text

/-- Whether a line asks to end the session. -/
def hasExit (tokens : List Token) : Bool := tokens.any Token.isExit

end DeskCalculator
