/-!
# Operations and brackets

The six symbols of an expression: four operations in two tiers, and the two brackets.
`Symbol.reducesBefore` is the rule by which a waiting symbol is applied before a new one
is taken in.
-/

namespace DeskCalculator

/-! ## Operations -/

/-- An arithmetic operation. -/
inductive Operation where
  | sum
  | subtraction
  | multiplication
  | division
deriving Repr, DecidableEq

namespace Operation

/-- The symbol that writes the operation. -/
def symbol : Operation → Char
  | .sum => '+'
  | .subtraction => '-'
  | .multiplication => '*'
  | .division => '/'

/-- Sums and differences. -/
def isAdditive : Operation → Bool
  | .sum | .subtraction => true
  | .multiplication | .division => false

/-- Products and quotients. -/
def isMultiplicative (o : Operation) : Bool := !o.isAdditive

/-- The operation on doubles.  A quotient by zero is infinite, or no number at all. -/
def apply : Operation → Float → Float → Float
  | .sum, a, b => a + b
  | .subtraction, a, b => a - b
  | .multiplication, a, b => a * b
  | .division, a, b => a / b

end Operation

/-! ## Symbols -/

/-- A symbol of an expression. -/
inductive Symbol where
  | operation (o : Operation)
  | opening
  | closing
deriving Repr, DecidableEq

namespace Symbol

/-- The character that writes the symbol. -/
def char : Symbol → Char
  | .operation o => o.symbol
  | .opening => '('
  | .closing => ')'

/-- The symbol that a text writes. -/
def ofText? : List Char → Option Symbol
  | ['+'] => some (.operation .sum)
  | ['-'] => some (.operation .subtraction)
  | ['*'] => some (.operation .multiplication)
  | ['/'] => some (.operation .division)
  | ['('] => some .opening
  | [')'] => some .closing
  | _ => none

theorem ofText?_eq_some_iff {s : List Char} {x : Symbol} :
    ofText? s = some x ↔ s = [x.char] := by
  constructor
  · intro h
    unfold ofText? at h
    split at h <;> cases h <;> rfl
  · rintro rfl
    cases x with
    | operation o => cases o <;> rfl
    | opening => rfl
    | closing => rfl

/-- Whether the symbol is a bracket. -/
def isBracket : Symbol → Bool
  | .operation _ => false
  | .opening | .closing => true

/-- Whether the symbol is a sum or a difference. -/
def isAdditive : Symbol → Bool
  | .operation o => o.isAdditive
  | .opening | .closing => false

/-- Whether the symbol is a product or a quotient. -/
def isMultiplicative : Symbol → Bool
  | .operation o => o.isMultiplicative
  | .opening | .closing => false

/-- Whether a symbol that waits is applied before a new one is taken in: an operation of the
same or a higher tier is, so that equals group to the left; a bracket neither is applied
nor makes another symbol be. -/
def reducesBefore : Symbol → Symbol → Bool
  | .operation waiting, .operation incoming => waiting.isMultiplicative || incoming.isAdditive
  | _, _ => false

end Symbol

end DeskCalculator
