import DeskCalculator.Expr.Basic

/-!
# The grammar of expressions

What a list of tokens writes, said without a parser.  A sum is made of products, a product of
factors, and a factor is an operand or a sum in brackets; operations of one tier group to the
left.

* `Token.symbol?` — the symbol that a token stands for.
* `Writes` — the relation between a list of tokens and the tree it writes, for each tier.
* `bracketDepth?` — how deep the brackets are after a list of tokens.
-/

namespace DeskCalculator

/-- The symbol that a token stands for, unless it is an operand. -/
def Token.symbol? (t : Token) : Option Symbol :=
  if t.isOperand then none else Symbol.ofText? t.text

/-- The tiers of the grammar, from the loosest to the tightest. -/
inductive Tier where
  | sum
  | product
  | factor
deriving Repr, DecidableEq

/-- The tier of the left side of an operation. -/
def Operation.tier (o : Operation) : Tier := if o.isAdditive then .sum else .product

/-- The tier of the right side of an operation, one tighter than the left side. -/
def Operation.rightTier (o : Operation) : Tier := if o.isAdditive then .product else .factor

/-- A list of tokens writes a tree in a tier; `resolve` says what an operand stands for. -/
inductive Writes {α : Type} (resolve : List Char → Except Failure α) :
    Tier → List Token → Expr α → Prop
  /-- An operand writes its value. -/
  | operand {t : Token} {a : α} :
      t.isOperand = true → resolve t.text = .ok a → Writes resolve .factor [t] (.value a)
  /-- A sum in brackets is a factor. -/
  | brackets {opening closing : Token} {tokens : List Token} {e : Expr α} :
      opening.symbol? = some .opening → closing.symbol? = some .closing →
      Writes resolve .sum tokens e → Writes resolve .factor (opening :: (tokens ++ [closing])) e
  /-- A factor is a product. -/
  | product {tokens : List Token} {e : Expr α} :
      Writes resolve .factor tokens e → Writes resolve .product tokens e
  /-- A product is a sum. -/
  | sum {tokens : List Token} {e : Expr α} :
      Writes resolve .product tokens e → Writes resolve .sum tokens e
  /-- An operation joins what it has on its left with something tighter on its right. -/
  | join {left right : List Token} {t : Token} {o : Operation} {l r : Expr α} :
      Writes resolve o.tier left l → t.symbol? = some (.operation o) →
      Writes resolve o.rightTier right r →
      Writes resolve o.tier (left ++ t :: right) (.node o l r)

/-- A list of tokens that writes something is not empty. -/
theorem Writes.ne_nil {α : Type} {resolve : List Char → Except Failure α} {tier : Tier}
    {tokens : List Token} {e : Expr α} (h : Writes resolve tier tokens e) : tokens ≠ [] := by
  induction h with
  | operand | brackets | join => simp
  | product _ ih | sum _ ih => exact ih

/-- How deep the brackets are after a list of tokens; `none` if one closes that never opened. -/
def bracketDepth? (depth : Nat) : List Token → Option Nat
  | [] => some depth
  | t :: rest =>
    match t.symbol?, depth with
    | some .opening, depth => bracketDepth? (depth + 1) rest
    | some .closing, 0 => none
    | some .closing, depth + 1 => bracketDepth? depth rest
    | _, depth => bracketDepth? depth rest

/-- Whether each bracket of a list of tokens has its partner. -/
def isBalanced (tokens : List Token) : Bool := bracketDepth? 0 tokens == some 0

end DeskCalculator
