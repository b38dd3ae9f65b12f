import DeskCalculator.Proofs.Parser.Failures
import DeskCalculator.Proofs.Parser.Room
import DeskCalculator.Session

/-!
# Limits only show where they are outgrown

Capacity and growth of the stacks are no part of what a list of tokens means: under any limits a
parser gives what one without limits gives, or it overflows.

* `parseUnbounded_ne_stack` — without limits nothing overflows, so an overflow is always the work of
  the limits.
* `StackLimits.fits_of_length_le` — numbers of tokens for which the limits are sure to be enough.
* `limits_only_overflow` — where a parser overflows, and that it makes no difference anywhere else.
-/

namespace DeskCalculator

variable {limits : StackLimits} {last? : Option Float} {tokens : List Token} {e : Failure}

/-- An operand without a value is no matter of stacks. -/
theorem ne_stack_of_resolve {text : List Char} (h : resolve last? text = .error e)
    (failure : StackFailure) : e ≠ .stack failure := by
  rintro rfl
  unfold resolve at h
  split at h
  · cases last? with
    | some v => cases h
    | none => cases h
  · split at h
    · cases h
    · cases h

/-- Stacks without limits do not fail. -/
theorem parseUnbounded_ne_stack (failure : StackFailure) :
    parseUnbounded (resolve last?) tokens ≠ .error (.stack failure) := by
  intro h
  cases parseFault_of_error h with
  | unresolved _ _ he => exact ne_stack_of_resolve he failure rfl

/-- Limits are enough for a number of tokens that the capacity covers, or behind which there is room
for one more growth. -/
theorem StackLimits.fits_of_length_le (hlargest : limits.capacity ≤ largestCapacity)
    (hgrowth : 1 ≤ limits.growth)
    (hlength : (tokens.length : Int) ≤ limits.capacity ∨
      (tokens.length : Int) ≤ largestCapacity - limits.growth) : limits.Fits tokens.length := by
  rcases hlength with hcapacity | hroom
  · exact fits_of_le_capacity hcapacity hlargest
  · exact fits_of_add_growth_le hgrowth hlargest (by omega)

/-- **Limits only show where they are outgrown.**  With a capacity from zero to the largest one and
a growth of at least one, the parser has the same outcome as one without limits, the same tree or
the same failure, or else it overflows.  It overflows if and only if somewhere on the way through
the tokens a stack without limits gets higher than these fit; so never if there are no more tokens
than the capacity, or than the largest capacity less the growth. -/
theorem limits_only_overflow (hcapacity : 0 ≤ limits.capacity)
    (hlargest : limits.capacity ≤ largestCapacity) (hgrowth : 1 ≤ limits.growth)
    (last? : Option Float) (tokens : List Token) :
    let outcome := parseTokens limits last? tokens
    let ideal := parseUnbounded (resolve last?) tokens
    (outcome = ideal ∨ outcome = .error (.stack .capacityOverflow)) ∧
      (outcome = .error (.stack .capacityOverflow) ↔
        TwoStacks.Outgrows limits (resolve last?) {} tokens) ∧
      ((tokens.length : Int) ≤ limits.capacity ∨
          (tokens.length : Int) ≤ largestCapacity - limits.growth →
        outcome = ideal) := by
  intro outcome ideal
  obtain ⟨st, hst⟩ : ∃ st : ParseState Float, ParseState.start limits = .ok st := by
    rcases ParseState.start_cases (α := Float) ⟨hcapacity, hgrowth⟩ with ⟨-, hst⟩ | ⟨hlarge, -⟩
    · exact hst
    · omega
  by_cases houtgrows : TwoStacks.Outgrows limits (resolve last?) {} tokens
  · have houtcome : outcome = .error (.stack .capacityOverflow) :=
      parse_eq_overflow_of_outgrows hst houtgrows
    refine ⟨.inr houtcome, iff_of_true houtcome houtgrows, fun hlength => ?_⟩
    have hfits := StackLimits.fits_of_length_le hlargest hgrowth hlength
    exact absurd houtgrows (TwoStacks.not_outgrows_of_fits hfits)
  · have houtcome : outcome = ideal := parse_of_not_outgrows hst houtgrows
    refine ⟨.inl houtcome, iff_of_false ?_ houtgrows, fun _ => houtcome⟩
    rw [houtcome]
    exact parseUnbounded_ne_stack _

/-- The theorem at `( ( 1 + 2 ) * 3 )` with stacks for two elements that can never grow, where the
third symbol is too much, and with stacks that start with no room at all and grow by one. -/
theorem limits_only_overflow_small :
    let symbol (c : Char) : Token := ⟨.symbol, [c], 0⟩
    let number (digit : Char) : Token := ⟨.number, [digit], 0⟩
    let tokens := [symbol '(', symbol '(', number '1', symbol '+', number '2', symbol ')',
      symbol '*', number '3', symbol ')']
    let tight : StackLimits := ⟨2, largestCapacity⟩
    let least : StackLimits := ⟨0, 1⟩
    (0 ≤ tight.capacity ∧ tight.capacity ≤ largestCapacity ∧ 1 ≤ tight.growth ∧
      parseTokens tight none tokens = .error (.stack .capacityOverflow)) ∧
      0 ≤ least.capacity ∧ least.capacity ≤ largestCapacity ∧ 1 ≤ least.growth ∧
      (tokens.length : Int) ≤ largestCapacity - least.growth ∧
      parseTokens least none tokens = parseUnbounded (resolve none) tokens := by
  intro symbol number tokens tight least
  have htight : TwoStacks.Outgrows tight (resolve none) {} tokens := by
    refine ⟨tokens.take 4, List.take_prefix 4 tokens,
      ⟨[.operation .sum, .opening, .opening], [.value (literalValue ['1'])]⟩, rfl, ?_⟩
    rintro ⟨⟨grown, hroom, hrange⟩, -⟩
    have hroom' : (3 : Int) ≤ 2 + grown * 9223372036854775807 := hroom
    have hrange' : (2 : Int) + grown * 9223372036854775807 ≤ 9223372036854775807 := hrange
    omega
  have hlength : (tokens.length : Int) ≤ largestCapacity - least.growth := by decide
  refine ⟨⟨by decide, by decide, by decide, ?_⟩, by decide, by decide, by decide, hlength, ?_⟩
  · exact (limits_only_overflow (by decide) (by decide) (by decide) none tokens).2.1.2 htight
  · exact (limits_only_overflow (by decide) (by decide) (by decide) none tokens).2.2
      (.inr hlength)

end DeskCalculator
