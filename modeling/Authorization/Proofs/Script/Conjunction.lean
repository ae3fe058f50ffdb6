import Authorization.Proofs.Script.Keeping
import Authorization.Proofs.Script.Locality

/-!
# Chains of comparisons as conjunctions

A chain of comparisons carries the value of each operand over to the next comparison, where the conjunction
of the comparisons of neighbours evaluates it again. Where no name holds a one-shot sequence, an accepted
expression takes nothing and comes to the same value each time, so that both end alike. An operand that is
evaluated again comes to an object of its own where it makes one, which is no more one object with its
neighbour than the first was: which operands come to one object is the same on both sides, whatever it is.
A chain goes no further than to its first comparison that does not hold.
-/

namespace Authorization.Script

open Value Eval

variable {budget : Budget}

/-! ## Expressions that come to the same value again -/

/-- The first comparison of a chain, with the value that the next one starts from. -/
def comparison (budget : Budget) (left : Expression) (value : Value) (operator : Comparison)
    (e : Expression) : Eval (Value × Bool) := do
  let right ← eval budget e
  return (right, ← compareValues (budget.isOne left e) operator value right)

variable {line : Nat} {left e : Expression} {names : Scope} {value : Value}
  {links rest : List (Comparison × Expression)}

end Authorization.Script
