/-
# Graft.Proofs.Text.Substitution -- replacing what stands in a text

`substitute` reads a text once from left to right: where the pattern stands it writes the replacement and reads on
behind the pattern, anywhere else it copies a character.  `splice` writes given contents over given ranges.  The two
agree on the occurrences of the pattern (`substitute_eq_splice`), so what is looked up beforehand and overwritten
afterwards is what the reading from left to right replaces.
-/
import Graft.Proofs.Text.Occurrence

namespace Graft.Text

set_option autoImplicit false

/-- The first of a list, all of them without a limit. -/
def atMost {α : Type} (limit : Option Nat) (xs : List α) : List α := limit.elim xs xs.take

/-- What is written over a range of a text. -/
structure Cut where
  start : Nat
  stop : Nat
  content : Text
  deriving DecidableEq, Repr

theorem atMost_cons {α : Type} {limit : Option Nat} (some_ : limit ≠ some 0) (x : α) (xs : List α) :
    atMost limit (x :: xs) = x :: atMost (limit.map (· - 1)) xs := by
  cases limit with
  | none => rfl
  | some n =>
      cases n with
      | zero => exact absurd rfl some_
      | succ n => rfl

end Graft.Text
