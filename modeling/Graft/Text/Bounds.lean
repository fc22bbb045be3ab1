/-
# Graft.Text.Bounds -- sets of code points as ascending bounds

A set of code points is written as the ascending list of the places where it begins and ends.  A code
point is in the set when an odd number of bounds is at or below it.
-/
import Graft.Text.Basic

namespace Graft.Text

set_option autoImplicit false

/-- Whether an odd number of the bounds is at or below `c`. -/
def inside : List Nat → Nat → Bool
  | [], _ => false
  | b :: rest, c => if c < b then false else !inside rest c

end Graft.Text
