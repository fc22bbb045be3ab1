/-
# Graft.Version.Order -- versions compared component by component

A version is a text with dots between its components.  A component of decimal digits counts as its number,
any other as zero, and so do the components that a shorter version lacks.
-/
import Graft.Text.Integer

namespace Graft.Version

set_option autoImplicit false

open Graft.Text

/-- What a component counts for. -/
def component (part : Text) : Except IntegerFault Nat :=
  let part := part.trim
  if part.isEmpty || !part.all isDecimal then .ok 0
  else if digitLimit < part.length then .error (.tooManyDigits part.length)
  else .ok (decimalValue part)

def components (version : Text) : Except IntegerFault (List Nat) := (version.splitOn '.').mapM component

/-- Whether components are at least others; missing ones are zero. -/
def atLeast : List Nat → List Nat → Bool
  | [], bs => bs.all (· == 0)
  | a :: as, bs => bs.headD 0 < a || (a == bs.headD 0 && atLeast as bs.tail)

/-- Whether a version is the threshold or later. -/
def isAtLeast (version threshold : Text) : Except IntegerFault Bool := do
  let v ← components version
  let t ← components threshold
  return atLeast v t

/-- What stands for a version that could not be found out. -/
def unknown : Text := "unknown".toList

/-- Whether the version is known and needs no patch any more. -/
def shouldSkip (version threshold : Text) : Except IntegerFault Bool :=
  if version = unknown then .ok false else isAtLeast version threshold

end Graft.Version
