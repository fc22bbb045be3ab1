/-
# Graft.Delimiter -- the end of a bracketed body

Finds where a body ends whose opening delimiter has already been passed, by counting delimiters alone:
literals and comments are not recognised.  When both delimiters are the same character, it opens.
-/
import Graft.Text.Basic

namespace Graft

set_option autoImplicit false

/-- The characters that open and close a body.  A delimiter that is not one character occurs nowhere. -/
structure Delimiters where
  opening : Option Char
  closing : Option Char
  deriving DecidableEq, Repr

namespace Delimiters

/-- The only character of a text. -/
def only? : Text → Option Char
  | [c] => some c
  | _ => none

def ofTexts (opening closing : Text) : Delimiters := ⟨only? opening, only? closing⟩

def braces : Delimiters := ⟨some '{', some '}'⟩

/-- The offset just past the delimiter that closes the last of `depth + 1` open bodies. -/
def closeFrom (d : Delimiters) (depth pos : Nat) : Text → Option Nat
  | [] => none
  | c :: rest =>
    if d.opening = some c then closeFrom d (depth + 1) (pos + 1) rest
    else if d.closing = some c then
      match depth with
      | 0 => some (pos + 1)
      | depth + 1 => closeFrom d depth (pos + 1) rest
    else closeFrom d depth (pos + 1) rest

/-- The offset just past the delimiter that closes the body which begins at `start`. -/
def findClose (d : Delimiters) (t : Text) (start : Int) : Option Nat :=
  d.closeFrom 0 start.toNat (t.drop start.toNat)

end Delimiters

end Graft
