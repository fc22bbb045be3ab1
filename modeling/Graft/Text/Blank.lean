/-
# Graft.Text.Blank -- blank characters and trimming

The blank characters are the separators of Unicode 14 together with the control characters that act as
one; `trim` removes them from both ends of a text.
-/
import Graft.Text.Basic

namespace Graft.Text

set_option autoImplicit false

/-- All blank characters, in order. -/
def blanks : List Nat :=
  [
    0x9, 0xA, 0xB, 0xC, 0xD, 0x1C, 0x1D, 0x1E, 0x1F, 0x20, 0x85, 0xA0, 0x1680, 0x2000, 0x2001,
    0x2002, 0x2003, 0x2004, 0x2005, 0x2006, 0x2007, 0x2008, 0x2009, 0x200A, 0x2028, 0x2029,
    0x202F, 0x205F, 0x3000]

def isBlank (c : Char) : Bool := blanks.contains c.toNat

/-- The text without the blank characters at its two ends. -/
def trim (t : Text) : Text := t.stripWith isBlank

end Graft.Text
