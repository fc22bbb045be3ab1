/-
# Graft.Text.Lines -- line breaks and places

`breaks` lists where lines begin, the first line apart; `placeAt` turns an offset into a line and a column
by looking for the last line that begins at or before it.  `unifyBreaks` turns the other ways to end a
line, a carriage return with or without a line feed, into line feeds.
-/
import Graft.Text.Basic

namespace Graft.Text

set_option autoImplicit false

/-- A line and a column, both from zero. -/
structure Place where
  line : Nat
  column : Nat
  deriving DecidableEq, Repr

def breaksFrom (pos : Nat) : Text → List Nat
  | [] => []
  | c :: rest => if c = '\n' then (pos + 1) :: breaksFrom (pos + 1) rest else breaksFrom (pos + 1) rest

/-- Where the lines after the first begin. -/
def breaks (t : Text) : List Nat := breaksFrom 0 t

/-- The place of `offset`, when it is known to be on line `line`, which begins at `start`, or later. -/
def placeFrom (line start : Nat) (offset : Nat) : List Nat → Place
  | [] => ⟨line, offset - start⟩
  | b :: rest => if b ≤ offset then placeFrom (line + 1) b offset rest else ⟨line, offset - start⟩

/-- The line and column of an offset, in a text whose lines after the first begin at the given offsets. -/
def placeAt (starts : List Nat) (offset : Nat) : Place := placeFrom 0 0 offset starts

/-- Every end of a line becomes one line feed. -/
def unifyBreaks : Text → Text
  | [] => []
  | '\r' :: '\n' :: rest => '\n' :: unifyBreaks rest
  | '\r' :: rest => '\n' :: unifyBreaks rest
  | c :: rest => c :: unifyBreaks rest

end Graft.Text
