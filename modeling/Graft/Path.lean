/-
# Graft.Path -- paths by their components

A path begins with no, one or two slashes and goes on with components.  `ofText` reads a path and makes it
normal without looking at any file: empty components and single dots go away, and a double dot takes the
component before it with it.  Two slashes at the start are kept apart from one; three or more are one.
`written` leaves double dots alone, which after a link lead elsewhere.
-/
import Graft.Text.Basic

namespace Graft

set_option autoImplicit false

structure Path where
  lead : Nat
  parts : List Text
  deriving DecidableEq, Repr

namespace Path

def dot : Text := ['.']

def dotDot : Text := ['.', '.']

/-- How many slashes a path keeps at its start. -/
def leadOf (t : Text) : Nat :=
  match t.takeWhile (· == '/') with
  | [] => 0
  | [_, _] => 2
  | _ => 1

/-- The components that a path is written with, the empty ones and single dots left out. -/
def partsOf (t : Text) : List Text := (t.splitOn '/').filter fun part => part != [] && part != dot

/-- Adds a component to those before it, which are nearest first. -/
def push (absolute : Bool) (before : List Text) (part : Text) : List Text :=
  if part ≠ dotDot then part :: before
  else match before with
    | [] => if absolute then [] else [dotDot]
    | last :: rest => if last = dotDot then dotDot :: before else rest

/-- The path that a text writes, made normal. -/
def ofText (t : Text) : Path :=
  ⟨leadOf t, ((partsOf t).foldl (push (leadOf t != 0)) []).reverse⟩

/-- The path that a text writes, with its double dots left in. -/
def written (t : Text) : Path := ⟨leadOf t, partsOf t⟩

/-- The path as a text. -/
def toText (p : Path) : Text :=
  if p.lead = 0 ∧ p.parts.isEmpty then dot
  else List.replicate p.lead '/' ++ ['/'].intercalate p.parts

def isAbsolute (t : Text) : Bool := t.head? == some '/'

/-- The text of a path with another one after it; an absolute one stands alone. -/
def join (base rest : Text) : Text :=
  if isAbsolute rest then rest
  else if base.isEmpty || base.getLast? == some '/' then base ++ rest
  else base ++ '/' :: rest

/-- The path that a text means in a directory, made normal. -/
def absolute (cwd t : Text) : Path := ofText (if isAbsolute t then t else join cwd t)

/-- Whether the path lies in a directory that is written with one slash. -/
def isWithin (p dir : Path) : Bool := dir.lead == 1 && dir.parts.isPrefixOf p.parts

end Path

end Graft
