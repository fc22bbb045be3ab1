/-
# Graft.Text.Basic -- texts as sequences of code points

A text is the list of its code points, and every offset, length and count in this library is in code
points.  This module holds the operations that the rest is built from: slices, splitting at a separator,
stripping both ends, and the places where one text occurs in another.

* `splitOn` always gives at least one part, and joining the parts with the separator gives the text back.
* `occurrences` lists the leftmost occurrences that do not overlap; the empty text occurs at the start only.
-/

namespace Graft

set_option autoImplicit false

/-- A text is the list of its code points. -/
abbrev Text := List Char

namespace Text

/-- The text as a string, for messages. -/
def str (t : Text) : String := String.ofList t

/-- The part from `start` up to `stop`. -/
def slice (t : Text) (start stop : Nat) : Text := (t.drop start).take (stop - start)

def replaceChar (a b : Char) (t : Text) : Text := t.map fun c => if c = a then b else c

/-- The parts between separators; a text without a separator is one part. -/
def splitOn (sep : Char) : Text → List Text
  | [] => [[]]
  | c :: rest =>
    if c = sep then [] :: splitOn sep rest
    else match splitOn sep rest with
      | [] => [[c]]
      | part :: parts => (c :: part) :: parts

/-- Removes the characters of a class from both ends. -/
def stripWith (t : Text) (p : Char → Bool) : Text :=
  ((t.dropWhile p).reverse.dropWhile p).reverse

/-- The number of characters of a text that are `c`. -/
def countChar (c : Char) (t : Text) : Nat := t.countP (· == c)

/-- Occurrences in what is left of a text, `skip` characters of which belong to the last one. -/
def occurrencesFrom (needle : Text) (pos skip : Nat) : Text → List Nat
  | [] => []
  | c :: rest =>
    match skip with
    | skip + 1 => occurrencesFrom needle (pos + 1) skip rest
    | 0 =>
      if needle.isPrefixOf (c :: rest) then
        pos :: occurrencesFrom needle (pos + 1) (needle.length - 1) rest
      else occurrencesFrom needle (pos + 1) 0 rest

/-- Where `needle` occurs: leftmost occurrences that do not overlap. -/
def occurrences (needle t : Text) : List Nat :=
  if needle.isEmpty then [0] else occurrencesFrom needle 0 0 t

end Text

end Graft
