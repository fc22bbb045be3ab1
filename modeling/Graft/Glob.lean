/-
# Graft.Glob -- wildcard patterns

A star stands for any text, a question mark for any one character, and brackets for one character of a set;
everything else stands for itself, a bracket that is never closed included.  Slashes and line breaks are
ordinary characters.  A glob is found in a text when it matches one of its endings.

The set in brackets is read in two steps.  First it is cut into chunks at the hyphens that make ranges; a
range whose ends are in the wrong order goes away, and with it both ends.  Then the first character decides:
an exclamation mark negates what follows.  It negates also when it has become the first only because a
range before it went away; a set that is left empty holds nothing, and a negated one everything.
-/
import Graft.Text.Basic

namespace Graft

set_option autoImplicit false

/-- One part of a wildcard pattern. -/
inductive GlobPart where
  | star
  | any
  | char (c : Char)
  | oneOf (negated : Bool) (ranges : List (Char × Char))
  deriving DecidableEq, Repr

abbrev Glob := List GlobPart

namespace GlobPart

/-- Whether a part that stands for one character stands for this one. -/
def holds (c : Char) : GlobPart → Bool
  | .star => false
  | .any => true
  | .char d => c == d
  | .oneOf negated ranges => (ranges.any fun (low, high) => low ≤ c && c ≤ high) != negated

end GlobPart

namespace Glob

/-! ## Sets in brackets -/

/-- Inside brackets, a character or the hyphen of a range. -/
inductive Mark where
  | char (c : Char)
  | hyphen
  deriving DecidableEq, Repr

/-- Cuts a set at the hyphens of ranges.  The first `held` characters cannot be such hyphens, nor can the
two after one; `chunk` is what the current chunk has so far. -/
def chunksFrom (held : Nat) (chunk : Text) : Text → List Text
  | [] => [chunk]
  | c :: rest =>
    match held with
    | held + 1 => chunksFrom held (chunk ++ [c]) rest
    | 0 => if c = '-' then chunk :: chunksFrom 2 [] rest else chunksFrom 0 (chunk ++ [c]) rest

/-- A hyphen at the very end makes no range. -/
def keepLastHyphen : List Text → List Text
  | [chunk, []] => [chunk ++ ['-']]
  | chunk :: rest => chunk :: keepLastHyphen rest
  | [] => []

/-- Puts a chunk in front of others; if the range between them is in the wrong order, both ends go. -/
def prependChunk (chunk : Text) : List Text → List Text
  | [] => [chunk]
  | next :: rest =>
    match chunk.getLast?, next.head? with
    | some low, some high =>
      if high < low then (chunk.dropLast ++ next.tail) :: rest else chunk :: next :: rest
    | _, _ => chunk :: next :: rest

def chunks (set : Text) : List Text :=
  (keepLastHyphen (chunksFrom (if set.head? = some '!' then 2 else 1) [] set)).foldr prependChunk []

/-- The characters of the chunks, with the hyphens between them. -/
def marks : List Text → List Mark
  | [] => []
  | [chunk] => chunk.map .char
  | chunk :: rest => chunk.map .char ++ .hyphen :: marks rest

/-- The ranges that marks make; a hyphen that is first stands for itself. -/
def ranges : List Mark → List (Char × Char)
  | .char a :: .hyphen :: .char b :: rest => (a, b) :: ranges rest
  | .char a :: rest => (a, a) :: ranges rest
  | .hyphen :: rest => ('-', '-') :: ranges rest
  | [] => []

/-- The part that a set in brackets makes. -/
def bracketPart (set : Text) : GlobPart :=
  match marks (chunks set) with
  | .char '!' :: rest => .oneOf true (ranges rest)
  | all => .oneOf false (ranges all)

/-- The set after an opening bracket, if the bracket is closed.  A closing bracket that comes first, or
right after an exclamation mark, belongs to the set. -/
def bracketed? (t : Text) : Option Text :=
  let lead := if t.head? = some '!' then 1 else 0
  let lead := if (t.drop lead).head? = some ']' then lead + 1 else lead
  let body := (t.drop lead).takeWhile (· != ']')
  if (t.drop (lead + body.length)).isEmpty then none else some (t.take lead ++ body)

/-- Reads a pattern; the first `skip` characters belong to the part before. -/
def readFrom (skip : Nat) : Text → Glob
  | [] => []
  | c :: rest =>
    match skip with
    | skip + 1 => readFrom skip rest
    | 0 =>
      if c = '*' then .star :: readFrom 0 rest
      else if c = '?' then .any :: readFrom 0 rest
      else if c = '[' then
        match bracketed? rest with
        | some set => bracketPart set :: readFrom (set.length + 1) rest
        | none => .char c :: readFrom 0 rest
      else .char c :: readFrom 0 rest

def read (written : Text) : Glob := readFrom 0 written

/-! ## Matching -/

/-- For each ending of a list of answers, whether some answer in it is yes. -/
def anyLater : List Bool → List Bool
  | [] => []
  | b :: rest =>
    match anyLater rest with
    | [] => [b]
    | later :: more => (b || later) :: later :: more

/-- For each ending of a text, from the whole to the empty one, whether the pattern matches it. -/
def endings (t : Text) : Glob → List Bool
  | [] => t.map (fun _ => false) ++ [true]
  | .star :: rest => anyLater (endings t rest)
  | part :: rest => List.zipWith (fun c later => part.holds c && later) t (endings t rest).tail ++ [false]

/-- Whether the pattern matches some ending of the text. -/
def isFoundIn (g : Glob) (t : Text) : Bool := (endings t g).any id

end Glob

end Graft
