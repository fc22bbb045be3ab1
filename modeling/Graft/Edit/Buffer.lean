/-
# Graft.Edit.Buffer -- edits collected against a fixed text

A buffer holds a text that never changes, texts put in front of it, and edits addressed in offsets of that
text: insertions at an offset and overwrites of a range.  Asking for an edit either adds it or is refused
with a cause, and a refused edit leaves the buffer as it was.

* An insertion is refused strictly inside an overwritten range; at either end it is welcome.
* An overwrite is refused when its range is empty, meets an overwritten range, or has an insertion strictly
  inside; of several reasons the one from the earliest edit is given.
* The output is laid out from the edits in the order of their offsets: at one offset the insertions come
  first, in the order they were made, then the overwrite that starts there (`ranked`).
-/
import Graft.Text.Basic

namespace Graft

set_option autoImplicit false

inductive Edit where
  | insertion (index : Nat) (content : Text)
  | overwrite (start stop : Nat) (content : Text)
  deriving DecidableEq, Repr

namespace Edit

def start : Edit → Nat
  | .insertion index _ => index
  | .overwrite start _ _ => start

def stop : Edit → Nat
  | .insertion index _ => index
  | .overwrite _ stop _ => stop

def content : Edit → Text
  | .insertion _ content => content
  | .overwrite _ _ content => content

def isOverwrite : Edit → Bool
  | .insertion .. => false
  | .overwrite .. => true

/-- Whether the edit is laid out before or beside `other` when that one was made later. -/
def precedes (e other : Edit) : Bool :=
  e.start < other.start || (e.start == other.start && (!e.isOverwrite || other.isOverwrite))

/-- Why an edit is refused. -/
inductive EditFault where
  | indexOutOfRange (index : Int)
  | insertionInside (index start stop : Nat)
  | emptyRange (start stop : Nat)
  | overlap (start stop takenStart takenStop : Nat)
  | swallows (start stop index : Nat)
  deriving DecidableEq, Repr

def EditFault.message : EditFault → String
  | .indexOutOfRange index => s!"Index out of range: {index}"
  | .insertionInside index start stop =>
    s!"Insertion at {index} falls inside overwritten range {start}:{stop}"
  | .emptyRange start stop => s!"Cannot overwrite empty range {start}:{stop}"
  | .overlap start stop takenStart takenStop =>
    s!"Overwrite {start}:{stop} overlaps {takenStart}:{takenStop}"
  | .swallows start stop index => s!"Overwrite {start}:{stop} would swallow insertion at {index}"

/-- Why an insertion at `index` cannot stand beside this edit. -/
def refusesInsertion? (index : Nat) : Edit → Option EditFault
  | .insertion .. => none
  | .overwrite start stop _ =>
    if start < index ∧ index < stop then some (.insertionInside index start stop) else none

/-- Why an overwrite of `start` to `stop` cannot stand beside this edit. -/
def refusesOverwrite? (start stop : Nat) : Edit → Option EditFault
  | .insertion index _ =>
    if start < index ∧ index < stop then some (.swallows start stop index) else none
  | .overwrite s e _ => if s < stop ∧ start < e then some (.overlap start stop s e) else none

/-- `intro` stands before the text, outermost first; `edits` are in the order they were made. -/
structure Buffer where
  base : Text
  intro : List Text
  edits : List Edit
  deriving DecidableEq, Repr

/-- A piece of the output: the range of the base it stands for, its text, and whether it was edited. -/
structure Piece where
  start : Nat
  stop : Nat
  text : Text
  edited : Bool
  deriving DecidableEq, Repr

namespace Buffer

def ofText (base : Text) : Buffer := ⟨base, [], []⟩

/-- The offset that an index names, if the text has it. -/
def offset? (b : Buffer) (index : Int) : Except EditFault Nat :=
  if index < 0 ∨ (b.base.length : Int) < index then .error (.indexOutOfRange index)
  else .ok index.toNat

/-- Puts a text before everything else, earlier such texts included. -/
def prepend (b : Buffer) (content : Text) : Buffer := { b with intro := content :: b.intro }

/-- Inserts at an offset, after earlier insertions there. -/
def insert (b : Buffer) (index : Int) (content : Text) : Except EditFault Buffer := do
  let i ← b.offset? index
  match b.edits.findSome? (·.refusesInsertion? i) with
  | some fault => .error fault
  | none => .ok { b with edits := b.edits ++ [.insertion i content] }

/-- Replaces a range of the base. -/
def overwrite (b : Buffer) (start stop : Int) (content : Text) : Except EditFault Buffer := do
  let s ← b.offset? start
  let e ← b.offset? stop
  if e ≤ s then .error (.emptyRange s e)
  else match b.edits.findSome? (·.refusesOverwrite? s e) with
    | some fault => .error fault
    | none => .ok { b with edits := b.edits ++ [.overwrite s e content] }

/-- Whether any edit or text in front was made; an insertion of nothing does not count. -/
def hasChanged (b : Buffer) : Bool :=
  !b.intro.isEmpty || b.edits.any fun e => e.isOverwrite || !e.content.isEmpty

/-! ## The output -/

/-- Puts a later edit in its place among edits in layout order. -/
def place (e : Edit) : List Edit → List Edit
  | [] => [e]
  | other :: rest => if other.precedes e then other :: place e rest else e :: other :: rest

/-- The edits in layout order. -/
def ranked (b : Buffer) : List Edit := b.edits.foldl (fun placed e => place e placed) []

/-- What stays of the base between two offsets. -/
def kept (base : Text) (start stop : Nat) : List Piece :=
  if start < stop then [⟨start, stop, base.slice start stop, false⟩] else []

/-- What an edit puts into the output; an insertion of nothing leaves no trace. -/
def laid (e : Edit) : List Piece :=
  if e.start < e.stop || !e.content.isEmpty then [⟨e.start, e.stop, e.content, true⟩] else []

/-- The pieces from `pos` on, given the edits from there on in layout order. -/
def layOut (base : Text) : Nat → List Edit → List Piece
  | pos, [] => kept base pos base.length
  | pos, e :: rest => kept base pos e.start ++ laid e ++ layOut base (max pos e.stop) rest

/-- The pieces of the output, in order. -/
def pieces (b : Buffer) : List Piece :=
  (if b.intro.flatten.isEmpty then [] else [⟨0, 0, b.intro.flatten, true⟩]) ++
    layOut b.base 0 b.ranked

/-- The text with all edits made. -/
def toText (b : Buffer) : Text := b.pieces.flatMap (·.text)

end Buffer

end Edit

end Graft
