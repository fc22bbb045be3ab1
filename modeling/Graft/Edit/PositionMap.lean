/-
# Graft.Edit.PositionMap -- offsets before and after the edits

A position map lists the segments of an output: the ranges of the base and of the output that belong
together.  `toOutput` and `toBase` carry an offset across.

* An offset inside an overwritten range goes to the start of what replaced it, and back.
* A character that was inserted has no offset in the base.
* The ends of the two texts belong together.
-/
import Graft.Edit.Buffer

namespace Graft.Edit

set_option autoImplicit false

structure Segment where
  baseStart : Nat
  baseStop : Nat
  outputStart : Nat
  outputStop : Nat
  edited : Bool
  deriving DecidableEq, Repr

/-- Why an offset is not carried across. -/
inductive OffsetFault where
  | base (offset : Int)
  | output (offset : Int)
  deriving DecidableEq, Repr

def OffsetFault.message : OffsetFault → String
  | .base offset => s!"Original offset out of range: {offset}"
  | .output offset => s!"Generated offset out of range: {offset}"

structure PositionMap where
  segments : List Segment
  baseLength : Nat
  outputLength : Nat
  deriving DecidableEq, Repr

namespace Segment

/-- Where the segment takes an offset of the base, if it stands for that offset. -/
def toOutput? (s : Segment) (offset : Nat) : Option Nat :=
  if s.baseStart ≤ offset ∧ offset < s.baseStop then
    some (if s.edited then s.outputStart else s.outputStart + (offset - s.baseStart))
  else none

/-- Whether an offset of the output lies in the segment. -/
def holds (s : Segment) (offset : Nat) : Bool :=
  s.outputStart ≤ offset && offset < s.outputStop

/-- Where an offset of the output in this segment came from. -/
def toBase? (s : Segment) (offset : Nat) : Option Nat :=
  if !s.edited then some (s.baseStart + (offset - s.outputStart))
  else if s.baseStart = s.baseStop then none
  else some s.baseStart

end Segment

namespace PositionMap

/-- How many characters the edits added. -/
def delta (m : PositionMap) : Int := (m.outputLength : Int) - m.baseLength

def toOutput (m : PositionMap) (offset : Int) : Except OffsetFault Nat :=
  if offset < 0 ∨ (m.baseLength : Int) < offset then .error (.base offset)
  else .ok ((m.segments.findSome? (·.toOutput? offset.toNat)).getD m.outputLength)

/-- The offset in the base of an offset of the output; none for a character that was inserted. -/
def toBase (m : PositionMap) (offset : Int) : Except OffsetFault (Option Nat) :=
  if offset < 0 ∨ (m.outputLength : Int) < offset then .error (.output offset)
  else if offset.toNat = m.outputLength then .ok (some m.baseLength)
  else .ok ((m.segments.find? (·.holds offset.toNat)).bind (·.toBase? offset.toNat))

end PositionMap

/-- The segments of pieces that are laid out from `pos` on. -/
def segmentsFrom (pos : Nat) : List Piece → List Segment
  | [] => []
  | p :: rest =>
    ⟨p.start, p.stop, pos, pos + p.text.length, p.edited⟩ :: segmentsFrom (pos + p.text.length) rest

def Buffer.positionMap (b : Buffer) : PositionMap :=
  ⟨segmentsFrom 0 b.pieces, b.base.length, b.toText.length⟩

end Graft.Edit
