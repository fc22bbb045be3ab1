/-
# Graft.Patch.Descriptor -- what to change in a file, as data

A descriptor lists replacements, which are made wherever they are found, and insertions, which put a
template into the body that an anchor opens.  The renames of an insertion are made only when its place is
found, because the template declares the names that they free.
-/
import Graft.Mode

namespace Graft.Patch

set_option autoImplicit false

/-- Replaces a pattern, a literal or a regular expression; a count of zero or less means all occurrences. -/
structure Replacement where
  pattern : Text
  replacement : Text
  regex : Bool := false
  count : Int := 1
  deriving DecidableEq, Repr

/-- On which side of the inner anchor a template goes. -/
inductive Placement where
  | after
  | before
  deriving DecidableEq, Repr

namespace Placement

def name : Placement → Text
  | .after => "after".toList
  | .before => "before".toList

def ofName : Text → Except NameFault Placement := named "InsertAt" [.after, .before] name

end Placement

/-- Inserts a template beside the inner anchor, which is looked for only in the body that the anchor opens:
the match of the anchor ends just after an opening brace. -/
structure Insertion where
  anchor : Text
  innerAnchor : Text
  template : Text
  placement : Placement := .after
  renames : List Replacement := []
  deriving DecidableEq, Repr

structure Descriptor where
  name : Text
  replacements : List Replacement := []
  insertions : List Insertion := []
  deriving DecidableEq, Repr

/-- What one descriptor did to one file. -/
structure Report where
  descriptor : Text
  replacements : Nat := 0
  insertions : Nat := 0
  missingAnchors : List Text := []
  deriving DecidableEq, Repr

namespace Report

def changed (r : Report) : Bool := r.replacements != 0 || r.insertions != 0

/-- Some edits were made, but an insertion was not. -/
def isPartial (r : Report) : Bool := r.changed && !r.missingAnchors.isEmpty

end Report

end Graft.Patch
