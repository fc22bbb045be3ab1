/-
# Graft.Proofs.Overlay -- which file the overlay reads

Whether a file belongs to the overlay is asked of its normal path, and its text is read by the path as it is written.
A file whose normal path is not in the directory of the overlay is declined (`load_declines`).  One that is read is
read from where its written path leads, and that is where the normal path leads as well if the written path returns
from each component that it takes away (`load_reads`).  Behind a link it need not: a double dot then leads up from
the target of the link, and a path whose normal form lies in the overlay can leave it (`linked_escape`).
-/
import Graft.Overlay
import Graft.Proofs.FileSystem.Normal
import Mathlib

namespace Graft.Overlay

set_option autoImplicit false

variable {fs : FileSystem} {o : Overlay} {file : Text}

/-- The path of a file, made normal, lies in the directory of the overlay. -/
def Contains (o : Overlay) (fs : FileSystem) (file : Text) : Prop :=
  o.root.lead = 1 ∧ o.root.parts <+: (Path.absolute fs.cwd file).parts

/-- What a normal path names: the place to which its components lead, and what is there. -/
def named (fs : FileSystem) (p : Path) : Except LookupFault (List Text × FileEntry) :=
  fs.walkFrom true FileSystem.linkLimit [] p.parts

theorem owns_iff : o.owns fs file = true ↔ o.Contains fs file := by
  rw [owns, Path.isWithin, Bool.and_eq_true, beq_iff_eq, List.isPrefixOf_iff_prefix, Contains]

/-- **A file whose normal path lies elsewhere is declined.** -/
theorem load_declines (elsewhere : ¬ o.Contains fs file) : o.load fs file = .quiet (.ok none) := by
  have owned : o.owns fs file = false := Bool.eq_false_iff.2 fun owns => elsewhere (owns_iff.1 owns)
  rw [load, owned]
  rfl

/-- A text that is loaded is that of the file to which the written path leads. -/
theorem load_eq_some_iff {text : Text} :
    (o.load fs file).result = .ok (some text) ↔ o.Contains fs file ∧
      ∃ place bytes t, fs.walk true file = .ok (place, .file bytes) ∧ Text.decode bytes = .ok t ∧
        text = Text.unifyBreaks t := by
  by_cases contained : o.Contains fs file
  · rw [load, owns_iff.2 contained, Bool.not_true, if_neg Bool.false_ne_true]
    constructor
    · intro loaded
      split at loaded
      · rename_i bytes led
        obtain ⟨place, walked⟩ := FileSystem.stat_eq_ok_iff.1 led
        cases decoded : Text.decode bytes with
        | error fault =>
            rw [decoded] at loaded
            cases loaded
        | ok t =>
            rw [decoded] at loaded
            exact ⟨contained, place, bytes, t, walked, decoded, (Option.some.inj (Except.ok.inj loaded)).symm⟩
      · cases loaded
      · cases loaded
    · rintro ⟨-, place, bytes, t, walked, decoded, rfl⟩
      rw [FileSystem.stat_eq_ok_iff.2 ⟨place, walked⟩]
      simp only [decoded]
      rfl
  · rw [load_declines contained]
    constructor
    · intro loaded
      cases loaded
    · rintro ⟨contained', -⟩
      exact absurd contained' contained

/-- Where a path that returns leads, its normal form leads. -/
theorem named_of_walk (rooted : Path.isAbsolute fs.cwd = true) {place : List Text} {entry : FileEntry}
    (walked : fs.walk true file = .ok (place, entry)) (returns : fs.Returns [] [] (fs.route file)) :
    named fs (Path.absolute fs.cwd file) = .ok (place, entry) := by
  rcases fs.walk_cases true file with goes | ⟨fault, -, refused⟩
  · rw [goes] at walked
    obtain ⟨⟨k, upTo, leads⟩, found⟩ := FileSystem.walkFrom_ok_iff.1 walked
    obtain ⟨k', fewer, normal⟩ := FileSystem.leads_normal returns leads
    rw [named, FileSystem.absolute_parts rooted]
    exact FileSystem.walkFrom_ok_iff.2 ⟨⟨k', Nat.le_trans fewer upTo, normal⟩, found⟩
  · rw [refused] at walked
    cases walked

/-- **What the overlay reads.**  A file whose normal path lies elsewhere is declined.  The text of another one is that
of the file to which its written path leads; if that path returns, its normal form names the same file.  A path
returns if it has no double dots, or if there are no links. -/
theorem load_reads (rooted : Path.isAbsolute fs.cwd = true) (o : Overlay) (file : Text) :
    (¬ o.Contains fs file → o.load fs file = .quiet (.ok none)) ∧
      (∀ text, (o.load fs file).result = .ok (some text) ↔ o.Contains fs file ∧
        ∃ place bytes t, fs.walk true file = .ok (place, .file bytes) ∧ Text.decode bytes = .ok t ∧
          text = Text.unifyBreaks t) ∧
      (∀ place entry, fs.walk true file = .ok (place, entry) → fs.Returns [] [] (fs.route file) →
        named fs (Path.absolute fs.cwd file) = .ok (place, entry)) ∧
      (Path.dotDot ∉ fs.route file ∨ fs.Linkless → fs.Returns [] [] (fs.route file)) := by
  refine ⟨load_declines, fun text => load_eq_some_iff, ?_, ?_⟩
  · intro place entry walked returns
    exact named_of_walk rooted walked returns
  · rintro (plain | linkless)
    · exact FileSystem.returns_plain plain
    · exact FileSystem.returns_linkless linkless .root

/-- An overlay with a link to a directory elsewhere. -/
def linkedFiles : FileSystem where
  cwd := "/p".toList
  entries := [(["p".toList], .directory), (["o".toList], .directory), (["o".toList, "in.js".toList], .file [105]),
    (["o".toList, "link".toList], .link "../far/dir".toList), (["far".toList], .directory),
    (["far".toList, "dir".toList], .directory), (["far".toList, "in.js".toList], .file [111])]

def linkedOverlay : Overlay := ⟨"v:".toList, ⟨1, ["o".toList]⟩⟩

theorem load_reads_linkedOverlay :
    Path.isAbsolute linkedFiles.cwd = true ∧
      (¬ linkedOverlay.Contains linkedFiles "/o/link/../in.js".toList →
        linkedOverlay.load linkedFiles "/o/link/../in.js".toList = .quiet (.ok none)) ∧
      (∀ text, (linkedOverlay.load linkedFiles "/o/link/../in.js".toList).result = .ok (some text) ↔
        linkedOverlay.Contains linkedFiles "/o/link/../in.js".toList ∧
        ∃ place bytes t, linkedFiles.walk true "/o/link/../in.js".toList = .ok (place, .file bytes) ∧
          Text.decode bytes = .ok t ∧ text = Text.unifyBreaks t) ∧
      (∀ place entry, linkedFiles.walk true "/o/link/../in.js".toList = .ok (place, entry) →
        linkedFiles.Returns [] [] (linkedFiles.route "/o/link/../in.js".toList) →
        named linkedFiles (Path.absolute linkedFiles.cwd "/o/link/../in.js".toList) = .ok (place, entry)) ∧
      (Path.dotDot ∉ linkedFiles.route "/o/link/../in.js".toList ∨ linkedFiles.Linkless →
        linkedFiles.Returns [] [] (linkedFiles.route "/o/link/../in.js".toList)) :=
  ⟨by decide, load_reads (by decide) _ _⟩

/-- **A path through a link can leave the overlay**: its normal form names a file there, and another one is read. -/
theorem linked_escape :
    (linkedOverlay.load linkedFiles "/o/link/../in.js".toList).result = .ok (some ['o']) ∧
      named linkedFiles (Path.absolute linkedFiles.cwd "/o/link/../in.js".toList) =
        .ok (["o".toList, "in.js".toList], .file [105]) ∧
      Text.decode [105] = .ok ['i'] := by
  refine ⟨?_, ?_, ?_⟩
  · cbv
  · cbv
  · cbv

end Graft.Overlay
