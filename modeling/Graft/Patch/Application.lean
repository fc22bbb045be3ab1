/-
# Graft.Patch.Application -- carrying descriptors out on a buffer

Everything is looked for in the base text of the buffer, so what is found does not depend on edits made
before.  A refused edit or a bad pattern stops the work; the edits made until then stay in the buffer, and
the notices given until then stay given.

* `Replacement.occurrences` are the ranges that a replacement overwrites: the leftmost occurrences of a
  literal that do not overlap, or the matches of a regular expression that are not empty.  A match that is
  crossed stops the work, also where nothing would have been done with it.
* `insertionPoint` is where an insertion goes, or nothing if the anchor, its closing brace or the inner
  anchor is missing.
* `applyDescriptor` makes the replacements, then the insertions with their renames.  A missing insertion is
  left out with a warning; if any other edit was made, an error follows.
-/
import Graft.Delimiter
import Graft.Edit.Buffer
import Graft.Notice
import Graft.Patch.Descriptor
import Graft.Regex.Template

namespace Graft.Patch

set_option autoImplicit false

open Graft.Edit

/-- Why a descriptor could not be carried out. -/
inductive PatchFault where
  | edit (fault : EditFault)
  | regex (fault : Regex.Fault)
  deriving DecidableEq, Repr

def PatchFault.message : PatchFault → String
  | .edit fault => fault.message
  | .regex fault => fault.message

/-! ## Replacements -/

/-- A range to overwrite, and what to put there. -/
structure Occurrence where
  start : Nat
  stop : Nat
  content : Except Regex.Fault Text

/-- The first few of a list, as a count allows. -/
def limited {α : Type} (count : Int) (xs : List α) : List α := if 0 < count then xs.take count.toNat else xs

namespace Replacement

def literalOccurrences (r : Replacement) (t : Text) : List Occurrence :=
  (limited r.count (Text.occurrences r.pattern t)).map fun start =>
    ⟨start, start + r.pattern.length, .ok r.replacement⟩

/-- What becomes of matches that are fetched one after the other, while `left` more may be overwritten. -/
def fetched (content : Regex.Match → Except Regex.Fault Text) : Option Nat → List Regex.Match → List Occurrence
  | _, [] => []
  | left, m :: rest =>
    if m.isCrossed then [⟨m.span.start, m.span.stop, .error .crossedGroup⟩]
    else if left = some 0 then []
    else if m.span.start = m.span.stop then fetched content left rest
    else ⟨m.span.start, m.span.stop, content m⟩ :: fetched content (left.map (· - 1)) rest

/-- How many occurrences are replaced at most. -/
def limit? (r : Replacement) : Option Nat := if 0 < r.count then some r.count.toNat else none

def regexOccurrences (r : Replacement) (regex : Regex) (t : Text) : List Occurrence :=
  fetched (Regex.expandTemplate regex r.replacement t) r.limit? (Regex.findAll regex t)

/-- The ranges of a text that the replacement overwrites. -/
def occurrences (r : Replacement) (t : Text) (compile : Regex.Compiler := Regex.compile {}) :
    Except Regex.Fault (List Occurrence) :=
  if r.regex then do return r.regexOccurrences (← compile r.pattern) t
  else .ok (r.literalOccurrences t)

end Replacement

/-- Overwrites the ranges one after the other, and counts them. -/
def overwriteAll (b : Buffer) : List Occurrence → Buffer × Except PatchFault Nat
  | [] => (b, .ok 0)
  | o :: rest =>
    match o.content with
    | .error fault => (b, .error (.regex fault))
    | .ok content =>
      match b.overwrite o.start o.stop content with
      | .error fault => (b, .error (.edit fault))
      | .ok b' =>
        let (after, count) := overwriteAll b' rest
        (after, count.map (· + 1))

def applyReplacement (b : Buffer) (r : Replacement) (compile : Regex.Compiler := Regex.compile {}) :
    Buffer × Except PatchFault Nat :=
  match r.occurrences b.base compile with
  | .error fault => (b, .error (.regex fault))
  | .ok occurrences => overwriteAll b occurrences

/-- Makes replacements in order, and counts what was overwritten. -/
def applyReplacements (b : Buffer) : List Replacement → Buffer × Except PatchFault Nat
  | [] => (b, .ok 0)
  | r :: rest =>
    match applyReplacement b r with
    | (b', .error fault) => (b', .error fault)
    | (b', .ok count) =>
      let (after, more) := applyReplacements b' rest
      (after, more.map (count + ·))

/-! ## Insertions -/

/-- Where an insertion goes in a text. -/
def insertionPoint (t : Text) (i : Insertion) : Except Regex.Fault (Option Nat) := do
  let anchor ← Regex.compile {} i.anchor
  match ← Regex.find anchor t with
  | none => return none
  | some m =>
    match Delimiters.braces.findClose t m.span.stop with
    | none => return none
    | some stop =>
      let inner ← Regex.compile {} i.innerAnchor
      return (← Regex.find inner (t.slice m.span.stop stop)).map fun n =>
        m.span.stop + (if i.placement = .before then n.span.start else n.span.stop)

/-- Makes an insertion and its renames: how many renames were made, or nothing if there is no place. -/
def applyInsertion (b : Buffer) (i : Insertion) : Buffer × Except PatchFault (Option Nat) :=
  match insertionPoint b.base i with
  | .error fault => (b, .error (.regex fault))
  | .ok none => (b, .ok none)
  | .ok (some index) =>
    match applyReplacements b i.renames with
    | (b', .error fault) => (b', .error fault)
    | (b', .ok count) =>
      match b'.insert index i.template with
      | .error fault => (b', .error (.edit fault))
      | .ok b'' => (b'', .ok (some count))

/-! ## Descriptors -/

/-- What came of a descriptor: the buffer after it, the notices, and the report or the fault. -/
structure Application where
  buffer : Buffer
  notices : List Notice
  result : Except PatchFault Report

/-- Makes insertions in order, adding to a report. -/
def applyInsertions (file : Text) (b : Buffer) (report : Report) : List Insertion → Application
  | [] => ⟨b, [], .ok report⟩
  | i :: rest =>
    match applyInsertion b i with
    | (b', .error fault) => ⟨b', [], .error fault⟩
    | (b', .ok none) =>
      let after := applyInsertions file b'
        { report with missingAnchors := report.missingAnchors ++ [i.anchor] } rest
      { after with
        notices := .anchorMissing report.descriptor file i.anchor i.innerAnchor :: after.notices }
    | (b', .ok (some count)) =>
      applyInsertions file b'
        { report with
          replacements := report.replacements + count, insertions := report.insertions + 1 } rest

/-- The notice that a file was patched in part only. -/
def partialNotice (file : Text) (report : Report) : List Notice :=
  if report.isPartial then [.partlyPatched report.descriptor file report.missingAnchors.length] else []

/-- Carries a descriptor out; `file` names the text in notices. -/
def applyDescriptor (b : Buffer) (d : Descriptor) (file : Text) : Application :=
  match applyReplacements b d.replacements with
  | (b', .error fault) => ⟨b', [], .error fault⟩
  | (b', .ok count) =>
    let a := applyInsertions file b' { descriptor := d.name, replacements := count } d.insertions
    match a.result with
    | .error _ => a
    | .ok report => { a with notices := a.notices ++ partialNotice file report }

end Graft.Patch
