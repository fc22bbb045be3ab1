/-
# Graft.Transform -- the hooks of a session

`transform` patches one file.  Its stages run in a fixed order on one buffer: the import of the helper comes
first, because the patches of the two categories refer to it.  A file that no stage concerns, or that ends
up unchanged, is declined, and so is every file of a session that skips.  `resolveId` and `load` answer for
the overlay while the session is active.

Which files are concerned is what `Filter.passes` says, for filters whose searches have no fault.
-/
import Graft.Patch.Application
import Graft.Session
import Graft.SourceMap.Mappings

namespace Graft

set_option autoImplicit false

open Graft.Edit Graft.Patch

/-- A patched file. -/
structure PatchResult where
  text : Text
  positions : PositionMap
  map : SourceMap
  deriving DecidableEq, Repr

namespace Session

/-- The line that imports the helper. -/
def helperImport (s : Session) : Text :=
  "import ".toList ++ Helper.importName ++ " from '".toList ++ s.overlay.namePrefix ++ Helper.fileName ++
    "';\n".toList

/-- What came of a stage: the buffer, the notices, and whether it concerned the file, or a fault. -/
structure StageResult where
  buffer : Buffer
  notices : List Notice
  result : Except PatchFault Bool

inductive Stage where
  | helper
  | category (c : Category)
  deriving DecidableEq, Repr

namespace Stage

/-- All stages in their order. -/
def all : List Stage := [.helper, .category .replaceable, .category .exportDefault]

def phase : Stage → Phase
  | .helper => .pre
  | .category _ => .post

def run (s : Session) (file : Text) (b : Buffer) : Stage → StageResult
  | .helper =>
    if s.filters.passesAny file then ⟨b.prepend s.helperImport, [], .ok true⟩ else ⟨b, [], .ok false⟩
  | .category c =>
    if !(s.filters.forCategory c).passes file then ⟨b, [], .ok false⟩
    else
      let selected := selectDescriptor s.mode c file
      match selected.result with
      | none => ⟨b, selected.notices, .ok true⟩
      | some d =>
        let a := applyDescriptor b d file
        ⟨a.buffer, selected.notices ++ a.notices, a.result.map fun _ => true⟩

end Stage

/-- Runs stages one after the other; `concerned` says whether an earlier one concerned the file. -/
def runStages (s : Session) (file : Text) (b : Buffer) (concerned : Bool) : List Stage → StageResult
  | [] => ⟨b, [], .ok concerned⟩
  | stage :: rest =>
    let r := stage.run s file b
    match r.result with
    | .error _ => r
    | .ok concerns =>
      let after := s.runStages file r.buffer (concerned || concerns) rest
      { after with notices := r.notices ++ after.notices }

/-- The stages of a phase; without a phase, all. -/
def stagesOf (phase : Option Phase) : List Stage := Stage.all.filter fun stage => phase.all (stage.phase == ·)

/-- Patches a file, or declines it. -/
def transform (s : Session) (file code : Text) (phase : Option Phase) :
    Logged (Except PatchFault (Option PatchResult)) :=
  if s.skip then .quiet (.ok none)
  else
    let r := s.runStages file (Buffer.ofText code) false (stagesOf phase)
    ⟨r.notices, r.result.map fun concerned =>
      if concerned && r.buffer.hasChanged then
        some ⟨r.buffer.toText, r.buffer.positionMap, r.buffer.sourceMap file none⟩
      else none⟩

/-- The path behind a name of the overlay. -/
def resolveId (s : Session) (file : Text) : Option Text :=
  if s.active then s.overlay.resolveId file else none

/-- The text of a file of the overlay. -/
def load (s : Session) (fs : FileSystem) (file : Text) : Logged (Except LoadFault (Option Text)) :=
  if s.active then s.overlay.load fs file else .quiet (.ok none)

end Session

end Graft
