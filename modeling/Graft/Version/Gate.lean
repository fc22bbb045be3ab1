/-
# Graft.Version.Gate -- whether a session patches at all

The gate compares the installed version with the first one that needs no patch.  Only a version that is
known and not older closes the gate.
-/
import Graft.Notice
import Graft.Version.Manifest

namespace Graft

set_option autoImplicit false

namespace Version

/-- Why the gate cannot decide. -/
inductive GateFault where
  | resolve (fault : ResolveFault)
  | number (fault : Text.IntegerFault)
  deriving DecidableEq, Repr

def GateFault.message : GateFault → String
  | .resolve fault => fault.message
  | .number fault => fault.message

end Version

open Graft.Version

structure Gate where
  version : Text
  threshold : Text
  skip : Bool
  deriving DecidableEq, Repr

namespace Gate

/-- What the gate's decision is reported as. -/
def notice (package : Text) (g : Gate) : Notice :=
  if g.skip then .alreadyFixed package g.version g.threshold
  else if g.version = unknown then .versionUnknown package
  else .outdated package g.version g.threshold

/-- Decides for a package as seen from a directory. -/
def evaluate (room : Room) (fs : FileSystem) (root threshold package : Text) : Logged (Except GateFault Gate) :=
  match resolve room fs root package with
  | .error fault => .quiet (.error (.resolve fault))
  | .ok version =>
    match shouldSkip version threshold with
    | .error fault => .quiet (.error (.number fault))
    | .ok skip =>
      let g : Gate := ⟨version, threshold, skip⟩
      ⟨[g.notice package], .ok g⟩

end Gate

end Graft
