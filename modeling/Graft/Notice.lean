/-
# Graft.Notice -- what is reported on the way

A notice says that something worth a line in the log happened.  Each has a level, and all wording is here.
A computation that reports gives its notices in the order in which they arose, beside its result.
-/
import Graft.Mode

namespace Graft

set_option autoImplicit false

open Graft.Text

inductive Level where
  | info
  | warning
  | error
  deriving DecidableEq, Repr

def Level.name : Level → String
  | .info => "INFO"
  | .warning => "WARNING"
  | .error => "ERROR"

inductive Notice where
  | configuring (mode : Mode) (apply : ApplyCondition)
  | alreadyFixed (package version threshold : Text)
  | versionUnknown (package : Text)
  | outdated (package version threshold : Text)
  | anchorMissing (descriptor file anchor innerAnchor : Text)
  | partlyPatched (descriptor file : Text) (missing : Nat)
  | noRecipe (file : Text)
  | moduleMissing (file : Text)
  | passThrough
  | listening (host : Text) (tcpPort : Int)
  | shuttingDown
  | healthFailed (reason : String)
  | transformFailed (file : Text) (reason : String)
  deriving DecidableEq, Repr

namespace Notice

def level : Notice → Level
  | .anchorMissing .. | .noRecipe .. | .moduleMissing .. => .warning
  | .partlyPatched .. | .healthFailed .. | .transformFailed .. => .error
  | _ => .info

/-- A file as notices name it; a text without a name has a stand-in. -/
def fileName (file : Text) : String := if file.isEmpty then "<text>" else str file

def message : Notice → String
  | .configuring mode apply =>
    s!"Configuring icon fix session: mode={str mode.name}, apply={str apply.name}"
  | .alreadyFixed package version threshold =>
    s!"{str package}@{str version} >= {str threshold}, skip fix"
  | .versionUnknown package => s!"{str package} version unknown, applying fix"
  | .outdated package version threshold =>
    s!"{str package}@{str version} < {str threshold}, applying fix"
  | .anchorMissing descriptor file anchor innerAnchor =>
    s!"[{str descriptor}] anchor not found in {fileName file}: {str anchor} / {str innerAnchor}"
  | .partlyPatched descriptor file missing =>
    s!"[{str descriptor}] {fileName file} is only partially patched, {missing} insertion(s) missing"
  | .noRecipe file => s!"No export-default recipe for {str file}"
  | .moduleMissing file => s!"Virtual module not found: {str file}"
  | .passThrough => "Icon fix disabled for this session, all hooks will pass through"
  | .listening host tcpPort => s!"Transform service listening on http://{str host}:{tcpPort}"
  | .shuttingDown => "Server shutting down..."
  | .healthFailed reason => s!"Health check error: {reason}"
  | .transformFailed file reason => s!"Transform failed for {str file}: {reason}"

end Notice

/-- A result and the notices that arose on the way to it. -/
structure Logged (α : Type) where
  notices : List Notice
  result : α

namespace Logged

variable {α β : Type}

/-- A result without notices. -/
def quiet (a : α) : Logged α := ⟨[], a⟩

def map (f : α → β) (l : Logged α) : Logged β := ⟨l.notices, f l.result⟩

/-- Goes on with the result; the later notices follow the earlier ones. -/
def andThen (l : Logged α) (f : α → Logged β) : Logged β :=
  ⟨l.notices ++ (f l.result).notices, (f l.result).result⟩

end Logged

end Graft
