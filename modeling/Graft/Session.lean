/-
# Graft.Session -- what is decided once for a build

A session holds the mode, the gate's decision, the filters and the overlay.  It is configured from options,
or from settings, whose mode and condition are read leniently.  Of several things that are wrong the first
is reported, in this order: mode, condition, filters, gate.  What the stack of calls leaves room for where this is
done, and how regular expressions are compiled, is given from outside.
-/
import Graft.Filter.FilterSet
import Graft.Overlay
import Graft.Settings
import Graft.Version.Gate

namespace Graft

set_option autoImplicit false

open Graft.Version (Room)

/-- Why a session cannot be configured. -/
inductive SessionFault where
  | mode (fault : ModeFault)
  | apply (fault : NameFault)
  | filter (fault : FilterFault)
  | gate (fault : Version.GateFault)
  deriving DecidableEq, Repr

def SessionFault.message : SessionFault → String
  | .mode fault => fault.message
  | .apply fault => fault.message
  | .filter fault => fault.message
  | .gate fault => fault.message

/-- What a session may be configured with. -/
structure SessionOptions where
  apply : ApplyCondition
  threshold : Text
  package : Text
  overlayPrefix : Text
  overlayDirectory : Text
  lists : FilterLists

structure Session where
  mode : Mode
  apply : ApplyCondition
  gate : Gate
  filters : FilterSet
  overlay : Overlay
  deriving DecidableEq, Repr

namespace Settings

/-- The options that the settings give, but for the condition. -/
def options (s : Settings) (apply : ApplyCondition) : SessionOptions where
  apply := apply
  threshold := s.fixedVersion
  package := dependencyName
  overlayPrefix := s.overlayPrefix
  overlayDirectory := s.overlayDirectory
  lists := {
    buildReplaceable := s.buildReplaceable.map .written
    buildExportDefault := s.buildExportDefault.map .written
    serve := s.serve.map .written
    exclude := s.exclude.map .written }

/-- The condition that the settings name, whatever its case and the blanks around it; none named means
always. -/
def applyCondition (s : Settings) : Except NameFault ApplyCondition :=
  ApplyCondition.ofName
    (Text.lower (if s.apply.isEmpty then ApplyCondition.always.name else s.apply)).trim

end Settings

namespace Session

/-- Whether the session engages in its mode at all. -/
def active (s : Session) : Bool := s.apply.allows s.mode

/-- Whether every file is left as it is. -/
def skip (s : Session) : Bool := s.gate.skip || !s.active

/-- Configures a session for a project directory. -/
def configure (room : Room) (fs : FileSystem) (root : Text) (mode : Mode) (o : SessionOptions)
    (compile : Regex.Compiler := Regex.compile {}) : Logged (Except SessionFault Session) :=
  match FilterSet.ofLists mode o.lists compile with
  | .error fault => .quiet (.error (.filter fault))
  | .ok filters =>
    (Gate.evaluate room fs root o.threshold o.package).map fun
      | .error fault => .error (.gate fault)
      | .ok gate =>
        .ok ⟨mode, o.apply, gate, filters, Overlay.ofDirectory fs o.overlayPrefix o.overlayDirectory⟩

/-- Configures a session as the settings say. -/
def ofSettings (room : Room) (fs : FileSystem) (s : Settings) (compile : Regex.Compiler := Regex.compile {}) :
    Logged (Except SessionFault Session) :=
  match Mode.parse (some s.mode) with
  | .error fault => .quiet (.error (.mode fault))
  | .ok mode =>
    match s.applyCondition with
    | .error fault => .quiet (.error (.apply fault))
    | .ok apply =>
      (Logged.mk [.configuring mode apply] ()).andThen fun _ =>
        configure room fs s.projectRoot mode (s.options apply) compile

end Session

end Graft
