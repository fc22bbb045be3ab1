/-
# Graft.Filter.FilterSet -- the filters of a build mode

In a build, single modules are patched, and each category has a filter of its own.  A development server
knows only the bundle, so both categories share one filter.  An empty list of including patterns would let
every module through, so it is refused before any pattern is read; lists that the mode does not use are not
looked at.
-/
import Graft.Filter.Basic
import Graft.Mode
import Graft.Patch.Recipe

namespace Graft

set_option autoImplicit false

open Graft.Patch

/-- The lists of patterns that filters are made from. -/
structure FilterLists where
  buildReplaceable : List GivenPattern
  buildExportDefault : List GivenPattern
  serve : List GivenPattern
  exclude : List GivenPattern := []

structure FilterSet where
  replaceable : Filter
  exportDefault : Filter
  deriving DecidableEq, Repr

namespace FilterSet

/-- Refuses an empty list. -/
def require (list : IncludeList) (patterns : List GivenPattern) : Except FilterFault Unit :=
  if patterns.isEmpty then .error (.emptyInclude list) else .ok ()

def ofLists (mode : Mode) (lists : FilterLists) (compile : Regex.Compiler := Regex.compile {}) :
    Except FilterFault FilterSet :=
  match mode with
  | .build => do
    require .buildReplaceable lists.buildReplaceable
    require .buildExportDefault lists.buildExportDefault
    let replaceable ← Filter.ofGiven lists.buildReplaceable lists.exclude compile
    let exportDefault ← Filter.ofGiven lists.buildExportDefault lists.exclude compile
    return ⟨replaceable, exportDefault⟩
  | .serve => do
    require .serve lists.serve
    let bundle ← Filter.ofGiven lists.serve lists.exclude compile
    return ⟨bundle, bundle⟩

def forCategory (s : FilterSet) : Category → Filter
  | .replaceable => s.replaceable
  | .exportDefault => s.exportDefault

def passesAny (s : FilterSet) (file : Text) : Bool :=
  s.replaceable.passes file || s.exportDefault.passes file

/-- What the filters say of a value for some category; if the first lets it through, the second is not asked. -/
def answerAny (s : FilterSet) (v : Json) : Except Regex.Fault Bool := do
  if ← s.replaceable.answerValue v then return true else s.exportDefault.answerValue v

end FilterSet

end Graft
