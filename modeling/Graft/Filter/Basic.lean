/-
# Graft.Filter.Basic -- which files are concerned

A filter has patterns that include a file and patterns that exclude it.  A pattern is written as a glob, or
after `re:` as a regular expression; both are looked for anywhere in the name of the file, with every
backslash taken for a slash.

* A file whose name begins with NUL belongs to the bundler and never passes.
* One excluding pattern is enough to keep a file out.  Without including patterns everything else passes.
* Patterns are tried in order until one is found.  A search that comes back with a crossed match is a fault, and then
  there is no answer; `passes` leaves that aside, `answer` does not.
-/
import Graft.Glob
import Graft.Json.Basic
import Graft.Regex.Matching

namespace Graft

set_option autoImplicit false

/-- A pattern as it is given: written, compiled already, or a value that is no pattern. -/
inductive GivenPattern where
  | written (t : Text)
  | compiled (r : Regex)
  | other (v : Json)

/-- A list of including patterns that a mode needs. -/
inductive IncludeList where
  | buildReplaceable
  | buildExportDefault
  | serve
  deriving DecidableEq, Repr

def IncludeList.label : IncludeList → String
  | .buildReplaceable => "build replaceable"
  | .buildExportDefault => "build export-default"
  | .serve => "serve"

/-- Why a filter cannot be made. -/
inductive FilterFault where
  | emptyInclude (list : IncludeList)
  | noPattern (shown : Text)
  | malformed (pattern : Text) (cause : Regex.Cause) (spot : Option Regex.Spot)
  | unreadable (fault : Regex.Fault)
  deriving DecidableEq, Repr

def FilterFault.message : FilterFault → String
  | .emptyInclude list => s!"Empty {list.label} include list would match every module"
  | .noPattern shown => s!"Invalid filter pattern: {Text.str shown}"
  | .malformed pattern cause spot =>
    s!"Invalid filter pattern {Text.str (Text.quoted pattern)}: " ++
      (Regex.Fault.malformed cause spot).message
  | .unreadable fault => fault.message

/-- A pattern that is ready for use. -/
inductive FilePattern where
  | regex (r : Regex)
  | glob (g : Glob)
  deriving DecidableEq, Repr

namespace FilePattern

def isFoundIn (t : Text) : FilePattern → Bool
  | .regex r => Regex.isFoundIn r t
  | .glob g => g.isFoundIn t

/-- What a search for the pattern says; a glob has no groups that could be crossed. -/
def find (t : Text) : FilePattern → Except Regex.Fault Bool
  | .regex r => (Regex.find r t).map (·.isSome)
  | .glob g => .ok (g.isFoundIn t)

/-- Whether one of several patterns is found, tried in order up to the first that is. -/
def findAny (t : Text) : List FilePattern → Except Regex.Fault Bool
  | [] => .ok false
  | p :: rest => do if ← p.find t then return true else findAny t rest

/-- What marks a pattern as a regular expression. -/
def regexMark : Text := "re:".toList

/-- Reads a written pattern. -/
def ofText (t : Text) (compile : Regex.Compiler := Regex.compile {}) : Except FilterFault FilePattern :=
  if t.isEmpty then .error (.noPattern (Text.quoted t))
  else if regexMark.isPrefixOf t then
    match compile (t.drop regexMark.length) with
    | .ok r => .ok (.regex r)
    | .error (.malformed cause spot) => .error (.malformed t cause spot)
    | .error fault => .error (.unreadable fault)
  else .ok (.glob (Glob.read t))

def ofGiven (p : GivenPattern) (compile : Regex.Compiler := Regex.compile {}) : Except FilterFault FilePattern :=
  match p with
  | .written t => ofText t compile
  | .compiled r => .ok (.regex r)
  | .other v => .error (.noPattern v.shown)

end FilePattern

structure Filter where
  included : List FilePattern
  excluded : List FilePattern
  deriving DecidableEq, Repr

namespace Filter

/-- Reads the patterns, the including ones first. -/
def ofGiven (included excluded : List GivenPattern) (compile : Regex.Compiler := Regex.compile {}) :
    Except FilterFault Filter := do
  let included ← included.mapM (FilePattern.ofGiven · compile)
  let excluded ← excluded.mapM (FilePattern.ofGiven · compile)
  return ⟨included, excluded⟩

/-- The name of a file with slashes only. -/
def normalized (file : Text) : Text := file.replaceChar '\\' '/'

def passes (f : Filter) (file : Text) : Bool :=
  if file.head? = some '\x00' then false
  else if f.excluded.any (·.isFoundIn (normalized file)) then false
  else f.included.isEmpty || f.included.any (·.isFoundIn (normalized file))

/-- What the filter says of a file: whether it passes, or the fault of the first search that has one. -/
def answer (f : Filter) (file : Text) : Except Regex.Fault Bool :=
  if file.head? = some '\x00' then .ok false
  else do
    if ← FilePattern.findAny (normalized file) f.excluded then return false
    else if f.included.isEmpty then return true
    else FilePattern.findAny (normalized file) f.included

/-- What the filter says of a value; only texts name files. -/
def answerValue (f : Filter) : Json → Except Regex.Fault Bool
  | .text file => f.answer file
  | _ => .ok false

end Filter

end Graft
