/-
# Graft.Version.Manifest -- the installed version of a package

A package is looked for in the `node_modules` directory of a directory and then of those above it.  The
first manifest that is a file decides alone: if it cannot be read or names no version, the version is
unknown, whatever directories further up hold.

Only what goes too deep leaves no answer at all: links that lead in circles, and links or values nested beyond
what the stack of calls leaves `Room` for.
-/
import Graft.FileSystem.RealPath
import Graft.Json.Reader
import Graft.Text.Lines
import Graft.Version.Order

namespace Graft.Version

set_option autoImplicit false

open Graft.Text

/-- What the stack of calls leaves room for, where a version is asked for: links that are followed inside each other,
and arrays and objects that are open at a time. -/
structure Room where
  links : Nat
  values : Nat
  deriving DecidableEq, Repr

/-- The version that a value names. -/
def ofValue (value : Json) : Option Text :=
  match (value.member? "version".toList).bind Json.characters? with
  | some version => if version.trim.isEmpty then none else some version.trim
  | none => none

/-- The version that a manifest names, unless its value is nested too deep. -/
def ofManifest (room : Room) (bytes : List UInt8) : Except Json.Holder (Option Text) :=
  match decode bytes with
  | .error _ => .ok none
  | .ok t =>
    match Json.read room.values (unifyBreaks t) with
    | .error (.tooDeep holder) => .error holder
    | .error _ => .ok none
    | .ok value => .ok (ofValue value)

/-- The path of a package's manifest as seen from a directory; the name of a package may be a path. -/
def manifestPath (directory : Path) (package : Text) : Path :=
  let name := Path.partsOf package
  let file := "package.json".toList
  if Path.isAbsolute package then ⟨Path.leadOf package, name ++ [file]⟩
  else ⟨directory.lead, directory.parts ++ "node_modules".toList :: name ++ [file]⟩

/-- A directory and those above it, innermost first. -/
def upwards (directory : Path) : List Path :=
  (List.range (directory.parts.length + 1)).map fun k =>
    { directory with parts := directory.parts.take (directory.parts.length - k) }

/-- The bytes of the first manifest that is a file.  One that may not be read ends the search, and so does a path
that is too long or leads through a directory that may not be searched. -/
def firstManifest (fs : FileSystem) : List Text → Option (List UInt8)
  | [] => none
  | path :: rest =>
    match fs.stat path with
    | .ok (.file bytes) => some bytes
    | .ok .sealedFile | .error .nameTooLong | .error .denied => none
    | _ => firstManifest fs rest

/-- Why no version is given, not even an unknown one. -/
inductive ResolveFault where
  | linkLoop (path : Text)
  | linksTooDeep
  | valueTooDeep (holder : Json.Holder)
  deriving DecidableEq, Repr

def ResolveFault.message : ResolveFault → String
  | .linkLoop path => s!"Symlink loop from {str (quoted path)}"
  | .linksTooDeep => "maximum recursion depth exceeded"
  | .valueTooDeep holder =>
    s!"maximum recursion depth exceeded while decoding a JSON {holder.name} from a unicode string"

/-- The real path of a directory; the double dots in it lead up from where its links lead. -/
def realDirectory (room : Room) (fs : FileSystem) (root : Text) : Except FileSystem.RealFault Path :=
  fs.realPath room.links (Path.written root).toText

/-- Where the search for a package begins; nothing if that cannot be asked for. -/
def startDirectory (room : Room) (fs : FileSystem) (root : Text) : Except ResolveFault (Option Path) :=
  match realDirectory room fs root with
  | .error .embeddedNul => .ok none
  | .error .tooDeep => .error .linksTooDeep
  | .ok path =>
    match fs.stat path.toText with
    | .error .tooManyLinks => .error (.linkLoop path.toText)
    | _ => .ok (some path)

/-- The bytes of a package's manifest as seen from a directory. -/
def manifestFrom (fs : FileSystem) (start : Path) (package : Text) : Option (List UInt8) :=
  firstManifest fs ((upwards start).map fun d => (manifestPath d package).toText)

/-- The version of a package as seen from a directory. -/
def resolve (room : Room) (fs : FileSystem) (root package : Text) : Except ResolveFault Text := do
  match ← startDirectory room fs root with
  | none => return unknown
  | some start =>
    match manifestFrom fs start package with
    | none => return unknown
    | some bytes =>
      match ofManifest room bytes with
      | .error holder => throw (.valueTooDeep holder)
      | .ok version => return version.getD unknown

end Graft.Version
