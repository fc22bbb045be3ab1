/-
# Graft.Overlay -- modules served from a directory of their own

Patched files import a helper by a name that begins with the overlay's prefix.  The overlay turns such a
name into a path in its directory, and serves the text of the files there.

* `owns` compares components: a path belongs to the overlay if, made normal without looking at any file, it
  begins with the components of the overlay's directory.
* A file outside the overlay or one that does not exist is declined; one that may not be read or is not UTF-8 is
  a fault.
-/
import Graft.FileSystem.Basic
import Graft.Notice
import Graft.Text.Lines

namespace Graft

set_option autoImplicit false

/-- Why a file of the overlay cannot be served. -/
inductive LoadFault where
  | denied (file : Text)
  | decode (fault : Text.DecodeFault)
  deriving DecidableEq, Repr

def LoadFault.message : LoadFault → String
  | .denied file => s!"[Errno 13] Permission denied: {Text.str (Text.quoted file)}"
  | .decode fault => fault.message

structure Overlay where
  namePrefix : Text
  root : Path
  deriving DecidableEq, Repr

namespace Overlay

/-- An overlay over a directory, which may be given relative to the working directory. -/
def ofDirectory (fs : FileSystem) (namePrefix directory : Text) : Overlay :=
  ⟨namePrefix, Path.absolute fs.cwd directory⟩

/-- The path behind a name, if the name is the overlay's. -/
def resolveId (o : Overlay) (file : Text) : Option Text :=
  if o.namePrefix.isPrefixOf file then
    let relative := (file.drop o.namePrefix.length).dropWhile fun c => c == '/' || c == '\\'
    some ((Path.join o.root.toText relative).replaceChar '\\' '/')
  else none

/-- Whether a path lies in the overlay's directory. -/
def owns (o : Overlay) (fs : FileSystem) (path : Text) : Bool := (Path.absolute fs.cwd path).isWithin o.root

/-- The text of one of the overlay's files. -/
def load (o : Overlay) (fs : FileSystem) (file : Text) : Logged (Except LoadFault (Option Text)) :=
  if !o.owns fs file then .quiet (.ok none)
  else match fs.stat file with
    | .ok (.file bytes) =>
      match Text.decode bytes with
      | .ok t => .quiet (.ok (some (Text.unifyBreaks t)))
      | .error fault => .quiet (.error (.decode fault))
    | .ok .sealedFile => .quiet (.error (.denied file))
    | _ => ⟨[.moduleMissing file], .ok none⟩

end Overlay

end Graft
