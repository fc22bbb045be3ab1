/-
# Graft.FileSystem.Basic -- files, directories and symbolic links

A file system is a table from places to what is there.  A place is the list of the components that lead to
it from the root, none of them a dot or a double dot and no link among them.  `walk` follows a written path
to its place: links are followed wherever they are met, a double dot leads to the directory that really
holds the current one, and a path ends with a fault when something is missing, is no directory, may not be
searched, has too long a name, or after too many links.
-/
import Graft.Path
import Graft.Text.Utf8

namespace Graft

set_option autoImplicit false

/-- What can be at a place.  A sealed file may not be read, and a sealed directory may not be searched. -/
inductive FileEntry where
  | file (bytes : List UInt8)
  | sealedFile
  | directory
  | sealedDirectory
  | link (target : Text)
  deriving DecidableEq, Repr

/-- Relative paths begin in `cwd`. -/
structure FileSystem where
  cwd : Text
  entries : List (List Text × FileEntry)
  deriving DecidableEq, Repr

/-- Why a path leads nowhere. -/
inductive LookupFault where
  | missing
  | notDirectory
  | denied
  | tooManyLinks
  | nameTooLong
  | embeddedNul
  deriving DecidableEq, Repr

namespace FileSystem

/-- What is at a place; the root is always a directory. -/
def entry? (fs : FileSystem) (place : List Text) : Option FileEntry :=
  if place.isEmpty then some .directory else fs.entries.lookup place

/-- Adds what is missing on the way to a place as directories. -/
def addDirectories (fs : FileSystem) (done : List Text) : List Text → FileSystem
  | [] => fs
  | part :: rest =>
    let place := done ++ [part]
    let fs := if (fs.entry? place).isSome then fs else { fs with entries := fs.entries ++ [(place, .directory)] }
    addDirectories fs place rest

/-- Puts an entry at a place, with the directories on the way. -/
def add (fs : FileSystem) (place : List Text) (entry : FileEntry) : FileSystem :=
  let fs := fs.addDirectories [] place.dropLast
  { fs with entries := fs.entries.filter (·.1 != place) ++ [(place, entry)] }

/-- The longest name of one component, in bytes. -/
def nameLimit : Nat := 255

/-- Paths are shorter than this, in bytes. -/
def pathLimit : Nat := 4096

/-- How many links may be followed on one way. -/
def linkLimit : Nat := 40

/-- The components of a written path as a walk takes them: a path that ends with a slash asks for a
directory, which a dot at its end does too. -/
def steps (t : Text) : List Text :=
  (t.splitOn '/').filter (· != []) ++ (if t.getLast? = some '/' then [Path.dot] else [])

/-- Why nothing can be looked up in an entry that is no open directory. -/
def closedFault : Option FileEntry → LookupFault
  | some .sealedDirectory => .denied
  | _ => .notDirectory

/-- Follows components from a directory; `follow` says whether a link at the end is followed too. -/
def walkFrom (fs : FileSystem) (follow : Bool) (links : Nat) (here : List Text) (todo : List Text) :
    Except LookupFault (List Text × FileEntry) :=
  match todo with
  | [] =>
    match fs.entry? here with
    | some entry => .ok (here, entry)
    | none => .error .missing
  | part :: rest =>
    if fs.entry? here ≠ some .directory then .error (closedFault (fs.entry? here))
    else if part = Path.dot then walkFrom fs follow links here rest
    else if part = Path.dotDot then walkFrom fs follow links here.dropLast rest
    else if nameLimit < Text.byteLength part then .error .nameTooLong
    else match fs.entry? (here ++ [part]) with
      | none => .error .missing
      | some (.link target) =>
        if rest.isEmpty && !follow then .ok (here ++ [part], .link target)
        else match links with
          | 0 => .error .tooManyLinks
          | links + 1 =>
            walkFrom fs follow links (if Path.isAbsolute target then [] else here) (steps target ++ rest)
      | some _ => walkFrom fs follow links (here ++ [part]) rest
termination_by (links, todo.length)

/-- Follows a written path. -/
def walk (fs : FileSystem) (follow : Bool) (t : Text) : Except LookupFault (List Text × FileEntry) :=
  if t.contains '\x00' then .error .embeddedNul
  else if t.isEmpty then .error .missing
  else if pathLimit ≤ Text.byteLength t then .error .nameTooLong
  else walkFrom fs follow linkLimit [] (if Path.isAbsolute t then steps t else steps fs.cwd ++ steps t)

/-- What a path leads to. -/
def stat (fs : FileSystem) (t : Text) : Except LookupFault FileEntry := (fs.walk true t).map (·.2)

/-- The target of a path that leads to a link. -/
def linkTarget? (fs : FileSystem) (t : Text) : Except LookupFault (Option Text) :=
  match fs.walk false t with
  | .ok (_, .link target) => .ok (some target)
  | .ok _ => .ok none
  | .error fault => .error fault

end FileSystem

end Graft
