/-
# Graft.FileSystem.RealPath -- paths without links

`realPath` goes through a path component by component and puts the target of each link in its place.  What
does not exist is taken as it is written.  A link that is met again while its own target is being followed
ends the search: what has been found, and the rest as it is written, is the answer.  Targets that lead into
each other too deep are not followed to an end at all.
-/
import Graft.FileSystem.Basic

namespace Graft.FileSystem

set_option autoImplicit false

/-- The directory part of a path, and its last component. -/
def splitLast (t : Text) : Text × Text :=
  let last := (t.reverse.takeWhile (· != '/')).reverse
  let head := t.take (t.length - last.length)
  (if head.all (· == '/') then head else (head.reverse.dropWhile (· == '/')).reverse, last)

/-- The path of the directory above. -/
def parentOf (t : Text) : Text :=
  if t.isEmpty then Path.dotDot
  else
    let (head, last) := splitLast t
    if last = Path.dotDot then Path.join (Path.join head Path.dotDot) Path.dotDot else head

/-- Links met so far, each with the path that it stands for, or nothing while it is being followed. -/
abbrev SeenLinks := List (Text × Option Text)

/-- Why there is no real path: it cannot be asked for, or there are too many links inside each other. -/
inductive RealFault where
  | embeddedNul
  | tooDeep
  deriving DecidableEq, Repr

/-- A path found, whether no link went in circles, and the links met. -/
structure RealSearch where
  path : Text
  sound : Bool
  seen : SeenLinks

/-- Where the search for a target begins, and its components. -/
def searchStart (path target : Text) : Text × List Text :=
  if Path.isAbsolute target then (['/'], (target.drop 1).splitOn '/') else (path, target.splitOn '/')

/-- Goes on from a path that is free of links; `depth` is how many links may still be followed inside each
other. -/
def realFrom (fs : FileSystem) (depth : Nat) (path : Text) (todo : List Text) (seen : SeenLinks) :
    Except RealFault RealSearch :=
  match todo with
  | [] => .ok ⟨path, true, seen⟩
  | part :: rest =>
    if part = [] ∨ part = Path.dot then realFrom fs depth path rest seen
    else if part = Path.dotDot then realFrom fs depth (parentOf path) rest seen
    else
      let next := Path.join path part
      match fs.linkTarget? next with
      | .error .embeddedNul => .error .embeddedNul
      | .error _ => realFrom fs depth next rest seen
      | .ok none => realFrom fs depth next rest seen
      | .ok (some target) =>
        match seen.lookup next with
        | some (some known) => realFrom fs depth known rest seen
        | some none => .ok ⟨Path.join next (['/'].intercalate rest), false, seen⟩
        | none =>
          match depth with
          | 0 => .error .tooDeep
          | depth + 1 =>
            match realFrom fs depth (searchStart path target).1 (searchStart path target).2
                ((next, none) :: seen) with
            | .error fault => .error fault
            | .ok found =>
              if found.sound then
                realFrom fs (depth + 1) found.path rest ((next, some found.path) :: found.seen)
              else .ok ⟨Path.join found.path (['/'].intercalate rest), false, found.seen⟩
termination_by (depth, todo.length)

/-- The path that a text means, with no links in it as far as it exists; `depth` is how many links may be followed
inside each other before the stack of calls is spent. -/
def realPath (fs : FileSystem) (depth : Nat) (t : Text) : Except RealFault Path := do
  let (start, todo) := searchStart [] t
  let found ← fs.realFrom depth start todo []
  return Path.absolute fs.cwd found.path

end Graft.FileSystem
