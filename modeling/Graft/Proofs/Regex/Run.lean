/-
# Graft.Proofs.Regex.Run -- matching with the groups kept in a state

`Pattern.track` marks where groups begin and end as it goes, and takes marks away where a way failed.  Here a
pattern is matched with what its groups have matched kept in a state, and nothing is left of a way that failed.
Most patterns match the same (`Graft.Proofs.Regex.Tracking` says which), and this is the one to argue about.
-/
import Graft.Regex.Matching

namespace Graft.Regex

set_option autoImplicit false

/-- The place reached, and what each group has matched so far. -/
structure State where
  pos : Nat
  groups : List (Option Span)
  deriving DecidableEq, Repr

namespace State

def moved (st : State) (pos : Nat) : State := { st with pos := pos }

def group? (st : State) (index : Nat) : Option Span := (st.groups[index - 1]?).getD none

/-- What a group has matched, if it can be referred to. -/
def referred? (st : State) (index : Nat) : Option Span := (st.group? index).filter fun s => s.start ≤ s.stop

def setGroup (st : State) (index : Nat) (s : Span) : State :=
  { st with groups := st.groups.set (index - 1) (some s) }

end State

/-- What follows a part of a match, given the state after that part. -/
abbrev Follow := State → Option State

/-- Tries `least + extra`, then one less, and so on down to `least`. -/
def tryDown (f : Nat → Option State) (least : Nat) : Nat → Option State
  | 0 => f least
  | extra + 1 =>
    match f (least + (extra + 1)) with
    | some st => some st
    | none => tryDown f least extra

/-- Tries `least`, then one more, and so on up to `least + extra`. -/
def tryUp (f : Nat → Option State) (least : Nat) : Nat → Option State
  | 0 => f least
  | extra + 1 =>
    match f least with
    | some st => some st
    | none => tryUp f (least + 1) extra

/-- A repetition of one character. -/
def runChars (text : Array Char) (p : Char → Bool) (greed : Greed) (least : Nat) (most : Option Nat)
    (follow : Follow) (st : State) : Option State :=
  let longest := longestRun text p most st.pos
  if longest < least then none
  else
    let after (n : Nat) := follow (st.moved (st.pos + n))
    match greed with
    | .greedy => tryDown after least (longest - least)
    | .reluctant => tryUp after least (longest - least)
    | .possessive => after longest

/-- A repetition, `count` rounds of which are done; `last` is where the latest round that was not required
began.  `body` matches one round and what follows it. -/
def loop (body : Follow → Follow) (greed : Greed) (least : Nat) (most : Option Nat) (follow : Follow) :
    Nat → Nat → Option Nat → Follow
  | 0, _, _, st => follow st
  | fuel + 1, count, last, st =>
    if count < least then body (loop body greed least most follow fuel (count + 1) last) st
    else
      let again (_ : Unit) : Option State :=
        if mayRepeat most count && last != some st.pos then
          body (loop body greed least most follow fuel (count + 1) (some st.pos)) st
        else none
      match greed with
      | .greedy =>
        match again () with
        | some st' => some st'
        | none => follow st
      | .reluctant =>
        match follow st with
        | some st' => some st'
        | none => again ()
      | .possessive =>
        if mayRepeat most count && last != some st.pos then
          match body some st with
          | some st' => loop body greed least most follow fuel (count + 1) (some st.pos) st'
          | none => follow st
        else follow st

/-- The required rounds of a possessive repetition, each of them for good. -/
def settle (body : Follow → Follow) : Nat → Follow
  | 0, st => some st
  | n + 1, st => (body some st).bind (settle body n)

/-- Matches a pattern, and then what follows. -/
def Pattern.run (text : Array Char) : Pattern → Follow → Follow
  | .empty, follow, st => follow st
  | .char t, follow, st =>
    if passes text t.holds st.pos then follow (st.moved (st.pos + 1)) else none
  | .anchor a, follow, st => if a.holds text st.pos then follow st else none
  | .seq a b, follow, st => a.run text (b.run text follow) st
  | .alt a b, follow, st =>
    match a.run text follow st with
    | some st' => some st'
    | none => b.run text follow st
  | .group index body, follow, st =>
    body.run text (fun st' => follow (st'.setGroup index ⟨st.pos, st'.pos⟩)) st
  | .backref index f, follow, st =>
    match st.referred? index with
    | some s =>
      if repeatsSpan text f s st.pos then follow (st.moved (st.pos + (s.stop - s.start))) else none
    | none => none
  | .repeatChar greed least most t, follow, st => runChars text t.holds greed least most follow st
  | .repeatGroup greed least most body, follow, st =>
    match greed with
    | .possessive =>
      (settle (body.run text) least st).bind fun st' =>
        loop (body.run text) greed least most follow (loopFuel text 0 st'.pos) least none st'
    | _ => loop (body.run text) greed least most follow (loopFuel text least st.pos) 0 none st
  | .atomic body, follow, st => (body.run text some st).bind follow
  | .ahead negated body, follow, st =>
    match body.run text some st with
    | some st' => if negated then none else follow (st'.moved st.pos)
    | none => if negated then follow st else none
  | .behind negated (width, _) body, follow, st =>
    match if width ≤ st.pos then body.run text some (st.moved (st.pos - width)) else none with
    | some st' => if negated then none else follow (st'.moved st.pos)
    | none => if negated then follow st else none
  | .ifGroup index yes no, follow, st =>
    if (st.referred? index).isSome then yes.run text follow st else no.run text follow st

/-- The state in which a match begins. -/
def startState (r : Regex) (start : Nat) : State := ⟨start, List.replicate r.groups none⟩

/-- The end of a match that begins at a place; if `moving`, it must have moved on from there. -/
def finish (start : Nat) (moving : Bool) : Follow := fun st =>
  if moving && st.pos == start then none else some st

/-- The match that is found by running. -/
def runAt? (r : Regex) (text : Array Char) (start : Nat) (moving : Bool) : Option Match :=
  (r.pattern.run text (finish start moving) (startState r start)).map fun st => ⟨⟨start, st.pos⟩, st.groups⟩

end Graft.Regex
