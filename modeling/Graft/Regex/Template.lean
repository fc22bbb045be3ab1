/-
# Graft.Regex.Template -- replacement texts with references to groups

A template is a text in which a backslash refers to a group by number or name, or writes a character by an
escape.  Expanding it for a match puts what each group matched in place of its reference; a group that took
no part in the match stands for nothing.
-/
import Graft.Regex.Matching

namespace Graft.Regex

set_option autoImplicit false

open Graft.Text

inductive TemplatePart where
  | text (t : Text)
  | group (index : Nat)
  deriving DecidableEq, Repr

namespace TemplatePart

/-- A reference to a group that the pattern must have; `back` is how far before the next token it stands. -/
def reference (r : Regex) (s : Source) (index back : Nat) : Except Fault TemplatePart :=
  if r.groups < index then .error (s.refuse (.noSuchGroup index) back) else .ok (.group index)

/-- A reference in angle brackets, by name or by number. -/
def named (r : Regex) (s : Source) : Except Fault (TemplatePart × Source) := do
  let (opened, s) ← s.accept '<'
  if !opened then throw (s.refuse (.missing "<") 0)
  let (name, s) ← s.takeName '>' "group name"
  let back := name.length + 1
  if isName name then
    match r.names.lookup name with
    | some index => return (← reference r s index back, s)
    | none => throw (.unknownName name)
  else match readInteger name with
    | .error _ => throw (s.refuse (.badGroupName name) back)
    | .ok n =>
      if n < 0 then throw (s.refuse (.badGroupName name) back)
      if Reading.groupLimit ≤ n.toNat then throw (s.refuse (.noSuchGroup n.toNat) back)
      return (← reference r s n.toNat back, s)

/-- An octal escape of three digits, or a reference by one or two digits. -/
def numbered (r : Regex) (c : Char) (s : Source) : Except Fault (TemplatePart × Source) := do
  let (second, s) ← s.takeWhile Char.isDigit 1
  let octal := isOctal c && !second.isEmpty && second.all isOctal
  let (third, s) ← s.takeWhile isOctal (if octal then 1 else 0)
  let digits := c :: second ++ third
  if third.isEmpty then return (← reference r s (decimalValue digits) digits.length, s)
  let code := valueIn 8 digits
  if 0xFF < code then throw (s.refuse (.octalTooLarge ('\\' :: digits)) (digits.length + 1))
  return (.text [Char.ofNat code], s)

/-- The part that a backslash and a character begin. -/
def escaped (r : Regex) (c : Char) (s : Source) : Except Fault (TemplatePart × Source) := do
  if c = 'g' then named r s
  else if c = '0' then
    let (digits, s) ← s.takeWhile isOctal 2
    return (.text [Char.ofNat (valueIn 8 digits % 256)], s)
  else if c.isDigit then numbered r c s
  else match letterEscape? c with
    | some code => return (.text [Char.ofNat code], s)
    | none =>
      if c.isAlpha then throw (s.refuse (.badEscape ['\\', c]) 2)
      return (.text ['\\', c], s)

/-- The parts of what is left of a template; there is at least one token for each unit of fuel used. -/
def readFrom (r : Regex) : Nat → Source → Except Fault (List TemplatePart)
  | 0, _ => .ok []
  | fuel + 1, s => do
    match ← s.take with
    | (none, _) => return []
    | (some ['\\', c], s) => do
      let (part, s) ← escaped r c s
      return part :: (← readFrom r fuel s)
    | (some t, s) => return .text t :: (← readFrom r fuel s)

/-- Reads a template for a pattern. -/
def read (r : Regex) (template : Text) : Except Fault (List TemplatePart) := do
  let s ← Source.ofText template
  readFrom r (s.tokens.length + 1) s

/-- What a part stands for in a match in a text. -/
def expand (t : Text) (m : Match) : TemplatePart → Text
  | .text s => s
  | .group index =>
    match m.group? index with
    | some span => t.slice span.start span.stop
    | none => []

end TemplatePart

/-- The template with what the groups matched. -/
def expandTemplate (r : Regex) (template t : Text) (m : Match) : Except Fault Text := do
  return (← TemplatePart.read r template).flatMap (·.expand t m)

end Graft.Regex
