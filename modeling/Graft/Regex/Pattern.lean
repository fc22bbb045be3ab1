/-
# Graft.Regex.Pattern -- patterns as trees

What a pattern is once its notation has been read: tests of one character, conditions on the place, and
the ways to combine them.  Case, line and script modes have been resolved into the tests, so a tree means
the same wherever it stands.

* `CharTest.holds` decides the tests.  A test that ignores case compares lower case forms, and takes lower
  case letters with a common capital for each other.
* `Pattern.width` bounds the number of characters that a match can have.
-/
import Graft.Text.Blank
import Graft.Text.Case
import Graft.Text.Digit
import Graft.Text.Letter

namespace Graft.Regex

set_option autoImplicit false

open Graft.Text

/-! ## One character -/

inductive CharKind where
  | digit
  | space
  | word
  deriving DecidableEq, Repr

/-- Whether a character is of a kind, in ASCII alone or in all scripts. -/
def CharKind.holds (k : CharKind) (ascii : Bool) (c : Char) : Bool :=
  match k, ascii with
  | .digit, false => isDecimal c
  | .space, false => isBlank c
  | .word, false => isWord c
  | .digit, true => c.isDigit
  | .space, true => c == ' ' || (9 ≤ c.toNat && c.toNat ≤ 13)
  | .word, true => c.isAlphanum || c == '_'

inductive ClassItem where
  | code (c : Nat)
  | range (low high : Nat)
  | kind (k : CharKind) (negated ascii : Bool)
  deriving DecidableEq, Repr

/-- How case is treated: kept apart, or ignored in ASCII or in all scripts. -/
inductive Folding where
  | exact
  | ascii
  | full
  deriving DecidableEq, Repr

def asciiLower (c : Nat) : Nat := if 65 ≤ c ∧ c ≤ 90 then c + 32 else c

def isAsciiLetter (c : Nat) : Bool := (65 ≤ c && c ≤ 90) || (97 ≤ c && c ≤ 122)

def Folding.lower : Folding → Nat → Nat
  | .exact, c => c
  | .ascii, c => asciiLower c
  | .full, c => lowerCode c

def Folding.hasCase : Folding → Nat → Bool
  | .exact, _ => false
  | .ascii, c => isAsciiLetter c
  | .full, c => Text.hasCase c

/-- The lower case forms that a character matches when case is ignored. -/
def Folding.forms : Folding → Nat → List Nat
  | .full, c => lowerCode c :: kinOf (lowerCode c)
  | f, c => [f.lower c]

/-- The characters that match the lower case form `c`. -/
def Folding.sources : Folding → Nat → List Nat
  | .exact, c => [c]
  | .ascii, c => if 97 ≤ c ∧ c ≤ 122 then [c, c - 32] else [c]
  | .full, c => (c :: kinOf c).flatMap lowerSources

namespace ClassItem

def holds (c : Char) : ClassItem → Bool
  | .code n => c.toNat = n
  | .range low high => low ≤ c.toNat && c.toNat ≤ high
  | .kind k negated ascii => k.holds ascii c != negated

/-- Whether case matters for what the item holds. -/
def hasCase (f : Folding) : ClassItem → Bool
  | .code n => f.hasCase n || (f != .exact && 0x10000 ≤ n)
  | .range low high =>
    match f with
    | .exact => false
    | .ascii => (low ≤ 90 && 65 ≤ high) || (low ≤ 122 && 97 ≤ high) || 0x10000 ≤ high
    | .full => anyCaseBetween low high || 0x10000 ≤ high
  | .kind .. => false

/-- Whether the item holds for a character whose lower case form is `x`. -/
def holdsFolded (f : Folding) (x : Nat) : ClassItem → Bool
  | .code n => if 0x10000 ≤ n then x == n else (f.forms n).contains x
  | .range low high => (f.sources x).any fun c => low ≤ c && c ≤ high
  | .kind k negated ascii => k.holds ascii (Char.ofNat x) != negated

end ClassItem

/-- What is asked of one character. -/
inductive CharTest where
  | any
  | notBreak
  | code (c : Nat) (negated : Bool) (folding : Folding)
  | set (items : List ClassItem) (negated : Bool) (folding : Folding)
  deriving DecidableEq, Repr

def CharTest.holds : CharTest → Char → Bool
  | .any, _ => true
  | .notBreak, c => c != '\n'
  | .code n negated f, c =>
    (if f.hasCase n then (f.forms n).contains (f.lower c.toNat) else c.toNat == n) != negated
  | .set items negated f, c =>
    (if items.any (·.hasCase f) then items.any (·.holdsFolded f (f.lower c.toNat))
      else items.any (·.holds c)) != negated

/-! ## Patterns -/

/-- What is asked of a place between characters. -/
inductive Anchor where
  | textStart
  | lineStart
  | textEnd
  | lastLineEnd
  | lineEnd
  | wordBoundary (negated ascii : Bool)
  deriving DecidableEq, Repr

/-- How a repetition chooses: as much as possible, as little as possible, or as much as possible for good. -/
inductive Greed where
  | greedy
  | reluctant
  | possessive
  deriving DecidableEq, Repr

/-- A pattern.  `repeatChar` repeats a test of one character, `repeatGroup` any other pattern; without a
largest number the repetition is unbounded.  `look` asks that its body match from here on, or, with a
number of characters, that it match the characters up to here. -/
inductive Pattern where
  | empty
  | char (test : CharTest)
  | anchor (a : Anchor)
  | seq (first second : Pattern)
  | alt (first second : Pattern)
  | group (index : Nat) (body : Pattern)
  | backref (index : Nat) (folding : Folding)
  | repeatChar (greed : Greed) (least : Nat) (most : Option Nat) (test : CharTest)
  | repeatGroup (greed : Greed) (least : Nat) (most : Option Nat) (body : Pattern)
  | atomic (body : Pattern)
  | ahead (negated : Bool) (body : Pattern)
  | behind (negated : Bool) (width : Nat × Nat) (body : Pattern)
  | ifGroup (index : Nat) (yes no : Pattern)
  deriving DecidableEq, Repr

namespace Pattern

/-- Widths are counted up to this number. -/
def widthLimit : Nat := Nat.pow 2 64

def capped (w : Nat × Nat) : Nat × Nat := (min w.1 widthLimit, min w.2 widthLimit)

def repeatWidth (least : Nat) (most : Option Nat) (w : Nat × Nat) : Nat × Nat :=
  capped (w.1 * least,
    match most with
    | some n => w.2 * n
    | none => if w.2 = 0 then 0 else widthLimit)

/-- The least and greatest number of characters of a match, given those of the groups. -/
def width (groups : Nat → Nat × Nat) : Pattern → Nat × Nat
  | .empty => (0, 0)
  | .char _ => (1, 1)
  | .anchor _ => (0, 0)
  | .seq a b =>
    let (l, h) := a.width groups
    let (l', h') := b.width groups
    capped (l + l', h + h')
  | .alt a b =>
    let (l, h) := a.width groups
    let (l', h') := b.width groups
    (min l l', max h h')
  | .group _ body => body.width groups
  | .backref index _ => groups index
  | .repeatChar _ least most _ => repeatWidth least most (1, 1)
  | .repeatGroup _ least most body => repeatWidth least most (body.width groups)
  | .atomic body => body.width groups
  | .ahead .. => (0, 0)
  | .behind .. => (0, 0)
  | .ifGroup _ yes no =>
    let (l, h) := yes.width groups
    let (l', h') := no.width groups
    (min l l', max h h')

/-- Repeats a pattern. -/
def repeated (greed : Greed) (least : Nat) (most : Option Nat) : Pattern → Pattern
  | .char t => .repeatChar greed least most t
  | p => .repeatGroup greed least most p

/-- The patterns one after the other. -/
def sequence : List Pattern → Pattern
  | [] => .empty
  | [p] => p
  | p :: rest => .seq p (sequence rest)

/-- The patterns that stand one after the other in a pattern. -/
def parts : Pattern → List Pattern
  | .empty => []
  | .seq a b => a.parts ++ b.parts
  | p => [p]

/-- What branches may share: a test, a condition on the place, or a reference to a group. -/
def isShareable : Pattern → Bool
  | .char _ | .anchor _ | .backref .. => true
  | _ => false

/-- Takes off what the parts of a branch and those of all others begin with. -/
def takeShared : List Pattern → List (List Pattern) → List Pattern × List (List Pattern)
  | [], others => ([], [] :: others)
  | p :: rest, others =>
    if p.isShareable && others.all (·.head? == some p) then
      let (shared, left) := takeShared rest (others.map List.tail)
      (p :: shared, left)
    else ([], (p :: rest) :: others)

/-- What a branch asks of one character, if it does not ask for anything else. -/
def asked? : List Pattern → Option (List ClassItem × Folding)
  | [.char (.code c false f)] => some ([.code c], f)
  | [.char (.set items false f)] => some (items, f)
  | _ => none

/-- One test in place of branches that each ask for one character, with case treated alike. -/
def merged? (branches : List (List Pattern)) : Option Pattern := do
  let asked ← branches.mapM asked?
  let (_, f) ← asked.head?
  if asked.all (·.2 == f) then some (.char (.set (asked.flatMap (·.1)).eraseDups false f)) else none

def firstOf : List Pattern → Pattern
  | [] => .empty
  | [p] => p
  | p :: rest => .alt p (firstOf rest)

/-- The first of the patterns that leads to a match.  What all begin with is read once, and branches of one
character each make one test, so that a repetition of them repeats one character. -/
def choice : List Pattern → Pattern
  | [] => .empty
  | [p] => p
  | p :: rest =>
    let (shared, left) := takeShared p.parts (rest.map parts)
    sequence (shared ++ [(merged? left).getD (firstOf (left.map sequence))])

end Pattern

end Graft.Regex
