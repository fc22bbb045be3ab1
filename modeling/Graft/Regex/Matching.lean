/-
# Graft.Regex.Matching -- matches of a pattern in a text

A pattern is matched by trying its ways in order of preference and handing each to what follows it, until
one of them leads to the end: `Pattern.track` takes the rest of the match as a function.  On the way the
places where groups begin and end are marked.

What becomes of the marks of a way that fails is part of what a pattern means, since a condition may ask for
a group that is not complete yet.  Such a way hands its marks back, and whoever tries another one takes the
marks above its own away (`restore`); only inside a repetition it puts all of its own back as they were.  A
possessive repetition does not count as one, so its rounds may leave a group whose end lies before its start.
A match with such a group is crossed, and nothing can be done with it.

* A repetition of one character is tried from its longest run down, or from its shortest up.
* Any other repetition goes round until its least number is reached, and after that only while going round
  moves on; so it ends, and `loopFuel` bounds the number of rounds.
* `Regex.search` gives the leftmost match; `Regex.findAll` all matches from left to right, where after an
  empty match the next one may begin at the same place if it is not empty.
-/
import Graft.Regex.Reader

namespace Graft.Regex

set_option autoImplicit false

/-- A range of a text. -/
structure Span where
  start : Nat
  stop : Nat
  deriving DecidableEq, Repr

/-! ## Marks -/

/-- Where groups begin and end: a place for the start of a group and one for its end, group after group, up to
the last one that was set. -/
abbrev Marks := List (Option Nat)

/-- Where the start of a group is marked; its end is marked behind it. -/
def startMark (index : Nat) : Nat := 2 * (index - 1)

namespace Marks

/-- Sets a mark; those between the last one and this one are there and not set. -/
def put (marks : Marks) (i pos : Nat) : Marks :=
  (marks ++ List.replicate (i + 1 - marks.length) none).set i (some pos)

def at? (marks : Marks) (i : Nat) : Option Nat := (marks[i]?).getD none

/-- The range of a group whose start and end are marked. -/
def span? (marks : Marks) (index : Nat) : Option Span :=
  match marks.at? (startMark index), marks.at? (startMark index + 1) with
  | some start, some stop => some ⟨start, stop⟩
  | _, _ => none

/-- The range of a group that can be referred to: it does not end before it starts. -/
def referred? (marks : Marks) (index : Nat) : Option Span :=
  (marks.span? index).filter fun s => s.start ≤ s.stop

/-- The marks to try another way with, after those of a way that failed. -/
def restore (looped : Bool) (saved lost : Marks) : Marks := if looped then saved else lost.take saved.length

end Marks

/-- Where a match stands: the place reached, and the marks. -/
structure Cursor where
  pos : Nat
  marks : Marks
  deriving DecidableEq, Repr

namespace Cursor

def moved (c : Cursor) (pos : Nat) : Cursor := { c with pos := pos }

/-- Sets a mark here. -/
def mark (c : Cursor) (i : Nat) : Cursor := { c with marks := c.marks.put i c.pos }

end Cursor

/-! ## Ways to go on -/

/-- What follows a part of a match; a failure hands the marks back. -/
abbrev Next := Cursor → Except Marks Cursor

/-- Nothing leads on from here. -/
def fail : Next := fun c => .error c.marks

/-- Tries a second way where the first one fails; `looped` says whether this is inside a repetition. -/
def orElse (looped : Bool) (first second : Next) (c : Cursor) : Except Marks Cursor :=
  match first c with
  | .ok c' => .ok c'
  | .error lost => second { c with marks := c.marks.restore looped lost }

/-- Whether the character at a place, if there is one, passes. -/
def passes (text : Array Char) (p : Char → Bool) (pos : Nat) : Bool := (text[pos]?).any p

def Anchor.holds (text : Array Char) (pos : Nat) : Anchor → Bool
  | .textStart => pos = 0
  | .lineStart => pos = 0 || passes text (· == '\n') (pos - 1)
  | .textEnd => pos = text.size
  | .lastLineEnd => pos = text.size || (pos + 1 = text.size && passes text (· == '\n') pos)
  | .lineEnd => pos = text.size || passes text (· == '\n') pos
  | .wordBoundary negated ascii =>
    let isWord := passes text (CharKind.word.holds ascii)
    text.size != 0 && ((pos != 0 && isWord (pos - 1)) != isWord pos) != negated

/-- How many characters from `pos` on pass, up to a limit. -/
def runLength (text : Array Char) (p : Char → Bool) (pos : Nat) : Nat → Nat
  | 0 => 0
  | limit + 1 => if passes text p pos then runLength text p (pos + 1) limit + 1 else 0

/-- How many characters a repetition may take at most. -/
def longestRun (text : Array Char) (p : Char → Bool) (most : Option Nat) (pos : Nat) : Nat :=
  runLength text p pos (most.elim (text.size - pos) (min (text.size - pos)))

/-- Goes on a number of characters further. -/
def skip (next : Next) (n : Nat) : Next := fun c => next (c.moved (c.pos + n))

/-- Goes on `least + extra` characters further, then one less, and so on down to `least`. -/
def trackDown (looped : Bool) (next : Next) (least : Nat) : Nat → Next
  | 0, c => orElse looped (skip next least) fail c
  | extra + 1, c => orElse looped (skip next (least + (extra + 1))) (trackDown looped next least extra) c

/-- Goes on `least` characters further, then one more, and so on up to `least + extra`. -/
def trackUp (looped : Bool) (next : Next) (least : Nat) : Nat → Next
  | 0, c => orElse looped (skip next least) fail c
  | extra + 1, c => orElse looped (skip next least) (trackUp looped next (least + 1) extra) c

/-- A repetition of one character. -/
def trackChars (text : Array Char) (p : Char → Bool) (greed : Greed) (least : Nat) (most : Option Nat)
    (looped : Bool) (next : Next) (c : Cursor) : Except Marks Cursor :=
  let longest := longestRun text p most c.pos
  if longest < least then fail c
  else
    match greed with
    | .greedy => trackDown looped next least (longest - least) c
    | .reluctant => trackUp looped next least (longest - least) c
    | .possessive => skip next longest c

/-- Whether a repetition that has gone round `count` times may go round again. -/
def mayRepeat (most : Option Nat) (count : Nat) : Bool := most.all (count < ·)

/-- A repetition, `count` rounds of which are done; `last` is where the latest round that was not required
began.  `body` matches one round and what follows it, and `outer` says whether the repetition stands in
another one. -/
def rounds (body : Next → Next) (reluctant outer : Bool) (least : Nat) (most : Option Nat) (next : Next) :
    Nat → Nat → Option Nat → Next
  | 0, _, _, c => next c
  | fuel + 1, count, last, c =>
    if count < least then body (rounds body reluctant outer least most next fuel (count + 1) last) c
    else
      let again : Next := fun c =>
        if mayRepeat most count && last != some c.pos then
          body (rounds body reluctant outer least most next fuel (count + 1) (some c.pos)) c
        else fail c
      if reluctant then orElse outer next again c else orElse true again next c

/-- The required rounds of a possessive repetition, each of them for good. -/
def settled (round : Next) : Nat → Next
  | 0, c => .ok c
  | n + 1, c => (round c).bind (settled round n)

/-- The further rounds of a possessive repetition. -/
def exhausted (round : Next) (most : Option Nat) : Nat → Nat → Option Nat → Cursor → Cursor
  | 0, _, _, c => c
  | fuel + 1, count, last, c =>
    if mayRepeat most count && last != some c.pos then
      match round c with
      | .ok c' => exhausted round most fuel (count + 1) (some c.pos) c'
      | .error _ => c
    else c

/-- Enough rounds for any match: the required ones, and one for each place from `pos` on. -/
def loopFuel (text : Array Char) (least pos : Nat) : Nat := least + (text.size - pos) + 2

/-- Whether the characters of a span occur at `pos`, compared by their forms. -/
def repeatsSpan (text : Array Char) (f : Folding) (s : Span) (pos : Nat) : Bool :=
  (List.range (s.stop - s.start)).all fun k =>
    match text[s.start + k]?, text[pos + k]? with
    | some a, some b => f.lower a.toNat == f.lower b.toNat
    | _, _ => false

/-- Goes on where a look ahead or behind found something, or, if it is negated, where it found nothing. -/
def look (negated looped : Bool) (next : Next) (c : Cursor) : Except Marks Cursor → Except Marks Cursor
  | .ok found => if negated then .error found.marks else next (found.moved c.pos)
  | .error lost => if negated then next { c with marks := c.marks.restore looped lost } else .error lost

/-- Matches a pattern, and then what follows; `looped` says whether it stands inside a repetition. -/
def Pattern.track (text : Array Char) : Pattern → Bool → Next → Next
  | .empty, _, next, c => next c
  | .char t, _, next, c => if passes text t.holds c.pos then next (c.moved (c.pos + 1)) else fail c
  | .anchor a, _, next, c => if a.holds text c.pos then next c else fail c
  | .seq a b, looped, next, c => a.track text looped (b.track text looped next) c
  | .alt a b, looped, next, c =>
    orElse looped (a.track text looped next) (orElse looped (b.track text looped next) fail) c
  | .group index body, looped, next, c =>
    body.track text looped (fun c' => next (c'.mark (startMark index + 1))) (c.mark (startMark index))
  | .backref index f, _, next, c =>
    match c.marks.referred? index with
    | some s => if repeatsSpan text f s c.pos then next (c.moved (c.pos + (s.stop - s.start))) else fail c
    | none => fail c
  | .repeatChar greed least most t, looped, next, c => trackChars text t.holds greed least most looped next c
  | .repeatGroup greed least most body, looped, next, c =>
    match greed with
    | .possessive =>
      let round : Next := body.track text looped .ok
      (settled round least c).bind fun c' => next (exhausted round most (loopFuel text 0 c'.pos) least none c')
    | _ =>
      rounds (body.track text true) (greed == .reluctant) looped least most next (loopFuel text least c.pos) 0
        none c
  | .atomic body, looped, next, c => (body.track text looped .ok c).bind next
  | .ahead negated body, looped, next, c => look negated looped next c (body.track text looped .ok c)
  | .behind negated (width, _) body, looped, next, c =>
    look negated looped next c
      (if width ≤ c.pos then body.track text looped .ok (c.moved (c.pos - width)) else fail c)
  | .ifGroup index yes no, looped, next, c =>
    if (c.marks.referred? index).isSome then yes.track text looped next c else no.track text looped next c

/-! ## Matches -/

/-- A match: its range, and what each group matched. -/
structure Match where
  span : Span
  groups : List (Option Span)
  deriving DecidableEq, Repr

namespace Match

/-- What a group matched; group zero is the whole match. -/
def group? (m : Match) (index : Nat) : Option Span :=
  if index = 0 then some m.span else (m.groups[index - 1]?).getD none

/-- Whether some group ends before it starts. -/
def isCrossed (m : Match) : Bool := m.groups.any fun g => g.any fun s => s.stop < s.start

end Match

end Graft.Regex

namespace Graft.Regex

variable (r : Regex)

/-- The match that begins at a place; if `moving`, one that is not empty. -/
def matchAt? (text : Array Char) (start : Nat) (moving : Bool) : Option Match :=
  let finish : Next := fun c => if moving && c.pos == start then fail c else .ok c
  match r.pattern.track text false finish ⟨start, []⟩ with
  | .ok c => some ⟨⟨start, c.pos⟩, (List.range r.groups).map fun i => c.marks.span? (i + 1)⟩
  | .error _ => none

/-- The first match that begins at one of `count` places from `start` on. -/
def searchFrom (text : Array Char) : Nat → Nat → Bool → Option Match
  | 0, _, _ => none
  | count + 1, start, moving =>
    match matchAt? r text start moving with
    | some m => some m
    | none => searchFrom text count (start + 1) false

/-- The matches from `start` on; the first is not empty if it begins there and `moving` is set. -/
def matchesFrom (text : Array Char) : Nat → Nat → Bool → List Match
  | 0, _, _ => []
  | fuel + 1, start, moving =>
    match searchFrom r text (text.size + 1 - start) start moving with
    | some m => m :: matchesFrom text fuel m.span.stop (m.span.start == m.span.stop)
    | none => []

/-- The leftmost match in a text. -/
def search (t : Text) : Option Match := searchFrom r t.toArray (t.length + 1) 0 false

/-- Whether the pattern is found in a text. -/
def isFoundIn (t : Text) : Bool := (search r t).isSome

/-- All matches in a text, from left to right. -/
def findAll (t : Text) : List Match := matchesFrom r t.toArray (2 * t.length + 2) 0 false

/-- The match that a search for a pattern comes back with; one that is crossed is a fault. -/
def find (t : Text) : Except Fault (Option Match) :=
  match search r t with
  | none => .ok none
  | some m => if m.isCrossed then .error .crossedGroup else .ok (some m)

end Graft.Regex
