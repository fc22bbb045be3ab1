/-
# Graft.Regex.Reader -- reading the notation of patterns

Turns a written pattern into a tree, or refuses it with a cause and a place.  Reading goes from left to
right and the first fault found is the one reported; after it come the checks of the whole: modes that
clash, a parenthesis too many, a condition on a group that does not exist, and last what a finished tree
may not contain (`Pattern.refusal?`).

The three readers `alternatives`, `branches` and `items` call each other with less fuel each time; every
call takes a token or ends a level of nesting, so `compile` gives four steps for each token.
-/
import Graft.Regex.Pattern
import Graft.Regex.Token
import Graft.Text.Identifier

namespace Graft.Regex

set_option autoImplicit false

open Graft.Text

/-! ## Modes -/

/-- The modes that a pattern is read in. -/
structure Modes where
  ignoreCase : Bool := false
  multiLine : Bool := false
  dotAll : Bool := false
  verbose : Bool := false
  ascii : Bool := false
  allScripts : Bool := false
  template : Bool := false
  deriving DecidableEq, Repr

namespace Modes

def folding (m : Modes) : Folding :=
  if !m.ignoreCase then .exact else if m.ascii then .ascii else .full

/-- Turns a mode on or off by its letter. -/
def turn (on : Bool) (m : Modes) : Char → Modes
  | 'i' => { m with ignoreCase := on }
  | 'm' => { m with multiLine := on }
  | 's' => { m with dotAll := on }
  | 'x' => { m with verbose := on }
  | 'a' => { m with ascii := on }
  | 'u' => { m with allScripts := on }
  | 't' => { m with template := on }
  | _ => m

def turnOn (m : Modes) (letters : Text) : Modes := letters.foldl (turn true) m

/-- The modes inside a group that turns some on and others off; all scripts take the place of ASCII. -/
def inGroup (m : Modes) (on off : Text) : Modes :=
  let m := if on.contains 'u' then { m with ascii := false } else m
  off.foldl (turn false) (m.turnOn on)

end Modes

def modeLetters : Text := "iLmsxatu".toList

def isModeLetter : Text → Bool
  | [c] => modeLetters.contains c
  | _ => false

/-! ## State -/

/-- What is known while a pattern is read.  `widths` has an entry for each group begun so far, empty while
the group is open; `floor` is the number of groups when the outermost lookbehind began, and `charNamed` looks
up characters by their names. -/
structure Progress where
  source : Source
  modes : Modes
  widths : List (Option (Nat × Nat)) := []
  names : List (Text × Nat) := []
  floor : Option Nat := none
  charNamed : Text → Option Nat
  conditions : List (Nat × Nat) := []

abbrev Reading := StateT Progress (Except Fault)

namespace Reading

/-- Runs a reader of sources. -/
def fromSource {α : Type} (f : Source → Except Fault (α × Source)) : Reading α := do
  let (a, source) ← f (← get).source
  modify fun p => { p with source := source }
  return a

def next? : Reading (Option Text) := return (← get).source.next?

def tell : Reading Nat := return (← get).source.tell

def take : Reading (Option Text) := fromSource Source.take

def accept (c : Char) : Reading Bool := fromSource (·.accept c)

def takeWhile (p : Char → Bool) (limit : Nat) : Reading Text := fromSource (Source.takeWhile p limit)

def takeName (closing : Char) (what : String) : Reading Text := fromSource (Source.takeName closing what)

/-- Refuses `back` characters before the next token. -/
def refuse {α : Type} (cause : Cause) (back : Nat) : Reading α := do
  throw ((← get).source.refuse cause back)

def refuseAt {α : Type} (cause : Cause) (offset : Nat) : Reading α := do
  throw ((← get).source.refuseAt cause offset)

/-- The closing parenthesis of the group that began at `start`. -/
def close (start : Nat) : Reading Unit := do
  if !(← accept ')') then refuseAt .unterminatedGroup start

/-! ## Groups -/

def isClosed (index : Nat) : Reading Bool := do
  return index != 0 && (((← get).widths[index - 1]?).getD none).isSome

/-- Inside a lookbehind, only groups that were closed before it may be referred to. -/
def checkFloor (index : Nat) : Reading Unit := do
  match (← get).floor with
  | none => return
  | some floor =>
    if !(← isClosed index) then refuse .openGroup 0
    if floor ≤ index then refuse .groupInSameLookbehind 0

/-- Begins a group and gives its number. -/
def openGroup (name : Option Text) : Reading Nat := do
  let p ← get
  let index := p.widths.length + 1
  if let some name := name then
    if let some first := p.names.lookup name then
      refuse (.groupDefinedTwice name index first) (name.length + 1)
    modify fun p => { p with names := p.names ++ [(name, index)] }
  modify fun p => { p with widths := p.widths ++ [none] }
  return index

/-- The width of a pattern, given the groups closed so far. -/
def widthOf (p : Pattern) : Reading (Nat × Nat) := do
  let widths := (← get).widths
  return p.width fun index => ((widths[index - 1]?).getD none).getD (0, 0)

def closeGroup (index : Nat) (body : Pattern) : Reading Unit := do
  let w ← widthOf body
  modify fun p => { p with widths := p.widths.set (index - 1) (some w) }

def checkName (name : Text) : Reading Unit := do
  if !isName name then refuse (.badGroupName name) (name.length + 1)

/-- The number of a group that is referred to by name. -/
def groupNamed (name : Text) : Reading Nat := do
  match (← get).names.lookup name with
  | some index => return index
  | none => refuse (.unknownGroup name) (name.length + 1)

/-! ## Escapes -/

def hexEscape (escape : Text) (n : Nat) : Reading Nat := do
  let digits ← takeWhile isHex n
  let whole := escape ++ digits
  if digits.length != n then refuse (.incompleteEscape whole) whole.length
  let code := valueIn 16 digits
  if 0x80000000 ≤ code then throw .codeTooLarge
  if 0x10FFFF < code then refuse (.badEscape whole) whole.length
  return code

/-- A character by its name. -/
def namedEscape : Reading Nat := do
  if !(← accept '\x7b') then refuse (.missing "\x7b") 0
  let name ← takeName '\x7d' "character name"
  match (← get).charNamed name with
  | some code => return code
  | none => refuse (.undefinedCharacter name) (name.length + 4)

/-- An octal escape of these digits. -/
def octalEscape (digits : Text) : Reading Nat := do
  let code := valueIn 8 digits
  if 0xFF < code then refuse (.octalTooLarge ('\\' :: digits)) (digits.length + 1)
  return code

/-- The escapes that give a character by a code of its own and read the same everywhere. -/
def codeEscape? (c : Char) : Option (Reading Nat) :=
  match c with
  | 'x' => some (hexEscape ['\\', c] 2)
  | 'u' => some (hexEscape ['\\', c] 4)
  | 'U' => some (hexEscape ['\\', c] 8)
  | 'N' => some namedEscape
  | _ => none

def kindEscape? (ascii : Bool) : Char → Option ClassItem
  | 'd' => some (.kind .digit false ascii)
  | 'D' => some (.kind .digit true ascii)
  | 's' => some (.kind .space false ascii)
  | 'S' => some (.kind .space true ascii)
  | 'w' => some (.kind .word false ascii)
  | 'W' => some (.kind .word true ascii)
  | _ => none

/-- A character that stands for itself after a backslash; letters and digits do not. -/
def plainEscape (c : Char) : Reading Nat := do
  if c.isAlphanum then refuse (.badEscape ['\\', c]) 2
  return c.toNat

def classEscape (m : Modes) (c : Char) : Reading ClassItem := do
  if let some code := letterEscape? c then return .code code
  if let some item := kindEscape? m.ascii c then return item
  if let some read := codeEscape? c then return .code (← read)
  if isOctal c then return .code (← octalEscape (c :: (← takeWhile isOctal 2)))
  return .code (← plainEscape c)

/-- What a pattern is made of, with what matters to a repetition sign after it. -/
structure Item where
  pattern : Pattern
  isAnchor : Bool := false
  isRepeat : Bool := false

def charItem (m : Modes) (code : Nat) : Item := ⟨.char (.code code false m.folding), false, false⟩

/-- An octal escape of three digits, or a reference to a group by one or two digits. -/
def digitEscape (m : Modes) (c : Char) : Reading Item := do
  let second ← takeWhile Char.isDigit 1
  let octal := isOctal c && !second.isEmpty && second.all isOctal
  let third ← if octal then takeWhile isOctal 1 else pure []
  if !third.isEmpty then return charItem m (← octalEscape (c :: second ++ third))
  let digits := c :: second
  let index := decimalValue digits
  if (← get).widths.length < index then refuse (.noSuchGroup index) digits.length
  if !(← isClosed index) then refuse .openGroup (digits.length + 1)
  checkFloor index
  return ⟨.backref index m.folding, false, false⟩

def escape (m : Modes) (c : Char) : Reading Item := do
  match c with
  | 'A' => return ⟨.anchor .textStart, true, false⟩
  | 'Z' => return ⟨.anchor .textEnd, true, false⟩
  | 'b' => return ⟨.anchor (.wordBoundary false m.ascii), true, false⟩
  | 'B' => return ⟨.anchor (.wordBoundary true m.ascii), true, false⟩
  | _ =>
    if let some item := kindEscape? m.ascii c then
      return ⟨.char (.set [item] false m.folding), false, false⟩
    if let some code := letterEscape? c then return charItem m code
    if let some read := codeEscape? c then return charItem m (← read)
    if c == '0' then return charItem m (← octalEscape (c :: (← takeWhile isOctal 2)))
    if c.isDigit then digitEscape m c else return charItem m (← plainEscape c)

/-! ## Classes -/

def classMember (m : Modes) : Text → Reading ClassItem
  | ['\\', c] => classEscape m c
  | c :: _ => return .code c.toNat
  | [] => refuse .unexpectedEnd 0

/-- The members of a class that began at `start`; `taken` are those read so far, last first. -/
def classItems (m : Modes) (start : Nat) : Nat → List ClassItem → Reading (List ClassItem)
  | 0, _ => refuseAt .unterminatedSet start
  | fuel + 1, taken => do
    let some this ← take | refuseAt .unterminatedSet start
    if this = [']'] ∧ !taken.isEmpty then return taken.reverse
    let low ← classMember m this
    if ← accept '-' then
      let some that ← take | refuseAt .unterminatedSet start
      if that = [']'] then return taken.reverse ++ [low, .code 45]
      let high ← classMember m that
      match low, high with
      | .code l, .code h =>
        if h < l then refuse (.badRange this that) (this.length + 1 + that.length)
        classItems m start fuel (.range l h :: taken)
      | _, _ => refuse (.badRange this that) (this.length + 1 + that.length)
    else classItems m start fuel (low :: taken)

def classTest (items : List ClassItem) (negated : Bool) (f : Folding) : CharTest :=
  match items.eraseDups with
  | [.code n] => .code n negated f
  | items => .set items negated f

def charClass (m : Modes) (start : Nat) : Reading Item := do
  let negated ← accept '^'
  let items ← classItems m start ((← get).source.tokens.length + 1) []
  return ⟨.char (classTest items negated m.folding), false, false⟩

/-! ## Repetitions -/

/-- Numbers of repetitions are below this. -/
def repetitionLimit : Nat := 4294967295

def repetitionNumber (digits : Text) : Reading Nat := do
  if digitLimit < digits.length then throw (.number (.tooManyDigits digits.length))
  let n := decimalValue digits
  if repetitionLimit ≤ n then throw .repetitionTooLarge
  return n

/-- The bounds of a repetition after its brace; nothing, and nothing taken, if the brace stands for itself. -/
def bounds : Reading (Option (Nat × Option Nat)) := do
  let before := (← get).source
  if before.next? = some ['\x7d'] then return none
  let low ← takeWhile Char.isDigit before.tokens.length
  let high ← if ← accept ',' then takeWhile Char.isDigit before.tokens.length else pure low
  if !(← accept '\x7d') then
    modify fun p => { p with source := before }
    return none
  let least ← if low.isEmpty then pure 0 else repetitionNumber low
  if high.isEmpty then return some (least, none)
  let most ← repetitionNumber high
  if most < least then refuseAt .boundsReversed before.tell
  return some (least, some most)

/-- The sign after a repetition sign, if there is one: a second one is left to be read as a repetition. -/
def greed : Reading Greed := do
  if ← accept '?' then return .reluctant
  if ← accept '+' then return .possessive
  return .greedy

/-- Repeats the last item; `start` is where the repetition sign stands. -/
def repeatLast (start least : Nat) (most : Option Nat) : List Item → Reading (List Item)
  | [] => refuseAt .nothingToRepeat start
  | item :: rest => do
    if item.isAnchor then refuseAt .nothingToRepeat start
    if item.isRepeat then refuseAt .repeatedTwice start
    return ⟨item.pattern.repeated (← greed) least most, false, true⟩ :: rest

/-! ## Mode signs -/

def isLetterToken : Text → Bool
  | [c] => isLetter c
  | _ => false

def isTypeLetter (c : Char) : Bool := c == 'a' || c == 'u' || c == 'L'

/-- Letters that turn modes on, and the sign after them. -/
def lettersOn : Nat → Text → Text → Reading (Text × Text)
  | 0, _, _ => refuse .unexpectedEnd 0
  | fuel + 1, on, letter => do
    if letter = ['L'] then refuse .localeFlag 0
    let on := on ++ letter
    if letter.all isTypeLetter && on.any fun c => isTypeLetter c && !letter.contains c then
      refuse .clashingTypes 0
    let some sign ← take | refuse (.missing "-, : or )") 0
    if sign = [')'] ∨ sign = ['-'] ∨ sign = [':'] then return (on, sign)
    if !isModeLetter sign then
      refuse (if isLetterToken sign then .unknownFlag else .missing "-, : or )") sign.length
    lettersOn fuel on sign

/-- Letters that turn modes off, up to the colon. -/
def lettersOff : Nat → Text → Text → Reading Text
  | 0, _, _ => refuse .unexpectedEnd 0
  | fuel + 1, off, letter => do
    if letter.all isTypeLetter then refuse .typeFlagOff 0
    let off := off ++ letter
    let some sign ← take | refuse (.missing ":") 0
    if sign = [':'] then return off
    if !isModeLetter sign then
      refuse (if isLetterToken sign then .unknownFlag else .missing ":") sign.length
    lettersOff fuel off sign

/-- Modes turned on for the whole pattern, or on and off for a group; `sign` is the first letter or a minus. -/
def modeSigns (sign : Text) : Reading (Option Text × Text) := do
  let fuel := (← get).source.tokens.length + 1
  let (on, sign) ← if sign = ['-'] then pure ([], sign) else lettersOn fuel [] sign
  if sign = [')'] then return (none, on)
  if on.contains 't' then refuse .globalFlagOn 1
  let off ←
    if sign = ['-'] then do
      let some letter ← take | refuse (.missing "flag") 0
      if !isModeLetter letter then
        refuse (if isLetterToken letter then .unknownFlag else .missing "flag") letter.length
      lettersOff fuel [] letter
    else pure []
  if off.contains 't' then refuse .globalFlagOff 1
  if on.any (off.contains ·) then refuse .flagOnAndOff 1
  return (some off, on)

/-! ## Comments -/

/-- Skips to the end of the line. -/
def skipLine : Nat → Reading Unit
  | 0 => return
  | fuel + 1 => do
    let some t ← take | return
    if t = ['\n'] then return
    skipLine fuel

/-- Skips a comment in parentheses that began at `start`. -/
def skipComment (start : Nat) : Nat → Reading Unit
  | 0 => refuseAt .unterminatedComment start
  | fuel + 1 => do
    let some t ← take | refuseAt .unterminatedComment start
    if t = [')'] then return
    skipComment start fuel

/-! ## Conditions -/

/-- Group numbers are below this. -/
def groupLimit : Nat := 2147483647

/-- The group that a condition asks for, by name or by number. -/
def conditionGroup : Reading Nat := do
  let name ← takeName ')' "group name"
  let back := name.length + 1
  let index ←
    if isName name then groupNamed name
    else match readInteger name with
      | .error _ => refuse (.badGroupName name) back
      | .ok n => do
        if n < 0 then refuse (.badGroupName name) back
        if n = 0 then refuse .groupNumberZero back
        let index := n.toNat
        if groupLimit ≤ index then refuse (.noSuchGroup index) back
        let spot := (← tell) - back
        modify fun p =>
          if (p.conditions.lookup index).isSome then p
          else { p with conditions := p.conditions ++ [(index, spot)] }
        pure index
  checkFloor index
  return index

/-! ## Patterns -/

/-- Blank in a pattern whose blanks are ignored. -/
def isSkipped : Text → Bool
  | [c] => c == ' ' || (9 ≤ c.toNat && c.toNat ≤ 13)
  | _ => false

mutual

/-- Alternatives; at the top of the pattern the modes may still change. -/
def alternatives : Nat → Modes → Bool → Reading Pattern
  | 0, _, _ => refuse .unexpectedEnd 0
  | fuel + 1, m, top => do return .choice (← branches fuel m top top)

def branches : Nat → Modes → Bool → Bool → Reading (List Pattern)
  | 0, _, _, _ => refuse .unexpectedEnd 0
  | fuel + 1, m, top, first => do
    let p ← items fuel m first []
    if ← accept '|' then
      let global := (← get).modes
      return p :: (← branches fuel (if top then global else m) top false)
    else return [p]

/-- Items up to the end of the branch; `taken` are those read so far, last first, and `first` says that
modes of the whole pattern may be set as long as there is none. -/
def items : Nat → Modes → Bool → List Item → Reading Pattern
  | 0, _, _, _ => refuse .unexpectedEnd 0
  | fuel + 1, m, first, taken => do
    let start ← tell
    match ← next? with
    | none | some ['|'] | some [')'] => return .sequence (taken.reverse.map (·.pattern))
    | some this =>
      let _ ← take
      if m.verbose && isSkipped this then items fuel m first taken
      else if m.verbose && this = ['#'] then do
        skipLine fuel
        items fuel m first taken
      else match this with
      | ['\\', c] => do items fuel m first ((← escape m c) :: taken)
      | ['['] => do items fuel m first ((← charClass m start) :: taken)
      | ['.'] =>
        items fuel m first (⟨.char (if m.dotAll then .any else .notBreak), false, false⟩ :: taken)
      | ['^'] =>
        items fuel m first (⟨.anchor (if m.multiLine then .lineStart else .textStart), true, false⟩ :: taken)
      | ['$'] =>
        items fuel m first (⟨.anchor (if m.multiLine then .lineEnd else .lastLineEnd), true, false⟩ :: taken)
      | ['*'] => do items fuel m first (← repeatLast start 0 none taken)
      | ['+'] => do items fuel m first (← repeatLast start 1 none taken)
      | ['?'] => do items fuel m first (← repeatLast start 0 (some 1) taken)
      | ['\x7b'] => do
        match ← bounds with
        | none => items fuel m first (charItem m 0x7B :: taken)
        | some (least, most) => items fuel m first (← repeatLast start least most taken)
      | ['('] => do
        let item ← parenthesis fuel m (first && taken.isEmpty) start
        let global := (← get).modes
        items fuel (if first then global else m) first (item.toList ++ taken)
      | c :: _ => items fuel m first (charItem m c.toNat :: taken)
      | [] => refuse .unexpectedEnd 0

/-- What stands in parentheses that began at `start`; nothing for comments and modes of the whole pattern,
which `early` allows. -/
def parenthesis : Nat → Modes → Bool → Nat → Reading (Option Item)
  | 0, _, _, _ => refuse .unexpectedEnd 0
  | fuel + 1, m, early, start => do
    let plain (p : Pattern) : Option Item := some ⟨p, false, false⟩
    let capture (name : Option Text) : Reading (Option Item) := do
      let index ← openGroup name
      let body ← alternatives fuel m false
      close start
      closeGroup index body
      return plain (.group index body)
    let enclosed (m : Modes) : Reading Pattern := do
      let body ← alternatives fuel m false
      close start
      return body
    let behind (negated : Bool) : Reading (Option Item) := do
      let floor := (← get).floor
      if floor.isNone then modify fun p => { p with floor := some (p.widths.length + 1) }
      let body ← alternatives fuel m false
      modify fun p => { p with floor := floor }
      close start
      return plain (.behind negated (← widthOf body) body)
    if !(← accept '?') then capture none
    else
      let some sign ← take | refuse .unexpectedEnd 0
      match sign with
      | ['P'] =>
        if ← accept '<' then do
          let name ← takeName '>' "group name"
          checkName name
          capture (some name)
        else if ← accept '=' then do
          let name ← takeName ')' "group name"
          checkName name
          let index ← groupNamed name
          if !(← isClosed index) then refuse .openGroup (name.length + 1)
          checkFloor index
          return plain (.backref index m.folding)
        else do
          let some t ← take | refuse .unexpectedEnd 0
          refuse (.unknownExtension ('P' :: t)) (t.length + 2)
      | [':'] => return plain (← enclosed m)
      | ['#'] => do
        skipComment start ((← get).source.tokens.length + 1)
        return none
      | ['='] => return plain (.ahead false (← enclosed m))
      | ['!'] => return plain (.ahead true (← enclosed m))
      | ['<'] => do
        let some t ← take | refuse .unexpectedEnd 0
        if t = ['='] then behind false
        else if t = ['!'] then behind true
        else refuse (.unknownExtension ('<' :: t)) (t.length + 2)
      | ['('] => do
        let index ← conditionGroup
        let yes ← items fuel m false []
        let no ←
          if ← accept '|' then do
            let no ← items fuel m false []
            if (← next?) = some ['|'] then refuse .thirdBranch 0
            pure no
          else pure .empty
        close start
        return plain (.ifGroup index yes no)
      | ['>'] => return plain (.atomic (← enclosed m))
      | sign =>
        if isModeLetter sign || sign = ['-'] then do
          match ← modeSigns sign with
          | (none, on) => do
            modify fun p => { p with modes := p.modes.turnOn on }
            if !early then refuseAt .lateFlags start
            return none
          | (some off, on) => return plain (← enclosed (m.inGroup on off))
        else refuse (.unknownExtension sign) (sign.length + 1)

end

end Reading

/-! ## Whole patterns -/

def Greed.sign : Greed → String
  | .greedy => "MAX_REPEAT"
  | .reluctant => "MIN_REPEAT"
  | .possessive => "POSSESSIVE_REPEAT"

/-- Lookbehinds reach back at most this far. -/
def lookbehindLimit : Nat := 4294967295

/-- What a finished pattern may not contain: a lookbehind whose width varies, or, in template mode, a
repetition.  Of several the one that begins first counts. -/
def Pattern.refusal? (template : Bool) : Pattern → Option Cause
  | .seq a b => (a.refusal? template).or (b.refusal? template)
  | .alt a b => (a.refusal? template).or (b.refusal? template)
  | .group _ body => body.refusal? template
  | .repeatChar greed _ _ _ => if template then some (.repeatInTemplate greed.sign) else none
  | .repeatGroup greed _ _ body =>
    if template then some (.repeatInTemplate greed.sign) else body.refusal? template
  | .atomic body => body.refusal? template
  | .ahead _ body => body.refusal? template
  | .behind _ (low, high) body =>
    if lookbehindLimit < low then some .lookbehindTooLong
    else if low ≠ high then some .lookbehindWidth
    else body.refusal? template
  | .ifGroup _ yes no => (yes.refusal? template).or (no.refusal? template)
  | _ => none

end Graft.Regex

namespace Graft

open Graft.Regex

/-- A compiled pattern: its tree, the number of its groups, and the groups that have names. -/
structure Regex where
  pattern : Pattern
  groups : Nat
  names : List (Text × Nat)
  deriving DecidableEq, Repr

namespace Regex

/-- What reads a written pattern. -/
abbrev Compiler := Text → Except Fault Regex

/-- Reads a pattern in the given modes; `charNamed` is the table of the characters that have names. -/
def compile (modes : Modes) (written : Text) (charNamed : Text → Option Nat := fun _ => none) :
    Except Fault Regex := do
  let source ← Source.ofText written
  let (pattern, p) ← (Reading.alternatives (4 * source.tokens.length + 4) modes true).run
    { source := source, modes := modes, charNamed := charNamed }
  if p.modes.ascii && p.modes.allScripts then throw .clashingModes
  if p.source.next?.isSome then throw (p.source.refuse .unbalanced 0)
  if let some (index, spot) := p.conditions.find? fun (index, _) => p.widths.length < index then
    throw (p.source.refuseAt (.noSuchGroup index) spot)
  if let some cause := pattern.refusal? p.modes.template then throw (.malformed cause none)
  return ⟨pattern, p.widths.length, p.names⟩

end Regex

end Graft
