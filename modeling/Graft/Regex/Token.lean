/-
# Graft.Regex.Token -- characters and escapes, with a place to read from

Patterns and templates are read token by token; a token is one character, or a backslash with the character
after it.  A backslash at the very end is no token: it is refused as soon as the token before it is taken.
`Source` is what is left to read, and the readers here are those that patterns and templates share.
-/
import Graft.Regex.Fault

namespace Graft.Regex

set_option autoImplicit false

open Graft.Text

/-- A token begins at `pos`; `text` is one character, or a backslash and a character. -/
structure Token where
  text : Text
  pos : Nat
  deriving DecidableEq, Repr

/-- The tokens of a text from `pos` on; a backslash at the end is left out. -/
def tokensFrom (pos : Nat) : Text → List Token
  | [] => []
  | ['\\'] => []
  | '\\' :: c :: rest => ⟨['\\', c], pos⟩ :: tokensFrom (pos + 2) rest
  | c :: rest => ⟨[c], pos⟩ :: tokensFrom (pos + 1) rest

/-- Whether a text ends with a backslash that is not the second half of an escape. -/
def endsDangling (t : Text) : Bool := (t.reverse.takeWhile (· == '\\')).length % 2 == 1

/-- What is left of a text to read. -/
structure Source where
  text : Text
  size : Nat
  dangling : Bool
  tokens : List Token
  deriving DecidableEq, Repr

namespace Source

/-- The next token, if there is one. -/
def next? (s : Source) : Option Text := s.tokens.head?.map (·.text)

/-- The offset of the next token, or of the end. -/
def tell (s : Source) : Nat :=
  match s.tokens with
  | t :: _ => t.pos
  | [] => s.size

/-- A refusal `back` characters before the next token. -/
def refuse (s : Source) (cause : Cause) (back : Nat) : Fault :=
  .malformed cause (some ⟨s.text, s.tell - back⟩)

def refuseAt (s : Source) (cause : Cause) (offset : Nat) : Fault :=
  .malformed cause (some ⟨s.text, offset⟩)

/-- A source with these tokens left, unless all that is left is a backslash at the end. -/
def withTokens (s : Source) (tokens : List Token) : Except Fault Source :=
  if tokens.isEmpty && s.dangling then .error (s.refuseAt .danglingBackslash (s.size - 1))
  else .ok { s with tokens := tokens }

def ofText (t : Text) : Except Fault Source :=
  withTokens ⟨t, t.length, endsDangling t, []⟩ (tokensFrom 0 t)

/-- Takes the next token; at the end there is none to take. -/
def take (s : Source) : Except Fault (Option Text × Source) :=
  match s.tokens with
  | [] => .ok (none, s)
  | t :: rest => do
    let s' ← s.withTokens rest
    return (some t.text, s')

/-- Takes the next token if it is this character. -/
def accept (s : Source) (c : Char) : Except Fault (Bool × Source) :=
  match s.tokens with
  | t :: rest => if t.text = [c] then do return (true, ← s.withTokens rest) else .ok (false, s)
  | [] => .ok (false, s)

/-- Takes at most `n` characters of a class. -/
def takeWhile (p : Char → Bool) : Nat → Source → Except Fault (Text × Source)
  | 0, s => .ok ([], s)
  | n + 1, s =>
    match s.tokens with
    | ⟨[c], _⟩ :: rest =>
      if p c then do
        let (cs, s') ← takeWhile p n (← s.withTokens rest)
        return (c :: cs, s')
      else .ok ([], s)
    | _ => .ok ([], s)

/-- Takes tokens up to a closing character; `taken` is what has been taken so far. -/
def nameFrom (closing : Char) (what : String) (s : Source) (taken : Text) :
    List Token → Except Fault (Text × Source)
  | [] =>
    let s := { s with tokens := [] }
    if taken.isEmpty then .error (s.refuse (.missing what) 0)
    else .error (s.refuse (.unterminatedName closing) taken.length)
  | t :: rest => do
    let s' ← s.withTokens rest
    if t.text = [closing] then
      if taken.isEmpty then .error (s'.refuse (.missing what) 1) else return (taken, s')
    else nameFrom closing what s' (taken ++ t.text) rest

/-- Takes a name up to its closing character, and that character. -/
def takeName (closing : Char) (what : String) (s : Source) : Except Fault (Text × Source) :=
  nameFrom closing what s [] s.tokens

end Source

def isOctal (c : Char) : Bool := '0' ≤ c && c ≤ '7'

def isHex (c : Char) : Bool := c.isDigit || ('a' ≤ c && c ≤ 'f') || ('A' ≤ c && c ≤ 'F')

def hexValue (c : Char) : Nat :=
  if c.isDigit then c.toNat - 48 else if 'a' ≤ c then c.toNat - 87 else c.toNat - 55

/-- The number that digits stand for in a base. -/
def valueIn (base : Nat) (digits : Text) : Nat := digits.foldl (fun n c => n * base + hexValue c) 0

/-- The control characters that have a letter of their own. -/
def letterEscape? : Char → Option Nat
  | 'a' => some 7
  | 'b' => some 8
  | 'f' => some 12
  | 'n' => some 10
  | 'r' => some 13
  | 't' => some 9
  | 'v' => some 11
  | '\\' => some 92
  | _ => none

end Graft.Regex
