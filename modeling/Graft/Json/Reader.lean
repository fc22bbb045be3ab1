/-
# Graft.Json.Reader -- reading the data format

Reads a text as one value with nothing but blanks around it.  Beyond the standard, the names of infinity
and of the value that is no number are read, and a byte order mark at the start is refused.  A whole number
of more than `digitLimit` digits is refused for its length, and a value for what it holds too deep inside;
both are faults of their own kinds.

`readValue`, `readItems` and `readMembers` call each other with less fuel each time; no character takes more than
two calls, so twice the length of the text is enough.  They also hand on the `room` that is left for arrays and
objects inside each other.  How much there is at first is up to the caller: it is what the stack of calls leaves.
-/
import Graft.Json.Basic
import Graft.Text.Integer

namespace Graft.Json

set_option autoImplicit false

open Graft.Text

/-- What holds other values. -/
inductive Holder where
  | array
  | object
  deriving DecidableEq, Repr

def Holder.name : Holder → String
  | .array => "array"
  | .object => "object"

/-- Why a text is no value. -/
inductive JsonFault where
  | malformed
  | number (fault : IntegerFault)
  | tooDeep (holder : Holder)
  deriving DecidableEq, Repr

def isGap (c : Char) : Bool := c == ' ' || c == '\t' || c == '\n' || c == '\r'

def skipGap (t : Text) : Text := t.dropWhile isGap

/-! ## Texts -/

def hexDigitValue? (c : Char) : Option Nat :=
  if '0' ≤ c ∧ c ≤ '9' then some (c.toNat - 48)
  else if 'a' ≤ c ∧ c ≤ 'f' then some (c.toNat - 87)
  else if 'A' ≤ c ∧ c ≤ 'F' then some (c.toNat - 55)
  else none

/-- The number that four hexadecimal digits write. -/
def fourDigits? (a b c d : Char) : Option Nat := do
  return (← hexDigitValue? a) * 4096 + (← hexDigitValue? b) * 256 + (← hexDigitValue? c) * 16 +
    (← hexDigitValue? d)

/-- What a backslash and a letter write. -/
def shortEscape? : Char → Option Nat
  | '\x22' => some 0x22
  | '\\' => some 0x5C
  | '/' => some 0x2F
  | 'b' => some 8
  | 'f' => some 12
  | 'n' => some 10
  | 'r' => some 13
  | 't' => some 9
  | _ => none

/-- The code units of a text after its opening quote, and what follows the closing quote. -/
def readUnits : Text → Except JsonFault (List Nat × Text)
  | [] => .error .malformed
  | '\x22' :: rest => .ok ([], rest)
  | '\\' :: 'u' :: a :: b :: c :: d :: rest =>
    match fourDigits? a b c d with
    | some unit => (readUnits rest).map fun (units, after) => (unit :: units, after)
    | none => .error .malformed
  | '\\' :: c :: rest =>
    match shortEscape? c with
    | some unit => (readUnits rest).map fun (units, after) => (unit :: units, after)
    | none => .error .malformed
  | c :: rest =>
    if c.toNat < 0x20 || c == '\\' then .error .malformed
    else (readUnits rest).map fun (units, after) => (c.toNat :: units, after)

def isHighSurrogate (n : Nat) : Bool := 0xD800 ≤ n && n < 0xDC00

def isLowSurrogate (n : Nat) : Bool := 0xDC00 ≤ n && n < 0xE000

/-- The characters that code units write, unless half of a surrogate pair is left. -/
def joinUnits? : List Nat → Option Text
  | [] => some []
  | high :: low :: rest =>
    if isHighSurrogate high && isLowSurrogate low then
      (joinUnits? rest).map (Char.ofNat (0x10000 + (high - 0xD800) * 1024 + (low - 0xDC00)) :: ·)
    else if isHighSurrogate high || isLowSurrogate high then none
    else (joinUnits? (low :: rest)).map (Char.ofNat high :: ·)
  | [unit] => if isHighSurrogate unit || isLowSurrogate unit then none else some [Char.ofNat unit]

/-- What a code unit writes alone.  Half of a surrogate pair is no character and is read as the replacement
character, so two texts that differ in such halves alone are read as the same. -/
def mendUnit (unit : Nat) : Char :=
  if isHighSurrogate unit || isLowSurrogate unit then '\uFFFD' else Char.ofNat unit

/-- The characters that code units write, with the replacement character for each half of a pair that is left. -/
def mendUnits : List Nat → Text
  | [] => []
  | high :: low :: rest =>
    if isHighSurrogate high && isLowSurrogate low then
      Char.ofNat (0x10000 + (high - 0xD800) * 1024 + (low - 0xDC00)) :: mendUnits rest
    else mendUnit high :: mendUnits (low :: rest)
  | [unit] => [mendUnit unit]

/-! ## Numbers -/

def takeDecimal (t : Text) : Text × Text := (t.takeWhile Char.isDigit, t.dropWhile Char.isDigit)

/-- The whole part of a number: a zero, or digits that do not begin with one. -/
def takeWhole : Text → Option (Text × Text)
  | '0' :: rest => some (['0'], rest)
  | t =>
    match takeDecimal t with
    | ([], _) => none
    | found => some found

/-- The digits after a point, if there are any. -/
def takeFraction : Text → Option (Text × Text)
  | '.' :: rest =>
    match takeDecimal rest with
    | ([], _) => none
    | found => some found
  | _ => none

/-- The exponent, if there is one. -/
def takeExponent : Text → Option (Int × Text)
  | c :: rest =>
    if c = 'e' ∨ c = 'E' then
      let (negative, rest) := takeSign rest
      match takeDecimal rest with
      | ([], _) => none
      | (digits, rest) =>
        let n : Int := (decimalValue digits : Nat)
        some (if negative then -n else n, rest)
    else none
  | [] => none

/-- A number whose sign has been taken. -/
def readNumber (negative : Bool) (t : Text) : Except JsonFault (Json × Text) :=
  match takeWhole t with
  | none => .error .malformed
  | some (whole, rest) =>
    let fraction := takeFraction rest
    let afterFraction := (fraction.map (·.2)).getD rest
    let exponent := takeExponent afterFraction
    if fraction.isNone && exponent.isNone then
      if digitLimit < whole.length then .error (.number (.tooManyDigits whole.length))
      else
        let n : Int := (decimalValue whole : Nat)
        .ok (.int (if negative then -n else n), rest)
    else
      let digits := whole ++ (fraction.map (·.1)).getD []
      let places := ((fraction.map (·.1)).getD []).length
      .ok (.real negative ⟨decimalValue digits, (exponent.map (·.1)).getD 0 - places⟩,
        (exponent.map (·.2)).getD afterFraction)

/-! ## Values -/

/-- A value that is written as a word, if the text begins with one. -/
def readWord? (t : Text) : Option (Json × Text) :=
  [("null", Json.null), ("true", .bool true), ("false", .bool false), ("NaN", .notANumber),
    ("Infinity", .infinity false), ("-Infinity", .infinity true)].findSome? fun (word, value) =>
      if word.toList.isPrefixOf t then some (value, t.drop word.length) else none

mutual

def readValue : Nat → Nat → Text → Except JsonFault (Json × Text)
  | 0, _, _ => .error .malformed
  | _, _, [] => .error .malformed
  | fuel + 1, room, c :: rest =>
    if c = '\x22' then
      (readUnits rest).map fun (units, after) =>
        (((joinUnits? units).map .text).getD (.brokenText (mendUnits units)), after)
    else if c = '[' then
      match room with
      | 0 => .error (.tooDeep .array)
      | room + 1 =>
        match skipGap rest with
        | ']' :: after => .ok (.array [], after)
        | t => (readItems fuel room t).map fun (items, after) => (.array items, after)
    else if c = '\x7b' then
      match room with
      | 0 => .error (.tooDeep .object)
      | room + 1 =>
        match skipGap rest with
        | '\x7d' :: after => .ok (.object [], after)
        | t => (readMembers fuel room [] t).map fun (members, after) => (.object members, after)
    else match readWord? (c :: rest) with
      | some found => .ok found
      | none => if c = '-' then readNumber true rest else readNumber false (c :: rest)

/-- The items of an array up to its closing bracket. -/
def readItems : Nat → Nat → Text → Except JsonFault (List Json × Text)
  | 0, _, _ => .error .malformed
  | fuel + 1, room, t => do
    let (value, after) ← readValue fuel room t
    match skipGap after with
    | ']' :: rest => return ([value], rest)
    | ',' :: rest => do
      let (values, after) ← readItems fuel room (skipGap rest)
      return (value :: values, after)
    | _ => throw .malformed

/-- The members of an object up to its closing brace; a name that is no text cannot be asked for. -/
def readMembers : Nat → Nat → List (Text × Json) → Text → Except JsonFault (List (Text × Json) × Text)
  | 0, _, _, _ => .error .malformed
  | fuel + 1, room, members, t =>
    match t with
    | '\x22' :: t => do
      let (units, after) ← readUnits t
      match skipGap after with
      | ':' :: rest => do
        let (value, after) ← readValue fuel room (skipGap rest)
        let members := match joinUnits? units with
          | some name => setMember name value members
          | none => members
        match skipGap after with
        | '\x7d' :: rest => return (members, rest)
        | ',' :: rest => readMembers fuel room members (skipGap rest)
        | _ => throw .malformed
      | _ => throw .malformed
    | _ => .error .malformed

end

/-- The value that a text writes, if there is room for its arrays and objects. -/
def read (room : Nat) (t : Text) : Except JsonFault Json :=
  if t.head? = some '\uFEFF' then .error .malformed
  else do
    let (value, rest) ← readValue (2 * t.length + 1) room (skipGap t)
    if (skipGap rest).isEmpty then return value else throw .malformed

end Graft.Json
