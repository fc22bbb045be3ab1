/-
# Graft.Text.Integer -- integers written in decimal

An integer may be surrounded by blanks, may carry one sign, and may have single underscores between its
digits; the digits may be those of any script.  In a text of ASCII characters only the six classical
blanks count as blank.  Numbers of more than `digitLimit` digits are refused, and that refusal comes
before any complaint about what follows the digits.
-/
import Graft.Text.Blank
import Graft.Text.Digit
import Graft.Text.Quoted

namespace Graft.Text

set_option autoImplicit false

/-- The largest number of digits that a written integer may have. -/
def digitLimit : Nat := 4300

/-- Why a text is not read as an integer. -/
inductive IntegerFault where
  | malformed (t : Text)
  | tooManyDigits (count : Nat)
  deriving DecidableEq, Repr

def IntegerFault.message : IntegerFault → String
  | .malformed t => s!"invalid literal for int() with base 10: {str ((quoted t).take 200)}"
  | .tooManyDigits count =>
    s!"Exceeds the limit ({digitLimit} digits) for integer string conversion: " ++
    s!"value has {count} digits; use sys.set_int_max_str_digits() to increase the limit"

/-- Blank in a text of ASCII characters. -/
def isPlainBlank (c : Char) : Bool := c == ' ' || (9 ≤ c.toNat && c.toNat ≤ 13)

/-- The ASCII character that a character of a written integer stands for. -/
def plainForm (c : Char) : Char :=
  if c.toNat < 127 then c
  else if isBlank c then ' '
  else match digitValue? c with
    | some d => Char.ofNat (48 + d)
    | none => '?'

/-- Takes digits with single underscores between them: the digits, whether the last character taken was an
underscore, and the rest; nothing if two underscores meet. -/
def takeDigits : Bool → Text → Option (Text × Bool × Text)
  | after, [] => some ([], after, [])
  | after, c :: rest =>
    if c = '_' then (if after then none else takeDigits true rest)
    else if c.isDigit then (takeDigits false rest).map fun (ds, last, r) => (c :: ds, last, r)
    else some ([], after, c :: rest)

/-- Whether a sign is a minus, and what follows the sign. -/
def takeSign : Text → Bool × Text
  | '-' :: rest => (true, rest)
  | '+' :: rest => (false, rest)
  | t => (false, t)

def readInteger (t : Text) : Except IntegerFault Int :=
  let plain := if t.all (·.toNat < 128) then t else t.map plainForm
  let (negative, body) := takeSign (plain.dropWhile isPlainBlank)
  if body.head? = some '_' then .error (.malformed t)
  else match takeDigits false body with
    | none => .error (.malformed t)
    | some (digits, dangling, rest) =>
      if dangling then .error (.malformed t)
      else if digitLimit < digits.length then .error (.tooManyDigits digits.length)
      else if digits.isEmpty || !rest.all isPlainBlank then .error (.malformed t)
      else
        let n : Int := (decimalValue digits : Nat)
        .ok (if negative then -n else n)

end Graft.Text
