/-
# Graft.Text.Quoted -- texts in quotes, for messages

A quoted text stands in single quotes, or in double quotes when it holds single quotes and no double
ones.  Backslashes and the enclosing quote get a backslash; tab, line feed and carriage return have
letters; any other character that is not printable is shown by its code in two, four or eight digits.
-/
import Graft.Text.Printable

namespace Graft.Text

set_option autoImplicit false

def hexDigit (n : Nat) : Char :=
  if n < 10 then Char.ofNat (48 + n) else Char.ofNat (87 + n)

/-- The last `width` hexadecimal digits of a number. -/
def hexText : Nat → Nat → Text
  | 0, _ => []
  | width + 1, n => hexText width (n / 16) ++ [hexDigit (n % 16)]

/-- A character that is not printable, by its code. -/
def codeEscape (n : Nat) : Text :=
  if n < 0x100 then '\\' :: 'x' :: hexText 2 n
  else if n < 0x10000 then '\\' :: 'u' :: hexText 4 n
  else '\\' :: 'U' :: hexText 8 n

def escapeIn (quote c : Char) : Text :=
  if c = quote ∨ c = '\\' then ['\\', c]
  else if c = '\t' then "\\t".toList
  else if c = '\n' then "\\n".toList
  else if c = '\r' then "\\r".toList
  else if isPrintable c then [c]
  else codeEscape c.toNat

def quoteFor (t : Text) : Char :=
  if t.contains '\x27' && !t.contains '\x22' then '\x22' else '\x27'

/-- The text in quotes. -/
def quoted (t : Text) : Text :=
  quoteFor t :: t.flatMap (escapeIn (quoteFor t)) ++ [quoteFor t]

end Graft.Text
