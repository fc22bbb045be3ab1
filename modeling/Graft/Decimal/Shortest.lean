/-
# Graft.Decimal.Shortest -- the fewest digits that read back

A written decimal number stands for the nearest value with 53 binary digits, a tie going to the even one.
`shortest` gives the decimal number with the fewest digits that stands for the same value, and of those the
nearest to it: with each number of digits it tries the two decimal numbers around the value.  All
arithmetic is exact, on fractions of natural numbers.
-/
import Graft.Text.Basic

namespace Graft.Decimal

set_option autoImplicit false

/-- The quotient rounded to the nearest number, a tie going to the even one. -/
def roundHalfEven (num den : Nat) : Nat :=
  let q := num / den
  let twice := 2 * (num % den)
  if twice < den then q else if den < twice then q + 1 else if q % 2 = 0 then q else q + 1

/-- A fraction times a power of a base. -/
def scaled (base num den : Nat) (exponent : Int) : Nat × Nat :=
  if 0 ≤ exponent then (num * Nat.pow base exponent.toNat, den)
  else (num, den * Nat.pow base (-exponent).toNat)

/-- The value `mantissa * 2 ^ exponent`. -/
structure Binary where
  mantissa : Nat
  exponent : Int
  deriving DecidableEq, Repr

/-- The quotient as a multiple of a power of two, rounded. -/
def roundAt (num den : Nat) (exponent : Int) : Nat :=
  let (n, d) := scaled 2 num den (-exponent)
  roundHalfEven n d

/-- Mantissas are below this. -/
def mantissaLimit : Nat := Nat.pow 2 53

/-- Values are below this. -/
def valueLimit : Nat := Nat.pow 2 1024

/-- The nearest value with 53 binary digits; nothing if that is too large. -/
def nearest? (num den : Nat) : Option Binary :=
  if num = 0 then some ⟨0, 0⟩
  else
    let guess : Int := (num.log2 : Int) - den.log2 - 53
    let low : Int := max guess (-1074)
    let exponent :=
      if roundAt num den low < mantissaLimit then low
      else if roundAt num den (low + 1) < mantissaLimit then low + 1
      else low + 2
    let mantissa := roundAt num den exponent
    if 0 ≤ exponent ∧ valueLimit ≤ (scaled 2 mantissa 1 exponent).1 then none
    else some ⟨mantissa, exponent⟩

namespace Binary

/-- The value as a fraction. -/
def fraction (b : Binary) : Nat × Nat := scaled 2 b.mantissa 1 b.exponent

end Binary

/-- The number `digits * 10 ^ exponent`. -/
structure Scientific where
  digits : Nat
  exponent : Int
  deriving DecidableEq, Repr

namespace Scientific

def fraction (s : Scientific) : Nat × Nat := scaled 10 s.digits 1 s.exponent

/-- The number of decimal digits before the point; none or fewer for a small number. -/
def wholeDigits (s : Scientific) : Int := (Nat.repr s.digits).length + s.exponent

/-- The nearest value with 53 binary digits; nothing if that is too large. -/
def nearest? (s : Scientific) : Option Binary :=
  if s.digits = 0 ∨ s.wholeDigits < -400 then some ⟨0, 0⟩
  else if 400 < s.wholeDigits then none
  else
    let (num, den) := s.fraction
    Decimal.nearest? num den

/-- Takes off zeros at the end of the digits. -/
def trimmed : Nat → Scientific → Scientific
  | 0, s => s
  | fuel + 1, s =>
    if s.digits ≠ 0 ∧ s.digits % 10 = 0 then trimmed fuel ⟨s.digits / 10, s.exponent + 1⟩ else s

end Scientific

def sameValue (a b : Option Binary) : Bool :=
  match a, b with
  | some a, some b =>
    let (n, d) := a.fraction
    let (n', d') := b.fraction
    n * d' == n' * d
  | none, none => true
  | _, _ => false

/-- The least `k` with `num / den < 10 ^ k`, found upwards from `k`. -/
def magnitudeFrom (num den : Nat) : Nat → Int → Int
  | 0, k => k
  | fuel + 1, k =>
    let (n, d) := scaled 10 num den (-k)
    if n < d then k else magnitudeFrom num den fuel (k + 1)

/-- The two numbers of `count` digits around a value below `10 ^ magnitude`, the nearer one first. -/
def around (num den : Nat) (magnitude : Int) (count : Nat) : Scientific × Scientific :=
  let exponent := magnitude - count
  let (n, d) := scaled 10 num den (-exponent)
  let near := roundHalfEven n d
  let far := if near = n / d then near + 1 else n / d
  (⟨near, exponent⟩, ⟨far, exponent⟩)

/-- The fewest digits that read back as the value, `count` or more. -/
def shortestFrom (b : Binary) (magnitude : Int) : Nat → Nat → Scientific
  | 0, count => (around b.fraction.1 b.fraction.2 magnitude count).1
  | fuel + 1, count =>
    let (near, far) := around b.fraction.1 b.fraction.2 magnitude count
    if sameValue near.nearest? (some b) then near
    else if sameValue far.nearest? (some b) then far
    else shortestFrom b magnitude fuel (count + 1)

/-- The decimal number with the fewest digits that stands for the value. -/
def shortest (b : Binary) : Scientific :=
  if b.mantissa = 0 then ⟨0, 0⟩
  else
    let (num, den) := b.fraction
    let magnitude := magnitudeFrom num den 700 (-330)
    (shortestFrom b magnitude 16 1).trimmed 20

/-- Writes digits, positionally from `10 ^ -4` up to below `10 ^ 16`, otherwise with an exponent of at least
two digits. -/
def write (s : Scientific) : Text :=
  let digits := (Nat.repr s.digits).toList
  let point : Int := digits.length + s.exponent
  if s.digits = 0 then "0.0".toList
  else if -3 ≤ point ∧ point ≤ 16 then
    if point ≤ 0 then "0.".toList ++ List.replicate (-point).toNat '0' ++ digits
    else if (digits.length : Int) ≤ point then
      digits ++ List.replicate (point - digits.length).toNat '0' ++ ".0".toList
    else digits.take point.toNat ++ '.' :: digits.drop point.toNat
  else
    let fractional := match digits with
      | [d] => [d]
      | d :: rest => d :: '.' :: rest
      | [] => []
    let e := point - 1
    let size := (Nat.repr e.natAbs).toList
    fractional ++ 'e' :: (if e < 0 then '-' else '+') :: (if size.length < 2 then '0' :: size else size)

end Graft.Decimal
