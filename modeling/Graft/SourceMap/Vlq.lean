/-
# Graft.SourceMap.Vlq -- integers as Base64 digits

An integer is written least significant digits first, five bits to a Base64 digit, the sixth bit saying
that more digits follow.  The lowest bit of the number that is written is the sign.
-/
import Graft.Text.Basic

namespace Graft.SourceMap

set_option autoImplicit false

def base64Digits : Text := "ABCDEFGHIJKLMNOPQRSTUVWXYZabcdefghijklmnopqrstuvwxyz0123456789+/".toList

/-- The Base64 digit of a value below 64. -/
def base64Digit (n : Nat) : Char := base64Digits.getD n 'A'

/-- The integer and its sign as one number. -/
def signed (v : Int) : Nat := if v < 0 then 2 * v.natAbs + 1 else 2 * v.natAbs

def encodeNat (n : Nat) : Text :=
  if h : n < 32 then [base64Digit n]
  else base64Digit (n % 32 + 32) :: encodeNat (n / 32)
termination_by n
decreasing_by omega

/-- One integer as a variable-length field. -/
def encodeVlq (v : Int) : Text := encodeNat (signed v)

end Graft.SourceMap
