/-
# Graft.Text.Utf8 -- texts as bytes

`decode` reads bytes as UTF-8 and refuses at the first sequence that is not well formed, saying which
bytes are at fault: a byte that begins no sequence, a sequence broken off by a byte that cannot continue
it, or one that the end of the data cuts short.  Overlong forms, surrogates and codes above 0x10FFFF are
ruled out by what the second byte may be.
-/
import Graft.Text.Quoted

namespace Graft.Text

set_option autoImplicit false

inductive DecodeFlaw where
  | start
  | continuation
  | truncated
  deriving DecidableEq, Repr

/-- The bytes from `first` up to `stop` are no character; `byte` is the first of them. -/
structure DecodeFault where
  flaw : DecodeFlaw
  byte : UInt8
  first : Nat
  stop : Nat
  deriving DecidableEq, Repr

def DecodeFlaw.message : DecodeFlaw → String
  | .start => "invalid start byte"
  | .continuation => "invalid continuation byte"
  | .truncated => "unexpected end of data"

def DecodeFault.message (f : DecodeFault) : String :=
  if f.stop = f.first + 1 then
    s!"'utf-8' codec can't decode byte 0x{str (hexText 2 f.byte.toNat)} in position {f.first}: " ++
      f.flaw.message
  else
    s!"'utf-8' codec can't decode bytes in position {f.first}-{f.stop - 1}: " ++ f.flaw.message

def continues (b : UInt8) : Bool := 0x80 ≤ b && b < 0xC0

/-- Whether `b` may be the second byte of a sequence that begins with `lead`. -/
def maySecond (lead b : UInt8) : Bool :=
  continues b &&
    (if lead = 0xE0 then 0xA0 ≤ b
     else if lead = 0xED then b < 0xA0
     else if lead = 0xF0 then 0x90 ≤ b
     else if lead = 0xF4 then b < 0x90
     else true)

/-- The character whose code has these groups of bits, most significant first; six bits each but the first. -/
def joinBits (groups : List Nat) : Char := Char.ofNat (groups.foldl (fun n g => n * 64 + g % 64) 0)

def decodeFrom (pos : Nat) : List UInt8 → Except DecodeFault Text
  | [] => .ok []
  | a :: rest =>
    let fault (flaw : DecodeFlaw) (length : Nat) : Except DecodeFault Text :=
      .error ⟨flaw, a, pos, pos + length⟩
    if a < 0x80 then (decodeFrom (pos + 1) rest).map (Char.ofNat a.toNat :: ·)
    else if a < 0xC2 || 0xF5 ≤ a then fault .start 1
    else match rest with
      | [] => fault .truncated 1
      | b :: rest =>
        if !maySecond a b then fault .continuation 1
        else if a < 0xE0 then
          (decodeFrom (pos + 2) rest).map (joinBits [a.toNat % 32, b.toNat] :: ·)
        else match rest with
          | [] => fault .truncated 2
          | c :: rest =>
            if !continues c then fault .continuation 2
            else if a < 0xF0 then
              (decodeFrom (pos + 3) rest).map (joinBits [a.toNat % 16, b.toNat, c.toNat] :: ·)
            else match rest with
              | [] => fault .truncated 3
              | d :: rest =>
                if !continues d then fault .continuation 3
                else (decodeFrom (pos + 4) rest).map
                  (joinBits [a.toNat % 8, b.toNat, c.toNat, d.toNat] :: ·)

/-- The text that the bytes write. -/
def decode (bytes : List UInt8) : Except DecodeFault Text := decodeFrom 0 bytes

/-- How many bytes the text takes. -/
def byteLength (t : Text) : Nat := t.foldr (fun c n => c.utf8Size + n) 0

end Graft.Text
