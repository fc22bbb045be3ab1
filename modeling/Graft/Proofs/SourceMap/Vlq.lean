/-
# Graft.Proofs.SourceMap.Vlq -- reading variable-length integers back

`decodeVlq` is the standard reader: it takes Base64 digits up to the first one without the continuation bit,
adds up their five data bits, lowest first, and takes the lowest bit of the sum as the sign.  It gives the
integer and what is left of the text.

Reading an encoded integer gives it back and leaves the rest alone (`decodeVlq_encodeVlq`), so the numbers
written one after the other can be told apart without separators (`decodeFields_encode`).
-/
import Graft.SourceMap.Vlq
import Mathlib.Data.List.GetD

namespace Graft.SourceMap

set_option autoImplicit false

/-- The value of a Base64 digit. -/
def digitValue? (c : Char) : Option Nat := base64Digits.findIdx? (· == c)

/-- Reads a number of five-bit digits, and gives what is left. -/
def decodeNat : Text → Option (Nat × Text)
  | [] => none
  | c :: rest =>
    match digitValue? c with
    | none => none
    | some d => if d < 32 then some (d, rest) else (decodeNat rest).map fun (n, left) => (d - 32 + 32 * n, left)

/-- The integer behind a number whose lowest bit is the sign. -/
def unsigned (n : Nat) : Int := if n % 2 = 1 then -((n / 2 : Nat) : Int) else (n / 2 : Nat)

/-- Reads one integer, and gives what is left. -/
def decodeVlq (t : Text) : Option (Int × Text) := (decodeNat t).map fun (n, left) => (unsigned n, left)

/-- Reads integers to the end of the text; every one takes at least a character. -/
def decodeUpTo : Nat → Text → Option (List Int)
  | _, [] => some []
  | 0, _ :: _ => none
  | fuel + 1, c :: rest => do
    let (v, left) ← decodeVlq (c :: rest)
    return v :: (← decodeUpTo fuel left)

/-- The integers that a text is made of. -/
def decodeFields (t : Text) : Option (List Int) := decodeUpTo t.length t

theorem base64Digit_alphabet : ∀ m : Fin 64, digitValue? (base64Digit m) = some m.val := by decide

theorem digitValue?_base64Digit {n : Nat} (small : n < 64) : digitValue? (base64Digit n) = some n :=
  base64Digit_alphabet ⟨n, small⟩

theorem base64Digit_mem (n : Nat) : base64Digit n ∈ base64Digits := by
  unfold base64Digit
  by_cases small : n < base64Digits.length
  · rw [List.getD_eq_getElem _ _ small]
    exact List.getElem_mem small
  · rw [List.getD_eq_default _ _ (Nat.not_lt.1 small)]
    decide

theorem encodeNat_mem (n : Nat) {c : Char} (member : c ∈ encodeNat n) : c ∈ base64Digits := by
  induction n using Nat.strongRecOn with
  | ind n ih =>
      rw [encodeNat] at member
      split at member
      · rw [List.mem_singleton.1 member]
        exact base64Digit_mem n
      · rename_i large
        rcases List.mem_cons.1 member with here | later
        · exact here ▸ base64Digit_mem _
        · exact ih (n / 32) (by omega) later

theorem encodeNat_ne_nil (n : Nat) : encodeNat n ≠ [] := by
  rw [encodeNat]
  split <;> simp

theorem decodeNat_last {c : Char} {d : Nat} (value : digitValue? c = some d) (last : d < 32) (rest : Text) :
    decodeNat (c :: rest) = some (d, rest) := by
  rw [decodeNat, value]
  exact if_pos last

theorem decodeNat_more {c : Char} {d : Nat} (value : digitValue? c = some d) (more : ¬ d < 32) (rest : Text) :
    decodeNat (c :: rest) = (decodeNat rest).map fun (n, left) => (d - 32 + 32 * n, left) := by
  rw [decodeNat, value]
  exact if_neg more

theorem decodeNat_encodeNat (n : Nat) (rest : Text) : decodeNat (encodeNat n ++ rest) = some (n, rest) := by
  induction n using Nat.strongRecOn with
  | ind n ih =>
      rw [encodeNat]
      split
      · rename_i small
        exact decodeNat_last (digitValue?_base64Digit (by omega)) small rest
      · rename_i large
        have high : ¬ n % 32 + 32 < 32 := by omega
        have value := digitValue?_base64Digit (by omega : n % 32 + 32 < 64)
        rw [List.cons_append, decodeNat_more value high, ih (n / 32) (by omega), Option.map_some]
        have whole : n % 32 + 32 - 32 + 32 * (n / 32) = n := by omega
        exact congrArg (fun m => some (m, rest)) whole

theorem unsigned_signed (v : Int) : unsigned (signed v) = v := by
  unfold unsigned signed
  split <;> split <;> omega

/-- **An encoded integer reads back, whatever follows it.** -/
theorem decodeVlq_encodeVlq (v : Int) (rest : Text) : decodeVlq (encodeVlq v ++ rest) = some (v, rest) := by
  simp [decodeVlq, encodeVlq, decodeNat_encodeNat, unsigned_signed]

theorem decodeUpTo_encode (vs : List Int) (fuel : Nat) (enough : (vs.flatMap encodeVlq).length ≤ fuel) :
    decodeUpTo fuel (vs.flatMap encodeVlq) = some vs := by
  induction vs generalizing fuel with
  | nil => cases fuel <;> rfl
  | cons v rest ih =>
      obtain ⟨c, digits, written⟩ := List.exists_cons_of_ne_nil (encodeNat_ne_nil (signed v))
      have whole : (v :: rest).flatMap encodeVlq = c :: (digits ++ rest.flatMap encodeVlq) := by
        rw [List.flatMap_cons, encodeVlq, written, List.cons_append]
      have read : decodeVlq (c :: (digits ++ rest.flatMap encodeVlq)) = some (v, rest.flatMap encodeVlq) := by
        rw [← whole, List.flatMap_cons, decodeVlq_encodeVlq]
      rw [whole] at enough ⊢
      cases fuel with
      | zero => simp at enough
      | succ fuel =>
          simp only [List.length_cons, List.length_append] at enough
          simp [decodeUpTo, read, ih fuel (by omega)]

/-- Integers written one after the other can be told apart. -/
theorem decodeFields_encode (vs : List Int) : decodeFields (vs.flatMap encodeVlq) = some vs :=
  decodeUpTo_encode vs _ (Nat.le_refl _)

/-- No encoding holds a character that is no Base64 digit, so none holds a separator. -/
theorem not_mem_encodeVlq {c : Char} (other : c ∉ base64Digits) (v : Int) : c ∉ encodeVlq v :=
  fun member => other (encodeNat_mem _ member)

end Graft.SourceMap
