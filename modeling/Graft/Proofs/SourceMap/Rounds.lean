/-
# Graft.Proofs.SourceMap.Rounds -- integers written round by round

An integer is written in rounds.  Each round writes the lowest five bits of the number that is left and shifts
them out, and its digit says whether anything is left after that.  Nothing in a round says that the rounds come
to an end, and begun with a negative number they do not: shifting rounds down, so that -1 is left as it is.
`rounds_iff` has it both ways: the rounds end exactly for the numbers that are not negative.  The sign of an
integer is folded into the lowest bit before writing begins, and so they end for every integer.

* `length_encodeNat`: there are as many rounds as the number has digits to the base 32.
* `not_decodes_of_cut`: an encoding that is cut short does not read.
-/
import Graft.Proofs.SourceMap.Vlq
import Mathlib.Data.Nat.Log

namespace Graft.SourceMap

set_option autoImplicit false

/-! ## Rounds -/

/-- The rounds that begin with a number come to an end, and this is what they have written by then.  Shifting five
bits out is dividing by 32 and rounding down. -/
inductive Rounds : Int → Text → Prop
  | last {n : Int} (none_ : n / 32 = 0) : Rounds n [base64Digit (n % 32).toNat]
  | more {n : Int} {t : Text} (left : n / 32 ≠ 0) (rest : Rounds (n / 32) t) :
      Rounds n (base64Digit ((n % 32).toNat + 32) :: t)

theorem encodeNat_last {n : Nat} (small : n < 32) : encodeNat n = [base64Digit n] := by
  rw [encodeNat, dif_pos small]

theorem encodeNat_more {n : Nat} (large : ¬ n < 32) :
    encodeNat n = base64Digit (n % 32 + 32) :: encodeNat (n / 32) := by
  rw [encodeNat, dif_neg large]

theorem rounds_encodeNat (n : Nat) : Rounds n (encodeNat n) := by
  induction n using Nat.strongRecOn with
  | ind n ih =>
      by_cases small : n < 32
      · have digit : ((n : Int) % 32).toNat = n := by omega
        have round := Rounds.last (n := n) (by omega)
        rwa [digit, ← encodeNat_last small] at round
      · have digit : ((n : Int) % 32).toNat = n % 32 := by omega
        have round := Rounds.more (n := n) (by omega) (ih (n / 32) (by omega))
        rwa [digit, ← encodeNat_more small] at round

theorem Rounds.written {n : Int} {t : Text} (rounds : Rounds n t) : 0 ≤ n ∧ t = encodeNat n.toNat := by
  induction rounds with
  | @last n none_ =>
      have small : n.toNat < 32 := by omega
      have digit : (n % 32).toNat = n.toNat := by omega
      exact ⟨by omega, by rw [encodeNat_last small, digit]⟩
  | @more n t left _ ih =>
      -- As dividing rounds down, a negative number would leave a negative one.
      obtain ⟨from_, rfl⟩ := ih
      have large : ¬ n.toNat < 32 := by omega
      have digit : (n % 32).toNat = n.toNat % 32 := by omega
      have rest : (n / 32).toNat = n.toNat / 32 := by omega
      exact ⟨by omega, by rw [encodeNat_more large, digit, rest]⟩

/-- **The rounds end exactly for numbers that are not negative**, and have written their digits then. -/
theorem rounds_iff {n : Int} {t : Text} : Rounds n t ↔ 0 ≤ n ∧ t = encodeNat n.toNat := by
  constructor
  · exact Rounds.written
  · rintro ⟨notNegative, rfl⟩
    have rounds := rounds_encodeNat n.toNat
    rwa [Int.toNat_of_nonneg notNegative] at rounds

theorem length_encodeNat (n : Nat) : (encodeNat n).length = Nat.log 32 n + 1 := by
  induction n using Nat.strongRecOn with
  | ind n ih =>
      by_cases small : n < 32
      · rw [encodeNat_last small, Nat.log_of_lt small]
        rfl
      · rw [encodeNat_more small, List.length_cons, ih (n / 32) (by omega),
          Nat.log_of_one_lt_of_le (by decide) (Nat.le_of_not_lt small)]

/-- An integer with its sign as the lowest bit. -/
def folded (v : Int) : Int := if v < 0 then 2 * -v + 1 else 2 * v

theorem signed_eq_folded (v : Int) : (signed v : Int) = folded v := by
  unfold signed folded
  split <;> omega

/-- **Writing an integer ends, whatever its sign.** -/
theorem rounds_folded_iff {v : Int} {t : Text} : Rounds (folded v) t ↔ t = encodeVlq v := by
  rw [← signed_eq_folded, rounds_iff, Int.toNat_natCast]
  exact and_iff_right (Int.natCast_nonneg _)

/-! ## Reading a part -/

/-- What follows a number is left alone. -/
theorem decodeNat_append {t left : Text} {n : Nat} (reads : decodeNat t = some (n, left)) (u : Text) :
    decodeNat (t ++ u) = some (n, left ++ u) := by
  induction t generalizing n left with
  | nil => simp [decodeNat] at reads
  | cons c rest ih =>
      cases value : digitValue? c with
      | none => simp [decodeNat, value] at reads
      | some d =>
          by_cases last : d < 32
          · rw [decodeNat_last value last] at reads
            obtain ⟨rfl, rfl⟩ := Prod.mk.inj (Option.some.inj reads)
            exact decodeNat_last value last _
          · rw [decodeNat_more value last] at reads
            obtain ⟨⟨m, left'⟩, later, same⟩ := Option.map_eq_some_iff.1 reads
            obtain ⟨rfl, rfl⟩ := Prod.mk.inj same
            rw [List.cons_append, decodeNat_more value last, ih later, Option.map_some]

theorem not_decodes_of_cut {v : Int} {front : Text} (upTo : front <+: encodeVlq v) (cut : front ≠ encodeVlq v) :
    decodeVlq front = none := by
  obtain ⟨u, whole⟩ := upTo
  have all_ : decodeNat (encodeVlq v) = some (signed v, []) := by
    simpa [encodeVlq] using decodeNat_encodeNat (signed v) []
  cases reads : decodeNat front with
  | none => rw [decodeVlq, reads, Option.map_none]
  | some read =>
      -- A number that is read from the front is read from the whole, with what follows left over.
      have again := decodeNat_append reads u
      rw [whole, all_] at again
      have nothingLeft := (Prod.mk.inj (Option.some.inj again)).2
      have nothing : u = [] := (List.append_eq_nil_iff.1 nothingLeft.symm).2
      rw [nothing, List.append_nil] at whole
      exact absurd whole cut

/-! ## Integers -/

/-- **Integers in a row can be told apart.**  The reader takes the encoding of an integer, no more and no less of it,
and gives the integer; so it gives back every list of integers that are written one after the other, none of which
holds a separator.  Writing ends for integers of either sign, after as many rounds as there are digits. -/
theorem encodeVlq_decodable :
    (∀ v rest, decodeVlq (encodeVlq v ++ rest) = some (v, rest)) ∧
      (∀ v front, front <+: encodeVlq v → front ≠ encodeVlq v → decodeVlq front = none) ∧
      (∀ vs : List Int, decodeFields (vs.flatMap encodeVlq) = some vs) ∧
      (∀ v, ',' ∉ encodeVlq v ∧ ';' ∉ encodeVlq v) ∧
      ∀ v, (∀ t, Rounds (folded v) t ↔ t = encodeVlq v) ∧
        (encodeVlq v).length = Nat.log 32 (folded v).toNat + 1 := by
  refine ⟨decodeVlq_encodeVlq, fun v front => not_decodes_of_cut, decodeFields_encode, fun v => ?_, fun v => ?_⟩
  · exact ⟨not_mem_encodeVlq (by decide) v, not_mem_encodeVlq (by decide) v⟩
  · refine ⟨fun t => rounds_folded_iff, ?_⟩
    rw [← signed_eq_folded, Int.toNat_natCast]
    exact length_encodeNat (signed v)

end Graft.SourceMap
