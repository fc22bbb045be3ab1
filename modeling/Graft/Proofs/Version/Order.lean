/-
# Graft.Proofs.Version.Order -- versions are in the order of their numbers

A version stands for an endless sequence of numbers: those that its components count for, and zeros behind them.  One
version is at least another exactly if its sequence is, compared lexicographically.  The comparison itself never looks
at a sequence: it goes through two lists of different lengths, and what one of them lacks is zero.  `atLeast_iff` ties
the two together by one induction, whose step is that a sequence is compared by its first number and then by the rest
(`toLex_le_iff`).

The order of sequences is linear, and so versions have all its laws (`isAtLeast_ordered`).  The only thing that can go
wrong is a number of too many digits, and a version without one is `Legible`.
-/
import Graft.Proofs.Text.Parts
import Graft.Version.Order
import Mathlib

namespace Graft.Version

set_option autoImplicit false

open Graft.Text

/-! ## Components -/

/-- Decimal digits with nothing but blanks around them. -/
def isNumeral (part : Text) : Bool := !part.trim.isEmpty && part.trim.all isDecimal

/-- The number that a component counts for: zero, unless it is a numeral. -/
def value (part : Text) : Nat := if isNumeral part then decimalValue part.trim else 0

/-- A component that can be read: a numeral must not have too many digits. -/
def Readable (part : Text) : Prop := isNumeral part = true → part.trim.length ≤ digitLimit

instance readableDecidable (part : Text) : Decidable (Readable part) := by
  unfold Readable
  infer_instance

/-- No component of a version has too many digits. -/
def Legible (version : Text) : Prop := ∀ part ∈ version.splitOn '.', Readable part

instance legibleDecidable (version : Text) : Decidable (Legible version) := by
  unfold Legible
  infer_instance

/-- The numbers of a version, one for each component. -/
def values (version : Text) : List Nat := (version.splitOn '.').map value

theorem component_eq (part : Text) :
    component part = if Readable part then .ok (value part) else .error (.tooManyDigits part.trim.length) := by
  rw [component, value]
  by_cases numeral : isNumeral part = true
  · have digits := numeral
    rw [isNumeral, Bool.and_eq_true] at digits
    have goesOn : ¬ ((part.trim.isEmpty || !part.trim.all isDecimal) = true) := by simp_all
    rw [if_pos numeral, if_neg goesOn]
    by_cases short : part.trim.length ≤ digitLimit
    · rw [if_neg (Nat.not_lt.2 short), if_pos (show Readable part from fun _ => short)]
    · rw [if_pos (Nat.lt_of_not_le short), if_neg fun readable : Readable part => short (readable numeral)]
  · have readable : Readable part := fun isOne => absurd isOne numeral
    have isZero : (part.trim.isEmpty || !part.trim.all isDecimal) = true := by
      simpa [isNumeral, or_iff_not_imp_left] using numeral
    rw [if_neg numeral, if_pos readable, if_pos isZero]

theorem component_ok {part : Text} (readable : Readable part) : component part = .ok (value part) := by
  rw [component_eq, if_pos readable]

/-- Parts are read one after another; the first that cannot be read is the fault. -/
theorem mapM_component (parts : List Text) :
    (∀ part ∈ parts, Readable part) ∧ parts.mapM component = .ok (parts.map value) ∨
      ∃ part ∈ parts, ¬ Readable part ∧ parts.mapM component = .error (.tooManyDigits part.trim.length) := by
  induction parts with
  | nil => exact .inl ⟨fun _ member => absurd member List.not_mem_nil, rfl⟩
  | cons part rest ih =>
      rw [List.mapM_cons, component_eq]
      by_cases readable : Readable part
      · rw [if_pos readable]
        rcases ih with ⟨all, read⟩ | ⟨long, member, unreadable, failed⟩
        · refine .inl ⟨?_, by rw [read]; rfl⟩
          intro other member
          rcases List.mem_cons.1 member with rfl | later
          · exact readable
          · exact all other later
        · exact .inr ⟨long, List.mem_cons_of_mem _ member, unreadable, by rw [failed]; rfl⟩
      · rw [if_neg readable]
        exact .inr ⟨part, List.mem_cons_self, readable, rfl⟩

/-- A version that is legible is read as its numbers, and no other one is read. -/
theorem components_ok_iff {version : Text} {counts : List Nat} :
    components version = .ok counts ↔ Legible version ∧ counts = values version := by
  rw [components]
  rcases mapM_component (version.splitOn '.') with ⟨legible, read⟩ | ⟨part, member, unreadable, failed⟩
  · rw [read]
    constructor
    · intro same
      exact ⟨legible, (Except.ok.inj same).symm⟩
    · rintro ⟨-, rfl⟩
      rfl
  · rw [failed]
    constructor
    · intro same
      cases same
    · rintro ⟨legible, -⟩
      exact absurd (legible part member) unreadable

/-! ## Sequences -/

/-- Numbers with endless zeros behind them. -/
def padded (counts : List Nat) (i : Nat) : Nat := counts.getD i 0

/-- The endless sequence of numbers that a version stands for. -/
def sequence (version : Text) : Nat → Nat := padded (values version)

theorem padded_zero (counts : List Nat) : padded counts 0 = counts.headD 0 := by cases counts <;> rfl

theorem padded_succ (counts : List Nat) : (fun i => padded counts (i + 1)) = padded counts.tail := by
  cases counts with
  | nil => rfl
  | cons n rest => rfl

/-- A zero more behind the numbers makes no difference. -/
theorem padded_append_zero (counts : List Nat) : padded (counts ++ [0]) = padded counts := by
  funext i
  rw [padded, padded, List.getD_eq_getElem?_getD, List.getD_eq_getElem?_getD]
  rcases Nat.lt_trichotomy i counts.length with inside | rfl | beyond
  · rw [List.getElem?_append_left inside]
  · rw [List.getElem?_concat_length, List.getElem?_eq_none (Nat.le_refl _)]
    rfl
  · rw [List.getElem?_eq_none (by simp; omega), List.getElem?_eq_none (Nat.le_of_lt beyond)]

/-- Sequences are compared by their first numbers, and by the rest if these are the same. -/
theorem toLex_le_iff (f g : Nat → Nat) :
    toLex f ≤ toLex g ↔ f 0 < g 0 ∨ f 0 = g 0 ∧ toLex (fun i => f (i + 1)) ≤ toLex (fun i => g (i + 1)) := by
  rw [le_iff_lt_or_eq, le_iff_lt_or_eq]
  constructor
  · rintro (⟨i, before, less⟩ | same)
    · cases i with
      | zero => exact .inl less
      | succ i =>
          refine .inr ⟨before 0 (Nat.succ_pos i), .inl ⟨i, ?_, less⟩⟩
          intro j below
          exact before (j + 1) (Nat.succ_lt_succ below)
    · obtain rfl := toLex.injective same
      exact .inr ⟨rfl, .inr rfl⟩
  · rintro (less | ⟨first, ⟨i, before, less⟩ | same⟩)
    · exact .inl ⟨0, fun j below => absurd below (Nat.not_lt_zero j), less⟩
    · refine .inl ⟨i + 1, ?_, less⟩
      intro j below
      cases j with
      | zero => exact first
      | succ j => exact before j (Nat.lt_of_succ_lt_succ below)
    · refine .inr (congrArg toLex (funext fun i => ?_))
      cases i with
      | zero => exact first
      | succ i => exact congrFun (toLex.injective same) i

/-- **Numbers are at least others exactly if their sequences are.** -/
theorem atLeast_iff (as bs : List Nat) : atLeast as bs = true ↔ toLex (padded bs) ≤ toLex (padded as) := by
  induction as generalizing bs with
  | nil =>
      induction bs with
      | nil => exact ⟨fun _ => le_refl _, fun _ => rfl⟩
      | cons b bs ih =>
          rw [atLeast, List.all_cons, Bool.and_eq_true, beq_iff_eq, ← atLeast, ih, toLex_le_iff (padded (b :: bs)),
            padded_succ, padded_succ, padded_zero, padded_zero]
          exact ⟨.inr, fun less => less.resolve_left (Nat.not_lt_zero b)⟩
  | cons a as ih =>
      rw [atLeast, toLex_le_iff, padded_succ, padded_succ, padded_zero, padded_zero, List.headD_cons, List.tail_cons,
        ← ih, Bool.or_eq_true, Bool.and_eq_true, decide_eq_true_iff, beq_iff_eq, eq_comm (a := a)]

/-! ## Versions -/

variable {a b c : Text}

/-- Two legible versions can be compared, and no others; the answer is that for their numbers. -/
theorem isAtLeast_ok_iff {answer : Bool} :
    isAtLeast a b = .ok answer ↔ Legible a ∧ Legible b ∧ answer = atLeast (values a) (values b) := by
  rw [isAtLeast]
  cases readA : components a with
  | error fault =>
      constructor
      · intro answered
        cases answered
      · rintro ⟨legible, -, -⟩
        cases readA.symm.trans (components_ok_iff.2 ⟨legible, rfl⟩)
  | ok as =>
      obtain ⟨legibleA, rfl⟩ := components_ok_iff.1 readA
      cases readB : components b with
      | error fault =>
          constructor
          · intro answered
            cases answered
          · rintro ⟨-, legible, -⟩
            cases readB.symm.trans (components_ok_iff.2 ⟨legible, rfl⟩)
      | ok bs =>
          obtain ⟨legibleB, rfl⟩ := components_ok_iff.1 readB
          constructor
          · intro answered
            exact ⟨legibleA, legibleB, (Except.ok.inj answered).symm⟩
          · rintro ⟨-, -, rfl⟩
            rfl

/-- **A version is at least another exactly if its sequence is.** -/
theorem isAtLeast_iff (legibleA : Legible a) (legibleB : Legible b) :
    isAtLeast a b = .ok true ↔ toLex (sequence b) ≤ toLex (sequence a) := by
  rw [isAtLeast_ok_iff, eq_comm, atLeast_iff]
  constructor
  · rintro ⟨-, -, less⟩
    exact less
  · intro less
    exact ⟨legibleA, legibleB, less⟩

theorem isAtLeast_trans (first : isAtLeast a b = .ok true) (second : isAtLeast b c = .ok true) :
    isAtLeast a c = .ok true := by
  obtain ⟨legibleA, legibleB, -⟩ := isAtLeast_ok_iff.1 first
  obtain ⟨-, legibleC, -⟩ := isAtLeast_ok_iff.1 second
  rw [isAtLeast_iff legibleA legibleB] at first
  rw [isAtLeast_iff legibleB legibleC] at second
  exact (isAtLeast_iff legibleA legibleC).2 (le_trans second first)

/-- The text of a component that counts for zero, with the dot in front of it. -/
def zeroBehind : Text := ".0".toList

theorem components_zeroBehind (version : Text) :
    components (version ++ zeroBehind) = (components version).map (· ++ [0]) := by
  have parts : (version ++ zeroBehind).splitOn '.' = version.splitOn '.' ++ [['0']] := by
    rw [zeroBehind, show ".0".toList = '.' :: ['0'] from rfl, splitOn_append]
    rfl
  rw [components, parts, List.mapM_append, ← components]
  cases components version with
  | error fault => rfl
  | ok counts => rfl

theorem atLeast_append_zero (as bs : List Nat) :
    atLeast (as ++ [0]) bs = atLeast as bs ∧ atLeast as (bs ++ [0]) = atLeast as bs := by
  constructor
  · rw [Bool.eq_iff_iff, atLeast_iff, atLeast_iff, padded_append_zero]
  · rw [Bool.eq_iff_iff, atLeast_iff, atLeast_iff, padded_append_zero]

/-- A zero more behind one of two versions makes no difference, even to what cannot be compared. -/
theorem isAtLeast_zeroBehind (a b : Text) :
    isAtLeast (a ++ zeroBehind) b = isAtLeast a b ∧ isAtLeast a (b ++ zeroBehind) = isAtLeast a b := by
  simp only [isAtLeast, components_zeroBehind]
  cases components a with
  | error fault => exact ⟨rfl, rfl⟩
  | ok as =>
      cases components b with
      | error fault => exact ⟨rfl, rfl⟩
      | ok bs =>
          exact ⟨congrArg Except.ok (atLeast_append_zero as bs).1, congrArg Except.ok (atLeast_append_zero as bs).2⟩

/-- What is skipped is known and at least the threshold. -/
theorem shouldSkip_iff : shouldSkip a b = .ok true ↔ a ≠ unknown ∧ isAtLeast a b = .ok true := by
  rw [shouldSkip]
  by_cases same : a = unknown
  · rw [if_pos same]
    constructor
    · intro skipped
      cases skipped
    · rintro ⟨known, -⟩
      exact absurd same known
  · rw [if_neg same]
    constructor
    · intro skipped
      exact ⟨same, skipped⟩
    · rintro ⟨-, skipped⟩
      exact skipped

/-- What the comparison of versions owes to two of them, whatever a third one is. -/
structure Ordered (a b : Text) : Prop where
  /-- There is an answer, and it is that of the sequences. -/
  answers : ∃ answer, isAtLeast a b = .ok answer ∧ (answer = true ↔ toLex (sequence b) ≤ toLex (sequence a))
  reflexive : isAtLeast a a = .ok true
  transitive : ∀ c, isAtLeast a b = .ok true → isAtLeast b c = .ok true → isAtLeast a c = .ok true
  total : isAtLeast a b = .ok true ∨ isAtLeast b a = .ok true
  bothWays : isAtLeast a b = .ok true ∧ isAtLeast b a = .ok true ↔ sequence a = sequence b
  zeros : isAtLeast (a ++ zeroBehind) b = isAtLeast a b ∧ isAtLeast a (b ++ zeroBehind) = isAtLeast a b
  /-- What is skipped for a threshold is skipped for a lower one. -/
  skips : ∀ c, shouldSkip a b = .ok true → isAtLeast b c = .ok true → shouldSkip a c = .ok true

/-- **Versions are in the lexicographic order of their sequences**, and that is a total preorder. -/
theorem isAtLeast_ordered (legibleA : Legible a) (legibleB : Legible b) : Ordered a b where
  answers := by
    refine ⟨atLeast (values a) (values b), isAtLeast_ok_iff.2 ⟨legibleA, legibleB, rfl⟩, ?_⟩
    exact atLeast_iff _ _
  reflexive := (isAtLeast_iff legibleA legibleA).2 (le_refl _)
  transitive := fun _ => isAtLeast_trans
  total := by
    rw [isAtLeast_iff legibleA legibleB, isAtLeast_iff legibleB legibleA]
    exact le_total _ _
  bothWays := by
    rw [isAtLeast_iff legibleA legibleB, isAtLeast_iff legibleB legibleA]
    constructor
    · rintro ⟨less, more⟩
      exact toLex.injective (le_antisymm more less)
    · intro same
      rw [same]
      exact ⟨le_refl _, le_refl _⟩
  zeros := isAtLeast_zeroBehind a b
  skips := by
    intro c skipped lower
    obtain ⟨known, reached⟩ := shouldSkip_iff.1 skipped
    exact shouldSkip_iff.2 ⟨known, isAtLeast_trans reached lower⟩

/-- Versions of different lengths, with a blank, a digit of another script and a component that is no number. -/
theorem isAtLeast_ordered_mixed :
    Legible "2.٤1".toList ∧ Legible "2. 40 .4-beta.1".toList ∧
      Ordered "2.٤1".toList "2. 40 .4-beta.1".toList :=
  ⟨by decide, by decide, isAtLeast_ordered (by decide) (by decide)⟩

end Graft.Version
