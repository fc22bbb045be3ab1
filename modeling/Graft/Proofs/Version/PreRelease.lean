/-
# Graft.Proofs.Version.PreRelease -- whether a pre-release of the threshold is patched

A pre-release of a version is written with a dash and a tag behind it.  The tag makes the last number of the version
a component that counts for zero, and with that the pre-release comes before the version, if that number was not zero
to begin with.  Behind a last number of zero nothing is lost: the pre-release is then at least the version, and what is
to be patched is skipped (`preRelease_skipped`).  Dots in the tag only put more components behind, which cannot make a
version smaller; but one of them may have too many digits to be read, and then there is no answer.

`shouldSkip_preRelease` says exactly when the three cases come.
-/
import Graft.Proofs.Version.Order

namespace Graft.Version

set_option autoImplicit false

open Graft.Text

/-- A component that is a number, of not too many digits. -/
structure Number (part : Text) : Prop where
  some_ : part ≠ []
  decimal : part.all isDecimal = true
  short : part.length ≤ digitLimit

instance numberDecidable (part : Text) : Decidable (Number part) :=
  decidable_of_iff (part ≠ [] ∧ part.all isDecimal = true ∧ part.length ≤ digitLimit)
    ⟨fun ⟨some_, decimal, short⟩ => ⟨some_, decimal, short⟩, fun number => ⟨number.some_, number.decimal, number.short⟩⟩

variable {part threshold tag last : Text}

theorem Number.trim_eq (number : Number part) : part.trim = part :=
  trim_eq_self fun c member => isBlank_of_isDecimal (List.all_eq_true.1 number.decimal c member)

theorem Number.readable (number : Number part) : Readable part := by
  intro numeral
  rw [number.trim_eq]
  exact number.short

theorem Number.value_eq (number : Number part) : value part = decimalValue part := by
  have numeral : isNumeral part = true := by
    rw [isNumeral, number.trim_eq, number.decimal, Bool.and_true, Bool.not_eq_true', List.isEmpty_eq_false_iff]
    exact number.some_
  rw [value, if_pos numeral, number.trim_eq]

/-! ## What the tag does -/

/-- A component with a dash in it is no numeral. -/
theorem isNumeral_of_dash (dash : '-' ∈ part) : isNumeral part = false := by
  have inTrim : '-' ∈ part.trim := mem_trim dash (by decide)
  rw [isNumeral, Bool.and_eq_false_iff]
  refine .inr (List.all_eq_false.2 ⟨'-', inTrim, by decide⟩)

theorem component_of_dash (dash : '-' ∈ part) : component part = .ok 0 := by
  have other := isNumeral_of_dash dash
  rw [component_ok fun numeral => absurd numeral (Bool.eq_false_iff.1 other), value, other]
  rfl

/-- A version with a tag has the numbers of the version but the last, a zero, and those that the tag adds. -/
theorem components_tagged {front : List Text} (parts : threshold.splitOn '.' = front ++ [last])
    (legible : Legible threshold) (tag : Text) :
    components (threshold ++ '-' :: tag) =
      ((tag.splitOn '.').tail.mapM component).map fun added => front.map value ++ 0 :: added := by
  obtain ⟨first, behind, inTag⟩ := List.exists_cons_of_ne_nil (splitOn_ne_nil '.' tag)
  have begins : splitOn '.' ('-' :: tag) = ('-' :: first) :: behind := by
    rw [splitOn, if_neg (by decide), inTag]
  have readable : ∀ part ∈ front, Readable part := by
    intro part member
    exact legible part (parts ▸ List.mem_append_left _ member)
  have read : front.mapM component = .ok (front.map value) := by
    rcases mapM_component front with ⟨-, read⟩ | ⟨part, member, unreadable, -⟩
    · exact read
    · exact absurd (readable part member) unreadable
  rw [components, splitOn_meeting parts begins, inTag, List.tail_cons, List.mapM_append, List.mapM_cons, read,
    component_of_dash (List.mem_append_right _ List.mem_cons_self)]
  cases behind.mapM component with
  | error fault => rfl
  | ok added => rfl

/-- The numbers in front that two versions share do not matter. -/
theorem atLeast_append (front as bs : List Nat) : atLeast (front ++ as) (front ++ bs) = atLeast as bs := by
  induction front with
  | nil => rfl
  | cons n front ih =>
      rw [List.cons_append, List.cons_append, atLeast, List.headD_cons, List.tail_cons, ih]
      simp

/-- Zeros are never more than anything else. -/
theorem atLeast_nil (counts : List Nat) : atLeast counts [] = true := by
  induction counts with
  | nil => rfl
  | cons n rest ih =>
      rw [atLeast, List.headD_nil, List.tail_nil, ih, Bool.and_true, Bool.or_eq_true, decide_eq_true_iff, beq_iff_eq]
      exact (Nat.eq_zero_or_pos n).symm

/-- The tag's zero is compared with the last number of the threshold, and what the tag adds with nothing. -/
theorem shouldSkip_tagged {front : List Text} (parts : threshold.splitOn '.' = front ++ [last])
    (legible : Legible threshold) (tag : Text) :
    shouldSkip (threshold ++ '-' :: tag) threshold =
      ((tag.splitOn '.').tail.mapM component).map fun _ => value last == 0 := by
  have known : threshold ++ '-' :: tag ≠ unknown := by
    intro same
    have dash : '-' ∈ unknown := same ▸ List.mem_append_right _ List.mem_cons_self
    exact absurd dash (by decide)
  have counts : values threshold = front.map value ++ [value last] := by
    rw [values, parts, List.map_append]
    rfl
  rw [shouldSkip, if_neg known, isAtLeast, components_tagged parts legible, components_ok_iff.2 ⟨legible, counts.symm⟩]
  cases (tag.splitOn '.').tail.mapM component with
  | error fault => rfl
  | ok added =>
      refine congrArg Except.ok ?_
      rw [atLeast_append, atLeast, List.headD_cons, List.tail_cons, atLeast_nil, Bool.and_true,
        decide_eq_false (Nat.not_lt_zero _), Bool.false_or]
      exact BEq.comm

/-- **Which pre-releases of a threshold are skipped.**  The threshold is made of numbers; the tag is anything. -/
theorem shouldSkip_preRelease (numbers : ∀ part ∈ threshold.splitOn '.', Number part)
    (ends : (threshold.splitOn '.').getLast? = some last) (tag : Text) :
    (shouldSkip (threshold ++ '-' :: tag) threshold = .ok false ↔
        decimalValue last ≠ 0 ∧ ∀ part ∈ (tag.splitOn '.').tail, Readable part) ∧
      (shouldSkip (threshold ++ '-' :: tag) threshold = .ok true ↔
        decimalValue last = 0 ∧ ∀ part ∈ (tag.splitOn '.').tail, Readable part) ∧
      ∀ fault, shouldSkip (threshold ++ '-' :: tag) threshold = .error fault →
        ∃ part ∈ (tag.splitOn '.').tail, ¬ Readable part ∧ fault = .tooManyDigits part.trim.length := by
  obtain ⟨front, parts⟩ := List.getLast?_eq_some_iff.1 ends
  have legible : Legible threshold := fun part member => (numbers part member).readable
  have isLast : last ∈ threshold.splitOn '.' := parts ▸ List.mem_append_right _ List.mem_cons_self
  rw [shouldSkip_tagged parts legible, (numbers last isLast).value_eq]
  rcases mapM_component (tag.splitOn '.').tail with ⟨readable, read⟩ | ⟨part, member, unreadable, failed⟩
  · rw [read]
    refine ⟨?_, ?_, ?_⟩
    · constructor
      · intro skipped
        exact ⟨beq_eq_false_iff_ne.1 (Except.ok.inj skipped), readable⟩
      · rintro ⟨other, -⟩
        exact congrArg Except.ok (beq_eq_false_iff_ne.2 other)
    · constructor
      · intro skipped
        exact ⟨beq_iff_eq.1 (Except.ok.inj skipped), readable⟩
      · rintro ⟨zero, -⟩
        exact congrArg Except.ok (beq_iff_eq.2 zero)
    · intro fault failed
      cases failed
  · have unanswered : ∀ answer, (.error (.tooManyDigits part.trim.length) : Except IntegerFault Bool) ≠ .ok answer := by
      intro answer answered
      cases answered
    have notAll : ¬ ∀ part ∈ (tag.splitOn '.').tail, Readable part := fun readable => unreadable (readable part member)
    rw [failed]
    refine ⟨?_, ?_, ?_⟩
    · exact iff_of_false (unanswered false) fun ⟨_, readable⟩ => notAll readable
    · exact iff_of_false (unanswered true) fun ⟨_, readable⟩ => notAll readable
    · intro fault same
      exact ⟨part, member, unreadable, (Except.error.inj same).symm⟩

/-- A pre-release of a version that ends in a number, with a tag that adds a component. -/
theorem shouldSkip_preRelease_beta :
    (∀ part ∈ splitOn '.' "2.40.4".toList, Number part) ∧
      (splitOn '.' "2.40.4".toList).getLast? = some "4".toList ∧
      shouldSkip ("2.40.4".toList ++ '-' :: "beta.1".toList) "2.40.4".toList = .ok false := by
  have ends : (splitOn '.' "2.40.4".toList).getLast? = some "4".toList := by decide
  exact ⟨by decide, ends, (shouldSkip_preRelease (by decide) ends "beta.1".toList).1.2 ⟨by decide, by decide⟩⟩

/-- **A pre-release of a threshold that ends in zero is skipped.** -/
theorem preRelease_skipped :
    (∀ part ∈ splitOn '.' "3.0.0".toList, Number part) ∧
      shouldSkip ("3.0.0".toList ++ '-' :: "beta.1".toList) "3.0.0".toList = .ok true := by decide

end Graft.Version
