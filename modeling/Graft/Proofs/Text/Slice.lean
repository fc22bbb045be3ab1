/-
# Graft.Proofs.Text.Slice -- parts of a text

What stands in a part of a text stands in the text, moved by where the part begins.  A text is put together from its
parts, and a part can be cut anywhere.
-/
import Graft.Text.Basic
import Mathlib.Data.List.Basic

namespace Graft.Text

set_option autoImplicit false

theorem getElem?_slice (t : Text) (start stop k : Nat) :
    (t.slice start stop)[k]? = if start + k < stop then t[start + k]? else none := by
  rw [slice, List.getElem?_take, List.getElem?_drop]
  by_cases inside : start + k < stop
  · rw [if_pos inside, if_pos (by omega)]
  · rw [if_neg inside, if_neg (by omega)]

/-- A character of a slice stands in the text. -/
theorem getElem?_of_slice {t : Text} {start stop k : Nat} {c : Char} (found : (t.slice start stop)[k]? = some c) :
    t[start + k]? = some c := by
  rw [getElem?_slice] at found
  exact (Option.ite_none_right_eq_some.1 found).2

/-- What is asked of the characters in a range holds of those of the slice. -/
theorem all_slice {t : Text} {p : Char → Bool} {start stop : Nat}
    (hold : ∀ k, start ≤ k → k < stop → ∃ c, t[k]? = some c ∧ p c = true) :
    ∀ c ∈ t.slice start stop, p c = true := by
  intro c member
  obtain ⟨k, found⟩ := List.mem_iff_getElem?.1 member
  rw [getElem?_slice] at found
  obtain ⟨inside, at_⟩ := Option.ite_none_right_eq_some.1 found
  obtain ⟨d, at_', holds⟩ := hold (start + k) (Nat.le_add_right _ _) inside
  rwa [← Option.some.inj (at_'.symm.trans at_)]

theorem slice_middle (t u v : Text) : (t ++ u ++ v).slice t.length (t.length + u.length) = u := by
  simp [slice]

theorem slice_split {base : Text} {start stop : Nat} (order : start ≤ stop) :
    base = base.take start ++ base.slice start stop ++ base.drop stop := by
  have rest : base.drop stop = (base.drop start).drop (stop - start) := by
    rw [List.drop_drop, show start + (stop - start) = stop by omega]
  rw [slice, rest, List.append_assoc, List.take_append_drop, List.take_append_drop]

theorem getElem?_middle {α : Type} {t u v : List α} {j : Nat} (inside : j < u.length) :
    (t ++ u ++ v)[t.length + j]? = u[j]? := by
  rw [List.append_assoc, List.getElem?_append_right (Nat.le_add_right _ _), Nat.add_sub_cancel_left,
    List.getElem?_append_left inside]

theorem take_slice (base : Text) {n stop : Nat} (from_ : n ≤ stop) :
    base.slice 0 stop = base.take n ++ base.slice n stop := by
  simp only [slice, Nat.sub_zero, List.drop_zero]
  rw [← List.take_add, show n + (stop - n) = stop by omega]

theorem slice_length {base : Text} {start stop : Nat} (order : start ≤ stop) (within : stop ≤ base.length) :
    start + (base.slice start stop).length = stop := by
  simp only [slice, List.length_take, List.length_drop]
  omega

theorem slice_cut (base : Text) {start mid stop : Nat} (order : start ≤ mid) (order' : mid ≤ stop) :
    base.slice start stop = base.slice start mid ++ base.slice mid stop := by
  simp only [slice]
  rw [show stop - start = mid - start + (stop - mid) by omega, List.take_add, List.drop_drop,
    show start + (mid - start) = mid by omega]

theorem drop_slice {base : Text} {start stop : Nat} (order : start ≤ stop) :
    base.drop start = base.slice start stop ++ base.drop stop := by
  have rest : base.drop stop = (base.drop start).drop (stop - start) := by
    rw [List.drop_drop, show start + (stop - start) = stop by omega]
  rw [slice, rest, List.take_append_drop]

theorem lt_of_slice_ne_nil {t : Text} {start stop : Nat} (some_ : t.slice start stop ≠ []) : start < stop := by
  by_contra empty
  apply some_
  rw [slice, Nat.sub_eq_zero_of_le (Nat.le_of_not_lt empty), List.take_zero]

end Graft.Text
