/-
# Graft.Proofs.Text.Place -- lines and columns by walking the text

`place` walks a text character by character: a line feed begins a new line at column zero, any other
character moves on by a column.  Looking an offset up among the line starts gives the same place
(`placeAt_breaks`), and a later offset has a later place (`place_before`).
-/
import Graft.Text.Lines
import Mathlib.Data.List.Basic

namespace Graft.Text

set_option autoImplicit false

namespace Place

/-- The place after a character. -/
def step (p : Place) (c : Char) : Place := if c = '\n' then ⟨p.line + 1, 0⟩ else ⟨p.line, p.column + 1⟩

/-- The place after a text. -/
def advance (p : Place) (t : Text) : Place := t.foldl step p

/-- Earlier line, or earlier on the same line. -/
def Before (p q : Place) : Prop := p.line < q.line ∨ p.line = q.line ∧ p.column < q.column

theorem Before.trans {p q r : Place} (first : p.Before q) (second : q.Before r) : p.Before r := by
  unfold Before at *
  omega

theorem Before.ne {p q : Place} (before : p.Before q) : p ≠ q := by
  rintro rfl
  unfold Before at before
  omega

theorem before_step (p : Place) (c : Char) : p.Before (p.step c) := by
  unfold step Before
  split <;> simp

@[simp] theorem advance_nil (p : Place) : p.advance [] = p := rfl

theorem advance_cons (p : Place) (c : Char) (t : Text) : p.advance (c :: t) = (p.step c).advance t := rfl

@[simp] theorem advance_append (p : Place) (t u : Text) : p.advance (t ++ u) = (p.advance t).advance u :=
  List.foldl_append

/-- Text without a line feed only moves the column. -/
theorem advance_of_not_mem (p : Place) {t : Text} (one : '\n' ∉ t) :
    p.advance t = ⟨p.line, p.column + t.length⟩ := by
  induction t generalizing p with
  | nil => rfl
  | cons c rest ih =>
      have other : ¬ c = '\n' := fun h => one (h ▸ List.mem_cons_self)
      have tail : '\n' ∉ rest := fun h => one (List.mem_cons_of_mem c h)
      simp only [advance_cons, ih _ tail, step, other, if_false, List.length_cons]
      congr 1
      omega

theorem advance_line (p : Place) (t : Text) : (p.advance t).line = p.line + t.count '\n' := by
  induction t generalizing p with
  | nil => rfl
  | cons c rest ih =>
      rw [advance_cons, ih, step]
      by_cases feed : c = '\n'
      · subst feed
        simp only [if_true, List.count_cons_self]
        omega
      · simp [feed]

theorem before_advance (p : Place) {t : Text} (moves : t ≠ []) : p.Before (p.advance t) := by
  induction t generalizing p with
  | nil => exact absurd rfl moves
  | cons c rest ih =>
      have first := p.before_step c
      by_cases last : rest = []
      · subst last
        exact first
      · exact first.trans (ih (p.step c) last)

end Place

/-- The place of an offset. -/
def place (t : Text) (offset : Nat) : Place := Place.advance ⟨0, 0⟩ (t.take offset)

/-! ## Line starts -/

theorem lt_of_mem_breaksFrom {t : Text} {pos k : Nat} (member : k ∈ breaksFrom pos t) : pos < k := by
  induction t generalizing pos with
  | nil => simp [breaksFrom] at member
  | cons c rest ih =>
      simp only [breaksFrom] at member
      split at member
      · rcases List.mem_cons.1 member with rfl | later
        · omega
        · exact Nat.lt_of_succ_lt (ih later)
      · exact Nat.lt_of_succ_lt (ih member)

theorem mem_breaksFrom {t : Text} {pos k : Nat} :
    pos + k + 1 ∈ breaksFrom pos t ↔ t[k]? = some '\n' := by
  induction t generalizing pos k with
  | nil => simp [breaksFrom]
  | cons c rest ih =>
      cases k with
      | zero =>
          have none_ : pos + 0 + 1 ∉ breaksFrom (pos + 1) rest := fun member => by
            have := lt_of_mem_breaksFrom member
            omega
          by_cases feed : c = '\n' <;> simp [breaksFrom, feed, none_]
      | succ k =>
          have tail := @ih (pos + 1) k
          rw [show pos + 1 + k + 1 = pos + (k + 1) + 1 by omega] at tail
          by_cases feed : c = '\n' <;> simp [breaksFrom, feed, tail]

/-- A line after the first begins just past a line feed. -/
theorem mem_breaks {t : Text} {k : Nat} : k + 1 ∈ breaks t ↔ t[k]? = some '\n' := by
  simpa [breaks] using @mem_breaksFrom t 0 k

theorem breaksFrom_sorted (t : Text) (pos : Nat) : (breaksFrom pos t).Pairwise (· < ·) := by
  induction t generalizing pos with
  | nil => exact List.Pairwise.nil
  | cons c rest ih =>
      simp only [breaksFrom]
      split
      · exact List.pairwise_cons.2 ⟨fun k member => lt_of_mem_breaksFrom member, ih _⟩
      · exact ih _

theorem length_breaksFrom (t : Text) (pos : Nat) : (breaksFrom pos t).length = t.count '\n' := by
  induction t generalizing pos with
  | nil => rfl
  | cons c rest ih => by_cases feed : c = '\n' <;> simp [breaksFrom, feed, ih]

/-- There is one line start for each line of the text. -/
theorem length_breaks (t : Text) : (breaks t).length + 1 = (List.splitOn '\n' t).length := by
  rw [breaks, length_breaksFrom]
  induction t with
  | nil => rfl
  | cons c rest ih =>
      rw [List.splitOn_cons_eq_if_modifyHead]
      by_cases feed : c = '\n'
      · simp [feed, ih]
      · simp [feed, ih]

theorem place_line_le (t : Text) (offset : Nat) : (t.place offset).line ≤ (breaks t).length := by
  rw [place, Place.advance_line, breaks, length_breaksFrom, Nat.zero_add]
  exact (List.take_sublist offset t).count_le '\n'

/-! ## Looking places up -/

theorem placeFrom_of_lt {starts : List Nat} {line start offset : Nat} (later : ∀ b ∈ starts, offset < b) :
    placeFrom line start offset starts = ⟨line, offset - start⟩ := by
  cases starts with
  | nil => rfl
  | cons b rest => simp [placeFrom, Nat.not_le.2 (later b List.mem_cons_self)]

/-- The lookup, once the text has been walked up to `pos`, which is on a line that begins at `start`. -/
theorem placeFrom_breaksFrom (t : Text) (line start pos offset : Nat) (begun : start ≤ pos)
    (from_ : pos ≤ offset) (within : offset ≤ pos + t.length) :
    placeFrom line start offset (breaksFrom pos t) =
      Place.advance ⟨line, pos - start⟩ (t.take (offset - pos)) := by
  induction t generalizing line start pos with
  | nil =>
      have here : offset = pos := by simp only [List.length_nil] at within; omega
      subst here
      simp [breaksFrom, placeFrom]
  | cons c rest ih =>
      simp only [List.length_cons] at within
      by_cases here : offset = pos
      · subst here
        rw [placeFrom_of_lt fun b member => lt_of_mem_breaksFrom member]
        simp
      · rw [show offset - pos = offset - (pos + 1) + 1 by omega, List.take_succ_cons]
        simp only [breaksFrom, Place.advance, List.foldl_cons, Place.step]
        by_cases feed : c = '\n'
        · have reached : pos + 1 ≤ offset := by omega
          have rest_ := ih (line + 1) (pos + 1) (pos + 1) (Nat.le_refl _) (by omega) (by omega)
          simpa [feed, placeFrom, reached, Place.advance] using rest_
        · have rest_ := ih line start (pos + 1) (by omega) (by omega) (by omega)
          rw [show pos + 1 - start = pos - start + 1 by omega] at rest_
          simpa [feed, Place.advance] using rest_

/-- **Looking an offset up among the line starts gives its place.** -/
theorem placeAt_breaks {t : Text} {offset : Nat} (within : offset ≤ t.length) :
    placeAt (breaks t) offset = t.place offset :=
  placeFrom_breaksFrom t 0 0 0 offset (Nat.le_refl _) (Nat.zero_le _) (by omega)

/-- The place after a part of a text that begins at a known place. -/
theorem place_append (t u v : Text) {k : Nat} (within : k ≤ u.length) :
    place (t ++ u ++ v) (t.length + k) = (place (t ++ u ++ v) t.length).advance (u.take k) := by
  have first : (t ++ u ++ v).take t.length = t := by simp
  have both : (t ++ u ++ v).take (t.length + k) = t ++ u.take k := by
    rw [List.append_assoc, List.take_length_add_append, List.take_append_of_le_length within]
  rw [place, place, first, both, Place.advance_append]

/-- Some line start, or the start of the text, is the last one up to an offset. -/
theorem exists_last_break (t : Text) (j : Nat) :
    ∃ k ≤ j, (k = 0 ∨ k ∈ breaks t) ∧ ∀ i ∈ breaks t, i ≤ j → i ≤ k := by
  induction j with
  | zero => exact ⟨0, Nat.le_refl _, .inl rfl, fun _ _ upTo => upTo⟩
  | succ j ih =>
      by_cases begins : j + 1 ∈ breaks t
      · exact ⟨j + 1, Nat.le_refl _, .inr begins, fun _ _ upTo => upTo⟩
      · obtain ⟨k, upTo, start, last⟩ := ih
        refine ⟨k, Nat.le_succ_of_le upTo, start, fun i member within => last i member ?_⟩
        have other : i ≠ j + 1 := fun same => begins (same ▸ member)
        omega

/-- Between line starts only the column moves. -/
theorem advance_take (p : Place) {t : Text} {k j : Nat} (order : k ≤ j) (within : j ≤ t.length)
    (last : ∀ i ∈ breaks t, i ≤ j → i ≤ k) :
    p.advance (t.take j) =
      ⟨(p.advance (t.take k)).line, (p.advance (t.take k)).column + (j - k)⟩ := by
  have cut : t.take j = t.take k ++ (t.drop k).take (j - k) := by
    rw [← List.take_add, show k + (j - k) = j by omega]
  have one : '\n' ∉ (t.drop k).take (j - k) := by
    intro member
    obtain ⟨i, inside, feed⟩ := List.getElem_of_mem member
    simp only [List.length_take, List.length_drop] at inside
    have found : t[k + i]? = some '\n' := by
      rw [← feed, List.getElem_take, List.getElem_drop, List.getElem?_eq_getElem]
    have := last (k + i + 1) (mem_breaks.2 found) (by omega)
    omega
  rw [cut, Place.advance_append, Place.advance_of_not_mem _ one, List.length_take, List.length_drop,
    show min (j - k) (t.length - k) = j - k by omega]

/-- A later offset has a later place. -/
theorem place_before {t : Text} {i j : Nat} (order : i < j) (within : j ≤ t.length) :
    (t.place i).Before (t.place j) := by
  have cut : t.take j = t.take i ++ (t.drop i).take (j - i) := by
    rw [← List.take_add, show i + (j - i) = j by omega]
  have moves : (t.drop i).take (j - i) ≠ [] := by
    intro empty
    have := congrArg List.length empty
    simp only [List.length_take, List.length_drop, List.length_nil] at this
    omega
  rw [place, place, cut, Place.advance_append]
  exact Place.before_advance _ moves

end Graft.Text
