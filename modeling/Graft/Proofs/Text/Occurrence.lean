/-
# Graft.Proofs.Text.Occurrence -- where one text stands in another

`StandsAt t w p` says that `w` stands at offset `p` of `t`.

* What `occurrences` lists are such offsets (`standsAt_of_mem_occurrences`).
* Two texts stand apart if neither can begin inside the other; whether it can is computed
  (`standsAt_apart`).
* A text in front in which no occurrence begins only moves the occurrences (`occurrences_append`), so the first
  one is the least such offset (`occurrences_head_iff`).
-/
import Graft.Proofs.Text.Slice
import Mathlib.Data.List.Basic
import Mathlib.Data.Nat.Find

namespace Graft.Text

set_option autoImplicit false

/-- The text `w` stands at offset `p` of `t`. -/
def StandsAt (t w : Text) (p : Nat) : Prop := ∀ k c, w[k]? = some c → t[p + k]? = some c

theorem standsAt_nil (t : Text) (p : Nat) : StandsAt t [] p := fun _ _ none_ => by simp at none_

theorem standsAt_cons {t rest : Text} {c : Char} {p : Nat} :
    StandsAt t (c :: rest) p ↔ t[p]? = some c ∧ StandsAt t rest (p + 1) := by
  constructor
  · intro stands
    refine ⟨stands 0 c rfl, fun k d found => ?_⟩
    rw [show p + 1 + k = p + (k + 1) by omega]
    exact stands (k + 1) d found
  · rintro ⟨here, later⟩ k d found
    cases k with
    | zero => rwa [← Option.some.inj found]
    | succ k =>
        rw [show p + (k + 1) = p + 1 + k by omega]
        exact later k d found

theorem standsAt_append_iff {t u v : Text} {p : Nat} :
    StandsAt t (u ++ v) p ↔ StandsAt t u p ∧ StandsAt t v (p + u.length) := by
  induction u generalizing p with
  | nil => exact ⟨fun stands => ⟨standsAt_nil t p, stands⟩, And.right⟩
  | cons c rest ih =>
      rw [List.cons_append, standsAt_cons, standsAt_cons, ih, List.length_cons, and_assoc,
        show p + (rest.length + 1) = p + 1 + rest.length by omega]

theorem standsAt_iff_isPrefixOf {t w : Text} {p : Nat} : StandsAt t w p ↔ w.isPrefixOf (t.drop p) = true := by
  rw [List.isPrefixOf_iff_prefix, List.prefix_iff_getElem?]
  simp only [StandsAt, List.getElem?_drop]
  constructor
  · exact fun stands k inside => stands k _ (List.getElem?_eq_getElem inside)
  · intro stands k c found
    obtain ⟨inside, rfl⟩ := List.getElem?_eq_some_iff.1 found
    exact stands k inside

theorem StandsAt.within {t w : Text} {p : Nat} (stands : StandsAt t w p) (some_ : w ≠ []) :
    p + w.length ≤ t.length := by
  have last : w.length - 1 < w.length := Nat.sub_one_lt (fun zero => some_ (List.length_eq_zero_iff.1 zero))
  have found := stands _ _ (List.getElem?_eq_getElem last)
  have := (List.getElem?_eq_some_iff.1 found).1
  omega

theorem StandsAt.getElem? {t w : Text} {p i : Nat} (stands : StandsAt t w p) (from_ : p ≤ i)
    (before : i < p + w.length) : t[i]? = w[i - p]? := by
  have inside : i - p < w.length := by omega
  have found := stands (i - p) _ (List.getElem?_eq_getElem inside)
  rw [show p + (i - p) = i by omega] at found
  rw [found, List.getElem?_eq_getElem inside]

theorem slice_of_standsAt {t w : Text} {p : Nat} (stands : StandsAt t w p) : t.slice p (p + w.length) = w := by
  refine List.ext_getElem? fun k => ?_
  rw [getElem?_slice]
  split
  · rw [stands.getElem? (Nat.le_add_right _ _) (by omega), Nat.add_sub_cancel_left]
  · exact (List.getElem?_eq_none (by omega)).symm

theorem standsAt_slice (t : Text) (start stop : Nat) : StandsAt t (t.slice start stop) start := by
  intro k c found
  rw [getElem?_slice] at found
  exact (Option.ite_none_right_eq_some.1 found).2

theorem StandsAt.drop {t w : Text} {p : Nat} (stands : StandsAt t w p) (d : Nat) :
    StandsAt t (w.drop d) (p + d) := by
  intro k c found
  rw [List.getElem?_drop] at found
  rw [Nat.add_assoc]
  exact stands (d + k) c found

/-! ## Texts that are put together -/

theorem standsAt_append_left_iff {front back w : Text} {q : Nat} (before : q + w.length ≤ front.length) :
    StandsAt (front ++ back) w q ↔ StandsAt front w q := by
  refine forall₃_congr fun k c found => ?_
  have inside := (List.getElem?_eq_some_iff.1 found).1
  rw [List.getElem?_append_left (by omega)]

theorem standsAt_append_right_iff {front back w : Text} {d : Nat} :
    StandsAt (front ++ back) w (front.length + d) ↔ StandsAt back w d := by
  refine forall₃_congr fun k c _ => ?_
  rw [Nat.add_assoc, List.getElem?_append_right (Nat.le_add_right _ _), Nat.add_sub_cancel_left]

theorem standsAt_append (front u back : Text) : StandsAt (front ++ (u ++ back)) u front.length := by
  have first : StandsAt u u 0 := fun k c found => by rwa [Nat.zero_add]
  exact standsAt_append_right_iff (d := 0).2 ((standsAt_append_left_iff (by omega)).2 first)

theorem infix_iff_standsAt {t w : Text} : w <:+: t ↔ ∃ p, StandsAt t w p := by
  constructor
  · rintro ⟨front, back, rfl⟩
    rw [List.append_assoc]
    exact ⟨front.length, standsAt_append front w back⟩
  · rintro ⟨p, stands⟩
    exact (List.isPrefixOf_iff_prefix.1 (standsAt_iff_isPrefixOf.1 stands)).isInfix.trans
      (List.drop_suffix p t).isInfix

/-- A text stands in a part of another where it stands in the whole, and ends in the part. -/
theorem standsAt_slice_iff {t w : Text} (some_ : w ≠ []) {start stop k : Nat} :
    StandsAt (t.slice start stop) w k ↔ start + k + w.length ≤ stop ∧ StandsAt t w (start + k) := by
  have width := List.length_pos_iff.2 some_
  constructor
  · intro stands
    have at_ : ∀ d c, w[d]? = some c → start + k + d < stop ∧ t[start + k + d]? = some c := by
      intro d c found
      have here := stands d c found
      rw [getElem?_slice, ← Nat.add_assoc] at here
      exact Option.ite_none_right_eq_some.1 here
    have last := (at_ (w.length - 1) _ (List.getElem?_eq_getElem (by omega))).1
    exact ⟨by omega, fun d c found => (at_ d c found).2⟩
  · rintro ⟨upTo, stands⟩ d c found
    have inside := (List.getElem?_eq_some_iff.1 found).1
    rw [getElem?_slice, ← Nat.add_assoc, if_pos (by omega)]
    exact stands d c found

theorem infix_slice_iff {t w : Text} (some_ : w ≠ []) {start stop : Nat} :
    w <:+: t.slice start stop ↔ ∃ p, start ≤ p ∧ p + w.length ≤ stop ∧ StandsAt t w p := by
  simp only [infix_iff_standsAt, standsAt_slice_iff some_]
  constructor
  · rintro ⟨k, upTo, stands⟩
    exact ⟨start + k, Nat.le_add_right _ _, upTo, stands⟩
  · rintro ⟨p, from_, upTo, stands⟩
    refine ⟨p - start, ?_⟩
    rw [show start + (p - start) = p by omega]
    exact ⟨upTo, stands⟩

/-- A text that stands somewhere stands somewhere first. -/
theorem StandsAt.exists_first {t w : Text} {p : Nat} (stands : StandsAt t w p) :
    ∃ q ≤ p, StandsAt t w q ∧ ∀ r < q, ¬ StandsAt t w r := by
  classical
  have somewhere : ∃ q, StandsAt t w q := ⟨p, stands⟩
  exact ⟨Nat.find somewhere, Nat.find_min' somewhere stands, Nat.find_spec somewhere,
    fun r early => Nat.find_min somewhere early⟩

/-! ## Texts that stand apart -/

/-- Whether `w'` cannot begin within `w`: wherever it began, some character would differ. -/
def cannotBeginIn (w' w : Text) : Bool :=
  (List.range w.length).all fun d => ((w.drop d).zip w').any fun (c, c') => c != c'

theorem standsAt_clear {t w w' : Text} {p p' : Nat} (clear : cannotBeginIn w' w = true)
    (stands : StandsAt t w p) (stands' : StandsAt t w' p') (from_ : p ≤ p') : p + w.length ≤ p' := by
  by_contra inside
  have inRange : p' - p ∈ List.range w.length := List.mem_range.2 (by omega)
  obtain ⟨⟨c, c'⟩, member, differ⟩ := List.any_eq_true.1 (List.all_eq_true.1 clear _ inRange)
  obtain ⟨k, found⟩ := List.mem_iff_getElem?.1 member
  obtain ⟨first, second⟩ := List.getElem?_zip_eq_some.1 found
  rw [List.getElem?_drop] at first
  have here := stands _ _ first
  have here' := stands' _ _ second
  rw [show p + (p' - p + k) = p' + k by omega, here'] at here
  have same : c' = c := Option.some.inj here
  simp [same] at differ

/-- Texts that cannot begin within each other stand apart. -/
theorem standsAt_apart {t w w' : Text} {p p' : Nat} (clear : cannotBeginIn w' w = true)
    (clear' : cannotBeginIn w w' = true) (stands : StandsAt t w p) (stands' : StandsAt t w' p') :
    p + w.length ≤ p' ∨ p' + w'.length ≤ p := by
  rcases Nat.le_total p p' with before | after
  · exact .inl (standsAt_clear clear stands stands' before)
  · exact .inr (standsAt_clear clear' stands' stands after)

/-! ## Occurrences -/

theorem mem_occurrencesFrom {needle t : Text} {pos skip p : Nat}
    (member : p ∈ occurrencesFrom needle pos skip t) :
    ∃ i, p = pos + i ∧ StandsAt t needle i := by
  induction t generalizing pos skip with
  | nil => simp [occurrencesFrom] at member
  | cons c rest ih =>
      have later : ∀ {skip' : Nat}, p ∈ occurrencesFrom needle (pos + 1) skip' rest →
          ∃ i, p = pos + i ∧ StandsAt (c :: rest) needle i := by
        intro skip' inRest
        obtain ⟨i, rfl, stands⟩ := ih inRest
        refine ⟨i + 1, by omega, fun k d found => ?_⟩
        rw [show i + 1 + k = i + k + 1 by omega, List.getElem?_cons_succ]
        exact stands k d found
      simp only [occurrencesFrom] at member
      split at member
      · exact later member
      · split at member
        · rename_i here
          rcases List.mem_cons.1 member with rfl | inRest
          · exact ⟨0, rfl, standsAt_iff_isPrefixOf.2 here⟩
          · exact later inRest
        · exact later member

theorem standsAt_of_mem_occurrences {needle t : Text} {p : Nat} (some_ : needle ≠ [])
    (member : p ∈ occurrences needle t) : StandsAt t needle p := by
  rw [occurrences, if_neg (by simpa using some_)] at member
  obtain ⟨i, rfl, stands⟩ := mem_occurrencesFrom member
  rwa [Nat.zero_add]

theorem occurrencesFrom_shift (needle t : Text) (pos skip n : Nat) :
    occurrencesFrom needle (n + pos) skip t = (occurrencesFrom needle pos skip t).map (n + ·) := by
  induction t generalizing pos skip with
  | nil => rfl
  | cons c rest ih =>
      simp only [occurrencesFrom]
      rw [show n + pos + 1 = n + (pos + 1) by omega]
      split
      · exact ih _ _
      · split <;> simp [ih]

/-- A text in front in which no occurrence begins only moves the occurrences. -/
theorem occurrences_append {needle front : Text} (some_ : needle ≠ []) (t : Text)
    (clear : ∀ i < front.length, ¬ StandsAt (front ++ t) needle i) :
    occurrences needle (front ++ t) = (occurrences needle t).map (front.length + ·) := by
  have skip : ∀ (front : Text) (pos : Nat), (∀ i < front.length, ¬ StandsAt (front ++ t) needle i) →
      occurrencesFrom needle pos 0 (front ++ t) = occurrencesFrom needle (front.length + pos) 0 t := by
    intro front
    induction front with
    | nil => intro pos _; rw [List.nil_append, List.length_nil, Nat.zero_add]
    | cons c rest ih =>
        intro pos clear
        have here : ¬ needle.isPrefixOf (c :: (rest ++ t)) = true := fun begins =>
          clear 0 (by simp) (standsAt_iff_isPrefixOf.2 begins)
        rw [List.cons_append, occurrencesFrom, if_neg here, ih]
        · rw [List.length_cons, show rest.length + (pos + 1) = rest.length + 1 + pos by omega]
        · intro i inside stands
          refine clear (i + 1) (by simpa using inside) fun k d found => ?_
          rw [List.cons_append, show i + 1 + k = i + k + 1 by omega, List.getElem?_cons_succ]
          exact stands k d found
  have plain : needle.isEmpty = false := by simpa using some_
  simp only [occurrences, plain, Bool.false_eq_true, if_false]
  rw [skip front 0 clear, occurrencesFrom_shift]

theorem occurrences_head_of_first {needle t : Text} {p : Nat} (some_ : needle ≠ []) (stands : StandsAt t needle p)
    (first : ∀ q < p, ¬ StandsAt t needle q) : (occurrences needle t).head? = some p := by
  have within := stands.within some_
  have front : (t.take p).length = p := List.length_take_of_le (by omega)
  have begins : (occurrences needle (t.drop p)).head? = some 0 := by
    have here := standsAt_iff_isPrefixOf.1 stands
    have plain : needle.isEmpty = false := by simpa using some_
    rw [occurrences, plain]
    cases rest : t.drop p with
    | nil =>
        rw [rest, List.isPrefixOf_iff_prefix, List.prefix_nil] at here
        exact absurd here some_
    | cons c later =>
        rw [rest] at here
        simp [occurrencesFrom, here]
  have moved : occurrences needle (t.take p ++ t.drop p) =
      (occurrences needle (t.drop p)).map ((t.take p).length + ·) := by
    refine occurrences_append some_ _ ?_
    rw [front, List.take_append_drop]
    exact first
  rw [List.take_append_drop, front] at moved
  rw [moved, List.head?_map, begins]
  rfl

/-- **The first occurrence is the least offset at which the text stands.** -/
theorem occurrences_head_iff {needle t : Text} {p : Nat} (some_ : needle ≠ []) :
    (occurrences needle t).head? = some p ↔ StandsAt t needle p ∧ ∀ q < p, ¬ StandsAt t needle q := by
  refine ⟨fun head => ?_, fun ⟨stands, first⟩ => occurrences_head_of_first some_ stands first⟩
  have stands := standsAt_of_mem_occurrences some_ (List.mem_of_head? head)
  refine ⟨stands, fun q before stands' => ?_⟩
  -- The first of all is the head by the other direction, so it is `p`.
  obtain ⟨least, upTo, here, first⟩ := stands'.exists_first
  have same := Option.some.inj (head.symm.trans (occurrences_head_of_first some_ here first))
  omega

end Graft.Text
