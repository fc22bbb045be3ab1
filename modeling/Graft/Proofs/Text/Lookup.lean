/-
# Graft.Proofs.Text.Lookup -- looking lines up

The line of an offset is the last one that begins at or before it.  As lines begin one behind the other, it can be
found by halving a range of candidates (`halve`) instead of walking along the line starts; both count the starts up
to the offset, so they find the same line (`placeAt_eq_located`).

What they find can be read off the text in front of the offset.  The line is the number of its line feeds, and the
line begins behind the last of them (`LastLine`).  So columns, which are differences, never come from taking more
away than there is, and a later offset has a later place (`placeAt_exact`).
-/
import Graft.Proofs.Text.Place

namespace Graft.Text

set_option autoImplicit false

/-! ## Halving -/

section Halving

variable {starts : List Nat} {offset : Nat}

/-- How many numbers of a sorted list are at or before `offset`, if that is from `low` up to `high`. -/
def halve (starts : List Nat) (offset low high : Nat) (within : high ≤ starts.length) : Nat :=
  if open_ : low < high then
    if offset < starts[(low + high) / 2] then halve starts offset low ((low + high) / 2) (by omega)
    else halve starts offset ((low + high) / 2 + 1) high within
  else low
termination_by high - low

/-- The place of an offset, its line found by halving among the starts of all lines. -/
def located (starts : List Nat) (offset : Nat) : Place :=
  let line := halve starts offset 0 starts.length (Nat.le_refl _) - 1
  ⟨line, offset - starts.getD line 0⟩

/-- Behind a number that is past an offset, all are. -/
theorem lt_of_mem_of_lt {b c : Nat} {rest : List Nat} (sorted : (b :: rest).Pairwise (· < ·)) (past : offset < b)
    (member : c ∈ b :: rest) : offset < c := by
  rcases List.mem_cons.1 member with rfl | behind
  · exact past
  · exact Nat.lt_trans past ((List.pairwise_cons.1 sorted).1 c behind)

theorem countP_of_lt {b : Nat} {rest : List Nat} (sorted : (b :: rest).Pairwise (· < ·)) (past : offset < b) :
    (b :: rest).countP (· ≤ offset) = 0 := by
  refine List.countP_eq_zero.2 fun c member => ?_
  have := lt_of_mem_of_lt sorted past member
  simpa using this

/-- In a sorted list, the numbers up to an offset are the first ones. -/
theorem getElem_le_iff (sorted : starts.Pairwise (· < ·)) {i : Nat} (inside : i < starts.length) :
    starts[i] ≤ offset ↔ i < starts.countP (· ≤ offset) := by
  induction starts generalizing i with
  | nil => simp at inside
  | cons b rest ih =>
      by_cases upTo : b ≤ offset
      · rw [List.countP_cons_of_pos (by simpa using upTo)]
        cases i with
        | zero => simpa using upTo
        | succ i =>
            rw [List.getElem_cons_succ, ih sorted.of_cons (Nat.lt_of_succ_lt_succ inside)]
            omega
      · have past := Nat.lt_of_not_le upTo
        have := lt_of_mem_of_lt sorted past (List.getElem_mem inside)
        rw [countP_of_lt sorted past]
        omega

/-- **Halving counts the numbers up to the offset.**  Each step keeps the count in the range that is left. -/
theorem halve_eq (sorted : starts.Pairwise (· < ·)) {low high : Nat} (within : high ≤ starts.length)
    (from_ : low ≤ starts.countP (· ≤ offset)) (upTo : starts.countP (· ≤ offset) ≤ high) :
    halve starts offset low high within = starts.countP (· ≤ offset) := by
  fun_induction halve starts offset low high within with
  | case1 low high within open_ before ih =>
      have inside : (low + high) / 2 < starts.length := by omega
      have below := mt (getElem_le_iff sorted inside).2 (Nat.not_le.2 before)
      exact ih from_ (Nat.le_of_not_lt below)
  | case2 low high within open_ notBefore ih =>
      have inside : (low + high) / 2 < starts.length := by omega
      have above := (getElem_le_iff sorted inside).1 (Nat.le_of_not_lt notBefore)
      exact ih above upTo
  | case3 low high within closed => omega

/-- The walk along the line starts counts them too. -/
theorem placeFrom_eq (sorted : starts.Pairwise (· < ·)) (line start : Nat) :
    placeFrom line start offset starts =
      ⟨line + starts.countP (· ≤ offset), offset - (start :: starts).getD (starts.countP (· ≤ offset)) 0⟩ := by
  induction starts generalizing line start with
  | nil => rfl
  | cons b rest ih =>
      by_cases upTo : b ≤ offset
      · rw [placeFrom, if_pos upTo, ih sorted.of_cons, List.countP_cons_of_pos (by simpa using upTo),
          List.getD_cons_succ]
        congr 1
        omega
      · rw [placeFrom, if_neg upTo, countP_of_lt sorted (Nat.lt_of_not_le upTo)]
        rfl

/-- **Halving finds the place that the walk finds.** -/
theorem placeAt_eq_located (sorted : (0 :: starts).Pairwise (· < ·)) :
    placeAt starts offset = located (0 :: starts) offset := by
  have whole := halve_eq sorted (Nat.le_refl _) (Nat.zero_le _) (List.countP_le_length (p := (· ≤ offset)))
  have first : (0 :: starts).countP (· ≤ offset) = starts.countP (· ≤ offset) + 1 :=
    List.countP_cons_of_pos (by simp)
  rw [placeAt, placeFrom_eq sorted.of_cons, located, whole, first, Nat.zero_add]
  rfl

end Halving

/-! ## The last line of a text -/

/-- Where the last line of a text begins: at its front, or behind its last line feed. -/
inductive LastLine : Text → Nat → Prop
  | only {u : Text} (one : '\n' ∉ u) : LastLine u 0
  | behind {u v : Text} (one : '\n' ∉ v) : LastLine (u ++ '\n' :: v) (u.length + 1)

theorem exists_lastLine (u : Text) : ∃ start, LastLine u start := by
  induction u with
  | nil => exact ⟨0, .only List.not_mem_nil⟩
  | cons c rest ih =>
      obtain ⟨start, last⟩ := ih
      cases last with
      | only one =>
          by_cases feed : c = '\n'
          · subst feed
            exact ⟨_, .behind (u := []) one⟩
          · exact ⟨0, .only (by simpa [one] using Ne.symm feed)⟩
      | @behind u v one => exact ⟨_, .behind (u := c :: u) one⟩

theorem LastLine.place {u : Text} {start : Nat} (last : LastLine u start) :
    start + (Place.advance ⟨0, 0⟩ u).column = u.length := by
  cases last with
  | only one =>
      rw [Place.advance_of_not_mem _ one]
      simp only [Nat.zero_add]
  | @behind u v one =>
      rw [Place.advance_append, Place.advance_cons, Place.step, if_pos rfl, Place.advance_of_not_mem _ one]
      simp only [List.length_append, List.length_cons]
      omega

theorem breaksFrom_append (pos : Nat) (u v : Text) :
    breaksFrom pos (u ++ v) = breaksFrom pos u ++ breaksFrom (pos + u.length) v := by
  induction u generalizing pos with
  | nil => rfl
  | cons c rest ih =>
      have moved : pos + (c :: rest).length = pos + 1 + rest.length := by
        rw [List.length_cons]
        omega
      rw [List.cons_append, breaksFrom, breaksFrom, moved, ih]
      split <;> rfl

/-- Among the line starts of a text, that of the last line of its front has as many before it as the front has line
feeds. -/
theorem LastLine.start {u : Text} {start : Nat} (last : LastLine u start) (rest : Text) :
    (0 :: breaks (u ++ rest))[u.count '\n']? = some start := by
  cases last with
  | only one => rw [List.count_eq_zero.2 one, List.getElem?_cons_zero]
  | @behind u v one =>
      have feeds : (u ++ '\n' :: v).count '\n' = (breaksFrom 0 u).length + 1 := by
        rw [length_breaksFrom, List.count_append, List.count_cons_self, List.count_eq_zero.2 one]
      have cut : breaks (u ++ '\n' :: v ++ rest) =
          breaksFrom 0 u ++ (u.length + 1) :: breaksFrom (u.length + 1) (v ++ rest) := by
        rw [breaks, List.append_assoc, breaksFrom_append, List.cons_append, breaksFrom, if_pos rfl, Nat.zero_add]
      rw [feeds, List.getElem?_cons_succ, cut, List.getElem?_append_right (Nat.le_refl _), Nat.sub_self,
        List.getElem?_cons_zero]

/-! ## Places -/

theorem lineStarts_sorted (t : Text) : (0 :: breaks t).Pairwise (· < ·) :=
  List.pairwise_cons.2 ⟨fun _ member => lt_of_mem_breaksFrom member, breaksFrom_sorted t 0⟩

/-- **Places are exact.**  Looking an offset up, by walking along the line starts or by halving them, gives as its line
the number of line feeds in front of it, and as its column the distance from where that line begins.  Later offsets
have later places. -/
theorem placeAt_exact {t : Text} {offset : Nat} (within : offset ≤ t.length) :
    placeAt (breaks t) offset = located (0 :: breaks t) offset ∧
      (placeAt (breaks t) offset).line = (t.take offset).count '\n' ∧
      (∃ start, LastLine (t.take offset) start ∧
        (0 :: breaks t)[(placeAt (breaks t) offset).line]? = some start ∧
        start + (placeAt (breaks t) offset).column = offset) ∧
      ∀ earlier < offset, (placeAt (breaks t) earlier).Before (placeAt (breaks t) offset) := by
  have line : (placeAt (breaks t) offset).line = (t.take offset).count '\n' := by
    rw [placeAt_breaks within, place, Place.advance_line, Nat.zero_add]
  refine ⟨placeAt_eq_located (lineStarts_sorted t), line, ?_, ?_⟩
  · obtain ⟨start, last⟩ := exists_lastLine (t.take offset)
    refine ⟨start, last, ?_, ?_⟩
    · rw [line]
      simpa only [List.take_append_drop] using last.start (t.drop offset)
    · rw [placeAt_breaks within, place, last.place, List.length_take, Nat.min_eq_left within]
  · intro earlier before
    rw [placeAt_breaks within, placeAt_breaks (Nat.le_trans (Nat.le_of_lt before) within)]
    exact place_before before within

/-- The end of a text behind its last line feed is the start of a line of its own. -/
theorem placeAt_exact_trailing :
    5 ≤ "a\n\nb\n".toList.length ∧
      placeAt (breaks "a\n\nb\n".toList) 5 = ⟨3, 0⟩ ∧
      located (0 :: breaks "a\n\nb\n".toList) 5 = ⟨3, 0⟩ ∧
      (∃ start, LastLine ("a\n\nb\n".toList.take 5) start ∧ start + 0 = 5) ∧
      ∀ earlier < 5, (placeAt (breaks "a\n\nb\n".toList) earlier).Before ⟨3, 0⟩ := by
  have within : 5 ≤ "a\n\nb\n".toList.length := by decide
  have place_ : placeAt (breaks "a\n\nb\n".toList) 5 = ⟨3, 0⟩ := by decide
  obtain ⟨same, -, ⟨start, last, -, column⟩, later⟩ := placeAt_exact within
  rw [place_] at same column later
  exact ⟨within, place_, same.symm, ⟨start, last, column⟩, later⟩

end Graft.Text
