/-
# Graft.Proofs.Edit.Carried -- texts that are carried along

A text that no edit touches stands in the output where its offset is carried (`standsAt_of_spares`).  The other way
round, a text that stands in the output may owe some of its characters to an edit.  It does not if its last character
is in nothing that is put in, and it has the last character of none of these contents: then none of them can meet it
(`EndsApart`, `standsAt_toText_iff`).

Kept characters stay in order and apart, and between two offsets the output grows by the edits between them.
-/
import Graft.Proofs.Edit.Found
import Graft.Proofs.Edit.Growth
import Mathlib

namespace Graft.Text

set_option autoImplicit false

/-- Neither text has the last character of the other. -/
structure EndsApart (u w : Text) : Prop where
  last : ∃ c, u.getLast? = some c ∧ c ∉ w
  last' : ∃ c, w.getLast? = some c ∧ c ∉ u

theorem EndsApart.symm {u w : Text} (differ : EndsApart u w) : EndsApart w u := ⟨differ.last', differ.last⟩

theorem endsApart_iff (u w : Text) :
    ((u.getLast?.any fun c => !w.contains c) && w.getLast?.any fun c => !u.contains c) = true ↔ EndsApart u w := by
  rw [Bool.and_eq_true, Option.any_eq_true, Option.any_eq_true]
  constructor
  · rintro ⟨⟨c, last, notIn⟩, ⟨c', last', notIn'⟩⟩
    exact ⟨⟨c, last, by simpa using notIn⟩, ⟨c', last', by simpa using notIn'⟩⟩
  · rintro ⟨⟨c, last, notIn⟩, ⟨c', last', notIn'⟩⟩
    exact ⟨⟨c, last, by simpa using notIn⟩, ⟨c', last', by simpa using notIn'⟩⟩

instance endsApartDecidable (u w : Text) : Decidable (EndsApart u w) := decidable_of_iff _ (endsApart_iff u w)

theorem standsAt_last {t w : Text} {c : Char} {p : Nat} (stands : StandsAt t w p) (last : w.getLast? = some c) :
    0 < w.length ∧ t[p + (w.length - 1)]? = some c := by
  have some_ : w ≠ [] := List.ne_nil_of_mem (List.mem_of_getLast? last)
  rw [List.getLast?_eq_getElem?] at last
  exact ⟨List.length_pos_iff.2 some_, stands _ c last⟩

/-- **Such texts do not meet.** -/
theorem EndsApart.apart {t u w : Text} (differ : EndsApart u w) {p q : Nat} (stands : StandsAt t u p)
    (stands' : StandsAt t w q) : p + u.length ≤ q ∨ q + w.length ≤ p := by
  obtain ⟨⟨c, last, notIn⟩, ⟨c', last', notIn'⟩⟩ := differ
  obtain ⟨some_, here⟩ := standsAt_last stands last
  obtain ⟨some_', here'⟩ := standsAt_last stands' last'
  by_contra meet
  -- The text that ends first has its last character in the other one.
  rcases Nat.le_total (p + u.length) (q + w.length) with first | first
  · rw [stands'.getElem? (by omega) (by omega)] at here
    exact notIn (List.mem_of_getElem? here)
  · rw [stands.getElem? (by omega) (by omega)] at here'
    exact notIn' (List.mem_of_getElem? here')

/-- Around a text that cannot meet it, a text stands before it or behind it. -/
theorem standsAt_around_iff {front u back w : Text} (differ : EndsApart u w) {q : Nat} :
    StandsAt (front ++ (u ++ back)) w q ↔
      (q + w.length ≤ front.length ∧ StandsAt front w q) ∨
        ∃ d, q = front.length + u.length + d ∧ StandsAt back w d := by
  have behind_iff : ∀ {d : Nat}, StandsAt (front ++ (u ++ back)) w (front.length + u.length + d) ↔
      StandsAt back w d := by
    intro d
    rw [← List.append_assoc, ← List.length_append, standsAt_append_right_iff]
  constructor
  · intro stands
    rcases differ.symm.apart stands (standsAt_append front u back) with before | behind
    · exact .inl ⟨before, (standsAt_append_left_iff before).1 stands⟩
    · obtain ⟨d, rfl⟩ := Nat.exists_eq_add_of_le behind
      exact .inr ⟨d, rfl, behind_iff.1 stands⟩
  · rintro (⟨before, stands⟩ | ⟨d, rfl, stands⟩)
    · exact (standsAt_append_left_iff before).2 stands
    · exact behind_iff.2 stands

end Graft.Text

namespace Graft.Edit.Buffer

set_option autoImplicit false

open Graft.Text

variable {b : Buffer} {base w : Text} {es : List Edit} {pos i j p q n : Nat}

/-! ## Offsets -/

theorem exists_toOutput (b : Buffer) (within : i ≤ b.base.length) : ∃ g, b.positionMap.toOutput i = .ok g :=
  ⟨_, toOutput_eq_carry b within⟩

/-- Between two offsets the output grows by the edits that end between them. -/
theorem toOutput_between (sound : b.Sound) (order : i ≤ j) (within : j ≤ b.base.length)
    (clear : ∀ e ∈ b.edits, ¬ (e.start < i ∧ i < e.stop)) (clear' : ∀ e ∈ b.edits, ¬ (e.start < j ∧ j < e.stop))
    {g g' : Nat} (first : b.positionMap.toOutput i = .ok g) (second : b.positionMap.toOutput j = .ok g') :
    (g' : Int) = g + (j - i) +
      ((b.edits.filter fun e => decide (i < e.stop ∧ e.stop ≤ j)).map Edit.growth).sum := by
  obtain ⟨x, at_, sum⟩ := toOutput_clear sound (Nat.le_trans order within) clear
  obtain ⟨x', at_', sum'⟩ := toOutput_clear sound within clear'
  obtain rfl : x = g := by simpa using at_.symm.trans first
  obtain rfl : x' = g' := by simpa using at_'.symm.trans second
  have parts : ∀ es : List Edit, ((es.filter (Edit.upTo j)).map Edit.growth).sum =
      ((es.filter (Edit.upTo i)).map Edit.growth).sum +
        ((es.filter fun e => decide (i < e.stop ∧ e.stop ≤ j)).map Edit.growth).sum := by
    intro es
    induction es with
    | nil => rfl
    | cons e rest ih =>
        rcases Nat.lt_or_ge i e.stop with after | before
        · by_cases upTo : e.stop ≤ j
          · simp [Edit.upTo, after, upTo, Nat.not_le.2 after] at ih ⊢
            omega
          · simpa [Edit.upTo, upTo, Nat.not_le.2 after] using ih
        · simp [Edit.upTo, before, Nat.le_trans before order, Nat.not_lt.2 before] at ih ⊢
          omega
  rw [sum', sum, parts b.edits]
  omega

/-- What no edit touches has none strictly inside either end or any offset between. -/
theorem clear_of_spares (spares : ∀ e ∈ b.edits, Spares p n e) {k : Nat} (from_ : p ≤ k) (upTo : k ≤ p + n) :
    ∀ e ∈ b.edits, ¬ (e.start < k ∧ k < e.stop) := by
  intro e member around
  rcases spares e member with before | behind <;> omega

/-- Without an edit that ends between them, two offsets stay as far apart as they are. -/
theorem toOutput_level (sound : b.Sound) (order : i ≤ j) (within : j ≤ b.base.length)
    (clear : ∀ e ∈ b.edits, ¬ (e.start < i ∧ i < e.stop)) (clear' : ∀ e ∈ b.edits, ¬ (e.start < j ∧ j < e.stop))
    (none_ : ∀ e ∈ b.edits, ¬ (i < e.stop ∧ e.stop ≤ j)) (here : b.positionMap.toOutput i = .ok q) :
    b.positionMap.toOutput j = .ok (q + (j - i)) := by
  obtain ⟨g, at_⟩ := exists_toOutput b within
  have between := toOutput_between sound order within clear clear' here at_
  have empty : b.edits.filter (fun e => decide (i < e.stop ∧ e.stop ≤ j)) = [] :=
    List.filter_eq_nil_iff.2 fun e member => by simpa using none_ e member
  rw [empty] at between
  simp only [List.map_nil, List.sum_nil] at between
  rw [at_, show g = q + (j - i) by omega]

/-- The characters that no edit touches stay together. -/
theorem toOutput_along (sound : b.Sound) (within : p + n ≤ b.base.length) (spares : ∀ e ∈ b.edits, Spares p n e)
    (here : b.positionMap.toOutput p = .ok q) {k : Nat} (inside : k < n) :
    b.positionMap.toOutput (p + k : Nat) = .ok (q + k) := by
  have level := toOutput_level sound (Nat.le_add_right p k) (by omega)
    (clear_of_spares spares (Nat.le_refl p) (by omega)) (clear_of_spares spares (by omega) (by omega))
    (fun e member ends => by
      have order := (sound.inRange e member).start_le_stop
      rcases spares e member with before | behind <;> omega) here
  rwa [Nat.add_sub_cancel_left] at level

/-- A kept character comes before all that comes behind it. -/
theorem toOutput_strict (sound : b.Sound) (order : i < j) (within : j ≤ b.base.length)
    (kept_ : ∀ e ∈ b.edits, Spares i 1 e) {g g' : Nat} (first : b.positionMap.toOutput i = .ok g)
    (second : b.positionMap.toOutput j = .ok g') : g < g' := by
  obtain ⟨x, at_⟩ := exists_toOutput b (show i + 1 ≤ b.base.length by omega)
  have between := toOutput_between sound (Nat.le_add_right i 1) (by omega)
    (clear_of_spares kept_ (Nat.le_refl i) (by omega)) (clear_of_spares kept_ (by omega) (Nat.le_refl _)) first at_
  have more : 0 ≤ ((b.edits.filter fun e => decide (i < e.stop ∧ e.stop ≤ i + 1)).map Edit.growth).sum := by
    refine List.sum_nonneg fun y member => ?_
    obtain ⟨e, inFilter, rfl⟩ := List.mem_map.1 member
    obtain ⟨inEdits, ends⟩ := List.mem_filter.1 inFilter
    have order_ := (sound.inRange e inEdits).start_le_stop
    rw [decide_eq_true_eq] at ends
    have here : e.start = e.stop := by rcases kept_ e inEdits with before | behind <;> omega
    rw [Edit.growth]
    omega
  have later := toOutput_mono sound (Nat.succ_le_of_lt order) within at_ second
  omega

/-! ## Texts -/

/-- **What no edit touches stands in the output**, where its offset is carried. -/
theorem standsAt_of_spares (sound : b.Sound) (stands : StandsAt b.base w p)
    (spares : ∀ e ∈ b.edits, Spares p w.length e) (here : b.positionMap.toOutput p = .ok q) :
    StandsAt b.toText w q := by
  intro k c found
  have inside := (List.getElem?_eq_some_iff.1 found).1
  have at_ := stands k c found
  have within := (List.getElem?_eq_some_iff.1 at_).1
  have bare : ∀ start stop content, Edit.overwrite start stop content ∈ b.edits →
      ¬ (start ≤ p + k ∧ p + k < stop) := by
    intro start stop content member around
    have apart := spares _ member
    simp only [Spares, Edit.start, Edit.stop] at apart
    omega
  obtain ⟨g, carried, shown⟩ := getElem?_toOutput sound within bare
  have some_ : w ≠ [] := List.ne_nil_of_mem (List.mem_of_getElem? found)
  rw [toOutput_along sound (stands.within some_) spares here inside] at carried
  rw [Except.ok.inj carried, shown, at_]

section Sides

variable {start stop start' stop' : Nat} (sound : b.Sound) (some_ : w ≠ []) (stands : StandsAt b.base w p)
variable (spares : ∀ e ∈ b.edits, Spares p w.length e) (here : b.positionMap.toOutput p = .ok q)
include sound some_ stands spares here

/-- A text that no edit touches begins behind an offset exactly if it does so in the output. -/
theorem from_iff_carried (within : start ≤ b.base.length) (begins : b.positionMap.toOutput start = .ok start') :
    start ≤ p ↔ start' ≤ q := by
  have inText := stands.within some_
  have positive := List.length_pos_iff.2 some_
  constructor
  · intro from_
    exact toOutput_mono sound from_ (by omega) begins here
  · intro from_
    by_contra before
    have kept_ : ∀ e ∈ b.edits, Spares p 1 e := by
      intro e member
      rcases spares e member with early | late
      · exact .inl early
      · exact .inr (by omega)
    have := toOutput_strict sound (Nat.lt_of_not_le before) within kept_ here begins
    omega

/-- It ends before an offset exactly if it does so in the output. -/
theorem upTo_iff_carried (within : stop ≤ b.base.length) (ends : b.positionMap.toOutput stop = .ok stop') :
    p + w.length ≤ stop ↔ q + w.length ≤ stop' := by
  have inText := stands.within some_
  have positive := List.length_pos_iff.2 some_
  have last := toOutput_along sound inText spares here (show w.length - 1 < w.length by omega)
  constructor
  · intro upTo
    have kept_ : ∀ e ∈ b.edits, Spares (p + (w.length - 1)) 1 e := by
      intro e member
      rcases spares e member with early | late
      · exact .inl (by omega)
      · exact .inr (by omega)
    have := toOutput_strict sound (by omega) within kept_ last ends
    omega
  · intro upTo
    by_contra beyond
    have := toOutput_mono sound (by omega) (by omega) ends last
    omega

end Sides

theorem standsAt_of_layOut (some_ : w ≠ []) (chained : Chained base.length pos es)
    (differ : ∀ e ∈ es, EndsApart e.content w) (g : Nat)
    (stands : StandsAt ((layOut base pos es).flatMap (·.text)) w q) :
    ∃ p, pos ≤ p ∧ StandsAt base w p ∧ (∀ e ∈ es, Spares p w.length e) ∧
      carry g (layOut base pos es) p = g + q := by
  have positive := List.length_pos_iff.2 some_
  induction es generalizing pos q g with
  | nil =>
      rw [layOut, kept_text, standsAt_slice_iff some_] at stands
      refine ⟨pos + q, Nat.le_add_right _ _, stands.2, by simp, ?_⟩
      rw [layOut, ← List.append_nil (kept _ _ _), carry_kept base (Nat.le_refl _) (Nat.le_add_right _ _),
        if_pos (by omega)]
      omega
  | cons e rest ih =>
      obtain ⟨from_, order, upTo⟩ := chained.head
      have later : ∀ x ∈ rest, e.stop ≤ x.start := chained.tail.from_
      have width := slice_length from_ (Nat.le_trans order upTo)
      rw [layOut, Nat.max_eq_right (Nat.le_trans from_ order), List.append_assoc] at stands ⊢
      rw [List.flatMap_append, List.flatMap_append, kept_text, laid_text,
        standsAt_around_iff (differ e List.mem_cons_self)] at stands
      rcases stands with ⟨before, inFront⟩ | ⟨d, rfl, inRest⟩
      · obtain ⟨upTo_, stands⟩ := (standsAt_slice_iff some_).1 inFront
        refine ⟨pos + q, Nat.le_add_right _ _, stands, fun x member => .inr ?_, ?_⟩
        · rcases List.mem_cons.1 member with rfl | inRest
          · exact upTo_
          · have := later x inRest
            omega
        · rw [carry_kept base (Nat.le_trans order upTo) (Nat.le_add_right _ _), if_pos (by omega)]
          omega
      · obtain ⟨p, after, stands, spares, carried⟩ := ih chained.tail
          (fun x member => differ x (List.mem_cons_of_mem e member)) (g + (e.start - pos) + e.content.length) inRest
        refine ⟨p, by omega, stands, fun x member => ?_, ?_⟩
        · rcases List.mem_cons.1 member with rfl | inRest
          · exact .inl after
          · exact spares x inRest
        · rw [carry_kept base (Nat.le_trans order upTo) (by omega), if_neg (by omega), carry_laid after, carried]
          omega

/-- **What can meet nothing that was put in** stands in the output where it stood before and no edit touched it. -/
theorem standsAt_toText_iff (sound : b.Sound) (bare : b.intro = []) (some_ : w ≠ [])
    (differ : ∀ e ∈ b.edits, EndsApart e.content w) :
    StandsAt b.toText w q ↔
      ∃ p : Nat, b.positionMap.toOutput p = .ok q ∧ StandsAt b.base w p ∧ ∀ e ∈ b.edits, Spares p w.length e := by
  constructor
  · intro stands
    have same : ∀ e, e ∈ b.ranked ↔ e ∈ b.edits := fun _ => b.ranked_perm.mem_iff
    obtain ⟨whole, moved⟩ := b.pieces_front
    rw [whole, bare, List.flatten_nil, List.nil_append] at stands
    obtain ⟨p, -, stands, spares, carried⟩ := standsAt_of_layOut some_ (ranked_chained sound)
      (fun e member => differ e ((same e).1 member)) 0 stands
    refine ⟨p, ?_, stands, fun e member => spares e ((same e).2 member)⟩
    have within := stands.within some_
    rw [toOutput_eq_carry b (by omega), moved, bare, List.flatten_nil, List.length_nil, carried, Nat.zero_add]
  · rintro ⟨p, here, stands, spares⟩
    exact standsAt_of_spares sound stands spares here

/-! ## Insertions -/

theorem layOut_inserted {content : Text} (chained : Chained base.length pos es)
    (alone : es.filter (insertsAt i) = [.insertion i content]) (g : Nat) :
    ∃ front back : Text, (layOut base pos es).flatMap (·.text) = front ++ (content ++ back) ∧
      carry g (layOut base pos es) i = g + front.length + content.length := by
  induction es generalizing pos g with
  | nil => simp at alone
  | cons e rest ih =>
      obtain ⟨from_, order, upTo⟩ := chained.head
      have width := slice_length from_ (Nat.le_trans order upTo)
      rw [layOut, Nat.max_eq_right (Nat.le_trans from_ order), List.append_assoc, List.flatMap_append,
        List.flatMap_append, kept_text, laid_text]
      by_cases own : insertsAt i e = true
      · rw [List.filter_cons_of_pos own] at alone
        obtain ⟨rfl, none_⟩ := List.cons.inj alone
        have others := List.filter_eq_nil_iff.1 none_
        have behind : ∀ x ∈ rest, x.behind i = true := by
          intro x member
          have after : i ≤ x.start := chained.tail.from_ x member
          have other := others x member
          simp only [insertsAt, Bool.and_eq_true, beq_iff_eq, Bool.not_eq_true'] at other
          refine (behind_iff i x).2 ?_
          by_cases here : x.start = i
          · exact .inr ⟨here.symm, by simpa [here] using other⟩
          · exact .inl (by omega)
        refine ⟨base.slice pos i, _, rfl, ?_⟩
        have own_ : (Edit.insertion i content).content = content := rfl
        simp only [Edit.start, Edit.stop] at *
        rw [carry_kept base upTo from_, if_neg (Nat.lt_irrefl i), carry_laid (Nat.le_refl i),
          carry_layOut_self upTo chained.tail behind, own_]
        omega
      · rw [List.filter_cons_of_neg own] at alone
        have inRest : Edit.insertion i content ∈ rest := (List.mem_filter.1 (alone ▸ List.mem_cons_self)).1
        have after : e.stop ≤ i := chained.tail.from_ _ inRest
        obtain ⟨front, back, text, carried⟩ := ih chained.tail alone (g + (e.start - pos) + e.content.length)
        refine ⟨base.slice pos e.start ++ (e.content ++ front), back, ?_, ?_⟩
        · rw [text]
          simp only [List.append_assoc]
        · rw [carry_kept base (Nat.le_trans order upTo) (by omega), if_neg (by omega), carry_laid after, carried]
          simp only [List.length_append]
          omega

/-- **What is inserted alone at an offset** stands just before where the offset is carried. -/
theorem standsAt_inserted {content : Text} (sound : b.Sound)
    (alone : b.edits.filter (insertsAt i) = [.insertion i content]) {g : Nat}
    (here : b.positionMap.toOutput i = .ok g) :
    content.length ≤ g ∧ StandsAt b.toText content (g - content.length) := by
  have member : Edit.insertion i content ∈ b.edits := (List.mem_filter.1 (alone ▸ List.mem_cons_self)).1
  have within : i ≤ b.base.length := (sound.inRange _ member).stop_le
  obtain ⟨whole, moved⟩ := b.pieces_front
  have alone_ : b.ranked.filter (insertsAt i) = [.insertion i content] := by rw [filter_insertsAt, alone]
  obtain ⟨front, back, text, carried⟩ := layOut_inserted (ranked_chained sound) alone_ b.intro.flatten.length
  rw [toOutput_eq_carry b within, moved, carried] at here
  obtain rfl := Except.ok.inj here
  refine ⟨Nat.le_add_left _ _, ?_⟩
  rw [whole, text, Nat.add_sub_cancel, ← List.length_append, ← List.append_assoc]
  exact standsAt_append _ content back

end Graft.Edit.Buffer
