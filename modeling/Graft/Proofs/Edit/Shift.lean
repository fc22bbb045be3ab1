/-
# Graft.Proofs.Edit.Shift -- a text in front, put there or already there

A text can be put in front of a base text by a buffer, or it can be part of the base text, with all edits moved
behind it.  Both buffers take the same edits (`sound_shift_iff`), have the same text (`toText_shift`), and carry
an offset of the base to the same place (`toOutput_shift`).
-/
import Graft.Proofs.Edit.Segments

namespace Graft.Edit

set_option autoImplicit false

def shift (n : Nat) : Edit → Edit
  | .insertion index content => .insertion (n + index) content
  | .overwrite start stop content => .overwrite (n + start) (n + stop) content

section

variable (n : Nat) (e e' : Edit)

@[simp] theorem shift_start : (e.shift n).start = n + e.start := by cases e <;> rfl

@[simp] theorem shift_stop : (e.shift n).stop = n + e.stop := by cases e <;> rfl

@[simp] theorem shift_content : (e.shift n).content = e.content := by cases e <;> rfl

@[simp] theorem shift_isOverwrite : (e.shift n).isOverwrite = e.isOverwrite := by cases e <;> rfl

theorem inRange_shift (length : Nat) : (e.shift n).InRange (n + length) ↔ e.InRange length := by
  cases e <;> simp only [shift, InRange] <;> omega

theorem apart_shift : (e.shift n).Apart (e'.shift n) ↔ e.Apart e' := by
  cases e <;> cases e' <;> simp only [shift, Apart] <;> omega

theorem precedes_shift : (e.shift n).precedes (e'.shift n) = e.precedes e' := by
  rw [Bool.eq_iff_iff, precedes_iff, precedes_iff]
  simp

end

def Piece.shift (n : Nat) (p : Piece) : Piece := { p with start := n + p.start, stop := n + p.stop }

namespace Buffer

theorem place_shift (n : Nat) (e : Edit) (es : List Edit) :
    place (e.shift n) (es.map (·.shift n)) = (place e es).map (·.shift n) := by
  induction es with
  | nil => rfl
  | cons other rest ih =>
      simp only [List.map_cons, place, precedes_shift, ih]
      split <;> rfl

theorem foldl_place_shift (n : Nat) (placed es : List Edit) :
    (es.map (·.shift n)).foldl (fun placed e => place e placed) (placed.map (·.shift n)) =
      (es.foldl (fun placed e => place e placed) placed).map (·.shift n) := by
  induction es generalizing placed with
  | nil => rfl
  | cons e rest ih =>
      rw [List.map_cons, List.foldl_cons, place_shift, ih]
      rfl

variable (front t : Text)

/-- The buffer that puts the text in front. -/
def put (es : List Edit) : Buffer := ⟨t, [front], es⟩

/-- The buffer in whose base text it stands already. -/
def standing (es : List Edit) : Buffer := ⟨front ++ t, [], es.map (·.shift front.length)⟩

theorem sound_shift_iff (es : List Edit) : (standing front t es).Sound ↔ (put front t es).Sound := by
  have range : (∀ e ∈ es.map (·.shift front.length), e.InRange (front ++ t).length) ↔
      ∀ e ∈ es, e.InRange t.length := by
    simp only [List.length_append, List.forall_mem_map, inRange_shift]
  have apart : (es.map (·.shift front.length)).Pairwise Edit.Apart ↔ es.Pairwise Edit.Apart := by
    simp only [List.pairwise_map, apart_shift]
  constructor
  · rintro ⟨inRange, apart_⟩
    exact ⟨range.1 inRange, apart.1 apart_⟩
  · rintro ⟨inRange, apart_⟩
    exact ⟨range.2 inRange, apart.2 apart_⟩

theorem ranked_shift (es : List Edit) :
    (standing front t es).ranked = (put front t es).ranked.map (·.shift front.length) :=
  foldl_place_shift front.length [] es

/-! ## Layout -/

theorem slice_shift (start stop : Nat) :
    (front ++ t).slice (front.length + start) (front.length + stop) = t.slice start stop := by
  simp [Text.slice, Nat.add_sub_add_left]

theorem kept_shift (start stop : Nat) :
    kept (front ++ t) (front.length + start) (front.length + stop) =
      (kept t start stop).map (·.shift front.length) := by
  simp only [kept, Nat.add_lt_add_iff_left, slice_shift]
  split <;> rfl

theorem laid_shift (n : Nat) (e : Edit) : laid (e.shift n) = (laid e).map (·.shift n) := by
  simp only [laid, shift_start, shift_stop, shift_content, Nat.add_lt_add_iff_left]
  split <;> rfl

/-- From the end of the text in front on, the layout is only moved. -/
theorem layOut_shift (pos : Nat) (es : List Edit) :
    layOut (front ++ t) (front.length + pos) (es.map (·.shift front.length)) =
      (layOut t pos es).map (·.shift front.length) := by
  induction es generalizing pos with
  | nil => rw [List.map_nil, layOut, layOut, List.length_append, kept_shift]
  | cons e rest ih =>
      simp only [List.map_cons, layOut, List.map_append]
      rw [shift_start, shift_stop, kept_shift, laid_shift, Nat.add_max_add_left, ih]

/-- From the start of the text on, the first piece takes the text in front along. -/
theorem layOut_split {base : Text} {n : Nat} {es : List Edit} (within : n ≤ base.length)
    (chained : Chained base.length n es) :
    ∃ stop rest, n ≤ stop ∧ stop ≤ base.length ∧ layOut base 0 es = kept base 0 stop ++ rest ∧
      layOut base n es = kept base n stop ++ rest := by
  cases es with
  | nil => exact ⟨base.length, [], within, Nat.le_refl _, by simp [layOut], by simp [layOut]⟩
  | cons e rest =>
      obtain ⟨from_, order, upTo⟩ := chained.head
      refine ⟨e.start, laid e ++ layOut base e.stop rest, from_, Nat.le_trans order upTo, ?_, ?_⟩
      · rw [layOut, Nat.max_eq_right (Nat.zero_le _), List.append_assoc]
      · rw [layOut, Nat.max_eq_right (Nat.le_trans from_ order), List.append_assoc]

theorem kept_text (base : Text) (start stop : Nat) :
    (kept base start stop).flatMap (·.text) = base.slice start stop := by
  unfold kept
  split
  · simp
  · rename_i empty
    rw [Text.slice, show stop - start = 0 by omega]
    rfl

theorem findSome?_kept {base : Text} {n stop : Nat} (some_ : 0 < n) (from_ : n ≤ stop)
    (within : stop ≤ base.length) (rest : List Piece) (i : Nat) :
    (segmentsFrom 0 (kept base 0 stop ++ rest)).findSome? (·.toOutput? (n + i)) =
      (segmentsFrom n (kept base n stop ++ rest)).findSome? (·.toOutput? (n + i)) := by
  have whole : 0 + (base.slice 0 stop).length = stop := Text.slice_length (Nat.zero_le stop) within
  have part := Text.slice_length from_ within
  have first : kept base 0 stop = [⟨0, stop, base.slice 0 stop, false⟩] := if_pos (by omega)
  rw [first, List.singleton_append, segmentsFrom_cons, whole, List.findSome?_cons]
  by_cases more : n < stop
  · have second : kept base n stop = [⟨n, stop, base.slice n stop, false⟩] := if_pos more
    rw [second, List.singleton_append, segmentsFrom_cons, part, List.findSome?_cons]
    simp only [Segment.toOutput?, Piece.segment, Nat.zero_le, true_and, Nat.le_add_right, Bool.false_eq_true,
      if_false, Nat.sub_zero, Nat.zero_add, Nat.add_sub_cancel_left]
  · obtain rfl : n = stop := by omega
    have second : kept base n n = [] := if_neg more
    rw [second, List.nil_append]
    simp only [Segment.toOutput?, Piece.segment, Nat.zero_le, true_and]
    rw [if_neg (by omega)]

theorem findSome?_shift (n pos i : Nat) (ps : List Piece) :
    (segmentsFrom pos (ps.map (·.shift n))).findSome? (·.toOutput? (n + i)) =
      (segmentsFrom pos ps).findSome? (·.toOutput? i) := by
  induction ps generalizing pos with
  | nil => rfl
  | cons p rest ih =>
      have here : ((p.shift n).segment pos).toOutput? (n + i) = (p.segment pos).toOutput? i := by
        change (if n + p.start ≤ n + i ∧ n + i < n + p.stop then
            some (if p.edited then pos else pos + (n + i - (n + p.start))) else none) =
          if p.start ≤ i ∧ i < p.stop then some (if p.edited then pos else pos + (i - p.start)) else none
        by_cases inside : p.start ≤ i ∧ i < p.stop
        · rw [if_pos inside, if_pos (by omega), Nat.add_sub_add_left]
        · rw [if_neg inside, if_neg (by omega)]
      rw [List.map_cons, segmentsFrom_cons, segmentsFrom_cons, List.findSome?_cons, List.findSome?_cons, here,
        show (p.shift n).text = p.text from rfl, ih]

/-! ## The two buffers -/

variable {front t} {es : List Edit}

theorem put_pieces (some_ : front ≠ []) :
    (put front t es).pieces = ⟨0, 0, front, true⟩ :: layOut t 0 (put front t es).ranked := by
  have shown : ([front].flatten).isEmpty = false := by simpa using some_
  simp only [pieces, put, shown, Bool.false_eq_true, if_false]
  rw [List.singleton_append]
  simp

theorem standing_split (sound : (put front t es).Sound) :
    ∃ stop rest, front.length ≤ stop ∧ stop ≤ (front ++ t).length ∧
      (standing front t es).pieces = kept (front ++ t) 0 stop ++ rest ∧
      (layOut t 0 (put front t es).ranked).map (·.shift front.length) =
        kept (front ++ t) front.length stop ++ rest := by
  have chained := ranked_chained ((sound_shift_iff front t es).2 sound)
  have behind : Chained (front ++ t).length front.length (standing front t es).ranked := by
    refine ⟨chained.chain, chained.within, fun e member => ?_⟩
    rw [ranked_shift] at member
    obtain ⟨x, -, rfl⟩ := List.mem_map.1 member
    simp
  obtain ⟨stop, rest, from_, within, whole, part⟩ := layOut_split (by simp) behind
  refine ⟨stop, rest, from_, within, ?_, ?_⟩
  · rw [← whole]
    rfl
  · rw [← layOut_shift, Nat.add_zero, ← ranked_shift, part]

theorem toText_shift (some_ : front ≠ []) (sound : (put front t es).Sound) :
    (standing front t es).toText = (put front t es).toText := by
  obtain ⟨stop, rest, from_, within, whole, part⟩ := standing_split sound
  have texts : (layOut t 0 (put front t es).ranked).flatMap (·.text) =
      (kept (front ++ t) front.length stop ++ rest).flatMap (·.text) := by
    rw [← part, List.flatMap_map]
    rfl
  rw [toText, toText, whole, put_pieces some_, List.flatMap_cons, texts, List.flatMap_append,
    List.flatMap_append, kept_text, kept_text, Text.take_slice _ from_, List.append_assoc]
  simp

/-- **Both buffers carry an offset of the text to the same place.** -/
theorem toOutput_shift (some_ : front ≠ []) (sound : (put front t es).Sound) {i : Nat}
    (inText : i ≤ t.length) :
    (standing front t es).positionMap.toOutput (front.length + i : Nat) =
      (put front t es).positionMap.toOutput i := by
  obtain ⟨stop, rest, from_, within, whole, part⟩ := standing_split sound
  have segments : (standing front t es).positionMap.segments.findSome? (·.toOutput? (front.length + i)) =
      (put front t es).positionMap.segments.findSome? (·.toOutput? i) := by
    simp only [positionMap, whole, put_pieces some_]
    rw [findSome?_kept (List.length_pos_iff.2 some_) from_ within, ← part, findSome?_shift, segmentsFrom_cons,
      List.findSome?_cons]
    simp [Segment.toOutput?, Piece.segment]
  have inside : front.length + i ≤ (standing front t es).positionMap.baseLength := by
    simp only [positionMap, standing, List.length_append]
    omega
  rw [PositionMap.toOutput_eq inside, PositionMap.toOutput_eq inText, segments]
  simp only [positionMap, toText_shift some_ sound]

end Buffer

end Graft.Edit
