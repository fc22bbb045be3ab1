/-
# Graft.Proofs.Edit.Segments -- the segments of a position map

Each piece of the output has a segment, which begins where the pieces before it end (`mem_segmentsFrom`).
In a sound buffer the segments lie end to end on both sides: each begins where the one before it has ended, in
the base and in the output, and together they cover both texts (`segments_endToEnd`).

So an offset belongs to one segment at most, and carrying it across is asking that segment (`toBase_holds`,
`toOutput_holds`).
-/
import Graft.Edit.PositionMap
import Graft.Proofs.Edit.Layout
import Graft.Proofs.Text.Slice

namespace Graft

set_option autoImplicit false

namespace Edit

/-! ## Pieces -/

/-- The range of the piece lies in the base text, and a piece that was not edited shows that range. -/
structure Piece.Fits (base : Text) (p : Piece) : Prop where
  order : p.start ≤ p.stop
  within : p.stop ≤ base.length
  shows : p.edited = false → p.start < p.stop ∧ p.text = base.slice p.start p.stop

/-- Pieces that stand for a range of the base, one after the other and without a gap. -/
def Abut : Nat → List Piece → Nat → Prop
  | o, [], o' => o = o'
  | o, p :: rest, o' => (p.start = o ∧ p.start ≤ p.stop) ∧ Abut p.stop rest o'

theorem Abut.append {o o' o'' : Nat} {ps qs : List Piece} (first : Abut o ps o') (second : Abut o' qs o'') :
    Abut o (ps ++ qs) o'' := by
  induction ps generalizing o with
  | nil =>
      obtain rfl : o = o' := first
      exact second
  | cons p rest ih => exact ⟨first.1, ih first.2⟩

theorem Abut.from_ {o o' : Nat} {ps : List Piece} (abut : Abut o ps o') {p : Piece} (member : p ∈ ps) :
    o ≤ p.start := by
  induction ps generalizing o with
  | nil => simp at member
  | cons q rest ih =>
      obtain ⟨⟨rfl, order⟩, tail⟩ := abut
      rcases List.mem_cons.1 member with rfl | later
      · exact Nat.le_refl _
      · exact Nat.le_trans order (ih tail later)

theorem Abut.chain {o o' : Nat} {ps : List Piece} (abut : Abut o ps o') :
    ps.Pairwise fun p p' => p.stop ≤ p'.start := by
  induction ps generalizing o with
  | nil => exact List.Pairwise.nil
  | cons p rest ih => exact List.pairwise_cons.2 ⟨fun q member => abut.2.from_ member, ih abut.2⟩

namespace Buffer

theorem mem_kept {base : Text} {start stop : Nat} {p : Piece} (member : p ∈ kept base start stop) :
    start < stop ∧ p = ⟨start, stop, base.slice start stop, false⟩ := by
  unfold kept at member
  split at member
  · rename_i proper
    exact ⟨proper, List.mem_singleton.1 member⟩
  · simp at member

theorem mem_laid {e : Edit} {p : Piece} (member : p ∈ laid e) : p = ⟨e.start, e.stop, e.content, true⟩ := by
  unfold laid at member
  split at member
  · exact List.mem_singleton.1 member
  · simp at member

theorem layOut_fits {base : Text} {pos : Nat} {es : List Edit} (chained : Chained base.length pos es)
    {p : Piece} (member : p ∈ layOut base pos es) : pos ≤ p.start ∧ p.Fits base := by
  induction es generalizing pos with
  | nil =>
      obtain ⟨proper, rfl⟩ := mem_kept member
      exact ⟨Nat.le_refl _, Nat.le_of_lt proper, Nat.le_refl _, fun _ => ⟨proper, rfl⟩⟩
  | cons e rest ih =>
      obtain ⟨from_, order, within⟩ := chained.head
      rw [layOut, Nat.max_eq_right (Nat.le_trans from_ order)] at member
      rcases List.mem_append.1 member with here | later
      · rcases List.mem_append.1 here with before | own
        · obtain ⟨proper, rfl⟩ := mem_kept before
          exact ⟨Nat.le_refl _, Nat.le_of_lt proper, Nat.le_trans order within, fun _ => ⟨proper, rfl⟩⟩
        · obtain rfl := mem_laid own
          exact ⟨from_, order, within, fun kept => by simp at kept⟩
      · obtain ⟨start_, fits⟩ := ih chained.tail later
        exact ⟨Nat.le_trans (Nat.le_trans from_ order) start_, fits⟩

theorem kept_abut {base : Text} {start stop : Nat} (order : start ≤ stop) :
    Abut start (kept base start stop) stop := by
  unfold kept
  split
  · exact ⟨⟨rfl, order⟩, rfl⟩
  · rename_i empty
    exact Nat.le_antisymm order (Nat.le_of_not_lt empty)

theorem laid_abut {e : Edit} (order : e.start ≤ e.stop) : Abut e.start (laid e) e.stop := by
  unfold laid
  split
  · exact ⟨⟨rfl, order⟩, rfl⟩
  · rename_i trace
    have hollow := (Bool.or_eq_false_iff.1 (Bool.eq_false_iff.2 trace)).1
    exact Nat.le_antisymm order (Nat.le_of_not_lt (of_decide_eq_false hollow))

/-- The pieces of a layout leave no gap. -/
theorem layOut_abut {base : Text} {pos : Nat} {es : List Edit} (within : pos ≤ base.length)
    (chained : Chained base.length pos es) : Abut pos (layOut base pos es) base.length := by
  induction es generalizing pos with
  | nil => exact kept_abut within
  | cons e rest ih =>
      obtain ⟨from_, order, upTo⟩ := chained.head
      rw [layOut, Nat.max_eq_right (Nat.le_trans from_ order)]
      exact ((kept_abut from_).append (laid_abut order)).append (ih upTo chained.tail)

theorem pieces_fits {b : Buffer} (sound : b.Sound) {p : Piece} (member : p ∈ b.pieces) : p.Fits b.base := by
  rw [pieces_eq] at member
  rcases List.mem_append.1 member with front | laidOut
  · obtain rfl := mem_laid front
    exact ⟨Nat.le_refl _, Nat.zero_le _, fun kept => by simp at kept⟩
  · exact (layOut_fits (ranked_chained sound) laidOut).2

/-- **The pieces of a sound buffer stand for the whole base text.** -/
theorem pieces_abut {b : Buffer} (sound : b.Sound) : Abut 0 b.pieces b.base.length := by
  have front : Abut 0 (laid (.insertion 0 b.intro.flatten)) 0 :=
    laid_abut (e := .insertion 0 b.intro.flatten) (Nat.le_refl 0)
  rw [pieces_eq]
  exact front.append (layOut_abut (Nat.zero_le _) (ranked_chained sound))

theorem pieces_chain {b : Buffer} (sound : b.Sound) : b.pieces.Pairwise fun p p' => p.stop ≤ p'.start :=
  (pieces_abut sound).chain

/-- A piece that was edited and stands for a range is that of an overwrite. -/
theorem mem_pieces_overwrite {b : Buffer} {p : Piece} (member : p ∈ b.pieces) (edited : p.edited = true)
    (proper : p.start < p.stop) : Edit.overwrite p.start p.stop p.text ∈ b.edits := by
  have ofEdit : ∀ {es : List Edit} {pos : Nat}, p ∈ layOut b.base pos es →
      ∃ e ∈ es, p = ⟨e.start, e.stop, e.content, true⟩ := by
    intro es
    induction es with
    | nil =>
        intro pos inLayout
        obtain ⟨-, rfl⟩ := mem_kept inLayout
        simp at edited
    | cons e rest ih =>
        intro pos inLayout
        rcases List.mem_append.1 inLayout with here | later
        · rcases List.mem_append.1 here with before | own
          · obtain ⟨-, rfl⟩ := mem_kept before
            simp at edited
          · exact ⟨e, List.mem_cons_self, mem_laid own⟩
        · obtain ⟨x, inRest, rfl⟩ := ih later
          exact ⟨x, List.mem_cons_of_mem e inRest, rfl⟩
  rw [pieces_eq] at member
  rcases List.mem_append.1 member with front | laidOut
  · obtain rfl := mem_laid front
    exact absurd proper (Nat.lt_irrefl 0)
  · obtain ⟨e, inRanked, rfl⟩ := ofEdit laidOut
    have made := b.ranked_perm.mem_iff.1 inRanked
    cases e with
    | insertion => simp [Edit.start, Edit.stop] at proper
    | overwrite => exact made

/-- Every overwrite leaves a piece. -/
theorem overwrite_mem_pieces {b : Buffer} (sound : b.Sound) {start stop : Nat} {content : Text}
    (member : Edit.overwrite start stop content ∈ b.edits) : ⟨start, stop, content, true⟩ ∈ b.pieces := by
  have laidOut : ∀ {es : List Edit} {pos : Nat}, Edit.overwrite start stop content ∈ es →
      ⟨start, stop, content, true⟩ ∈ layOut b.base pos es := by
    intro es
    induction es with
    | nil => intro pos none_; simp at none_
    | cons e rest ih =>
        intro pos inList
        rcases List.mem_cons.1 inList with rfl | later
        · have proper := (sound.inRange _ member).1
          simp [layOut, laid, Edit.start, Edit.stop, Edit.content, proper]
        · exact List.mem_append_right _ (ih later)
  exact List.mem_append_right _ (laidOut (b.ranked_perm.mem_iff.2 member))

end Buffer

/-! ## Segments -/

/-- The segment of a piece that begins at an offset of the output. -/
def Piece.segment (p : Piece) (outputStart : Nat) : Segment :=
  ⟨p.start, p.stop, outputStart, outputStart + p.text.length, p.edited⟩

theorem segmentsFrom_cons (pos : Nat) (p : Piece) (rest : List Piece) :
    segmentsFrom pos (p :: rest) = p.segment pos :: segmentsFrom (pos + p.text.length) rest := rfl

/-- **A segment is that of a piece**, after the texts of the pieces before it. -/
theorem mem_segmentsFrom {pos : Nat} {ps : List Piece} {s : Segment} :
    s ∈ segmentsFrom pos ps ↔
      ∃ before p after, ps = before ++ p :: after ∧ s = p.segment (pos + (before.flatMap (·.text)).length) := by
  constructor
  · intro member
    induction ps generalizing pos with
    | nil => simp [segmentsFrom] at member
    | cons q rest ih =>
        rcases List.mem_cons.1 member with rfl | later
        · exact ⟨[], q, rest, rfl, rfl⟩
        · obtain ⟨before, p, after, rfl, rfl⟩ := ih later
          exact ⟨q :: before, p, after, rfl, by simp [Nat.add_assoc]⟩
  · rintro ⟨before, p, after, rfl, rfl⟩
    induction before generalizing pos with
    | nil => exact List.mem_cons_self
    | cons q rest ih =>
        have later := @ih (pos + q.text.length)
        rw [List.cons_append, segmentsFrom_cons, List.flatMap_cons, List.length_append, ← Nat.add_assoc]
        exact List.mem_cons_of_mem _ later

theorem segment_order {pos : Nat} {ps : List Piece} {s : Segment} (member : s ∈ segmentsFrom pos ps) :
    s.outputStart ≤ s.outputStop := by
  obtain ⟨before, p, after, -, rfl⟩ := mem_segmentsFrom.1 member
  exact Nat.le_add_right _ _

theorem segmentsFrom_outputStart {pos : Nat} {ps : List Piece} {s : Segment}
    (member : s ∈ segmentsFrom pos ps) :
    pos ≤ s.outputStart := by
  obtain ⟨before, p, after, -, rfl⟩ := mem_segmentsFrom.1 member
  exact Nat.le_add_right _ _

/-- The segments follow each other in the output. -/
theorem segmentsFrom_output_chain (pos : Nat) (ps : List Piece) :
    (segmentsFrom pos ps).Pairwise fun s s' => s.outputStop ≤ s'.outputStart := by
  induction ps generalizing pos with
  | nil => exact List.Pairwise.nil
  | cons p rest ih =>
      exact List.pairwise_cons.2 ⟨fun s member => segmentsFrom_outputStart member, ih _⟩

/-- The segments follow each other in the base, if the pieces do. -/
theorem segmentsFrom_base_chain (pos : Nat) {ps : List Piece}
    (chain : ps.Pairwise fun p p' => p.stop ≤ p'.start) :
    (segmentsFrom pos ps).Pairwise fun s s' => s.baseStop ≤ s'.baseStart := by
  induction ps generalizing pos with
  | nil => exact List.Pairwise.nil
  | cons p rest ih =>
      obtain ⟨first, tail⟩ := List.pairwise_cons.1 chain
      refine List.pairwise_cons.2 ⟨fun s member => ?_, ih _ tail⟩
      obtain ⟨before, q, after, rfl, rfl⟩ := mem_segmentsFrom.1 member
      exact first q (List.mem_append_right _ List.mem_cons_self)

/-- Segments that lie end to end, from one pair of offsets to another: each begins where the one before it ended,
in the base and in the output. -/
def EndToEnd : Nat × Nat → List Segment → Nat × Nat → Prop
  | begins, [], ends => begins = ends
  | begins, s :: rest, ends =>
    (begins = (s.baseStart, s.outputStart) ∧ s.baseStart ≤ s.baseStop ∧ s.outputStart ≤ s.outputStop) ∧
      EndToEnd (s.baseStop, s.outputStop) rest ends

theorem Abut.endToEnd {o o' : Nat} {ps : List Piece} (abut : Abut o ps o') (g : Nat) :
    EndToEnd (o, g) (segmentsFrom g ps) (o', g + (ps.flatMap (·.text)).length) := by
  induction ps generalizing o g with
  | nil =>
      obtain rfl : o = o' := abut
      rfl
  | cons p rest ih =>
      obtain ⟨⟨rfl, order⟩, tail⟩ := abut
      refine ⟨⟨rfl, order, Nat.le_add_right _ _⟩, ?_⟩
      rw [List.flatMap_cons, List.length_append, ← Nat.add_assoc]
      exact ih tail _

/-- Each offset of the base lies in the range of a segment. -/
theorem EndToEnd.exists_base {o g o' g' i : Nat} {ss : List Segment} (ends : EndToEnd (o, g) ss (o', g'))
    (from_ : o ≤ i) (before : i < o') : ∃ s ∈ ss, s.baseStart ≤ i ∧ i < s.baseStop := by
  induction ss generalizing o g with
  | nil =>
      obtain ⟨rfl, -⟩ := Prod.mk.inj ends
      omega
  | cons s rest ih =>
      obtain ⟨⟨begins, -, -⟩, tail⟩ := ends
      obtain ⟨rfl, -⟩ := Prod.mk.inj begins
      by_cases inside : i < s.baseStop
      · exact ⟨s, List.mem_cons_self, from_, inside⟩
      · obtain ⟨s', later, range⟩ := ih tail (Nat.le_of_not_lt inside)
        exact ⟨s', List.mem_cons_of_mem s later, range⟩

/-- Each offset of the output lies in a segment. -/
theorem EndToEnd.exists_output {o g o' g' k : Nat} {ss : List Segment} (ends : EndToEnd (o, g) ss (o', g'))
    (from_ : g ≤ k) (before : k < g') : ∃ s ∈ ss, s.outputStart ≤ k ∧ k < s.outputStop := by
  induction ss generalizing o g with
  | nil =>
      obtain ⟨-, rfl⟩ := Prod.mk.inj ends
      omega
  | cons s rest ih =>
      obtain ⟨⟨begins, -, -⟩, tail⟩ := ends
      obtain ⟨-, rfl⟩ := Prod.mk.inj begins
      by_cases inside : k < s.outputStop
      · exact ⟨s, List.mem_cons_self, from_, inside⟩
      · obtain ⟨s', later, range⟩ := ih tail (Nat.le_of_not_lt inside)
        exact ⟨s', List.mem_cons_of_mem s later, range⟩

/-- **The segments of a sound buffer lie end to end**, over the whole of both texts. -/
theorem segments_endToEnd {b : Buffer} (sound : b.Sound) :
    EndToEnd (0, 0) b.positionMap.segments (b.base.length, b.toText.length) := by
  have ends := (Buffer.pieces_abut sound).endToEnd 0
  rwa [Nat.zero_add] at ends

/-- A segment is that of a piece, whose text stands in the output where the segment says. -/
theorem segment_cases {b : Buffer} {s : Segment} (member : s ∈ b.positionMap.segments) :
    ∃ p t v, p ∈ b.pieces ∧ b.toText = t ++ p.text ++ v ∧ s = p.segment t.length := by
  obtain ⟨before, p, after, pieces, rfl⟩ := mem_segmentsFrom.1 member
  refine ⟨p, before.flatMap (·.text), after.flatMap (·.text), ?_, ?_, ?_⟩
  · rw [pieces]
    exact List.mem_append_right _ List.mem_cons_self
  · rw [Buffer.toText, pieces]
    simp
  · rw [Nat.zero_add]

/-- A kept segment shows one text in the base and in the output. -/
theorem kept_cases {b : Buffer} (sound : b.Sound) {s : Segment} (member : s ∈ b.positionMap.segments)
    (kept : s.edited = false) :
    ∃ u t v t' v', b.toText = t ++ u ++ v ∧ b.base = t' ++ u ++ v' ∧ s.outputStart = t.length ∧
      s.outputStop = t.length + u.length ∧ s.baseStart = t'.length ∧ s.baseStop = t'.length + u.length := by
  obtain ⟨p, t, v, inPieces, text, rfl⟩ := segment_cases member
  have fits := Buffer.pieces_fits sound inPieces
  obtain ⟨proper, shown⟩ := fits.shows kept
  have within := fits.within
  have front : (b.base.take p.start).length = p.start := by
    rw [List.length_take, Nat.min_eq_left (by omega)]
  refine ⟨p.text, t, v, b.base.take p.start, b.base.drop p.stop, text, ?_, rfl, rfl, front.symm, ?_⟩
  · rw [shown]
    exact Text.slice_split fits.order
  · rw [front, shown, Text.slice, List.length_take, List.length_drop]
    simp only [Piece.segment]
    omega

namespace PositionMap

/-- An offset of the output lies in one segment at most. -/
theorem find_holds {m : PositionMap} (chain : m.segments.Pairwise fun s s' => s.outputStop ≤ s'.outputStart)
    {s : Segment} (member : s ∈ m.segments) {g : Nat} (from_ : s.outputStart ≤ g) (before : g < s.outputStop) :
    m.segments.find? (·.holds g) = some s := by
  obtain ⟨earlier, later, split_⟩ := List.append_of_mem member
  rw [split_] at chain
  have ends := (List.pairwise_append.1 chain).2.2
  refine List.find?_eq_some_iff_append.2 ⟨by simp [Segment.holds, from_, before], earlier, later, split_, ?_⟩
  intro s' inEarlier
  have := ends s' inEarlier s List.mem_cons_self
  simp only [Segment.holds, Bool.not_eq_true', Bool.and_eq_false_iff, decide_eq_false_iff_not]
  omega

/-- An offset of the output in a segment is carried back by it. -/
theorem toBase_of_mem {m : PositionMap}
    (chain : m.segments.Pairwise fun s s' => s.outputStop ≤ s'.outputStart)
    {s : Segment} (member : s ∈ m.segments) {g : Nat} (from_ : s.outputStart ≤ g) (before : g < s.outputStop)
    (within : g < m.outputLength) : m.toBase g = .ok (s.toBase? g) := by
  simp [toBase, Nat.le_of_lt within, Nat.ne_of_lt within, find_holds chain member from_ before]

theorem toOutput_eq {m : PositionMap} {o : Nat} (within : o ≤ m.baseLength) :
    m.toOutput o = .ok ((m.segments.findSome? (·.toOutput? o)).getD m.outputLength) := by
  simp [toOutput, within]

/-- An offset of the base in the range of a segment is carried across by it. -/
theorem toOutput_of_mem {m : PositionMap} (chain : m.segments.Pairwise fun s s' => s.baseStop ≤ s'.baseStart)
    {s : Segment} (member : s ∈ m.segments) {o g : Nat} (carried : s.toOutput? o = some g)
    (within : o ≤ m.baseLength) : m.toOutput o = .ok g := by
  have range : s.baseStart ≤ o := by
    unfold Segment.toOutput? at carried
    split at carried
    · rename_i range
      exact range.1
    · simp at carried
  have found : m.segments.findSome? (·.toOutput? o) = some g := by
    obtain ⟨earlier, later, split_⟩ := List.append_of_mem member
    rw [split_] at chain
    have ends := (List.pairwise_append.1 chain).2.2
    refine List.findSome?_eq_some_iff.2 ⟨earlier, s, later, split_, carried, ?_⟩
    intro s' inEarlier
    have := ends s' inEarlier s List.mem_cons_self
    simp only [Segment.toOutput?, ite_eq_right_iff, reduceCtorEq, imp_false]
    omega
  rw [toOutput_eq within, found, Option.getD_some]

end PositionMap

namespace Buffer

variable {b : Buffer} {s : Segment}

theorem segment_fits (sound : b.Sound) (member : s ∈ b.positionMap.segments) :
    s.baseStart ≤ s.baseStop ∧ s.baseStop ≤ b.base.length := by
  obtain ⟨p, t, v, inPieces, -, rfl⟩ := segment_cases member
  have fits := pieces_fits sound inPieces
  exact ⟨fits.order, fits.within⟩

theorem segment_within (member : s ∈ b.positionMap.segments) : s.outputStop ≤ b.toText.length := by
  obtain ⟨p, t, v, -, text, rfl⟩ := segment_cases member
  rw [text, List.append_assoc, List.length_append, List.length_append]
  exact Nat.add_le_add_left (Nat.le_add_right _ _) _

/-- An offset of the output is carried back by the segment that holds it. -/
theorem toBase_holds (member : s ∈ b.positionMap.segments) {g : Nat} (from_ : s.outputStart ≤ g)
    (before : g < s.outputStop) : b.positionMap.toBase g = .ok (s.toBase? g) :=
  PositionMap.toBase_of_mem (segmentsFrom_output_chain 0 b.pieces) member from_ before
    (Nat.lt_of_lt_of_le before (segment_within member))

/-- An offset of the base is carried across by the segment that stands for it. -/
theorem toOutput_holds (sound : b.Sound) (member : s ∈ b.positionMap.segments) {i : Nat} (from_ : s.baseStart ≤ i)
    (before : i < s.baseStop) :
    b.positionMap.toOutput i = .ok (if s.edited then s.outputStart else s.outputStart + (i - s.baseStart)) :=
  PositionMap.toOutput_of_mem (segmentsFrom_base_chain 0 (pieces_chain sound)) member (if_pos ⟨from_, before⟩)
    (Nat.le_of_lt (Nat.lt_of_lt_of_le before (segment_fits sound member).2))

/-- A kept segment carries each of its offsets to where its character stands. -/
theorem toOutput_kept (sound : b.Sound) (member : s ∈ b.positionMap.segments) (kept : s.edited = false) {i : Nat}
    (from_ : s.baseStart ≤ i) (before : i < s.baseStop) :
    b.positionMap.toOutput i = .ok (s.outputStart + (i - s.baseStart)) ∧
      s.outputStart + (i - s.baseStart) < s.outputStop ∧
      b.toText[s.outputStart + (i - s.baseStart)]? = b.base[i]? := by
  obtain ⟨u, t, v, t', v', text, base, outputStart, outputStop, baseStart, baseStop⟩ := kept_cases sound member kept
  obtain ⟨k, rfl⟩ := Nat.exists_eq_add_of_le from_
  have inside : k < u.length := by omega
  have carried := toOutput_holds sound member from_ before
  rw [kept, if_neg Bool.false_ne_true, Nat.add_sub_cancel_left] at carried
  rw [Nat.add_sub_cancel_left]
  refine ⟨carried, by omega, ?_⟩
  · rw [outputStart, baseStart, text, base, Text.getElem?_middle inside, Text.getElem?_middle inside]

/-- An offset that a segment carries back lies in the range of the segment, and is carried to the output no further
than where it came from. -/
theorem toBase?_cases (sound : b.Sound) (member : s ∈ b.positionMap.segments) {g o : Nat} (from_ : s.outputStart ≤ g)
    (before : g < s.outputStop) (back : s.toBase? g = some o) :
    s.baseStart ≤ o ∧ o < s.baseStop ∧ s.baseStop ≤ b.base.length ∧
      ∃ k, b.positionMap.toOutput o = .ok k ∧ k ≤ g ∧ (s.edited = false → k = g) := by
  obtain ⟨order, within⟩ := segment_fits sound member
  cases kind : s.edited with
  | false =>
      obtain ⟨u, t, v, t', v', -, -, outputStart, outputStop, baseStart, baseStop⟩ := kept_cases sound member kind
      simp only [Segment.toBase?, kind, Bool.not_false, if_true, Option.some.injEq] at back
      have after : s.baseStart ≤ o := by omega
      have upTo : o < s.baseStop := by omega
      have carried := (toOutput_kept sound member kind after upTo).1
      exact ⟨after, upTo, within, _, carried, by omega, fun _ => by omega⟩
  | true =>
      obtain ⟨proper, rfl⟩ : s.baseStart ≠ s.baseStop ∧ s.baseStart = o := by
        simpa [Segment.toBase?, kind] using back
      have upTo : s.baseStart < s.baseStop := Nat.lt_of_le_of_ne order proper
      have carried := toOutput_holds sound member (Nat.le_refl _) upTo
      rw [kind, if_pos rfl] at carried
      exact ⟨Nat.le_refl _, upTo, within, s.outputStart, carried, from_, fun kept => by simp at kept⟩

/-- A character outside the overwritten ranges lies in a kept segment. -/
theorem exists_kept (sound : b.Sound) {i : Nat} (inside : i < b.base.length)
    (bare : ∀ start stop content, Edit.overwrite start stop content ∈ b.edits → ¬ (start ≤ i ∧ i < stop)) :
    ∃ s ∈ b.positionMap.segments, s.edited = false ∧ s.baseStart ≤ i ∧ i < s.baseStop := by
  obtain ⟨s, member, from_, before⟩ := (segments_endToEnd sound).exists_base (Nat.zero_le i) inside
  refine ⟨s, member, ?_, from_, before⟩
  by_contra edited
  obtain ⟨p, t, v, inPieces, -, rfl⟩ := segment_cases member
  have made := mem_pieces_overwrite inPieces (Bool.not_eq_false _ ▸ edited) (Nat.lt_of_le_of_lt from_ before)
  exact bare _ _ _ made ⟨from_, before⟩

/-- An overwrite has a segment, which shows its text, and to whose start its range is carried. -/
theorem exists_overwritten (sound : b.Sound) {start stop : Nat} {content : Text}
    (member : Edit.overwrite start stop content ∈ b.edits) :
    ∃ g, ⟨start, stop, g, g + content.length, true⟩ ∈ b.positionMap.segments ∧
      b.toText.slice g (g + content.length) = content ∧
      ∀ i, start ≤ i → i < stop → b.positionMap.toOutput i = .ok g := by
  obtain ⟨before, after, pieces⟩ := List.append_of_mem (overwrite_mem_pieces sound member)
  have inSegments : Piece.segment ⟨start, stop, content, true⟩ (before.flatMap (·.text)).length ∈
      b.positionMap.segments :=
    mem_segmentsFrom.2 ⟨before, _, after, pieces, by rw [Nat.zero_add]⟩
  have text : b.toText = before.flatMap (·.text) ++ content ++ after.flatMap (·.text) := by
    rw [toText, pieces]
    simp
  refine ⟨_, inSegments, by rw [text, Text.slice_middle], fun i from_ upTo => ?_⟩
  exact toOutput_holds sound inSegments from_ upTo

/-- The ends of the two texts belong together. -/
theorem toOutput_end (sound : b.Sound) : b.positionMap.toOutput b.base.length = .ok b.toText.length := by
  have none_ : b.positionMap.segments.findSome? (·.toOutput? b.base.length) = none := by
    refine List.findSome?_eq_none_iff.2 fun s member => ?_
    exact if_neg fun inside => Nat.not_lt.2 (segment_fits sound member).2 inside.2
  rw [PositionMap.toOutput_eq (m := b.positionMap) (Nat.le_refl b.base.length), none_]
  rfl

end Buffer

end Edit

end Graft
