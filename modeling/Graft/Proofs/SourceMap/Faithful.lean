/-
# Graft.Proofs.SourceMap.Faithful -- source maps say where the output came from

The position map and the source map describe one edit in two ways.  A consumer of the source map looks a place
of the output up by the last entry at or before it on its line (`locate?`); it finds the place of the base
that the position map carries the offset back to.

* `mem_anchors_bounds`: an anchor lies in its segment, and the segment carries it back to the base.
* `mem_anchors_kept`: the anchors of a kept segment are its start and the line starts inside it.
* `locate?_kept`: within a kept segment the last entry is a whole number of columns away.
* `decodeMappings_run`: all of it, for the mappings of a buffer reached by any calls.
-/
import Graft.Proofs.Edit.Segments
import Graft.Proofs.SourceMap.Decoding

namespace Graft.SourceMap

set_option autoImplicit false

open Graft.Edit Graft.Text

/-- Where a source map sends a place of the output: to the base place of the last entry at or before it on
its line, moved on by the columns between. -/
def locate? (lines : List (List Entry)) (p : Place) : Option Place :=
  (lines.flatten.filter fun e => e.output.line = p.line ∧ e.output.column ≤ p.column).getLast?.map fun e =>
    ⟨e.base.line, e.base.column + (p.column - e.output.column)⟩

/-- What the lines of a source map are to say of a buffer. -/
structure Faithful (b : Buffer) (lines : List (List Entry)) : Prop where
  /-- There is a group of entries for each line of the output. -/
  perLine : lines.length = (List.splitOn '\n' b.toText).length
  /-- The entries are in the order of the output, at most one at a place. -/
  sorted : lines.flatten.Pairwise fun e e' => e.output.Before e'.output
  /-- An entry pairs the places of two offsets that the position map pairs. -/
  paired : ∀ e ∈ lines.flatten, ∃ g o, g < b.toText.length ∧ o ≤ b.base.length ∧
    e = ⟨b.toText.place g, b.base.place o⟩ ∧ b.positionMap.toBase g = .ok (some o)
  /-- A kept character is found where the position map carries it back to. -/
  kept : ∀ s ∈ b.positionMap.segments, s.edited = false → ∀ g, s.outputStart ≤ g → g < s.outputStop →
    ∃ o, b.positionMap.toBase g = .ok (some o) ∧ b.toText[g]? = b.base[o]? ∧
      locate? lines (b.toText.place g) = some (b.base.place o)
  /-- What replaces a range has an entry from its first character to the start of the range. -/
  overwritten : ∀ start stop content, Edit.overwrite start stop content ∈ b.edits → content ≠ [] →
    ∃ g, b.positionMap.toOutput start = .ok g ∧ b.toText.slice g (g + content.length) = content ∧
      ⟨b.toText.place g, b.base.place start⟩ ∈ lines.flatten

/-! ## Anchors -/

theorem mem_anchors_bounds {output : Text} {s : Segment} {g o : Nat} (order : s.outputStart ≤ s.outputStop)
    (member : (g, o) ∈ anchors output s) :
    s.outputStart ≤ g ∧ g < s.outputStop ∧ s.toBase? g = some o := by
  unfold anchors at member
  split at member
  · simp at member
  · rename_i some_
    split at member
    · rename_i edited
      split at member
      · simp at member
      · rename_i proper
        obtain ⟨rfl, rfl⟩ := Prod.mk.inj (List.mem_singleton.1 member)
        exact ⟨Nat.le_refl _, by omega, by simp [Segment.toBase?, edited, proper]⟩
    · rename_i kept
      rcases List.mem_cons.1 member with first | inside
      · obtain ⟨rfl, rfl⟩ := Prod.mk.inj first
        exact ⟨Nat.le_refl _, by omega, by simp [Segment.toBase?, kept]⟩
      · obtain ⟨k, begins, pair⟩ := List.mem_map.1 inside
        obtain ⟨rfl, rfl⟩ := Prod.mk.inj pair
        have before := of_decide_eq_true (List.mem_filter.1 begins).2
        exact ⟨Nat.le_add_right _ _, before, by simp [Segment.toBase?, kept]⟩

/-- The anchors of a kept segment are its start and the line starts inside it. -/
theorem mem_anchors_kept {output : Text} {s : Segment} (kept : s.edited = false)
    (some_ : s.outputStart < s.outputStop) {g o : Nat} :
    (g, o) ∈ anchors output s ↔
      ∃ k, (k = 0 ∨ k ∈ breaks (output.slice s.outputStart s.outputStop)) ∧ s.outputStart + k < s.outputStop ∧
        g = s.outputStart + k ∧ o = s.baseStart + k := by
  simp only [anchors, Nat.ne_of_lt some_, if_false, kept, Bool.false_eq_true, List.mem_cons, List.mem_map,
    List.mem_filter, decide_eq_true_eq, Prod.mk.injEq]
  constructor
  · rintro (⟨rfl, rfl⟩ | ⟨k, ⟨begins, before⟩, rfl, rfl⟩)
    · exact ⟨0, .inl rfl, some_, rfl, rfl⟩
    · exact ⟨k, .inr begins, before, rfl, rfl⟩
  · rintro ⟨k, rfl | begins, before, rfl, rfl⟩
    · exact .inl ⟨rfl, rfl⟩
    · exact .inr ⟨k, ⟨begins, before⟩, rfl, rfl⟩

theorem anchors_sorted (output : Text) (s : Segment) :
    (anchors output s).Pairwise fun a a' => a.1 < a'.1 := by
  unfold anchors
  split
  · exact List.Pairwise.nil
  · split
    · split <;> simp
    · have breaks_ := breaksFrom_sorted (output.slice s.outputStart s.outputStop) 0
      refine List.pairwise_cons.2 ⟨fun a member => ?_, ?_⟩
      · obtain ⟨k, begins, rfl⟩ := List.mem_map.1 member
        have positive := lt_of_mem_breaksFrom (List.mem_filter.1 begins).1
        simp only
        omega
      · refine List.pairwise_map.2 ((breaks_.filter _).imp ?_)
        intro k k' order
        simp only
        omega

/-- The anchors of a buffer: pairs of an output offset and a base offset. -/
def anchorsOf (b : Buffer) : List (Nat × Nat) := b.positionMap.segments.flatMap (anchors b.toText)

theorem anchorsOf_sorted (b : Buffer) : (anchorsOf b).Pairwise fun a a' => a.1 < a'.1 := by
  refine List.pairwise_flatMap.2 ⟨fun s _ => anchors_sorted b.toText s, ?_⟩
  refine (segmentsFrom_output_chain 0 b.pieces).imp_of_mem ?_
  rintro s s' member member' ends ⟨g, o⟩ inFirst ⟨g', o'⟩ inSecond
  have first := mem_anchors_bounds (segment_order member) inFirst
  have second := mem_anchors_bounds (segment_order member') inSecond
  simp only
  omega

theorem anchorsOf_paired {b : Buffer} (sound : b.Sound) {g o : Nat} (member : (g, o) ∈ anchorsOf b) :
    g < b.toText.length ∧ o ≤ b.base.length ∧ b.positionMap.toBase g = .ok (some o) := by
  obtain ⟨s, inSegments, inAnchors⟩ := List.mem_flatMap.1 member
  obtain ⟨from_, before, back⟩ := mem_anchors_bounds (segment_order inSegments) inAnchors
  have inside := Nat.lt_of_lt_of_le before (Buffer.segment_within inSegments)
  obtain ⟨-, upTo, within, -⟩ := Buffer.toBase?_cases sound inSegments from_ before back
  refine ⟨inside, Nat.le_of_lt (Nat.lt_of_lt_of_le upTo within), ?_⟩
  rw [Buffer.toBase_holds inSegments from_ before, back]

/-! ## Entries -/

/-- The entry of an anchor. -/
def entryAt (b : Buffer) (a : Nat × Nat) : Entry := ⟨b.toText.place a.1, b.base.place a.2⟩

theorem entries_eq {b : Buffer} (sound : b.Sound) : entries b = (anchorsOf b).map (entryAt b) := by
  refine List.map_congr_left fun a member => ?_
  obtain ⟨inside, within, -⟩ := anchorsOf_paired sound member
  simp only [entryAt, placeAt_breaks (Nat.le_of_lt inside), placeAt_breaks within]

theorem entries_sorted {b : Buffer} (sound : b.Sound) :
    (entries b).Pairwise fun e e' => e.output.Before e'.output := by
  rw [entries_eq sound]
  refine List.pairwise_map.2 ((anchorsOf_sorted b).imp_of_mem fun _ member order => ?_)
  exact place_before order (Nat.le_of_lt (anchorsOf_paired sound member).1)

/-- The entries of each line of the output. -/
def linesOf (b : Buffer) : List (List Entry) := groupLines ((breaks b.toText).length + 1) 0 (entries b)

theorem linesOf_flatten {b : Buffer} (sound : b.Sound) :
    (linesOf b).flatten = (anchorsOf b).map (entryAt b) := by
  rw [linesOf, groupLines_flatten, entries_eq sound]
  · refine (entries_sorted sound).imp fun before => ?_
    unfold Place.Before at before
    omega
  · rw [entries_eq sound]
    intro e member
    obtain ⟨a, -, rfl⟩ := List.mem_map.1 member
    have := place_line_le b.toText a.1
    simp only [entryAt]
    omega

/-! ## Looking places up -/

/-- In an order, the last element that passes is the one after which none does. -/
theorem getLast?_filter_of_last {α : Type} {r : α → α → Prop} {l : List α} {x : α} {p : α → Bool}
    (sorted : l.Pairwise r) (member : x ∈ l) (passes : p x = true) (last : ∀ y ∈ l, r x y → p y = false) :
    (l.filter p).getLast? = some x := by
  obtain ⟨before, after, rfl⟩ := List.append_of_mem member
  have none_ : after.filter p = [] := by
    refine List.filter_eq_nil_iff.2 fun y inAfter => ?_
    have order := (List.pairwise_cons.1 (List.pairwise_append.1 sorted).2.1).1 y inAfter
    simp [last y (List.mem_append_right _ (List.mem_cons_of_mem x inAfter)) order]
  rw [List.filter_append, List.filter_cons_of_pos passes, none_]
  simp

theorem place_le {t : Text} {i j : Nat} (within : i ≤ t.length) (line : (t.place i).line = (t.place j).line)
    (column : (t.place i).column ≤ (t.place j).column) : i ≤ j := by
  by_contra after
  have order := place_before (Nat.lt_of_not_le after) within
  unfold Place.Before at order
  omega

theorem lt_of_before {t : Text} {i j : Nat} (within : i ≤ t.length) (order : (t.place i).Before (t.place j)) :
    i < j := by
  by_contra after
  rcases Nat.lt_or_eq_of_le (Nat.le_of_not_lt after) with later | rfl
  · exact (order.trans (place_before later within)).ne rfl
  · exact order.ne rfl

/-- An anchor whose output offset lies in a segment is one of that segment. -/
theorem mem_anchors_of_between {b : Buffer} {s : Segment} (member : s ∈ b.positionMap.segments) {g o : Nat}
    (inAnchors : (g, o) ∈ anchorsOf b) (from_ : s.outputStart ≤ g) (before : g < s.outputStop) :
    (g, o) ∈ anchors b.toText s := by
  obtain ⟨s', member', own⟩ := List.mem_flatMap.1 inAnchors
  obtain ⟨from_', before', -⟩ := mem_anchors_bounds (segment_order member') own
  have chain := segmentsFrom_output_chain 0 b.pieces
  have found := PositionMap.find_holds (m := b.positionMap) chain member from_ before
  have found' := PositionMap.find_holds (m := b.positionMap) chain member' from_' before'
  rw [Option.some.inj (found.symm.trans found')]
  exact own

/-- A kept segment has no anchor behind its last line start. -/
theorem not_mem_anchorsOf_between {b : Buffer} {s : Segment} (member : s ∈ b.positionMap.segments)
    (kept : s.edited = false) {t u v : Text} (text : b.toText = t ++ u ++ v) (outputStart : s.outputStart = t.length)
    (outputStop : s.outputStop = t.length + u.length) {j k : Nat} (inside : j < u.length)
    (last : ∀ i ∈ breaks u, i ≤ j → i ≤ k) {g o : Nat} (later : t.length + k < g)
    (upTo : g ≤ t.length + j) : (g, o) ∉ anchorsOf b := by
  intro inAnchors
  have own := mem_anchors_of_between member inAnchors (by omega) (by omega)
  obtain ⟨i, begins, -, rfl, -⟩ := (mem_anchors_kept kept (by omega)).1 own
  rw [outputStart, outputStop, text, slice_middle] at begins
  rcases begins with rfl | begins
  · omega
  · have := last i begins (by omega)
    omega

/-- **Within a kept segment the source map and the position map agree.** -/
theorem locate?_kept {b : Buffer} (sound : b.Sound) {s : Segment} (member : s ∈ b.positionMap.segments)
    (kept : s.edited = false) {g : Nat} (from_ : s.outputStart ≤ g) (before : g < s.outputStop) :
    ∃ o, b.positionMap.toBase g = .ok (some o) ∧ b.toText[g]? = b.base[o]? ∧
      locate? (linesOf b) (b.toText.place g) = some (b.base.place o) := by
  obtain ⟨u, t, v, t', v', text, base, outputStart, outputStop, baseStart, -⟩ := kept_cases sound member kept
  obtain ⟨j, rfl⟩ : ∃ j, g = t.length + j := ⟨g - t.length, by omega⟩
  have inside : j < u.length := by omega
  have length := congrArg List.length text
  simp only [List.length_append] at length
  obtain ⟨k, upTo, begins, last⟩ := exists_last_break u j
  -- Both texts run alike from the last line start on, and there the entry is.
  have outputPlace := place_append t u v (k := k) (by omega)
  have outputPlace' := place_append t u v (k := j) (by omega)
  have basePlace := place_append t' u v' (k := k) (by omega)
  have basePlace' := place_append t' u v' (k := j) (by omega)
  rw [advance_take _ upTo (Nat.le_of_lt inside) last] at outputPlace' basePlace'
  rw [← outputPlace, ← text] at outputPlace'
  rw [← basePlace, ← base] at basePlace'
  have inAnchors : (t.length + k, t'.length + k) ∈ anchorsOf b := by
    refine List.mem_flatMap.2 ⟨s, member, ?_⟩
    refine (mem_anchors_kept kept (by omega)).2 ⟨k, ?_, by omega, by omega, by omega⟩
    rw [outputStart, outputStop, text, slice_middle]
    exact begins
  have found : ((linesOf b).flatten.filter fun e => e.output.line = (b.toText.place (t.length + j)).line ∧
      e.output.column ≤ (b.toText.place (t.length + j)).column).getLast? =
        some (entryAt b (t.length + k, t'.length + k)) := by
    have sorted := entries_sorted sound
    rw [linesOf_flatten sound, ← entries_eq sound]
    refine getLast?_filter_of_last sorted ?_ ?_ ?_
    · rw [entries_eq sound]
      exact List.mem_map_of_mem inAnchors
    · simp [entryAt, outputPlace']
    · intro e inEntries after
      rw [entries_eq sound] at inEntries
      obtain ⟨⟨g', o'⟩, inAnchors', rfl⟩ := List.mem_map.1 inEntries
      refine decide_eq_false fun ⟨line, column⟩ => ?_
      have later : t.length + k < g' := lt_of_before (by omega) after
      have upTo' := place_le (Nat.le_of_lt (anchorsOf_paired sound inAnchors').1) line column
      exact not_mem_anchorsOf_between member kept text outputStart outputStop inside last later upTo' inAnchors'
  refine ⟨t'.length + j, ?_, ?_, ?_⟩
  · rw [Buffer.toBase_holds member from_ before]
    simp only [Segment.toBase?, kept, Bool.not_false, if_true, baseStart, outputStart, Nat.add_sub_cancel_left]
  · rw [text, base, getElem?_middle inside, getElem?_middle inside]
  · rw [locate?, found, Option.map_some, basePlace', outputPlace']
    simp [entryAt]

/-! ## The source map of a buffer -/

theorem toOutput_overwritten {b : Buffer} (sound : b.Sound) {start stop : Nat} {content : Text}
    (member : Edit.overwrite start stop content ∈ b.edits) (some_ : content ≠ []) :
    ∃ g, b.positionMap.toOutput start = .ok g ∧ b.toText.slice g (g + content.length) = content ∧
      (g, start) ∈ anchorsOf b := by
  have proper := (sound.inRange _ member).1
  obtain ⟨g, inSegments, shown, across⟩ := Buffer.exists_overwritten sound member
  refine ⟨g, across start (Nat.le_refl start) proper, shown, List.mem_flatMap.2 ⟨_, inSegments, ?_⟩⟩
  simp [anchors, some_, Nat.ne_of_lt proper]

theorem linesOf_faithful {b : Buffer} (sound : b.Sound) : Faithful b (linesOf b) where
  perLine := by rw [linesOf, length_groupLines, length_breaks]
  sorted := by
    rw [linesOf_flatten sound, ← entries_eq sound]
    exact entries_sorted sound
  paired := by
    rw [linesOf_flatten sound]
    intro e member
    obtain ⟨⟨g, o⟩, inAnchors, rfl⟩ := List.mem_map.1 member
    obtain ⟨inside, within, back⟩ := anchorsOf_paired sound inAnchors
    exact ⟨g, o, inside, within, rfl, back⟩
  kept := fun _ member kept _ from_ before => locate?_kept sound member kept from_ before
  overwritten := by
    rw [linesOf_flatten sound]
    intro start stop content member some_
    obtain ⟨g, across, shown, inAnchors⟩ := toOutput_overwritten sound member some_
    exact ⟨g, across, shown, List.mem_map_of_mem inAnchors⟩

/-- **The mappings of a buffer reached by any calls decode to lines that are faithful to it.** -/
theorem decodeMappings_run (base : Text) (calls : List Buffer.Call) (source : Text) (file : Option Text) :
    ∃ lines, decodeMappings (((Buffer.ofText base).run calls).sourceMap source file).mappings = some lines ∧
      Faithful ((Buffer.ofText base).run calls) lines := by
  refine ⟨linesOf ((Buffer.ofText base).run calls), ?_,
    linesOf_faithful (Buffer.run_sound (Buffer.sound_ofText base) calls)⟩
  exact decodeMappings_encodeLines (by simp [groupLines]) (groupLines_onLines _ 0 _)

end Graft.SourceMap
