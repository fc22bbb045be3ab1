/-
# Graft.Proofs.Edit.Origin -- where the characters of the output come from

`marked` walks the offsets of the base text like the reference text does, and writes beside each character where it
comes from: it was added, or it replaces the range that begins at some offset, or it was kept.

* The marks say what the position map does with an offset of the output (`toBase_marked`).
* `toBase_run`: carrying an offset of the base to the output and back, or the other way round, loses no more than
  the edits do.
-/
import Graft.Proofs.Edit.Growth

namespace Graft.Edit

set_option autoImplicit false

/-- Where a character of the output comes from. -/
inductive Origin where
  /-- It was inserted or put in front. -/
  | added
  /-- It replaces the range that begins at the offset. -/
  | replaced (start : Nat)
  /-- It is the character of the base at the offset. -/
  | kept (offset : Nat)
  deriving DecidableEq, Repr

/-- The offset in the base that stands for the character. -/
def Origin.offset? : Origin → Option Nat
  | .added => none
  | .replaced start => some start
  | .kept offset => some offset

/-- The segment ends before the other begins, in the output and in the base. -/
def Segment.InFront (s s' : Segment) : Prop := s.outputStop ≤ s'.outputStart ∧ s.baseStop ≤ s'.baseStart

/-- Where the character at an offset of the piece's text comes from. -/
def Piece.origin (p : Piece) (k : Nat) : Origin :=
  if p.edited then if p.start = p.stop then .added else .replaced p.start else .kept (p.start + k)

def Piece.marked (p : Piece) : List (Char × Origin) := p.text.mapIdx fun k c => (c, p.origin k)

theorem Piece.getElem?_marked (p : Piece) (k : Nat) : p.marked[k]? = p.text[k]?.map fun c => (c, p.origin k) :=
  List.getElem?_mapIdx

@[simp] theorem Piece.length_marked (p : Piece) : p.marked.length = p.text.length := List.length_mapIdx

/-- A segment carries an offset of the output back to where its piece has the character from. -/
theorem Piece.segment_toBase? (p : Piece) (g k : Nat) : (p.segment g).toBase? (g + k) = (p.origin k).offset? := by
  simp only [Segment.toBase?, Piece.segment, Piece.origin, Nat.add_sub_cancel_left]
  cases p.edited with
  | false => rfl
  | true =>
      by_cases hollow : p.start = p.stop
      · simp [hollow, Origin.offset?]
      · simp [hollow, Origin.offset?]

namespace Buffer

/-- What calls leave at an offset of the base, with its origin. -/
def markedAt (base : Text) (calls : List Call) (i : Nat) : List (Char × Origin) :=
  (calls.flatMap (·.insertedAt i)).map (·, .added) ++
    ((calls.findSome? (·.replacementAt? i)).getD []).map (·, .replaced i) ++
    (survivor base (fun i => calls.any (·.replaces i)) i).map (·, .kept i)

/-- The text that calls make of a base text, each character with its origin. -/
def marked (base : Text) (calls : List Call) : List (Char × Origin) :=
  (calls.filterMap Call.intro?).reverse.flatten.map (·, .added) ++
    (List.range (base.length + 1)).flatMap (markedAt base calls)

/-- Without the marks, it is the reference text. -/
theorem marked_fst (base : Text) (calls : List Call) : (marked base calls).map (·.1) = reference base calls := by
  have plain : ∀ (o : Origin) (t : Text), (t.map (·, o)).map (·.1) = t := by
    intro o t
    rw [List.map_map]
    exact List.map_id t
  have here : ∀ i, (markedAt base calls i).map (·.1) = textAt base calls i := by
    intro i
    rw [markedAt, List.map_append, List.map_append, plain, plain, plain, textAt]
  rw [marked, List.map_append, plain, List.map_flatMap, reference]
  simp only [here]

/-! ## The marks of a layout -/

theorem kept_marked (base : Text) (start stop : Nat) :
    (kept base start stop).flatMap Piece.marked =
      (List.range' start (stop - start)).flatMap fun i => base[i]?.toList.map (·, .kept i) :=
  kept_flatMap (g := fun i c => (c, Origin.kept i)) (fun _ _ => rfl) start stop

/-- The characters of an edit, marked. -/
def ownMarked (e : Edit) : List (Char × Origin) :=
  e.content.map (·, if e.start = e.stop then .added else .replaced e.start)

theorem laid_marked (e : Edit) : (laid e).flatMap Piece.marked = ownMarked e := by
  rw [laid_flatMap e fun empty => by simp [Piece.marked, empty]]
  exact List.ext_getElem? fun k => by simp [Piece.getElem?_marked, Piece.origin, ownMarked]

theorem length_marked (ps : List Piece) : (ps.flatMap Piece.marked).length = (ps.flatMap (·.text)).length := by
  induction ps with
  | nil => rfl
  | cons p rest ih =>
      rw [List.flatMap_cons, List.flatMap_cons, List.length_append, List.length_append, ih, p.length_marked]

theorem insertsAt_marked {e : Edit} {i : Nat} (inserts : insertsAt i e = true) :
    ownMarked e = e.content.map (·, .added) := by
  cases e with
  | insertion => simp [ownMarked, Edit.start, Edit.stop]
  | overwrite => simp [insertsAt, isOverwrite] at inserts

theorem replacesFrom_marked {e : Edit} {length i : Nat} (within : e.InRange length)
    (replaces : replacesFrom i e = true) : ownMarked e = e.content.map (·, .replaced i) := by
  simp only [replacesFrom, Bool.and_eq_true, beq_iff_eq] at replaces
  obtain ⟨rfl, overwrites⟩ := replaces
  cases e with
  | insertion => simp [isOverwrite] at overwrites
  | overwrite start stop content => simp [ownMarked, Edit.start, Edit.stop, Nat.ne_of_lt within.1]

variable (base : Text) (calls : List Call)

/-- What the edits of a run leave at an offset is marked like what its accepted calls leave there. -/
theorem markedAt_run (i : Nat) :
    visit ownMarked (fun i => base[i]?.toList.map (·, .kept i)) ((ofText base).run calls).ranked i =
      markedAt base ((ofText base).accepted calls) i := by
  have sound : ((ofText base).run calls).Sound := ofText_sound base calls
  have proper : ∀ c ∈ (ofText base).accepted calls, c.Proper := fun _ => accepted_proper
  have apart := sound.apart
  rw [ofText_edits] at apart
  have inserted : (((ofText base).run calls).edits.filter (insertsAt i)).flatMap ownMarked =
      (((ofText base).accepted calls).flatMap (·.insertedAt i)).map (·, .added) := by
    rw [← flatMap_insertsAt proper, ← ofText_edits, List.map_flatMap]
    exact List.flatMap_congr fun e member => insertsAt_marked (List.mem_filter.1 member).2
  have replaced : (((ofText base).run calls).edits.filter (replacesFrom i)).flatMap ownMarked =
      ((((ofText base).accepted calls).findSome? (·.replacementAt? i)).getD []).map (·, .replaced i) := by
    rw [← flatMap_replacesFrom proper apart, ← ofText_edits, List.map_flatMap]
    refine List.flatMap_congr fun e member => ?_
    obtain ⟨made, replaces⟩ := List.mem_filter.1 member
    exact replacesFrom_marked (sound.inRange e made) replaces
  rw [visit_ranked, inserted, replaced, any_covers_run, markedAt, survivor]
  split <;> rfl

/-- **The pieces of a buffer show the marked text of the accepted calls.** -/
theorem pieces_marked :
    ((ofText base).run calls).pieces.flatMap Piece.marked = marked base ((ofText base).accepted calls) := by
  have visited := pieces_visit (kept_marked _) laid_marked (by simp) (ofText_sound base calls)
  rw [run_base, ofText_intro, show (ofText base).base = base from rfl] at visited
  rw [visited, marked]
  exact congrArg _ (List.flatMap_congr fun i _ => markedAt_run base calls i)

/-- **The marked characters are those of the output.** -/
theorem marked_run : (marked base ((ofText base).accepted calls)).map (·.1) = ((ofText base).run calls).toText := by
  rw [marked_fst, run_toText]

/-! ## Back to the base -/

/-- A character that a segment holds has the mark of the segment's piece. -/
theorem holds_marked {b : Buffer} {s : Segment} (member : s ∈ b.positionMap.segments) {g : Nat}
    (from_ : s.outputStart ≤ g) (before : g < s.outputStop) :
    ∃ (c : Char) (p : Piece) (a k : Nat), s = p.segment a ∧ g = a + k ∧
      (b.pieces.flatMap Piece.marked)[g]? = some (c, p.origin k) := by
  obtain ⟨front, p, rest, pieces, rfl⟩ := mem_segmentsFrom.1 member
  obtain ⟨k, rfl⟩ := Nat.exists_eq_add_of_le from_
  have inside : k < p.text.length := Nat.lt_of_add_lt_add_left before
  refine ⟨p.text[k], p, _, k, rfl, rfl, ?_⟩
  rw [pieces, List.flatMap_append, List.flatMap_cons, ← List.append_assoc]
  simp only [Piece.segment, Nat.zero_add, ← length_marked]
  rw [Text.getElem?_middle (by simpa using inside), p.getElem?_marked, List.getElem?_eq_getElem inside]
  rfl

section

variable {b : Buffer} {s s' : Segment} {g g' o o' : Nat}

/-- Of two segments, one is in front of the other. -/
theorem inFront_of_ne (sound : b.Sound) (member : s ∈ b.positionMap.segments)
    (member' : s' ∈ b.positionMap.segments) (other : s ≠ s') : s.InFront s' ∨ s'.InFront s := by
  have chain : b.positionMap.segments.Pairwise Segment.InFront :=
    (segmentsFrom_output_chain 0 b.pieces).and (segmentsFrom_base_chain 0 (pieces_chain sound))
  have either : b.positionMap.segments.Pairwise fun s s' => s.InFront s' ∨ s'.InFront s := chain.imp Or.inl
  have : Std.Symm fun s s' : Segment => s.InFront s' ∨ s'.InFront s := ⟨fun _ _ => Or.symm⟩
  exact either.forall member member' other

theorem toBase_end (b : Buffer) : b.positionMap.toBase b.toText.length = .ok (some b.base.length) := by
  simp [PositionMap.toBase, positionMap]

/-- What is carried back is the end of the output, or it lies in a segment that carries it back. -/
theorem toBase_cases (sound : b.Sound) (back : b.positionMap.toBase g = .ok (some o)) :
    g = b.toText.length ∧ o = b.base.length ∨
      g < b.toText.length ∧
        ∃ s ∈ b.positionMap.segments, s.outputStart ≤ g ∧ g < s.outputStop ∧ s.toBase? g = some o := by
  rcases Nat.lt_trichotomy g b.toText.length with inText | rfl | beyond
  · obtain ⟨s, member, from_, before⟩ := (segments_endToEnd sound).exists_output (Nat.zero_le g) inText
    rw [toBase_holds member from_ before] at back
    exact .inr ⟨inText, s, member, from_, before, Except.ok.inj back⟩
  · rw [toBase_end] at back
    exact .inl ⟨rfl, (Option.some.inj (Except.ok.inj back)).symm⟩
  · rw [PositionMap.toBase, if_pos (.inr (Int.ofNat_lt.2 beyond))] at back
    simp at back

theorem toBase?_mono (order : g ≤ g') (first : s.toBase? g = some o) (second : s.toBase? g' = some o') : o ≤ o' := by
  cases kind : s.edited with
  | false =>
      simp only [Segment.toBase?, kind, Bool.not_false, if_true, Option.some.injEq] at first second
      omega
  | true =>
      simp only [Segment.toBase?, kind, Bool.not_true, Bool.false_eq_true, if_false] at first second
      exact Nat.le_of_eq (Option.some.inj (first.symm.trans second))

/-- Offsets that are carried back keep their order. -/
theorem toBase_mono (sound : b.Sound) (order : g ≤ g') (first : b.positionMap.toBase g = .ok (some o))
    (second : b.positionMap.toBase g' = .ok (some o')) : o ≤ o' := by
  rcases toBase_cases sound second with ⟨rfl, rfl⟩ | ⟨inText', s', member', from_', before', back'⟩
  · rcases toBase_cases sound first with ⟨-, rfl⟩ | ⟨-, s, member, from_, before, back⟩
    · exact Nat.le_refl _
    · obtain ⟨-, upTo, within, -⟩ := toBase?_cases sound member from_ before back
      omega
  · rcases toBase_cases sound first with ⟨rfl, -⟩ | ⟨-, s, member, from_, before, back⟩
    · omega
    · by_cases same : s = s'
      · subst same
        exact toBase?_mono order back back'
      · have upTo := (toBase?_cases sound member from_ before back).2.1
        have after := (toBase?_cases sound member' from_' before' back').1
        rcases inFront_of_ne sound member member' same with ⟨-, inBase⟩ | ⟨inOutput, -⟩ <;> omega

/-- An offset outside the overwritten ranges comes back from where it is carried to. -/
theorem toBase_toOutput (sound : b.Sound) {i : Nat} (within : i ≤ b.base.length)
    (bare : ∀ start stop content, Edit.overwrite start stop content ∈ b.edits → ¬ (start ≤ i ∧ i < stop)) :
    ∃ g : Nat, b.positionMap.toOutput i = .ok g ∧ b.positionMap.toBase g = .ok (some i) := by
  rcases Nat.lt_or_eq_of_le within with inside | rfl
  · obtain ⟨s, member, kept, from_, before⟩ := exists_kept sound inside bare
    obtain ⟨carried, upTo, -⟩ := toOutput_kept sound member kept from_ before
    refine ⟨_, carried, ?_⟩
    rw [toBase_holds member (Nat.le_add_right _ _) upTo]
    simp [Segment.toBase?, kept, Nat.add_sub_cancel' from_]
  · exact ⟨_, toOutput_end sound, toBase_end b⟩

/-- An offset in a range that something replaces comes back as the start of the range. -/
theorem toBase_overwritten (sound : b.Sound) {start stop : Nat} {content : Text}
    (member : Edit.overwrite start stop content ∈ b.edits) (shown : content ≠ []) {i : Nat} (from_ : start ≤ i)
    (before : i < stop) :
    ∃ g : Nat, b.positionMap.toOutput i = .ok g ∧ b.positionMap.toBase g = .ok (some start) := by
  have proper := (sound.inRange _ member).1
  obtain ⟨g, inSegments, -, across⟩ := exists_overwritten sound member
  have some_ : g < g + content.length := Nat.lt_add_of_pos_right (List.length_pos_of_ne_nil shown)
  refine ⟨g, across i from_ before, ?_⟩
  rw [toBase_holds inSegments (Nat.le_refl g) some_]
  simp [Segment.toBase?, Nat.ne_of_lt proper]

end

variable {base calls}

/-- **The position map carries an offset back to what its mark says.** -/
theorem toBase_marked {g : Nat} {c : Char} {o : Origin}
    (found : (marked base ((ofText base).accepted calls))[g]? = some (c, o)) :
    ((ofText base).run calls).positionMap.toBase g = .ok o.offset? := by
  let b := (ofText base).run calls
  have sound : b.Sound := ofText_sound base calls
  rw [← pieces_marked] at found
  have inText : g < b.toText.length := by
    rw [toText, ← length_marked]
    exact (List.getElem?_eq_some_iff.1 found).1
  obtain ⟨s, member, from_, before⟩ := (segments_endToEnd sound).exists_output (Nat.zero_le g) inText
  have back := toBase_holds member from_ before
  obtain ⟨c', p, a, k, rfl, rfl, shown⟩ := holds_marked member from_ before
  have same := (Prod.mk.inj (Option.some.inj (found.symm.trans shown))).2
  rw [back, p.segment_toBase?, same]

/-- Each offset of the output is carried back, and to nothing if its character was added. -/
theorem toBase_added {g : Nat} (within : g ≤ ((ofText base).run calls).toText.length) :
    ∃ o, ((ofText base).run calls).positionMap.toBase g = .ok o ∧
      (o = none ↔ ∃ c, (marked base ((ofText base).accepted calls))[g]? = some (c, .added)) := by
  have length := congrArg List.length (marked_run base calls)
  rw [List.length_map] at length
  rcases Nat.lt_or_eq_of_le within with inText | rfl
  · have inMarked : g < (marked base ((ofText base).accepted calls)).length := length.symm ▸ inText
    obtain ⟨⟨c, o⟩, found⟩ : ∃ mark, (marked base ((ofText base).accepted calls))[g]? = some mark :=
      ⟨_, List.getElem?_eq_getElem inMarked⟩
    refine ⟨_, toBase_marked found, ?_⟩
    rw [found]
    cases o <;> simp [Origin.offset?]
  · refine ⟨_, toBase_end _, ?_⟩
    rw [List.getElem?_eq_none (Nat.le_of_eq length)]
    simp

/-- The characters that a segment holds were kept, or none of them was. -/
theorem kept_iff_marked {b : Buffer} {s : Segment} (member : s ∈ b.positionMap.segments) {g : Nat}
    (from_ : s.outputStart ≤ g) (before : g < s.outputStop) :
    s.edited = false ↔ ∃ c i, (b.pieces.flatMap Piece.marked)[g]? = some (c, .kept i) := by
  obtain ⟨c, p, a, k, rfl, rfl, shown⟩ := holds_marked member from_ before
  rw [shown, Piece.origin]
  constructor
  · intro kept
    have kind : p.edited = false := kept
    exact ⟨c, p.start + k, by rw [kind]; rfl⟩
  · rintro ⟨c', i, found⟩
    have same := (Prod.mk.inj (Option.some.inj found)).2
    cases kind : p.edited with
    | false => exact kind
    | true =>
        rw [kind, if_pos rfl] at same
        split at same <;> simp at same

/-- How a position map is to carry offsets between a base text and the output that calls make of it. -/
structure RoundTrip (base : Text) (made : List Call) (m : PositionMap) : Prop where
  /-- An offset outside the overwritten ranges comes back from where it is carried to. -/
  outside : ∀ i : Nat, i ≤ base.length → (∀ c ∈ made, c.replaces i = false) →
    ∃ g : Nat, m.toOutput i = .ok g ∧ m.toBase g = .ok (some i)
  /-- An offset in a range that something replaces comes back as the start of the range. -/
  inside : ∀ (start stop : Int) (content : Text), .overwrite start stop content ∈ made → content ≠ [] →
    ∀ i : Nat, start ≤ i → i < stop → ∃ g : Nat, m.toOutput i = .ok g ∧ m.toBase g = .ok (some start.toNat)
  /-- A character goes back to what its mark says. -/
  marks : ∀ (g : Nat) c o, (marked base made)[g]? = some (c, o) → m.toBase g = .ok o.offset?
  /-- The kept characters are those of the kept segments. -/
  runs : ∀ s ∈ m.segments, ∀ g : Nat, s.holds g = true →
    (s.edited = false ↔ ∃ c i, (marked base made)[g]? = some (c, .kept i))
  /-- What was added has no offset in the base, and all else has one. -/
  added : ∀ g : Nat, g ≤ m.outputLength →
    ∃ o, m.toBase g = .ok o ∧ (o = none ↔ ∃ c, (marked base made)[g]? = some (c, .added))
  /-- An offset of the output that goes back somewhere is not in front of where that is carried to, and is the same if
  its character was kept or it is the end. -/
  forth : ∀ g o : Nat, m.toBase g = .ok (some o) → ∃ k, m.toOutput o = .ok k ∧ k ≤ g ∧
    (g = m.outputLength ∨ (∃ c i, (marked base made)[g]? = some (c, .kept i)) → k = g)
  /-- Offsets that go back keep their order. -/
  mono : ∀ g g' o o' : Nat, g ≤ g' → m.toBase g = .ok (some o) → m.toBase g' = .ok (some o') → o ≤ o'

/-- **To the output and back.**  For a buffer reached by any calls, the marked characters are those of the output, and
the two ways of the position map undo each other as far as the marks allow. -/
theorem toBase_run (base : Text) (calls : List Call) :
    let b := (ofText base).run calls
    let made := (ofText base).accepted calls
    (marked base made).map (·.1) = b.toText ∧ RoundTrip base made b.positionMap := by
  intro b made
  have sound : b.Sound := ofText_sound base calls
  have same : b.base = base := run_base _ _
  refine ⟨marked_run base calls, fun i within bare => ?_, fun start stop content member shown i from_ before => ?_,
    fun g c o found => toBase_marked found, fun s member g holds => ?_, fun g within => toBase_added within,
    fun g o back => ?_,
    fun g g' o o' order first second => toBase_mono sound order first second⟩
  · exact toBase_toOutput sound (same.symm ▸ within) (bare_run base calls bare)
  · have proper : Call.Proper (.overwrite start stop content) := accepted_proper member
    simp only [Call.Proper] at proper
    have edit : Edit.overwrite start.toNat stop.toNat content ∈ b.edits := by
      rw [ofText_edits]
      exact List.mem_filterMap.2 ⟨_, member, rfl⟩
    exact toBase_overwritten sound edit shown (by omega) (by omega)
  · simp only [Segment.holds, Bool.and_eq_true, decide_eq_true_eq] at holds
    rw [← pieces_marked]
    exact kept_iff_marked member holds.1 holds.2
  · rcases toBase_cases sound back with ⟨rfl, rfl⟩ | ⟨inText, s, member, from_, before, carried⟩
    · exact ⟨_, toOutput_end sound, Nat.le_refl _, fun _ => rfl⟩
    · obtain ⟨-, -, -, k, forth, upTo, kept⟩ := toBase?_cases sound member from_ before carried
      refine ⟨k, forth, upTo, ?_⟩
      rintro (atEnd | found)
      · exact absurd atEnd (Nat.ne_of_lt inText)
      · rw [← pieces_marked] at found
        exact kept ((kept_iff_marked member from_ before).2 found)

/-- A text in front, an insertion, a replacement and a deletion: the output is `^a<XYe`. -/
example : ((List.range 7).map fun g => (((ofText "abcde".toList).run [.insert 1 "<".toList,
    .overwrite 1 3 "XY".toList, .overwrite 3 4 [], .prepend "^".toList]).positionMap.toBase g).toOption) =
    [some none, some (some 0), some none, some (some 1), some (some 1), some (some 4), some (some 5)] := by decide

end Buffer

end Graft.Edit
