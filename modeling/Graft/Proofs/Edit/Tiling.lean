/-
# Graft.Proofs.Edit.Tiling -- the segments cover both texts

The segments of a position map lie end to end in the base text and in the output, and together they cover both
(`Tiled`).

* A kept segment stands for some characters of the base text and shows them.
* An edited segment is what was put in front, or what one call left: the text of an insertion, which stands for
  nothing of the base, or of an overwrite, which stands for its range.  An insertion of nothing leaves no segment,
  an overwrite with nothing does.

Reading the segments off the two texts gives the pieces of the layout back (`segments_piece`), so all this is known
from the layout.
-/
import Graft.Proofs.Edit.Growth

namespace Graft.Edit

set_option autoImplicit false

/-- What a segment shows of the output, as a piece. -/
def Segment.piece (output : Text) (s : Segment) : Piece :=
  ⟨s.baseStart, s.baseStop, output.slice s.outputStart s.outputStop, s.edited⟩

namespace Buffer

/-- The piece that the call leaves of itself; an insertion of nothing leaves none. -/
def Call.piece? : Call → Option Piece
  | .prepend _ => none
  | .insert index content => if content.isEmpty then none else some ⟨index.toNat, index.toNat, content, true⟩
  | .overwrite start stop content => some ⟨start.toNat, stop.toNat, content, true⟩

/-- The edited pieces that calls leave; all that is put in front is one piece. -/
def editedPieces (calls : List Call) : List Piece :=
  let front := (calls.filterMap Call.intro?).reverse.flatten
  (if front.isEmpty then [] else [⟨0, 0, front, true⟩]) ++ calls.filterMap Call.piece?

/-- How segments are to cover a base text and the output that calls make of it. -/
structure Tiled (base output : Text) (made : List Call) (segments : List Segment) : Prop where
  /-- The segments lie end to end, over the whole of both texts. -/
  endToEnd : EndToEnd (0, 0) segments (base.length, output.length)
  /-- A kept segment is not empty and shows its range of the base. -/
  kept : ∀ s ∈ segments, s.edited = false →
    s.baseStart < s.baseStop ∧ base.slice s.baseStart s.baseStop = output.slice s.outputStart s.outputStop
  /-- An edited segment inserts something, or it is the range and the text of the one call that replaces its
  characters. -/
  edited : ∀ s ∈ segments, s.edited = true →
    s.baseStart = s.baseStop ∧ s.outputStart < s.outputStop ∨
      s.baseStart < s.baseStop ∧ made.filter (·.replaces s.baseStart) =
        [.overwrite s.baseStart s.baseStop (output.slice s.outputStart s.outputStop)]
  /-- The edited segments are what the calls leave, one by one. -/
  calls : ((segments.filter (·.edited)).map (·.piece output)).Perm (editedPieces made)

/-! ## Segments and pieces -/

theorem segmentsFrom_piece (front : Text) (ps : List Piece) (back : Text) :
    (segmentsFrom front.length ps).map (·.piece (front ++ ps.flatMap (·.text) ++ back)) = ps := by
  induction ps generalizing front with
  | nil => rfl
  | cons p rest ih =>
      have output : front ++ (p :: rest).flatMap (·.text) ++ back =
          front ++ p.text ++ (rest.flatMap (·.text) ++ back) := by simp
      have here : (p.segment front.length).piece (front ++ (p :: rest).flatMap (·.text) ++ back) = p := by
        rw [output, Segment.piece]
        simp only [Piece.segment, Text.slice_middle]
      have later := ih (front ++ p.text)
      rw [segmentsFrom_cons, List.map_cons, here, output, ← List.length_append, ← List.append_assoc (front ++ p.text),
        later]

/-- **Read off the output, the segments are the pieces of the layout.** -/
theorem segments_piece (b : Buffer) : b.positionMap.segments.map (·.piece b.toText) = b.pieces := by
  have whole := segmentsFrom_piece [] b.pieces []
  rwa [List.nil_append, List.append_nil] at whole

theorem laid_edited (e : Edit) : (laid e).filter (·.edited) = laid e := by
  apply List.filter_eq_self.2
  intro p member
  rw [mem_laid member]

theorem layOut_edited (base : Text) (pos : Nat) (es : List Edit) :
    (layOut base pos es).filter (·.edited) = es.flatMap laid := by
  have keptOnly : ∀ start stop, (kept base start stop).filter (·.edited) = [] := by
    intro start stop
    apply List.filter_eq_nil_iff.2
    intro p member
    obtain ⟨-, rfl⟩ := mem_kept member
    simp
  induction es generalizing pos with
  | nil => exact keptOnly _ _
  | cons e rest ih =>
      rw [layOut, List.filter_append, List.filter_append, keptOnly, laid_edited, ih, List.flatMap_cons,
        List.nil_append]

theorem flatMap_laid {calls : List Call} (proper : ∀ c ∈ calls, c.Proper) :
    (calls.filterMap Call.edit?).flatMap laid = calls.filterMap Call.piece? := by
  induction calls with
  | nil => rfl
  | cons c rest ih =>
      have rest_ := ih fun d member => proper d (List.mem_cons_of_mem c member)
      have own := proper c List.mem_cons_self
      cases c with
      | prepend content => exact rest_
      | insert index content =>
          cases content <;> simp [Call.edit?, Call.piece?, laid, Edit.start, Edit.stop, Edit.content, rest_]
      | overwrite start stop content =>
          have range : start.toNat < stop.toNat := by
            simp only [Call.Proper] at own
            omega
          simp [Call.edit?, Call.piece?, laid, Edit.start, Edit.stop, Edit.content, range, rest_]

variable (base : Text) (calls : List Call)

theorem pieces_edited :
    (((ofText base).run calls).pieces.filter (·.edited)).Perm (editedPieces ((ofText base).accepted calls)) := by
  have front : ∀ t : Text, laid (.insertion 0 t) = if t.isEmpty then [] else [⟨0, 0, t, true⟩] := by
    intro t
    cases t <;> rfl
  rw [pieces_eq, List.filter_append, laid_edited, front, layOut_edited, ofText_intro, editedPieces,
    ← flatMap_laid fun _ => accepted_proper, ← ofText_edits]
  exact List.Perm.append_left _ ((ranked_perm _).flatMap_right laid)

theorem segments_edited :
    let b := (ofText base).run calls
    ((b.positionMap.segments.filter (·.edited)).map (·.piece b.toText)).Perm
      (editedPieces ((ofText base).accepted calls)) := by
  intro b
  have same : (b.positionMap.segments.filter (·.edited)).map (·.piece b.toText) = b.pieces.filter (·.edited) := by
    rw [← segments_piece b, List.filter_map]
    rfl
  rw [same]
  exact pieces_edited base calls

/-! ## The calls behind edited segments -/

variable {base calls}

/-- Of the accepted calls, one at most replaces a character. -/
theorem filter_replaces {c : Call} (member : c ∈ (ofText base).accepted calls) {i : Nat}
    (replaces : c.replaces i = true) : ((ofText base).accepted calls).filter (·.replaces i) = [c] := by
  have clear := (accepted_fits base calls).2.filter (·.replaces i)
  have all : ∀ x ∈ ((ofText base).accepted calls).filter (·.replaces i), x.replaces i = true :=
    fun x inFilter => (List.mem_filter.1 inFilter).2
  have own : c ∈ ((ofText base).accepted calls).filter (·.replaces i) := List.mem_filter.2 ⟨member, replaces⟩
  cases found : ((ofText base).accepted calls).filter (·.replaces i) with
  | nil => simp [found] at own
  | cons x rest =>
      rw [found] at clear all own
      cases rest with
      | nil => rw [List.mem_singleton.1 own]
      | cons y rest =>
          -- Two calls that replace one character would bar each other.
          have first := all x List.mem_cons_self
          have second := all y (List.mem_cons_of_mem x List.mem_cons_self)
          refine absurd ?_ ((List.pairwise_cons.1 clear).1 y List.mem_cons_self)
          cases x <;> cases y <;> simp [Call.replaces] at first second
          exact ⟨i, first, second⟩

/-- What an edited segment can be. -/
theorem editedPieces_cases {p : Piece} (member : p ∈ editedPieces ((ofText base).accepted calls)) :
    p.start = p.stop ∧ p.text ≠ [] ∨
      p.start < p.stop ∧
        ((ofText base).accepted calls).filter (·.replaces p.start) = [.overwrite p.start p.stop p.text] := by
  rcases List.mem_append.1 member with front | made
  · split at front
    · simp at front
    · rename_i shown
      obtain rfl := List.mem_singleton.1 front
      exact .inl ⟨rfl, fun empty => shown (List.isEmpty_iff.2 empty)⟩
  · obtain ⟨c, inMade, leaves⟩ := List.mem_filterMap.1 made
    have proper := accepted_proper inMade
    cases c with
    | prepend content => simp [Call.piece?] at leaves
    | insert index content =>
        obtain ⟨shown, same⟩ := Option.ite_none_left_eq_some.1 leaves
        obtain rfl := Option.some.inj same
        exact .inl ⟨rfl, fun empty => shown (List.isEmpty_iff.2 empty)⟩
    | overwrite start stop content =>
        obtain rfl := Option.some.inj leaves
        simp only [Call.Proper] at proper
        obtain ⟨s, rfl⟩ := Int.eq_ofNat_of_zero_le proper.1
        obtain ⟨e, rfl⟩ := Int.eq_ofNat_of_zero_le (Int.le_of_lt (Int.lt_of_le_of_lt proper.1 proper.2))
        refine .inr ⟨Int.ofNat_lt.1 proper.2, filter_replaces inMade ?_⟩
        simpa [Call.replaces] using proper.2

/-- **The segments of a buffer reached by any calls cover both texts**, and the text has grown by what the calls
add up to. -/
theorem segments_run (base : Text) (calls : List Call) :
    let b := (ofText base).run calls
    let made := (ofText base).accepted calls
    Tiled base b.toText made b.positionMap.segments ∧ b.positionMap.delta = (made.map Call.growth).sum := by
  intro b made
  have sound : b.Sound := ofText_sound base calls
  have same : b.base = base := run_base _ _
  have traces := segments_edited base calls
  refine ⟨⟨?_, fun s member kept => ?_, fun s member edited => ?_, traces⟩, delta_run base calls⟩
  · have ends := segments_endToEnd sound
    rwa [same] at ends
  · have inPieces : s.piece b.toText ∈ b.pieces := by
      rw [← segments_piece b]
      exact List.mem_map_of_mem member
    obtain ⟨proper, shown⟩ := (pieces_fits sound inPieces).shows kept
    rw [same] at shown
    exact ⟨proper, shown.symm⟩
  · have inTraces : s.piece b.toText ∈ editedPieces made :=
      traces.mem_iff.1 (List.mem_map_of_mem (List.mem_filter.2 ⟨member, edited⟩))
    rcases editedPieces_cases inTraces with ⟨hollow, shown⟩ | ⟨proper, replaced⟩
    · exact .inl ⟨hollow, Text.lt_of_slice_ne_nil shown⟩
    · exact .inr ⟨proper, replaced⟩

end Buffer

end Graft.Edit
