/-
# Graft.Proofs.Edit.Layout -- the edits in layout order

`ranked` sorts the edits by where they begin, insertions before the overwrite at one offset, and otherwise
as they were made.  The sort is stable: edits that are laid out alike keep their order (`ranked_filter`).

In a sound buffer no edit begins before the one laid out before it has ended (`ranked_chained`).  That is all
the layout needs: `layOut` then walks the base text once, from left to right.  What is put in front is laid out as
if it were inserted before all edits (`pieces_eq`).
-/
import Graft.Proofs.Edit.Calls

namespace Graft.Edit

set_option autoImplicit false

/-! ## The order -/

theorem precedes_iff (e e' : Edit) :
    e.precedes e' = true ↔
      e.start < e'.start ∨ e.start = e'.start ∧ (e.isOverwrite = true → e'.isOverwrite = true) := by
  cases h : e.isOverwrite <;> cases h' : e'.isOverwrite <;> simp [precedes, h, h']

theorem precedes_trans {e e' e'' : Edit} (first : e.precedes e' = true) (second : e'.precedes e'' = true) :
    e.precedes e'' = true := by
  rw [precedes_iff] at first second ⊢
  rcases first with before | ⟨same, kind⟩ <;> rcases second with before' | ⟨same', kind'⟩
  · exact .inl (by omega)
  · exact .inl (by omega)
  · exact .inl (by omega)
  · exact .inr ⟨by omega, fun overwrites => kind' (kind overwrites)⟩

theorem precedes_of_not {e e' : Edit} (not_ : ¬ e.precedes e' = true) : e'.precedes e = true := by
  rw [precedes_iff] at not_ ⊢
  rcases Nat.lt_trichotomy e.start e'.start with before | same | after
  · exact absurd (.inl before) not_
  · refine .inr ⟨same.symm, fun _ => ?_⟩
    by_contra plain
    exact not_ (.inr ⟨same, fun overwrites => absurd overwrites plain⟩)
  · exact .inl after

/-- The edits are in layout order. -/
def Ranked (es : List Edit) : Prop := es.Pairwise fun e e' => e.precedes e' = true

namespace Buffer

theorem place_perm (e : Edit) (es : List Edit) : (place e es).Perm (e :: es) := by
  induction es with
  | nil => exact .refl _
  | cons other rest ih =>
      simp only [place]
      split
      · exact (ih.cons other).trans (.swap e other rest)
      · exact .refl _

theorem place_ranked {e : Edit} {es : List Edit} (sorted : Ranked es) : Ranked (place e es) := by
  induction es with
  | nil => exact List.pairwise_singleton _ _
  | cons other rest ih =>
      obtain ⟨least, tail⟩ := List.pairwise_cons.1 sorted
      simp only [place]
      split
      · rename_i before
        refine List.pairwise_cons.2 ⟨fun x member => ?_, ih tail⟩
        rcases List.mem_cons.1 ((place_perm e rest).mem_iff.1 member) with rfl | later
        · exact before
        · exact least x later
      · rename_i after
        have first := precedes_of_not after
        refine List.pairwise_cons.2 ⟨fun x member => ?_, sorted⟩
        rcases List.mem_cons.1 member with rfl | later
        · exact first
        · exact precedes_trans first (least x later)

/-- The sort is stable: an edit is placed after the edits that are laid out alike. -/
theorem place_filter {e : Edit} {es : List Edit} (p : Edit → Bool) (sorted : Ranked es)
    (alike : p e = true → ∀ x, p x = true → x.precedes e = true) :
    (place e es).filter p = es.filter p ++ [e].filter p := by
  induction es with
  | nil => rfl
  | cons other rest ih =>
      obtain ⟨least, tail⟩ := List.pairwise_cons.1 sorted
      simp only [place]
      split
      · rw [List.filter_cons, List.filter_cons, ih tail]
        split <;> rfl
      · rename_i after
        cases picked : p e with
        | false => simp [picked]
        | true =>
            have none_ : (other :: rest).filter p = [] := by
              refine List.filter_eq_nil_iff.2 fun x member holds => after ?_
              rcases List.mem_cons.1 member with rfl | later
              · exact alike picked x holds
              · exact precedes_trans (least x later) (alike picked x holds)
            rw [List.filter_cons, if_pos picked, none_]
            simp [picked]

theorem foldl_place_ranked {placed : List Edit} (es : List Edit) (sorted : Ranked placed) :
    Ranked (es.foldl (fun placed e => place e placed) placed) := by
  induction es generalizing placed with
  | nil => exact sorted
  | cons e rest ih => exact ih (place_ranked sorted)

theorem foldl_place_perm (placed es : List Edit) :
    (es.foldl (fun placed e => place e placed) placed).Perm (placed ++ es) := by
  induction es generalizing placed with
  | nil => simp
  | cons e rest ih =>
      refine (ih (place e placed)).trans (((place_perm e placed).append_right rest).trans ?_)
      exact List.perm_middle.symm

theorem foldl_place_filter {placed : List Edit} (es : List Edit) (p : Edit → Bool) (sorted : Ranked placed)
    (alike : ∀ e x, p e = true → p x = true → x.precedes e = true) :
    (es.foldl (fun placed e => place e placed) placed).filter p = placed.filter p ++ es.filter p := by
  induction es generalizing placed with
  | nil => simp
  | cons e rest ih =>
      simp only [List.foldl_cons]
      rw [ih (place_ranked sorted), place_filter p sorted fun holds x => alike e x holds, List.append_assoc,
        ← List.filter_append]
      rfl

theorem ranked_ranked (b : Buffer) : Ranked b.ranked := foldl_place_ranked b.edits List.Pairwise.nil

theorem ranked_perm (b : Buffer) : b.ranked.Perm b.edits := foldl_place_perm [] b.edits

/-- Edits that are laid out alike keep the order in which they were made. -/
theorem ranked_filter (b : Buffer) (p : Edit → Bool)
    (alike : ∀ e x, p e = true → p x = true → x.precedes e = true) :
    b.ranked.filter p = b.edits.filter p :=
  foldl_place_filter b.edits p List.Pairwise.nil alike

end Buffer

/-! ## Edits one after the other -/

/-- Each edit ends before the next one begins, all from `pos` on and within a text of this length. -/
structure Chained (length pos : Nat) (es : List Edit) : Prop where
  chain : es.Pairwise fun e e' => e.stop ≤ e'.start
  within : ∀ e ∈ es, e.InRange length
  from_ : ∀ e ∈ es, pos ≤ e.start

theorem Chained.tail {length pos : Nat} {e : Edit} {es : List Edit} (chained : Chained length pos (e :: es)) :
    Chained length e.stop es where
  chain := (List.pairwise_cons.1 chained.chain).2
  within := fun x member => chained.within x (List.mem_cons_of_mem e member)
  from_ := (List.pairwise_cons.1 chained.chain).1

theorem Chained.head {length pos : Nat} {e : Edit} {es : List Edit} (chained : Chained length pos (e :: es)) :
    pos ≤ e.start ∧ e.start ≤ e.stop ∧ e.stop ≤ length :=
  have within := chained.within e List.mem_cons_self
  ⟨chained.from_ e List.mem_cons_self, within.start_le_stop, within.stop_le⟩

/-- Two edits that stand apart follow each other in layout order. -/
theorem stop_le_start {length : Nat} {e e' : Edit} (within : e.InRange length) (within' : e'.InRange length)
    (apart : e.Apart e') (order : e.precedes e' = true) : e.stop ≤ e'.start := by
  rw [precedes_iff] at order
  cases e <;> cases e' <;>
    simp [InRange, Apart, start, stop, isOverwrite] at within within' apart order ⊢ <;>
    omega

namespace Buffer

/-- An edit is read off its piece; one that leaves no piece has nothing to read. -/
theorem laid_flatMap {α : Type} {f : Piece → List α} (e : Edit)
    (nothing : e.content = [] → f ⟨e.start, e.stop, e.content, true⟩ = []) :
    (laid e).flatMap f = f ⟨e.start, e.stop, e.content, true⟩ := by
  unfold laid
  split
  · rw [List.flatMap_singleton]
  · rename_i trace
    have empty : e.content = [] := by simpa using (Bool.or_eq_false_iff.1 (Bool.eq_false_iff.2 trace)).2
    rw [nothing empty]
    rfl

/-- What is put in front is laid out like an insertion before all others. -/
theorem pieces_eq (b : Buffer) :
    b.pieces = laid (.insertion 0 b.intro.flatten) ++ layOut b.base 0 b.ranked := by
  rw [pieces]
  congr 1
  cases b.intro.flatten <;> rfl

/-- **In a sound buffer the edits in layout order follow each other.** -/
theorem ranked_chained {b : Buffer} (sound : b.Sound) : Chained b.base.length 0 b.ranked where
  chain := by
    have within : ∀ e ∈ b.ranked, e.InRange b.base.length := fun e member =>
      sound.inRange e (b.ranked_perm.mem_iff.1 member)
    have apart : b.ranked.Pairwise Edit.Apart :=
      b.ranked_perm.symm.pairwise sound.apart Apart.symm
    refine (apart.and b.ranked_ranked).imp_of_mem ?_
    intro e e' member member' both
    exact stop_le_start (within e member) (within e' member') both.1 both.2
  within := fun e member => sound.inRange e (b.ranked_perm.mem_iff.1 member)
  from_ := fun _ _ => Nat.zero_le _

end Buffer

end Graft.Edit
