/-
# Graft.Proofs.Edit.Permutation -- the order in which edits are made

Calls that are all accepted can be made in any other order, and they are accepted again: whether one call bars
another does not depend on which comes first (`perform_ok_iff`).

The order shows in the output only where texts are added at one place, since those stand in the order of their
calls.  All else is settled by the layout order: a list of edits in layout order is known from its edits of each
kind at each offset (`ranked_unique`), and two overwrites that begin at one offset do not stand apart.  So as long
as the texts added at one place keep their order, the output, its position map and its source map stay the same
(`perform_perm`).
-/
import Graft.SourceMap.Mappings
import Graft.Proofs.Edit.Acceptance
import Graft.Proofs.Edit.Reference

namespace Graft.Edit

set_option autoImplicit false

/-! ## Lists in layout order -/

theorem precedes_refl (e : Edit) : e.precedes e = true := (precedes_iff e e).2 (.inr ⟨rfl, id⟩)

/-- The edits are laid out alike: only the order of the calls decides between them. -/
def alike (e x : Edit) : Bool := e.precedes x && x.precedes e

/-- **A list in layout order is known from the edits that are laid out alike.** -/
theorem ranked_unique {es es' : List Edit} (sorted : Ranked es) (sorted' : Ranked es')
    (same : ∀ x, es.filter (alike x) = es'.filter (alike x)) : es = es' := by
  induction es generalizing es' with
  | nil =>
      cases es' with
      | nil => rfl
      | cons e' rest' =>
          have own := same e'
          rw [List.filter_cons_of_pos (by simp [alike, precedes_refl])] at own
          simp at own
  | cons e rest ih =>
      obtain ⟨least, tail⟩ := List.pairwise_cons.1 sorted
      have own := same e
      rw [List.filter_cons_of_pos (by simp [alike, precedes_refl])] at own
      cases es' with
      | nil => simp at own
      | cons e' rest' =>
          obtain ⟨least', tail'⟩ := List.pairwise_cons.1 sorted'
          -- Each list has the head of the other, and no edit is laid out before a head.
          have inSecond : e ∈ e' :: rest' := (List.mem_filter.1 (own ▸ List.mem_cons_self)).1
          have inFirst : e' ∈ e :: rest := by
            have own' := same e'
            rw [List.filter_cons_of_pos (l := rest') (by simp [alike, precedes_refl])] at own'
            exact (List.mem_filter.1 (own' ▸ List.mem_cons_self)).1
          have after : e.precedes e' = true := by
            rcases List.mem_cons.1 inFirst with rfl | later
            · exact precedes_refl _
            · exact least e' later
          have after' : e'.precedes e = true := by
            rcases List.mem_cons.1 inSecond with rfl | later
            · exact precedes_refl _
            · exact least' e later
          rw [List.filter_cons_of_pos (by simp [alike, after, after'])] at own
          obtain ⟨rfl, -⟩ := List.cons.inj own
          congr 1
          refine ih tail tail' fun x => ?_
          have here := same x
          by_cases picked : alike x e = true
          · rw [List.filter_cons_of_pos picked, List.filter_cons_of_pos picked] at here
            exact (List.cons.inj here).2
          · rwa [List.filter_cons_of_neg picked, List.filter_cons_of_neg picked] at here

namespace Buffer

theorem alike_insertion (i : Nat) (content : Text) : alike (.insertion i content) = insertsAt i := by
  funext e
  rw [Bool.eq_iff_iff, alike, Bool.and_eq_true, precedes_iff, precedes_iff]
  cases e <;> simp [insertsAt, isOverwrite, Edit.start] <;> omega

theorem alike_overwrite (start stop : Nat) (content : Text) :
    alike (.overwrite start stop content) = replacesFrom start := by
  funext e
  rw [Bool.eq_iff_iff, alike, Bool.and_eq_true, precedes_iff, precedes_iff]
  cases e <;> simp [replacesFrom, isOverwrite, Edit.start] <;> omega

theorem ranked_alike (b : Buffer) (x : Edit) : b.ranked.filter (alike x) = b.edits.filter (alike x) := by
  refine b.ranked_filter _ fun e y first second => ?_
  simp only [alike, Bool.and_eq_true] at first second
  exact precedes_trans second.2 first.1

/-- At most one overwrite begins at an offset. -/
theorem Sound.replacesFrom_cases {b : Buffer} (sound : b.Sound) (i : Nat) :
    b.edits.filter (replacesFrom i) = [] ∨ ∃ e, b.edits.filter (replacesFrom i) = [e] := by
  have member : ∀ e ∈ b.edits.filter (replacesFrom i), e.InRange b.base.length ∧ replacesFrom i e = true :=
    fun e inFilter => ⟨sound.inRange e (List.mem_filter.1 inFilter).1, (List.mem_filter.1 inFilter).2⟩
  have apart := sound.apart.filter (replacesFrom i)
  cases found : b.edits.filter (replacesFrom i) with
  | nil => exact .inl rfl
  | cons e rest =>
      cases rest with
      | nil => exact .inr ⟨e, rfl⟩
      | cons e' rest =>
          rw [found] at member apart
          have beside := (List.pairwise_cons.1 apart).1 e' List.mem_cons_self
          have first := member e List.mem_cons_self
          have second := member e' (List.mem_cons_of_mem e List.mem_cons_self)
          cases e <;> cases e' <;>
            simp [replacesFrom, isOverwrite, Edit.start, InRange, Apart] at beside first second
          omega

/-- **The layout order forgets the order of the calls**, but for the insertions at one offset. -/
theorem ranked_perm_eq {b b' : Buffer} (sound : b.Sound) (perm : b'.edits.Perm b.edits)
    (order : ∀ i, b'.edits.filter (insertsAt i) = b.edits.filter (insertsAt i)) : b'.ranked = b.ranked := by
  refine ranked_unique b'.ranked_ranked b.ranked_ranked fun x => ?_
  rw [ranked_alike, ranked_alike]
  cases x with
  | insertion i content =>
      rw [alike_insertion]
      exact order i
  | overwrite start stop content =>
      rw [alike_overwrite]
      have permuted := perm.filter (replacesFrom start)
      rcases sound.replacesFrom_cases start with none_ | ⟨e, one⟩
      · rw [none_] at permuted ⊢
        exact List.perm_nil.1 permuted
      · rw [one] at permuted ⊢
        exact List.perm_singleton.1 permuted

/-! ## Texts that are added at one place -/

/-- The call adds a text at an offset, or in front of everything. -/
def Call.addsAt (place : Option Int) : Call → Bool
  | .prepend _ => place == none
  | .insert index _ => place == some index
  | .overwrite .. => false

theorem filterMap_addsAt_front (calls : List Call) :
    (calls.filter (·.addsAt none)).filterMap Call.intro? = calls.filterMap Call.intro? := by
  rw [List.filterMap_filter]
  refine List.filterMap_congr fun c _ => ?_
  cases c <;> rfl

theorem filterMap_addsAt {calls : List Call} (proper : ∀ c ∈ calls, c.Proper) (i : Nat) :
    (calls.filter (·.addsAt (some i))).filterMap Call.edit? = (calls.filterMap Call.edit?).filter (insertsAt i) := by
  rw [List.filterMap_filter, List.filter_filterMap]
  refine List.filterMap_congr fun c member => ?_
  have own := proper c member
  cases c with
  | prepend content => rfl
  | insert index content =>
      simp only [Call.Proper] at own
      have same : (Call.insert index content).addsAt (some (i : Int)) =
          insertsAt i (.insertion index.toNat content) := by
        rw [Bool.eq_iff_iff]
        simp only [Call.addsAt, insertsAt, isOverwrite, Edit.start, beq_iff_eq, Option.some.injEq, Bool.not_false,
          Bool.and_true]
        omega
      rw [same, Call.edit?, Option.filter_some]
  | overwrite start stop content =>
      rw [Call.edit?, Option.filter_some]
      simp [Call.addsAt, insertsAt, isOverwrite]

/-! ## Calls in another order -/

variable {base : Text} {calls calls' : List Call} {b b' : Buffer}

/-- What the edits of an output come to is all that its maps are made from. -/
theorem maps_congr (sameBase : b'.base = b.base) (samePieces : b'.pieces = b.pieces) :
    b'.toText = b.toText ∧ b'.positionMap = b.positionMap ∧
      ∀ source file, b'.sourceMap source file = b.sourceMap source file := by
  have text : b'.toText = b.toText := by rw [toText, toText, samePieces]
  have map : b'.positionMap = b.positionMap := by rw [positionMap, positionMap, samePieces, sameBase, text]
  have entries : SourceMap.entries b' = SourceMap.entries b := by
    simp only [SourceMap.entries, text, map, sameBase]
  refine ⟨text, map, fun source file => ?_⟩
  simp only [sourceMap, SourceMap.encodeMappings, sameBase, text, entries]

theorem perform_edits (performed : (ofText base).perform calls = .ok b) :
    b.base = base ∧ b.intro = (calls.filterMap Call.intro?).reverse ∧ b.edits = calls.filterMap Call.edit? ∧
      b.Sound ∧ ∀ c ∈ calls, c.Proper := by
  obtain ⟨taken, rfl⟩ := perform_ok performed
  have front := ofText_intro base calls
  have edits := ofText_edits base calls
  rw [taken] at front edits
  exact ⟨run_base _ _, front, edits, ofText_sound base calls, fun c member => accepted_proper (taken.symm ▸ member)⟩

theorem perform_pieces (performed : (ofText base).perform calls = .ok b)
    (performed' : (ofText base).perform calls' = .ok b') (perm : calls'.Perm calls)
    (order : ∀ place, calls'.filter (·.addsAt place) = calls.filter (·.addsAt place)) :
    b'.base = b.base ∧ b'.pieces = b.pieces := by
  obtain ⟨base_, front, edits, sound, proper⟩ := perform_edits performed
  obtain ⟨base_', front', edits', -, proper'⟩ := perform_edits performed'
  have sameFront : b'.intro = b.intro := by
    rw [front, front', ← filterMap_addsAt_front calls, ← filterMap_addsAt_front calls', order none]
  have sameRanked : b'.ranked = b.ranked := by
    refine ranked_perm_eq sound ?_ fun i => ?_
    · rw [edits, edits']
      exact perm.filterMap _
    · rw [edits, edits', ← filterMap_addsAt proper, ← filterMap_addsAt proper', order (some i)]
  exact ⟨base_'.trans base_.symm, by rw [pieces, pieces, sameFront, sameRanked, base_, base_']⟩

/-- **The order of the calls does not matter.**  Calls that are all accepted are all accepted in any other order.
If the texts that are added at one place keep their order, the output and both its maps are the same. -/
theorem perform_perm (perm : calls'.Perm calls) (performed : (ofText base).perform calls = .ok b) :
    ∃ b', (ofText base).perform calls' = .ok b' ∧
      ((∀ place, calls'.filter (·.addsAt place) = calls.filter (·.addsAt place)) →
        b'.toText = b.toText ∧ b'.positionMap = b.positionMap ∧
          ∀ source file, b'.sourceMap source file = b.sourceMap source file) := by
  obtain ⟨fits, apart⟩ := (perform_ok_iff base calls).1 ⟨b, performed⟩
  obtain ⟨b', performed'⟩ := (perform_ok_iff base calls').2
    ⟨fun c member => fits c (perm.mem_iff.1 member),
      perm.symm.pairwise apart fun clear bars => clear bars.symm⟩
  refine ⟨b', performed', fun order => ?_⟩
  obtain ⟨sameBase, samePieces⟩ := perform_pieces performed performed' perm order
  exact maps_congr sameBase samePieces

/-- Edits that meet at both ends of a range, made from the left and from the right. -/
def bracketed : List Call :=
  [.insert 1 "<".toList, .insert 1 "(".toList, .overwrite 1 3 "XY".toList, .insert 3 ">".toList]

def bracketedAnew : List Call :=
  [.insert 3 ">".toList, .insert 1 "<".toList, .overwrite 1 3 "XY".toList, .insert 1 "(".toList]

theorem perform_perm_bracketed :
    bracketedAnew.Perm bracketed ∧
      (∀ place, bracketedAnew.filter (·.addsAt place) = bracketed.filter (·.addsAt place)) ∧
      ∃ b b', (ofText "abcd".toList).perform bracketed = .ok b ∧
        (ofText "abcd".toList).perform bracketedAnew = .ok b' ∧ b.edits ≠ b'.edits ∧
        b.toText = "a<(XY>d".toList ∧ b'.toText = b.toText ∧ b'.positionMap = b.positionMap ∧
        ∀ source file, b'.sourceMap source file = b.sourceMap source file := by
  have perm : bracketedAnew.Perm bracketed := by decide
  have order : ∀ place, bracketedAnew.filter (·.addsAt place) = bracketed.filter (·.addsAt place) := by
    intro place
    cases place with
    | none => rfl
    | some k =>
        by_cases first : k = 1
        · subst first
          rfl
        · by_cases second : k = 3
          · subst second
            rfl
          · simp [bracketedAnew, bracketed, Call.addsAt, first, second]
  have performed : (ofText "abcd".toList).perform bracketed = .ok _ := rfl
  obtain ⟨b', performed', same⟩ := perform_perm perm performed
  exact ⟨perm, order, _, b', rfl, performed', by cases performed'; decide, by decide, same order⟩

end Buffer

end Graft.Edit
