/-
# Graft.Proofs.Edit.Acceptance -- which calls a buffer takes

A call ends in one of three ways: it is accepted, an offset that it names is not in the text, or it conflicts
with what was done before.  Which way depends on nothing but the length of the text and the calls accepted until
then (`run_decides`):

* An overwrite conflicts if its range is empty, has an offset in common with a range overwritten earlier, or
  has an earlier insertion strictly inside, be it one of nothing.
* An insertion conflicts strictly inside a range overwritten earlier, and nowhere else.

A refused call returns no buffer, so what follows works on the buffer from before, and a run reaches what its
accepted calls reach alone (`run_accepted`).

Whether one call bars another does not depend on which comes first.  So a list of calls is accepted as a whole if
each of them fits the text and no two of them bar each other (`perform_ok_iff`).
-/
import Graft.Proofs.Edit.Calls
import Mathlib.Data.List.Induction

namespace Graft.Edit

set_option autoImplicit false

/-- How a call ends. -/
inductive Ending where
  | accepted
  | outOfRange
  | conflict
  deriving DecidableEq, Repr

/-- The ending that two conditions leave, the first of which is looked at first. -/
def Ending.Follows (inText fits : Prop) : Ending → Prop
  | .outOfRange => ¬ inText
  | .conflict => inText ∧ ¬ fits
  | .accepted => inText ∧ fits

theorem Ending.Follows.iffs {inText fits : Prop} {e : Ending} (follows : e.Follows inText fits) :
    (e = .outOfRange ↔ ¬ inText) ∧ (e = .conflict ↔ inText ∧ ¬ fits) ∧ (e = .accepted ↔ inText ∧ fits) := by
  cases e <;> simp only [Follows] at follows <;> simp [follows]

theorem Ending.Follows.congr {inText fits fits' : Prop} {e : Ending} (same : inText → (fits ↔ fits'))
    (follows : e.Follows inText fits) : e.Follows inText fits' := by
  cases e with
  | outOfRange => exact follows
  | conflict => exact ⟨follows.1, fun holds => follows.2 ((same follows.1).2 holds)⟩
  | accepted => exact ⟨follows.1, (same follows.1).1 follows.2⟩

def EditFault.ending : EditFault → Ending
  | .indexOutOfRange _ => .outOfRange
  | _ => .conflict

theorem refusesInsertion?_ending {index : Nat} {e : Edit} {fault : EditFault}
    (refuses : e.refusesInsertion? index = some fault) : fault.ending = .conflict := by
  unfold refusesInsertion? at refuses
  split at refuses
  · simp at refuses
  · obtain ⟨-, cause⟩ := Option.ite_none_right_eq_some.1 refuses
    exact Option.some.inj cause ▸ rfl

theorem refusesOverwrite?_ending {start stop : Nat} {e : Edit} {fault : EditFault}
    (refuses : e.refusesOverwrite? start stop = some fault) : fault.ending = .conflict := by
  unfold refusesOverwrite? at refuses
  split at refuses <;> obtain ⟨-, cause⟩ := Option.ite_none_right_eq_some.1 refuses <;>
    exact Option.some.inj cause ▸ rfl

namespace Buffer

/-- How a call on a buffer ends. -/
def ending (b : Buffer) (c : Call) : Ending :=
  match b.call c with
  | .ok _ => .accepted
  | .error fault => fault.ending

/-! ## The rules -/

namespace Call

/-- The offsets of the call are in a text of this length. -/
def InText (length : Nat) : Call → Prop
  | .prepend _ => True
  | .insert index _ => 0 ≤ index ∧ index ≤ length
  | .overwrite start stop _ => (0 ≤ start ∧ start ≤ length) ∧ 0 ≤ stop ∧ stop ≤ length

/-- The call would overwrite an empty range. -/
def Hollow : Call → Prop
  | .overwrite start stop _ => stop ≤ start
  | _ => False

/-- The first call, made earlier, does not let the second one be made. -/
def Bars : Call → Call → Prop
  | .overwrite s e _, .overwrite start stop _ => ∃ k, (s ≤ k ∧ k < e) ∧ start ≤ k ∧ k < stop
  | .insert index _, .overwrite start stop _ => start < index ∧ index < stop
  | .overwrite s e _, .insert index _ => s < index ∧ index < e
  | _, _ => False

/-- The call conflicts neither by itself nor with an earlier one. -/
def Fits (earlier : List Call) (c : Call) : Prop := ¬ c.Hollow ∧ ∀ d ∈ earlier, ¬ d.Bars c

end Call

/-! ## What one call meets -/

theorem offset?_cases (b : Buffer) (index : Int) :
    ((0 ≤ index ∧ index ≤ b.base.length) ∧ b.offset? index = .ok index.toNat) ∨
      (¬ (0 ≤ index ∧ index ≤ b.base.length) ∧ b.offset? index = .error (.indexOutOfRange index)) := by
  unfold offset?
  split
  · exact .inr ⟨by omega, rfl⟩
  · exact .inl ⟨by omega, rfl⟩

theorem insert_ending (b : Buffer) (index : Int) (content : Text) :
    (b.ending (.insert index content)).Follows (0 ≤ index ∧ index ≤ b.base.length)
      (∀ e ∈ b.edits, e.Apart (.insertion index.toNat content)) := by
  simp only [ending, call, insert]
  rcases b.offset?_cases index with ⟨inText, found⟩ | ⟨outside, found⟩ <;>
    simp only [found, bind, Except.bind]
  · cases refused : b.edits.findSome? (·.refusesInsertion? index.toNat) with
    | some fault =>
        obtain ⟨e, member, refuses⟩ := List.exists_of_findSome?_eq_some refused
        simp only [refusesInsertion?_ending refuses]
        refine ⟨inText, fun apart => ?_⟩
        rw [(e.refusesInsertion?_eq_none_iff _ content).2 (apart e member)] at refuses
        simp at refuses
    | none =>
        refine ⟨inText, fun e member => ?_⟩
        exact (e.refusesInsertion?_eq_none_iff _ content).1 (List.findSome?_eq_none_iff.1 refused e member)
  · exact outside

theorem overwrite_ending (b : Buffer) (start stop : Int) (content : Text) :
    (b.ending (.overwrite start stop content)).Follows
      ((0 ≤ start ∧ start ≤ b.base.length) ∧ 0 ≤ stop ∧ stop ≤ b.base.length)
      (start < stop ∧ ∀ e ∈ b.edits, e.Apart (.overwrite start.toNat stop.toNat content)) := by
  simp only [ending, call, overwrite]
  rcases b.offset?_cases start with ⟨inText, found⟩ | ⟨outside, found⟩ <;>
    simp only [found, bind, Except.bind]
  · rcases b.offset?_cases stop with ⟨inText', found'⟩ | ⟨outside, found'⟩ <;> simp only [found']
    · by_cases proper : start < stop
      · rw [if_neg (by omega)]
        cases refused : b.edits.findSome? (·.refusesOverwrite? start.toNat stop.toNat) with
        | some fault =>
            obtain ⟨e, member, refuses⟩ := List.exists_of_findSome?_eq_some refused
            simp only [refusesOverwrite?_ending refuses]
            refine ⟨⟨inText, inText'⟩, fun fits => ?_⟩
            rw [(e.refusesOverwrite?_eq_none_iff _ _ content).2 (fits.2 e member)] at refuses
            simp at refuses
        | none =>
            refine ⟨⟨inText, inText'⟩, proper, fun e member => ?_⟩
            exact (e.refusesOverwrite?_eq_none_iff _ _ content).1 (List.findSome?_eq_none_iff.1 refused e member)
      · rw [if_pos (by omega)]
        exact ⟨⟨inText, inText'⟩, fun fits => proper fits.1⟩
    · exact fun both => outside both.2
  · exact fun both => outside both.1

/-! ## Edits stand for the calls that made them -/

/-- A call bars another exactly if their edits cannot stand beside each other. -/
theorem bars_iff {length : Nat} {c d : Call} {x e : Edit} (made : d.edit? = some x) (asked : c.edit? = some e)
    (proper : d.Proper) (inText : c.InText length) (solid : ¬ c.Hollow) : d.Bars c ↔ ¬ x.Apart e := by
  cases d <;> cases c <;> simp only [Call.edit?, reduceCtorEq, Option.some.injEq] at made asked <;>
    subst made asked <;>
    simp only [Call.Bars, Call.Proper, Call.InText, Call.Hollow, Edit.Apart, not_true, not_or] at *
  case insert.overwrite => omega
  case overwrite.insert => omega
  case overwrite.overwrite s _ _ start _ _ =>
    constructor
    · rintro ⟨k, _, _⟩
      omega
    · intro meets
      exact ⟨max s start, by omega, by omega⟩

/-- What fits beside the edits of a run fits beside its accepted calls. -/
theorem run_fits_iff (base : Text) (calls : List Call) {c : Call} {e : Edit} (asked : c.edit? = some e)
    (inText : c.InText base.length) (solid : ¬ c.Hollow) :
    (∀ x ∈ ((ofText base).run calls).edits, x.Apart e) ↔ ∀ d ∈ (ofText base).accepted calls, ¬ d.Bars c := by
  rw [ofText_edits, List.forall_mem_filterMap]
  refine forall₂_congr fun d member => ?_
  cases made : d.edit? with
  | none =>
      obtain ⟨content, rfl⟩ : ∃ content, d = .prepend content := by
        cases d <;> simp [Call.edit?] at made ⊢
      simp [Call.Bars]
  | some x => simp [bars_iff made asked (accepted_proper member) inText solid]

theorem run_ending (base : Text) (calls : List Call) (c : Call) :
    (((ofText base).run calls).ending c).Follows (c.InText base.length)
      (c.Fits ((ofText base).accepted calls)) := by
  have same : ((ofText base).run calls).base = base := run_base _ _
  cases c with
  | prepend content => exact ⟨trivial, fun hollow => hollow, fun d _ => by cases d <;> simp [Call.Bars]⟩
  | insert index content =>
      have follows := ((ofText base).run calls).insert_ending index content
      rw [same] at follows
      refine follows.congr fun inText => ?_
      rw [run_fits_iff base calls (c := .insert index content) rfl inText (fun hollow => hollow)]
      simp [Call.Fits, Call.Hollow]
  | overwrite start stop content =>
      have follows := ((ofText base).run calls).overwrite_ending start stop content
      rw [same] at follows
      refine follows.congr fun inText => ?_
      simp only [Call.Fits, Call.Hollow, Int.not_le]
      refine and_congr_right fun proper => ?_
      exact run_fits_iff base calls (c := .overwrite start stop content) rfl inText
        (by simpa [Call.Hollow] using proper)

/-! ## Refused calls leave no trace -/

theorem run_append (b : Buffer) (calls more : List Call) : b.run (calls ++ more) = (b.run calls).run more := by
  induction calls generalizing b with
  | nil => rfl
  | cons c rest ih =>
      simp only [List.cons_append, run]
      split
      · exact ih _
      · exact ih b

theorem run_refused {b : Buffer} {c : Call} (refused : b.ending c ≠ .accepted) (more : List Call) :
    b.run (c :: more) = b.run more := by
  unfold ending at refused
  rw [run]
  cases called : b.call c with
  | ok taken =>
      rw [called] at refused
      exact absurd rfl refused
  | error fault => rfl

/-- The accepted calls of a run make the same run by themselves. -/
theorem run_accepted (b : Buffer) (calls : List Call) : b.run (b.accepted calls) = b.run calls := by
  induction calls generalizing b with
  | nil => rfl
  | cons c rest ih =>
      simp only [run, accepted]
      split
      · rename_i b' taken
        simp only [run, taken]
        exact ih b'
      · exact ih b

/-- **How a call ends is decided by the length of the text and the calls accepted before it.**  A refused call
leaves no trace in what follows, and in every buffer that is reached the edits lie in the text and stand
apart. -/
theorem run_decides (base : Text) (calls : List Call) (c : Call) :
    let b := (ofText base).run calls
    let earlier := (ofText base).accepted calls
    (b.ending c = .outOfRange ↔ ¬ c.InText base.length) ∧
      (b.ending c = .conflict ↔ c.InText base.length ∧ (c.Hollow ∨ ∃ d ∈ earlier, d.Bars c)) ∧
      (b.ending c = .accepted ↔ c.InText base.length ∧ ¬ c.Hollow ∧ ∀ d ∈ earlier, ¬ d.Bars c) ∧
      (b.ending c ≠ .accepted → ∀ more, (ofText base).run (calls ++ c :: more) = (ofText base).run (calls ++ more)) ∧
      (ofText base).run earlier = b ∧ b.Sound := by
  intro b earlier
  obtain ⟨outOfRange, conflict, accepted_⟩ := (run_ending base calls c).iffs
  refine ⟨outOfRange, conflict.trans (and_congr_right fun _ => ?_), accepted_, fun refused more => ?_,
    run_accepted _ calls, run_sound (sound_ofText base) calls⟩
  · simp only [Call.Fits, not_and_or, not_not, not_forall, exists_prop]
    rfl
  · rw [run_append, run_append, run_refused refused]

/-! ## Calls that are all accepted -/

/-- The buffer after calls, if none of them is refused. -/
def perform (b : Buffer) (calls : List Call) : Except EditFault Buffer := calls.foldlM call b

theorem perform_ok {b b' : Buffer} {calls : List Call} (performed : b.perform calls = .ok b') :
    b.accepted calls = calls ∧ b.run calls = b' := by
  induction calls generalizing b with
  | nil => exact ⟨rfl, Except.ok.inj performed⟩
  | cons c rest ih =>
      rw [perform, List.foldlM_cons] at performed
      cases called : b.call c with
      | error fault => simp [called, bind, Except.bind] at performed
      | ok b₁ =>
          simp only [called, bind, Except.bind] at performed
          obtain ⟨taken, reached⟩ := ih performed
          simp only [accepted, run, called, taken, reached, and_self]

theorem ending_eq_accepted_iff (b : Buffer) (c : Call) : b.ending c = .accepted ↔ ∃ b', b.call c = .ok b' := by
  unfold ending
  cases called : b.call c with
  | ok b' => simp
  | error fault => cases fault <;> simp [EditFault.ending]

theorem Call.Bars.symm {c d : Call} (bars : d.Bars c) : c.Bars d := by
  cases c <;> cases d <;> simp only [Call.Bars] at bars ⊢
  case overwrite.overwrite =>
    obtain ⟨k, inFirst, inSecond⟩ := bars
    exact ⟨k, inSecond, inFirst⟩
  all_goals exact bars

/-- **Calls are all accepted** exactly if each has its offsets in the text and a range to replace, and no two of
them bar each other. -/
theorem perform_ok_iff (base : Text) (calls : List Call) :
    (∃ b, (ofText base).perform calls = .ok b) ↔
      (∀ c ∈ calls, c.InText base.length ∧ ¬ c.Hollow) ∧ calls.Pairwise fun d c => ¬ d.Bars c := by
  induction calls using List.reverseRecOn with
  | nil => simp [perform, pure, Except.pure]
  | append_singleton calls c ih =>
      have step : (∃ b, (ofText base).perform (calls ++ [c]) = .ok b) ↔
          (∃ b, (ofText base).perform calls = .ok b) ∧
            (c.InText base.length ∧ ¬ c.Hollow ∧ ∀ d ∈ calls, ¬ d.Bars c) := by
        rw [perform, List.foldlM_append]
        cases performed : (ofText base).perform calls with
        | error fault =>
            rw [perform] at performed
            simp [performed, bind, Except.bind]
        | ok b =>
            obtain ⟨taken, reached⟩ := perform_ok performed
            have last := (run_ending base calls c).iffs.2.2
            rw [taken, reached, ending_eq_accepted_iff, Call.Fits] at last
            rw [perform] at performed
            simp only [performed, bind, Except.bind, List.foldlM_cons, List.foldlM_nil, pure, Except.pure,
              Except.ok.injEq, exists_eq', true_and, ← last]
            cases b.call c <;> simp
      rw [step, ih, List.pairwise_append, List.forall_mem_append, List.forall_mem_singleton]
      simp only [List.pairwise_singleton, List.forall_mem_singleton]
      tauto

/-- The accepted calls of a run are all accepted when they are made alone. -/
theorem perform_accepted (b : Buffer) (calls : List Call) : b.perform (b.accepted calls) = .ok (b.run calls) := by
  induction calls generalizing b with
  | nil => rfl
  | cons c rest ih =>
      simp only [run, accepted]
      split
      · rename_i b' taken
        rw [perform, List.foldlM_cons, taken]
        exact ih b'
      · exact ih b

theorem accepted_fits (base : Text) (calls : List Call) :
    (∀ c ∈ (ofText base).accepted calls, c.InText base.length ∧ ¬ c.Hollow) ∧
      ((ofText base).accepted calls).Pairwise fun d c => ¬ d.Bars c :=
  (perform_ok_iff base _).1 ⟨_, perform_accepted _ _⟩

end Buffer

end Graft.Edit
