/-
# Graft.Proofs.Edit.Calls -- buffers reached by calls

A buffer is worked with by three calls: put a text in front, insert at an offset, overwrite a range.  A call
is either accepted or refused, and a refused call is dropped (`Buffer.run`).  `accepted` lists the calls of
a run that were not refused, in order.

Every accepted call keeps the buffer `Sound`: its edits lie within the base text and stand apart from each
other.  `call_cases` says once what an accepted call can do, and everything about runs follows from it.
-/
import Graft.Edit.PositionMap
import Mathlib.Data.List.Basic
import Mathlib.Data.List.Pairwise

namespace Graft.Edit

set_option autoImplicit false

/-- The edit lies within a text of this length; an overwrite has something to replace. -/
def InRange (length : Nat) : Edit → Prop
  | .insertion index _ => index ≤ length
  | .overwrite start stop _ => start < stop ∧ stop ≤ length

/-- The two edits can stand beside each other, whichever is made first. -/
def Apart : Edit → Edit → Prop
  | .insertion _ _, .insertion _ _ => True
  | .insertion index _, .overwrite start stop _ => index ≤ start ∨ stop ≤ index
  | .overwrite start stop _, .insertion index _ => index ≤ start ∨ stop ≤ index
  | .overwrite start stop _, .overwrite start' stop' _ => stop ≤ start' ∨ stop' ≤ start

theorem Apart.symm {e e' : Edit} (apart : e.Apart e') : e'.Apart e := by
  cases e <;> cases e' <;> simp only [Apart] at apart ⊢ <;> omega

theorem InRange.start_le_stop {length : Nat} {e : Edit} (within : e.InRange length) :
    e.start ≤ e.stop := by
  cases e <;> simp only [InRange, start, stop] at within ⊢ <;> omega

theorem InRange.stop_le {length : Nat} {e : Edit} (within : e.InRange length) : e.stop ≤ length := by
  cases e <;> simp only [InRange, stop] at within ⊢ <;> omega

theorem refusesInsertion?_eq_none_iff (index : Nat) (content : Text) (e : Edit) :
    e.refusesInsertion? index = none ↔ e.Apart (.insertion index content) := by
  cases e with
  | insertion => simp [refusesInsertion?, Apart]
  | overwrite start stop _ =>
      simp only [refusesInsertion?, Apart, ite_eq_right_iff, reduceCtorEq, imp_false]
      omega

theorem refusesOverwrite?_eq_none_iff (start stop : Nat) (content : Text) (e : Edit) :
    e.refusesOverwrite? start stop = none ↔ e.Apart (.overwrite start stop content) := by
  cases e with
  | insertion index _ =>
      simp only [refusesOverwrite?, Apart, ite_eq_right_iff, reduceCtorEq, imp_false]
      omega
  | overwrite s t _ =>
      simp only [refusesOverwrite?, Apart, ite_eq_right_iff, reduceCtorEq, imp_false]
      omega

namespace Buffer

/-- The edits lie within the base text and stand apart from each other. -/
structure Sound (b : Buffer) : Prop where
  inRange : ∀ e ∈ b.edits, e.InRange b.base.length
  apart : b.edits.Pairwise Edit.Apart

theorem Sound.apart_of_ne {b : Buffer} (sound : b.Sound) {e e' : Edit} (member : e ∈ b.edits)
    (member' : e' ∈ b.edits) (other : e ≠ e') : e.Apart e' :=
  have : Std.Symm Edit.Apart := ⟨fun _ _ => Apart.symm⟩
  sound.apart.forall member member' other

theorem sound_ofText (base : Text) : (ofText base).Sound :=
  ⟨by simp [ofText], by simp [ofText]⟩

/-- The buffer with one more edit, made last. -/
def add (b : Buffer) (e : Edit) : Buffer := { b with edits := b.edits ++ [e] }

/-- The edit fits beside those that the buffer has. -/
def Admits (b : Buffer) (e : Edit) : Prop := e.InRange b.base.length ∧ ∀ x ∈ b.edits, x.Apart e

theorem Sound.add {b : Buffer} {e : Edit} (sound : b.Sound) (admits : b.Admits e) : (b.add e).Sound where
  inRange := by
    intro x member
    rcases List.mem_append.1 member with earlier | last
    · exact sound.inRange x earlier
    · rw [List.mem_singleton.1 last]
      exact admits.1
  apart := by
    refine List.pairwise_append.2 ⟨sound.apart, List.pairwise_singleton _ _, ?_⟩
    intro x earlier y last
    rw [List.mem_singleton.1 last]
    exact admits.2 x earlier

theorem offset?_eq_ok_iff (b : Buffer) (index : Int) (i : Nat) :
    b.offset? index = .ok i ↔ index = i ∧ i ≤ b.base.length := by
  unfold offset?
  split
  · simp only [reduceCtorEq, false_iff]
    omega
  · simp only [Except.ok.injEq]
    omega

theorem insert_eq_ok_iff (b b' : Buffer) (index : Int) (content : Text) :
    b.insert index content = .ok b' ↔
      ∃ i : Nat, index = i ∧ b.Admits (.insertion i content) ∧ b' = b.add (.insertion i content) := by
  constructor
  · intro accepted
    cases found : b.offset? index with
    | error fault => simp [insert, found, bind, Except.bind] at accepted
    | ok i =>
        obtain ⟨named, within⟩ := (b.offset?_eq_ok_iff index i).1 found
        simp only [insert, found, bind, Except.bind] at accepted
        split at accepted
        · simp at accepted
        · rename_i clear
          refine ⟨i, named, ⟨within, fun x member => ?_⟩, (Except.ok.inj accepted).symm⟩
          exact (x.refusesInsertion?_eq_none_iff i content).1 (List.findSome?_eq_none_iff.1 clear x member)
  · rintro ⟨i, rfl, ⟨within, clear⟩, rfl⟩
    have found := (b.offset?_eq_ok_iff i i).2 ⟨rfl, within⟩
    have none_ : b.edits.findSome? (·.refusesInsertion? i) = none :=
      List.findSome?_eq_none_iff.2 fun x member =>
        (x.refusesInsertion?_eq_none_iff i content).2 (clear x member)
    simp [insert, found, bind, Except.bind, none_, add]

theorem overwrite_eq_ok_iff (b b' : Buffer) (start stop : Int) (content : Text) :
    b.overwrite start stop content = .ok b' ↔
      ∃ s e : Nat, start = s ∧ stop = e ∧ b.Admits (.overwrite s e content) ∧
        b' = b.add (.overwrite s e content) := by
  constructor
  · intro accepted
    cases first : b.offset? start with
    | error fault => simp [overwrite, first, bind, Except.bind] at accepted
    | ok s =>
        cases second : b.offset? stop with
        | error fault => simp [overwrite, first, second, bind, Except.bind] at accepted
        | ok e =>
            obtain ⟨named, -⟩ := (b.offset?_eq_ok_iff start s).1 first
            obtain ⟨named', within⟩ := (b.offset?_eq_ok_iff stop e).1 second
            simp only [overwrite, first, second, bind, Except.bind] at accepted
            split at accepted
            · simp at accepted
            · rename_i proper
              split at accepted
              · simp at accepted
              · rename_i clear
                refine ⟨s, e, named, named', ⟨⟨by omega, within⟩, fun x member => ?_⟩,
                  (Except.ok.inj accepted).symm⟩
                exact (x.refusesOverwrite?_eq_none_iff s e content).1
                  (List.findSome?_eq_none_iff.1 clear x member)
  · rintro ⟨s, e, rfl, rfl, ⟨⟨proper, within⟩, clear⟩, rfl⟩
    have first := (b.offset?_eq_ok_iff s s).2 ⟨rfl, by omega⟩
    have second := (b.offset?_eq_ok_iff e e).2 ⟨rfl, within⟩
    have none_ : b.edits.findSome? (·.refusesOverwrite? s e) = none :=
      List.findSome?_eq_none_iff.2 fun x member =>
        (x.refusesOverwrite?_eq_none_iff s e content).2 (clear x member)
    simp [overwrite, first, second, bind, Except.bind, none_, add, Nat.not_le.2 proper]

/-! ## Calls and runs -/

/-- A call on a buffer.  Offsets are integers because a caller may give any. -/
inductive Call where
  | prepend (content : Text)
  | insert (index : Int) (content : Text)
  | overwrite (start stop : Int) (content : Text)
  deriving DecidableEq, Repr

/-- The buffer after a call, or why the call is refused. -/
def call (b : Buffer) : Call → Except EditFault Buffer
  | .prepend content => .ok (b.prepend content)
  | .insert index content => b.insert index content
  | .overwrite start stop content => b.overwrite start stop content

/-- The buffer after calls; refused calls are dropped. -/
def run (b : Buffer) : List Call → Buffer
  | [] => b
  | c :: rest =>
    match b.call c with
    | .ok b' => run b' rest
    | .error _ => run b rest

/-- The calls that are not refused. -/
def accepted (b : Buffer) : List Call → List Call
  | [] => []
  | c :: rest =>
    match b.call c with
    | .ok b' => c :: accepted b' rest
    | .error _ => accepted b rest

/-- The edit that a call makes, if it is accepted. -/
def Call.edit? : Call → Option Edit
  | .prepend _ => none
  | .insert index content => some (.insertion index.toNat content)
  | .overwrite start stop content => some (.overwrite start.toNat stop.toNat content)

/-- The text that a call puts in front. -/
def Call.intro? : Call → Option Text
  | .prepend content => some content
  | _ => none

/-- **What an accepted call does**: it puts a text in front, or adds one edit that the buffer admits. -/
theorem call_cases {b b' : Buffer} {c : Call} (accepted : b.call c = .ok b') :
    (∃ content, c = .prepend content ∧ b' = b.prepend content) ∨
    (∃ (i : Nat) (content : Text), c = .insert i content ∧ b.Admits (.insertion i content) ∧
      b' = b.add (.insertion i content)) ∨
    (∃ (s e : Nat) (content : Text), c = .overwrite s e content ∧ b.Admits (.overwrite s e content) ∧
      b' = b.add (.overwrite s e content)) := by
  cases c with
  | prepend content => exact .inl ⟨content, rfl, (Except.ok.inj accepted).symm⟩
  | insert index content =>
      obtain ⟨i, rfl, admits, rfl⟩ := (b.insert_eq_ok_iff b' index content).1 accepted
      exact .inr (.inl ⟨i, content, rfl, admits, rfl⟩)
  | overwrite start stop content =>
      obtain ⟨s, e, rfl, rfl, admits, rfl⟩ := (b.overwrite_eq_ok_iff b' start stop content).1 accepted
      exact .inr (.inr ⟨s, e, content, rfl, admits, rfl⟩)

theorem call_sound {b b' : Buffer} {c : Call} (sound : b.Sound) (accepted : b.call c = .ok b') :
    b'.Sound := by
  rcases call_cases accepted with ⟨content, -, rfl⟩ | ⟨i, content, -, admits, rfl⟩ |
    ⟨s, e, content, -, admits, rfl⟩
  · exact ⟨sound.inRange, sound.apart⟩
  · exact sound.add admits
  · exact sound.add admits

theorem run_sound {b : Buffer} (sound : b.Sound) (calls : List Call) : (b.run calls).Sound := by
  induction calls generalizing b with
  | nil => exact sound
  | cons c rest ih =>
      simp only [run]
      split
      · rename_i b' accepted
        exact ih (call_sound sound accepted)
      · exact ih sound

theorem run_base (b : Buffer) (calls : List Call) : (b.run calls).base = b.base := by
  induction calls generalizing b with
  | nil => rfl
  | cons c rest ih =>
      simp only [run]
      split
      · rename_i b' accepted
        rw [ih b']
        rcases call_cases accepted with ⟨_, -, rfl⟩ | ⟨_, _, -, -, rfl⟩ | ⟨_, _, _, -, -, rfl⟩ <;> rfl
      · exact ih b

/-- The edits of a run are those of the accepted calls, in the order of the calls. -/
theorem run_edits (b : Buffer) (calls : List Call) :
    (b.run calls).edits = b.edits ++ (b.accepted calls).filterMap Call.edit? := by
  induction calls generalizing b with
  | nil => simp [run, accepted]
  | cons c rest ih =>
      simp only [run, accepted]
      split
      · rename_i b' acceptedCall
        rw [ih b']
        rcases call_cases acceptedCall with ⟨_, rfl, rfl⟩ | ⟨_, _, rfl, -, rfl⟩ | ⟨_, _, _, rfl, -, rfl⟩ <;>
          simp [List.filterMap_cons, Call.edit?, prepend, add]
      · exact ih b

/-- The texts in front are those of the calls that put one there, the last one first. -/
theorem run_intro (b : Buffer) (calls : List Call) :
    (b.run calls).intro = ((b.accepted calls).filterMap Call.intro?).reverse ++ b.intro := by
  induction calls generalizing b with
  | nil => simp [run, accepted]
  | cons c rest ih =>
      simp only [run, accepted]
      split
      · rename_i b' acceptedCall
        rw [ih b']
        rcases call_cases acceptedCall with ⟨_, rfl, rfl⟩ | ⟨_, _, rfl, -, rfl⟩ | ⟨_, _, _, rfl, -, rfl⟩ <;>
          simp [List.filterMap_cons, Call.intro?, prepend, add]
      · exact ih b

section

variable (base : Text) (calls : List Call)

theorem ofText_sound : ((ofText base).run calls).Sound := run_sound (sound_ofText base) calls

theorem ofText_edits :
    ((ofText base).run calls).edits = ((ofText base).accepted calls).filterMap Call.edit? := by
  simpa [ofText] using run_edits (ofText base) calls

theorem ofText_intro :
    ((ofText base).run calls).intro = (((ofText base).accepted calls).filterMap Call.intro?).reverse := by
  simpa [ofText] using run_intro (ofText base) calls

end

/-- The offsets of a call are natural numbers, and a range is not empty. -/
def Call.Proper : Call → Prop
  | .prepend _ => True
  | .insert index _ => 0 ≤ index
  | .overwrite start stop _ => 0 ≤ start ∧ start < stop

theorem accepted_proper {b : Buffer} {calls : List Call} {c : Call} (member : c ∈ b.accepted calls) :
    c.Proper := by
  induction calls generalizing b with
  | nil => simp [accepted] at member
  | cons d rest ih =>
      simp only [accepted] at member
      split at member
      · rename_i b' acceptedCall
        rcases List.mem_cons.1 member with rfl | later
        · rcases call_cases acceptedCall with ⟨_, rfl, -⟩ | ⟨_, _, rfl, -, -⟩ | ⟨_, _, _, rfl, admits, -⟩
          · trivial
          · exact Int.natCast_nonneg _
          · exact ⟨Int.natCast_nonneg _, Int.ofNat_lt.2 admits.1.1⟩
        · exact ih later
      · exact ih member

end Buffer

end Graft.Edit
