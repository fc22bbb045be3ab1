/-
# Graft.Proofs.Edit.Growth -- where the offsets of the base text go

Each call lengthens the text by a number of characters, its `growth`; a call that shortens it has a negative one.
An offset is moved by the growth of the calls that are done up to it, and by nothing else (`toOutput_run`):

* A text in front moves every offset, an insertion every offset from its own on.
* An overwrite moves the offsets from the end of its range on.  The offsets inside the range all go where the
  start of the range goes, so each offset is carried like its `landing`.

The layout adds the growth up edit by edit (`carry_layOut`), and the sum does not depend on the order in which the
edits are laid out.
-/
import Graft.Proofs.Edit.Acceptance
import Graft.Proofs.Edit.Cut
import Graft.Proofs.Edit.Reference
import Mathlib

namespace Graft.Edit

set_option autoImplicit false

/-- By how much the edit lengthens the text. -/
def growth (e : Edit) : Int := e.content.length - ((e.stop : Int) - e.start)

/-- The edit ends up to an offset. -/
def upTo (j : Nat) (e : Edit) : Bool := e.stop ≤ j

namespace Buffer

namespace Call

/-- By how much the call lengthens the text. -/
def growth : Call → Int
  | .prepend content => content.length
  | .insert _ content => content.length
  | .overwrite start stop content => content.length - (stop - start)

/-- The call is done up to an offset. -/
def upTo (j : Int) : Call → Bool
  | .prepend _ => true
  | .insert index _ => index ≤ j
  | .overwrite _ stop _ => stop ≤ j

/-- Where the range begins that the call overwrites, if an offset lies in it. -/
def rangeStart? (i : Nat) : Call → Option Int
  | .overwrite start stop _ => if start ≤ i ∧ i < stop then some start else none
  | _ => none

end Call

/-- Where the overwritten range begins that an offset lies in, or the offset itself. -/
def landing (calls : List Call) (i : Nat) : Int := (calls.findSome? (·.rangeStart? i)).getD i

/-! ## Adding up along the layout -/

variable {base : Text} {b : Buffer} {pos i j : Nat} {es : List Edit}

theorem le_carry (pos : Nat) (ps : List Piece) (i : Nat) : pos ≤ carry pos ps i := by
  induction ps generalizing pos with
  | nil => exact Nat.le_refl _
  | cons p rest ih =>
      rw [carry_cons]
      split
      · split
        · exact Nat.le_refl _
        · exact Nat.le_add_right _ _
      · exact Nat.le_trans (Nat.le_add_right _ _) (ih _)

/-- Edits from an edit on that goes beyond an offset all go beyond it. -/
theorem filter_upTo_nil {length : Nat} {e : Edit} (chained : Chained length pos (e :: es)) (beyond : j < e.stop) :
    (e :: es).filter (Edit.upTo j) = [] := by
  apply List.filter_eq_nil_iff.2
  intro x member
  rw [Edit.upTo, decide_eq_true_eq, Nat.not_le]
  rcases List.mem_cons.1 member with rfl | later
  · exact beyond
  · have after := chained.tail.from_ x later
    have order := (chained.within x member).start_le_stop
    omega

/-- **The layout carries an offset on by the growth of the edits up to it.** -/
theorem carry_layOut (within : j ≤ base.length) (from_ : pos ≤ j) (chained : Chained base.length pos es)
    (clear : ∀ e ∈ es, ¬ (e.start < j ∧ j < e.stop)) (g : Nat) :
    (carry g (layOut base pos es) j : Int) = g + (j - pos) + ((es.filter (Edit.upTo j)).map Edit.growth).sum := by
  induction es generalizing pos g with
  | nil =>
      rw [layOut, ← List.append_nil (kept _ _ _), carry_kept base (Nat.le_refl _) from_, carry_nil]
      simp only [List.filter_nil, List.map_nil, List.sum_nil]
      split <;> omega
  | cons e rest ih =>
      obtain ⟨start_, order, stop_⟩ := chained.head
      rw [layOut, Nat.max_eq_right (Nat.le_trans start_ order), List.append_assoc,
        carry_kept base (Nat.le_trans order stop_) from_]
      by_cases before : j < e.start
      · -- The offset is kept in front of the edit.
        rw [if_pos before, filter_upTo_nil chained (Nat.lt_of_lt_of_le before order), List.map_nil, List.sum_nil]
        omega
      · rw [if_neg before]
        by_cases past : e.stop ≤ j
        · have picked : Edit.upTo j e = true := decide_eq_true past
          rw [carry_laid past, ih past chained.tail fun x member => clear x (List.mem_cons_of_mem e member),
            List.filter_cons_of_pos picked, List.map_cons, List.sum_cons, Edit.growth]
          omega
        · -- The edit goes beyond the offset without having it inside: it overwrites from there.
          have here : j = e.start := by
            have outside := clear e List.mem_cons_self
            omega
          have overwrites : e.isOverwrite = true := by
            cases e with
            | insertion => exact absurd (Nat.le_of_not_lt before) past
            | overwrite => rfl
          rw [filter_upTo_nil chained (Nat.lt_of_not_le past), List.map_nil, List.sum_nil, here,
            carry_laid_self (chained.within e List.mem_cons_self) overwrites]
          omega

/-- An offset that no edit has strictly inside is moved by what is in front and by the edits up to it. -/
theorem toOutput_clear (sound : b.Sound) (within : j ≤ b.base.length)
    (clear : ∀ e ∈ b.edits, ¬ (e.start < j ∧ j < e.stop)) :
    ∃ g : Nat, b.positionMap.toOutput j = .ok g ∧
      (g : Int) = j + (b.intro.flatten.length + ((b.edits.filter (Edit.upTo j)).map Edit.growth).sum) := by
  have perm := (b.ranked_perm.filter (Edit.upTo j)).map Edit.growth
  have moved := carry_layOut within (Nat.zero_le j) (ranked_chained sound)
    (fun e member => clear e (b.ranked_perm.mem_iff.1 member)) b.intro.flatten.length
  refine ⟨_, toOutput_eq_carry b within, ?_⟩
  rw [b.pieces_front.2, moved, perm.sum_eq]
  omega

/-- All edits end up to the end of the text. -/
theorem Sound.filter_upTo (sound : b.Sound) : b.edits.filter (Edit.upTo b.base.length) = b.edits :=
  List.filter_eq_self.2 fun e member => decide_eq_true (sound.inRange e member).stop_le

/-- **The text grows by what is in front and by what its edits add up to.** -/
theorem delta_sound (sound : b.Sound) :
    b.positionMap.delta = b.intro.flatten.length + (b.edits.map Edit.growth).sum := by
  obtain ⟨g, carried, sum⟩ := toOutput_clear sound (Nat.le_refl _) fun e member around => by
    have := (sound.inRange e member).stop_le
    omega
  rw [toOutput_end sound] at carried
  rw [sound.filter_upTo, ← Except.ok.inj carried] at sum
  have delta : b.positionMap.delta = (b.toText.length : Int) - b.base.length := rfl
  omega

/-- Each offset is carried like one that no edit has strictly inside. -/
theorem exists_clear (sound : b.Sound) (i : Nat) :
    ∃ j ≤ i, (∀ e ∈ b.edits, ¬ (e.start < j ∧ j < e.stop)) ∧ b.positionMap.toOutput i = b.positionMap.toOutput j := by
  by_cases inside : ∃ e ∈ b.edits, e.start < i ∧ i < e.stop
  · obtain ⟨e, member, after, before⟩ := inside
    cases e with
    | insertion => exact absurd (Nat.lt_trans after before) (Nat.lt_irrefl _)
    | overwrite start stop content =>
        exact ⟨start, Nat.le_of_lt after, sound.clear_start member,
          toOutput_covered sound member (Nat.le_of_lt after) before⟩
  · exact ⟨i, Nat.le_refl i, fun e member around => inside ⟨e, member, around⟩, rfl⟩

/-- Offsets keep their order. -/
theorem toOutput_mono (sound : b.Sound) {k g g' : Nat} (order : i ≤ k) (within : k ≤ b.base.length)
    (first : b.positionMap.toOutput i = .ok g) (second : b.positionMap.toOutput k = .ok g') : g ≤ g' := by
  obtain ⟨j, upTo, clear, same⟩ := exists_clear sound i
  obtain ⟨front, -, here, later⟩ := toText_cut sound (by omega) clear
  rw [same, here] at first
  rw [later k (Nat.le_trans upTo order) within] at second
  rw [← Except.ok.inj first, ← Except.ok.inj second]
  exact le_carry _ _ _

/-- A character outside the overwritten ranges is found where its offset goes. -/
theorem getElem?_toOutput (sound : b.Sound) (inside : i < b.base.length)
    (bare : ∀ start stop content, Edit.overwrite start stop content ∈ b.edits → ¬ (start ≤ i ∧ i < stop)) :
    ∃ g, b.positionMap.toOutput i = .ok g ∧ b.toText[g]? = b.base[i]? := by
  obtain ⟨s, member, kept, from_, before⟩ := exists_kept sound inside bare
  obtain ⟨carried, -, shown⟩ := toOutput_kept sound member kept from_ before
  exact ⟨_, carried, shown⟩

/-! ## The calls behind the edits -/

/-- An edit grows and ends like the call that makes it. -/
theorem Call.edit?_growth {c : Call} {e : Edit} (proper : c.Proper) (made : c.edit? = some e) :
    e.growth = c.growth ∧ (∀ j, Edit.upTo j e = c.upTo j) ∧ c.intro? = none := by
  cases c with
  | prepend => simp [Call.edit?] at made
  | insert index content =>
      obtain rfl := Option.some.inj made
      simp only [Call.Proper] at proper
      refine ⟨?_, fun j => decide_eq_decide.2 ?_, rfl⟩ <;>
        simp only [Edit.growth, Call.growth, Edit.content, Edit.start, Edit.stop] <;> omega
  | overwrite start stop content =>
      obtain rfl := Option.some.inj made
      simp only [Call.Proper] at proper
      refine ⟨?_, fun j => decide_eq_decide.2 ?_, rfl⟩ <;>
        simp only [Edit.growth, Call.growth, Edit.content, Edit.start, Edit.stop] <;> omega

/-- What the calls up to an offset add is what they put in front and what their edits add. -/
theorem sum_growth {calls : List Call} (proper : ∀ c ∈ calls, c.Proper) (j : Nat) :
    ((calls.filter (·.upTo j)).map Call.growth).sum =
      ((calls.filterMap Call.intro?).flatten.length : Int) +
        (((calls.filterMap Call.edit?).filter (Edit.upTo j)).map Edit.growth).sum := by
  induction calls with
  | nil => rfl
  | cons c rest ih =>
      have rest_ := ih fun d member => proper d (List.mem_cons_of_mem c member)
      cases made : c.edit? with
      | none =>
          obtain ⟨content, rfl⟩ : ∃ content, c = .prepend content := by
            cases c <;> simp [Call.edit?] at made ⊢
          have picked : (Call.prepend content).upTo j = true := rfl
          have intro_ : (Call.prepend content).intro? = some content := rfl
          rw [List.filter_cons_of_pos picked, List.map_cons, List.sum_cons, rest_, List.filterMap_cons_none made,
            List.filterMap_cons_some intro_, List.flatten_cons, List.length_append, Call.growth]
          omega
      | some e =>
          obtain ⟨grows, ends, plain⟩ := Call.edit?_growth (proper c List.mem_cons_self) made
          rw [List.filterMap_cons_some made, List.filterMap_cons_none plain]
          by_cases picked : c.upTo j = true
          · rw [List.filter_cons_of_pos picked, List.filter_cons_of_pos ((ends j).trans picked), List.map_cons,
              List.map_cons, List.sum_cons, List.sum_cons, rest_, grows]
            omega
          · rw [List.filter_cons_of_neg picked, List.filter_cons_of_neg (by rwa [ends j]), rest_]

variable (base : Text) (calls : List Call)

theorem run_sum_growth (j : Nat) :
    let b := (ofText base).run calls
    (b.intro.flatten.length + ((b.edits.filter (Edit.upTo j)).map Edit.growth).sum : Int) =
      ((((ofText base).accepted calls).filter (·.upTo j)).map Call.growth).sum := by
  intro b
  rw [sum_growth (fun _ => accepted_proper), ofText_intro, ofText_edits, (List.reverse_perm _).flatten.length_eq]

/-- **The text grows by what its calls add up to.** -/
theorem delta_run :
    ((ofText base).run calls).positionMap.delta = (((ofText base).accepted calls).map Call.growth).sum := by
  have sound := ofText_sound base calls
  have same : ((ofText base).run calls).base = base := run_base _ _
  have all : ((ofText base).accepted calls).filter (·.upTo base.length) = (ofText base).accepted calls := by
    apply List.filter_eq_self.2
    intro c member
    have inText := ((accepted_fits base calls).1 c member).1
    cases c <;> simp only [Call.InText, Call.upTo, decide_eq_true_eq] at inText ⊢
    case insert => exact inText.2
    case overwrite => exact inText.2.2
  have edits := sound.filter_upTo
  rw [same] at edits
  rw [delta_sound sound, ← all, ← run_sum_growth base calls base.length, edits]

/-- The accepted overwrite whose range an offset lies in is an edit of the buffer. -/
theorem landing_cases (i : Nat) :
    let b := (ofText base).run calls
    ∃ j : Nat, landing ((ofText base).accepted calls) i = j ∧ j ≤ i ∧
      (∀ e ∈ b.edits, ¬ (e.start < j ∧ j < e.stop)) ∧ b.positionMap.toOutput i = b.positionMap.toOutput j := by
  intro b
  have sound : b.Sound := ofText_sound base calls
  have edits : b.edits = ((ofText base).accepted calls).filterMap Call.edit? := ofText_edits base calls
  rw [landing]
  cases found : ((ofText base).accepted calls).findSome? (·.rangeStart? i) with
  | none =>
      refine ⟨i, rfl, Nat.le_refl i, fun e member around => ?_, rfl⟩
      rw [edits] at member
      obtain ⟨c, made, own⟩ := List.mem_filterMap.1 member
      have proper := accepted_proper made
      have bare := List.findSome?_eq_none_iff.1 found c made
      cases c <;> simp only [Call.edit?, reduceCtorEq, Option.some.injEq] at own <;> subst own <;>
        simp only [Edit.start, Edit.stop] at around
      case insert => omega
      case overwrite start stop content =>
        simp only [Call.Proper, Call.rangeStart?, ite_eq_right_iff, reduceCtorEq, imp_false] at proper bare
        omega
  | some s =>
      obtain ⟨c, made, starts⟩ := List.exists_of_findSome?_eq_some found
      have proper := accepted_proper made
      cases c <;> simp only [Call.rangeStart?, reduceCtorEq] at starts
      case overwrite start stop content =>
        obtain ⟨inside, same⟩ := Option.ite_none_right_eq_some.1 starts
        obtain rfl := Option.some.inj same
        have member : Edit.overwrite start.toNat stop.toNat content ∈ b.edits := by
          rw [edits]
          exact List.mem_filterMap.2 ⟨_, made, rfl⟩
        simp only [Call.Proper] at proper
        exact ⟨start.toNat, (Int.toNat_of_nonneg proper.1).symm, by omega, sound.clear_start member,
          toOutput_covered sound member (by omega) (by omega)⟩

/-- An offset that no accepted call replaces lies in no overwritten range. -/
theorem bare_run {i : Nat} (bare : ∀ c ∈ (ofText base).accepted calls, c.replaces i = false) :
    ∀ start stop content, Edit.overwrite start stop content ∈ ((ofText base).run calls).edits →
      ¬ (start ≤ i ∧ i < stop) := by
  intro start stop content member range
  have covered : ((ofText base).run calls).ranked.any (covers i) = true :=
    List.any_eq_true.2 ⟨_, (ranked_perm _).mem_iff.2 member, by simp [covers, Edit.start, Edit.stop, range]⟩
  rw [any_covers_run base calls i] at covered
  obtain ⟨c, inMade, replaces⟩ := List.any_eq_true.1 covered
  rw [bare c inMade] at replaces
  simp at replaces

/-- **Where the offsets go.**  An offset of the base text goes to its landing, moved by the growth of the calls up to
there.  Offsets keep their order, and a character outside the overwritten ranges is found where its offset goes.
What is no offset of the base text is refused. -/
theorem toOutput_run (base : Text) (calls : List Call) :
    let b := (ofText base).run calls
    let made := (ofText base).accepted calls
    (∀ i : Nat, i ≤ base.length → ∃ g : Nat, b.positionMap.toOutput i = .ok g ∧
      (g : Int) = landing made i + ((made.filter (·.upTo (landing made i))).map Call.growth).sum) ∧
    (∀ i k g g' : Nat, i ≤ k → k ≤ base.length → b.positionMap.toOutput i = .ok g →
      b.positionMap.toOutput k = .ok g' → g ≤ g') ∧
    (∀ i : Nat, i < base.length → (∀ c ∈ made, c.replaces i = false) →
      ∃ g, b.positionMap.toOutput i = .ok g ∧ b.toText[g]? = base[i]?) ∧
    ∀ i : Int, i < 0 ∨ (base.length : Int) < i → b.positionMap.toOutput i = .error (.base i) := by
  intro b made
  have sound : b.Sound := ofText_sound base calls
  have same : b.base = base := run_base _ _
  refine ⟨fun i within => ?_, fun i k g g' order within first second => ?_, fun i inside bare => ?_,
    fun i outside => ?_⟩
  · obtain ⟨j, lands, upTo, clear, carried⟩ := landing_cases base calls i
    obtain ⟨g, moved, sum⟩ := toOutput_clear sound (by rw [same]; omega) clear
    refine ⟨g, carried.trans moved, ?_⟩
    rw [sum, run_sum_growth base calls j, lands]
  · exact toOutput_mono sound order (same.symm ▸ within) first second
  · rw [← same] at inside ⊢
    exact getElem?_toOutput sound inside (bare_run base calls bare)
  · have length : b.positionMap.baseLength = base.length := congrArg List.length same
    rw [PositionMap.toOutput, length, if_pos outside]

/-- Two insertions, a longer replacement and a deletion: offsets in front, at both ends and behind. -/
example : ((List.range 7).map fun i => (((ofText "abcdef".toList).run [.insert 1 "<".toList,
    .overwrite 1 3 "WXYZ".toList, .insert 3 ">".toList, .overwrite 4 5 []]).positionMap.toOutput i).toOption) =
    [some 0, some 2, some 2, some 7, some 8, some 8, some 9] := by decide

end Buffer

end Graft.Edit
