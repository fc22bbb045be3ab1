/-
# Graft.Proofs.Regex.Absent -- characters that a match does not have

Whether a pattern can match a character at all is computed from its tests (`Pattern.avoids`).  A character that a
pattern avoids is neither in a match nor in what a group of it matched, so it is not in a template that is
expanded for the match either, unless it is written there (`expandTemplate_avoids`).

The induction is on the way.  What carries it is that no group has the character: a group repeated by a back
reference puts it nowhere, and what a pattern looks ahead or behind for is tested like the rest.
-/
import Graft.Proofs.Regex.Matches
import Graft.Proofs.Text.Occurrence
import Graft.Regex.Template

namespace Graft.Regex

set_option autoImplicit false

/-- No test of the pattern passes the character, and groups are repeated exactly. -/
def Pattern.avoids (c : Char) : Pattern → Bool
  | .empty => true
  | .char t => !t.holds c
  | .anchor _ => true
  | .seq a b => a.avoids c && b.avoids c
  | .alt a b => a.avoids c && b.avoids c
  | .group _ body => body.avoids c
  | .backref _ f => f = .exact
  | .repeatChar _ _ _ t => !t.holds c
  | .repeatGroup _ _ _ body => body.avoids c
  | .atomic body => body.avoids c
  | .ahead _ body => body.avoids c
  | .behind _ _ body => body.avoids c
  | .ifGroup _ yes no => yes.avoids c && no.avoids c

/-- The character does not stand in the range. -/
def Lacks (text : Array Char) (c : Char) (start stop : Nat) : Prop :=
  ∀ k, start ≤ k → k < stop → text[k]? ≠ some c

/-- The character is in nothing that a group has matched. -/
def State.Lacks (text : Array Char) (c : Char) (st : State) : Prop :=
  ∀ s, some s ∈ st.groups → Regex.Lacks text c s.start s.stop

section

variable {text : Array Char} {c : Char}

theorem lacks_empty (pos : Nat) : Lacks text c pos pos := fun _ from_ before =>
  absurd from_ (Nat.not_le.2 before)

theorem Lacks.append {start mid stop : Nat} (first : Lacks text c start mid) (second : Lacks text c mid stop) :
    Lacks text c start stop := by
  intro k from_ before
  by_cases inFirst : k < mid
  · exact first k from_ inFirst
  · exact second k (Nat.le_of_not_lt inFirst) before

theorem lacks_of_passes {test : Char → Bool} {start n : Nat} (fails : test c = false)
    (hold : ∀ k < n, passes text test (start + k) = true) : Lacks text c start (start + n) := by
  intro k from_ before found
  have passed := hold (k - start) (by omega)
  rw [show start + (k - start) = k by omega, passes, found, Option.any_some, fails] at passed
  simp at passed

theorem State.Lacks.setGroup {st : State} (lacks : st.Lacks text c) (index : Nat) {s : Span}
    (own : Regex.Lacks text c s.start s.stop) : (st.setGroup index s).Lacks text c := by
  intro s' member
  rcases List.mem_or_eq_of_mem_set member with earlier | same
  · exact lacks s' earlier
  · rw [Option.some.inj same]
    exact own

theorem mem_groups {groups : List (Option Span)} {index : Nat} {s : Span}
    (matched : (groups[index]?).getD none = some s) : some s ∈ groups := by
  cases found : groups[index]? with
  | none => simp [found] at matched
  | some g =>
      rw [found] at matched
      exact List.mem_of_getElem? (found.trans (congrArg some matched))

theorem State.Lacks.group? {st : State} (lacks : st.Lacks text c) {index : Nat} {s : Span}
    (matched : st.group? index = some s) : Regex.Lacks text c s.start s.stop :=
  lacks s (mem_groups matched)

/-- What repeats a range exactly has no other characters. -/
theorem lacks_of_repeatsSpan {s : Span} {pos : Nat} (again : repeatsSpan text .exact s pos = true)
    (lacks : Lacks text c s.start s.stop) : Lacks text c pos (pos + (s.stop - s.start)) := by
  intro k from_ before found
  obtain ⟨d, at_, here⟩ := repeatsSpan_exact_iff.1 again (k - pos) (by omega)
  rw [show pos + (k - pos) = k by omega, found] at here
  rw [← Option.some.inj here] at at_
  exact lacks _ (Nat.le_add_right _ _) (by omega) at_

/-- **A way of a pattern that avoids a character does not meet it**, nor do its groups. -/
theorem Way.avoids {p : Pattern} {st st' : State} (way : Way text p st st') (avoids : p.avoids c = true)
    (lacks : st.Lacks text c) : Lacks text c st.pos st'.pos ∧ st'.Lacks text c := by
  induction way with
  | empty st => exact ⟨lacks_empty _, lacks⟩
  | @char t st holds =>
      have fails : t.holds c = false := by simpa [Pattern.avoids] using avoids
      refine ⟨lacks_of_passes fails fun k before => ?_, lacks⟩
      rw [show k = 0 by omega]
      exact holds
  | anchor => exact ⟨lacks_empty _, lacks⟩
  | seq _ _ first second =>
      simp only [Pattern.avoids, Bool.and_eq_true] at avoids
      obtain ⟨before, lacks'⟩ := first avoids.1 lacks
      obtain ⟨after, lacks''⟩ := second avoids.2 lacks'
      exact ⟨before.append after, lacks''⟩
  | left _ ih =>
      simp only [Pattern.avoids, Bool.and_eq_true] at avoids
      exact ih avoids.1 lacks
  | right _ ih =>
      simp only [Pattern.avoids, Bool.and_eq_true] at avoids
      exact ih avoids.2 lacks
  | @group index body st st' _ ih =>
      obtain ⟨own, lacks'⟩ := ih avoids lacks
      exact ⟨own, lacks'.setGroup index own⟩
  | @backref index f st s matched again =>
      obtain rfl : f = .exact := of_decide_eq_true avoids
      exact ⟨lacks_of_repeatsSpan again (lacks.group? matched), lacks⟩
  | @chars greed least most t st n enough limit hold =>
      have fails : t.holds c = false := by simpa [Pattern.avoids] using avoids
      exact ⟨lacks_of_passes fails hold, lacks⟩
  | done st => exact ⟨lacks_empty _, lacks⟩
  | round _ _ first rest =>
      obtain ⟨before, lacks'⟩ := first avoids lacks
      obtain ⟨after, lacks''⟩ := rest avoids lacks'
      exact ⟨before.append after, lacks''⟩
  | atomic _ ih => exact ih avoids lacks
  | ahead _ ih => exact ⟨lacks_empty _, (ih avoids lacks).2⟩
  | notAhead => exact ⟨lacks_empty _, lacks⟩
  | behind _ ih => exact ⟨lacks_empty _, (ih avoids lacks).2⟩
  | notBehind => exact ⟨lacks_empty _, lacks⟩
  | ifYes _ ih =>
      simp only [Pattern.avoids, Bool.and_eq_true] at avoids
      exact ih avoids.1 lacks
  | ifNo _ ih =>
      simp only [Pattern.avoids, Bool.and_eq_true] at avoids
      exact ih avoids.2 lacks

end

/-! ## Matches and what is made of them -/

theorem not_mem_slice {t : Text} {c : Char} {start stop : Nat} (lacks : Lacks t.toArray c start stop) :
    c ∉ t.slice start stop := by
  intro member
  obtain ⟨k, found⟩ := List.mem_iff_getElem?.1 member
  rw [Text.getElem?_slice] at found
  obtain ⟨inside, at_⟩ := Option.ite_none_right_eq_some.1 found
  exact lacks (start + k) (Nat.le_add_right _ _) inside (by rwa [List.getElem?_toArray])

theorem matchAt?_avoids {r : Regex} (steady : isSteady r = true) {t : Text} {c : Char}
    (avoids : r.pattern.avoids c = true) {start : Nat} {moving : Bool} {m : Match}
    (found : matchAt? r t.toArray start moving = some m) :
    c ∉ t.slice m.span.start m.span.stop ∧ ∀ s, some s ∈ m.groups → c ∉ t.slice s.start s.stop := by
  obtain ⟨rfl, way⟩ := matchAt?_way steady found
  have fresh : (startState r m.span.start).Lacks t.toArray c := fun s member => by
    simp [startState] at member
  obtain ⟨own, groups⟩ := way.avoids avoids fresh
  exact ⟨not_mem_slice own, fun s member => not_mem_slice (groups s member)⟩

/-- The part does not write the character itself. -/
def TemplatePart.avoids (c : Char) : TemplatePart → Bool
  | .text t => !t.contains c
  | .group _ => true

theorem expandTemplate_avoids {r : Regex} {template t content : Text} {c : Char} {m : Match}
    (avoids : ∀ parts, TemplatePart.read r template = .ok parts → parts.all (·.avoids c) = true)
    (own : c ∉ t.slice m.span.start m.span.stop)
    (groups : ∀ s, some s ∈ m.groups → c ∉ t.slice s.start s.stop)
    (expanded : expandTemplate r template t m = .ok content) : c ∉ content := by
  cases read : TemplatePart.read r template with
  | error fault => simp [expandTemplate, read, bind, Except.bind] at expanded
  | ok parts =>
      simp only [expandTemplate, read, bind, Except.bind, pure, Except.pure, Except.ok.injEq] at expanded
      subst expanded
      intro member
      obtain ⟨part, inParts, inside⟩ := List.mem_flatMap.1 member
      have clean := List.all_eq_true.1 (avoids parts read) part inParts
      cases part with
      | text s => simp [TemplatePart.avoids, TemplatePart.expand] at clean inside; exact clean inside
      | group index =>
          simp only [TemplatePart.expand, Match.group?] at inside
          split at inside
          · rename_i span matched
            split at matched
            · rw [← Option.some.inj matched] at inside
              exact own inside
            · exact groups span (mem_groups matched) inside
          · simp at inside

end Graft.Regex
