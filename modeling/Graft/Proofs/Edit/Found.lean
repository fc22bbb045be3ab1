/-
# Graft.Proofs.Edit.Found -- what stands in the output

A text stands in the output of a buffer where what an edit puts in has it, or where it stood in the base text
clear of all edits (`infix_toText_iff`).  This is so for texts that cannot stand across the border of an edit:
what the edit puts in differs from the text wherever the two would overlap in part (`Settles`), which is computed.
-/
import Graft.Proofs.Edit.Nesting
import Graft.Proofs.Text.Occurrence
import Mathlib.Data.List.Infix

namespace Graft.Text

set_option autoImplicit false

/-- The texts differ in a character that both have. -/
def Clashes (u v : Text) : Prop := ∃ (k : Nat) (a b : Char), u[k]? = some a ∧ v[k]? = some b ∧ a ≠ b

theorem clashes_iff (u v : Text) : ((u.zip v).any fun (a, b) => a != b) = true ↔ Clashes u v := by
  rw [List.any_eq_true]
  constructor
  · rintro ⟨⟨a, b⟩, member, differ⟩
    obtain ⟨k, found⟩ := List.mem_iff_getElem?.1 member
    obtain ⟨first, second⟩ := List.getElem?_zip_eq_some.1 found
    exact ⟨k, a, b, first, second, by simpa using differ⟩
  · rintro ⟨k, a, b, first, second, differ⟩
    exact ⟨(a, b), List.mem_of_getElem? (List.getElem?_zip_eq_some.2 ⟨first, second⟩), by simpa using differ⟩

instance (u v : Text) : Decidable (Clashes u v) := decidable_of_iff _ (clashes_iff u v)

theorem Clashes.append {u v : Text} (clash : Clashes u v) (back : Text) : Clashes (u ++ back) v := by
  obtain ⟨k, a, b, first, second, differ⟩ := clash
  have inside := (List.getElem?_eq_some_iff.1 first).1
  exact ⟨k, a, b, by rw [List.getElem?_append_left inside, first], second, differ⟩

/-- Texts that stand at one place do not clash. -/
theorem not_clashes_of_standsAt {t u v : Text} {p : Nat} (stands : StandsAt t u p) (stands' : StandsAt t v p) :
    ¬ Clashes u v := by
  rintro ⟨k, a, b, first, second, differ⟩
  exact differ (Option.some.inj ((stands k a first).symm.trans (stands' k b second)))

/-- Wherever `w` would meet the text, it stands wholly in it or is contradicted by it: each end of the text begins
with `w` or clashes with it, and each end of `w` but the whole clashes with the text. -/
def Settles (u w : Text) : Prop :=
  (∀ v, v <:+ u → v ≠ [] → w <+: v ∨ Clashes v w) ∧ ∀ v, v <:+ w.tail → v ≠ [] → Clashes v u

theorem settles_iff (u w : Text) :
    (u.tails.all (fun v => v.isEmpty || decide (w <+: v) || decide (Clashes v w)) &&
      w.tail.tails.all fun v => v.isEmpty || decide (Clashes v u)) = true ↔ Settles u w := by
  simp only [Bool.and_eq_true, List.all_eq_true, List.mem_tails, Bool.or_eq_true, List.isEmpty_iff, or_assoc,
    decide_eq_true_eq, ← or_iff_not_imp_left, Settles, ne_eq]

instance (u w : Text) : Decidable (Settles u w) := decidable_of_iff _ (settles_iff u w)

theorem drop_ne_nil {u : Text} {d : Nat} (inside : d < u.length) : u.drop d ≠ [] := fun empty => by
  have := List.drop_eq_nil_iff.1 empty
  omega

/-- **Around a text that settles `w`**, `w` stands before it, in it, or after it. -/
theorem infix_append_iff {front u back w : Text} (settles : Settles u w) :
    w <:+: front ++ (u ++ back) ↔ w <:+: front ∨ w <:+: u ∨ w <:+: back := by
  constructor
  · intro found
    obtain ⟨p, stands⟩ := infix_iff_standsAt.1 found
    have own := standsAt_append front u back
    by_cases before : p + w.length ≤ front.length
    · left
      exact infix_iff_standsAt.2 ⟨p, (standsAt_append_left_iff before).1 stands⟩
    · right
      rcases Nat.lt_or_ge p front.length with across | after
      · -- `w` begins ahead of the text and would go on into it.
        have here := stands.drop (front.length - p)
        rw [show p + (front.length - p) = front.length by omega] at here
        have ends : w.drop (front.length - p) <:+ w.tail := by
          rw [show front.length - p = 1 + (front.length - p - 1) by omega, ← List.drop_drop, List.drop_one]
          exact List.drop_suffix _ _
        have clash := settles.2 _ ends (drop_ne_nil (by omega))
        exact absurd clash (not_clashes_of_standsAt here own)
      · rcases Nat.lt_or_ge p (front.length + u.length) with inText | behind
        · have here := own.drop (p - front.length)
          rw [show front.length + (p - front.length) = p by omega] at here
          have proper : u.drop (p - front.length) ≠ [] := drop_ne_nil (by omega)
          rcases settles.1 _ (List.drop_suffix _ u) proper with wholly | clash
          · exact .inl (wholly.isInfix.trans (List.drop_suffix _ u).isInfix)
          · exact absurd clash (not_clashes_of_standsAt here stands)
        · right
          obtain ⟨d, rfl⟩ : ∃ d, p = (front ++ u).length + d := ⟨p - (front ++ u).length, by simp; omega⟩
          rw [← List.append_assoc, standsAt_append_right_iff] at stands
          exact infix_iff_standsAt.2 ⟨d, stands⟩
  · rintro (inFront | inText | inBack)
    · exact inFront.trans (List.prefix_append front _).isInfix
    · exact inText.trans ((List.prefix_append u back).isInfix.trans (List.suffix_append front _).isInfix)
    · exact inBack.trans ((List.suffix_append u back).isInfix.trans (List.suffix_append front _).isInfix)

end Graft.Text

namespace Graft.Edit.Buffer

set_option autoImplicit false

open Graft.Text

variable {base w : Text} {pos : Nat} {es : List Edit}

/-- The edit leaves the `n` characters from `p` on as they are. -/
def Spares (p n : Nat) (e : Edit) : Prop := e.stop ≤ p ∨ p + n ≤ e.start

/-- The edit would stand beside one that replaces these characters. -/
theorem spares_iff_apart {p n : Nat} (content : Text) (e : Edit) :
    Spares p n e ↔ (Edit.overwrite p (p + n) content).Apart e := by
  cases e with
  | insertion => simp only [Spares, Edit.Apart, Edit.start, Edit.stop]
  | overwrite =>
      simp only [Spares, Edit.Apart, Edit.start, Edit.stop]
      omega

/-- **What stands in a layout**: what an edit puts in, and what stood in the base text clear of all edits. -/
theorem infix_layOut_iff (some_ : w ≠ []) (within : pos ≤ base.length) (chained : Chained base.length pos es)
    (settles : ∀ e ∈ es, Settles e.content w) :
    w <:+: (layOut base pos es).flatMap (·.text) ↔
      (∃ e ∈ es, w <:+: e.content) ∨ ∃ p, pos ≤ p ∧ StandsAt base w p ∧ ∀ e ∈ es, Spares p w.length e := by
  induction es generalizing pos with
  | nil =>
      rw [layOut, kept_text, infix_slice_iff some_]
      constructor
      · rintro ⟨p, from_, -, stands⟩
        exact .inr ⟨p, from_, stands, by simp⟩
      · rintro (⟨e, member, -⟩ | ⟨p, from_, stands, -⟩)
        · simp at member
        · exact ⟨p, from_, stands.within some_, stands⟩
  | cons e rest ih =>
      obtain ⟨from_, order, upTo⟩ := chained.head
      have later : ∀ x ∈ rest, e.stop ≤ x.start := chained.tail.from_
      rw [layOut, Nat.max_eq_right (Nat.le_trans from_ order), List.append_assoc, List.flatMap_append,
        List.flatMap_append, kept_text, laid_text, infix_append_iff (settles e List.mem_cons_self),
        infix_slice_iff some_, ih upTo chained.tail fun x member => settles x (List.mem_cons_of_mem e member)]
      constructor
      · rintro (⟨p, from_, before, stands⟩ | own | ⟨x, member, inContent⟩ | ⟨p, from_', stands, spares⟩)
        · refine .inr ⟨p, from_, stands, fun x member => .inr ?_⟩
          rcases List.mem_cons.1 member with rfl | inRest
          · exact before
          · have := later x inRest
            omega
        · exact .inl ⟨e, List.mem_cons_self, own⟩
        · exact .inl ⟨x, List.mem_cons_of_mem e member, inContent⟩
        · refine .inr ⟨p, by omega, stands, fun x member => ?_⟩
          rcases List.mem_cons.1 member with rfl | inRest
          · exact .inl from_'
          · exact spares x inRest
      · rintro (⟨x, member, inContent⟩ | ⟨p, from_, stands, spares⟩)
        · rcases List.mem_cons.1 member with rfl | inRest
          · exact .inr (.inl inContent)
          · exact .inr (.inr (.inl ⟨x, inRest, inContent⟩))
        · rcases spares e List.mem_cons_self with after | before
          · exact .inr (.inr (.inr ⟨p, after, stands, fun x member => spares x (List.mem_cons_of_mem e member)⟩))
          · exact .inl ⟨p, from_, before, stands⟩

/-- **What stands in the output** of a buffer with nothing in front. -/
theorem infix_toText_iff {b : Buffer} (sound : b.Sound) (bare : b.intro = []) (some_ : w ≠ [])
    (settles : ∀ e ∈ b.edits, Settles e.content w) :
    w <:+: b.toText ↔
      (∃ e ∈ b.edits, w <:+: e.content) ∨ ∃ p, StandsAt b.base w p ∧ ∀ e ∈ b.edits, Spares p w.length e := by
  have same : ∀ e, e ∈ b.ranked ↔ e ∈ b.edits := fun _ => b.ranked_perm.mem_iff
  rw [b.pieces_front.1, bare, List.flatten_nil, List.nil_append,
    infix_layOut_iff some_ (Nat.zero_le _) (ranked_chained sound) fun e member => settles e ((same e).1 member)]
  simp only [same, Nat.zero_le, true_and]

end Graft.Edit.Buffer
