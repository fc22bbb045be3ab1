/-
# Graft.Proofs.Regex.Onward -- matches move on and stay in the text

Marks that a failed way leaves behind change which way is taken, but not where ways lead.  Whatever the marks are,
what follows a part of a match is handed a place further on in the text (`track_reaches`), so the matches of a text
lie in it and follow each other (`findAll_within`, `findAll_chain`).
-/
import Graft.Regex.Matching

namespace Graft.Regex

set_option autoImplicit false

/-- A match may come from one place to the other: it does not go back, and does not leave the text. -/
structure Onward (text : Array Char) (start stop : Nat) : Prop where
  order : start ≤ stop
  within : start ≤ text.size → stop ≤ text.size

/-- What follows is handed a place further on than `c`, and leads to `r` from there. -/
def Reaches (text : Array Char) (next : Next) (c r : Cursor) : Prop :=
  ∃ c', Onward text c.pos c'.pos ∧ next c' = .ok r

variable {text : Array Char} {looped : Bool} {next : Next} {c r : Cursor}

theorem Onward.refl (text : Array Char) (pos : Nat) : Onward text pos pos := ⟨Nat.le_refl pos, id⟩

theorem Onward.trans {start mid stop : Nat} (first : Onward text start mid) (second : Onward text mid stop) :
    Onward text start stop where
  order := Nat.le_trans first.order second.order
  within inside := second.within (first.within inside)

theorem lt_size_of_passes {p : Char → Bool} {i : Nat} (passed : passes text p i = true) : i < text.size := by
  refine Nat.lt_of_not_le fun outside => ?_
  rw [passes, Array.getElem?_eq_none outside] at passed
  simp at passed

/-- Characters that pass are in the text. -/
theorem onward_of_passes {p : Char → Bool} {pos n : Nat} (hold : ∀ k < n, passes text p (pos + k) = true) :
    Onward text pos (pos + n) := by
  refine ⟨Nat.le_add_right pos n, fun inside => ?_⟩
  cases n with
  | zero => exact inside
  | succ n =>
      have last := lt_size_of_passes (hold n (Nat.lt_succ_self n))
      omega

/-- What is repeated is in the text. -/
theorem onward_of_repeatsSpan {f : Folding} {s : Span} {pos : Nat} (again : repeatsSpan text f s pos = true) :
    Onward text pos (pos + (s.stop - s.start)) := by
  refine ⟨Nat.le_add_right pos _, fun inside => ?_⟩
  cases length : s.stop - s.start with
  | zero => exact inside
  | succ n =>
      have last := List.all_eq_true.1 again n (List.mem_range.2 (by omega))
      split at last
      · rename_i found
        have := (Array.getElem?_eq_some_iff.1 found).1
        omega
      · simp at last

theorem Reaches.here (leads : next c = .ok r) : Reaches text next c r := ⟨c, .refl text c.pos, leads⟩

theorem Reaches.skipped {n : Nat} (onward : Onward text c.pos (c.pos + n)) (leads : skip next n c = .ok r) :
    Reaches text next c r := ⟨_, onward, leads⟩

theorem Reaches.after {c' : Cursor} (onward : Onward text c.pos c'.pos) (reaches : Reaches text next c' r) :
    Reaches text next c r := by
  obtain ⟨end_, further, leads⟩ := reaches
  exact ⟨end_, onward.trans further, leads⟩

theorem not_fail : fail c ≠ .ok r := by simp [fail]

/-- What a choice leads to, one of its ways leads to. -/
theorem orElse_ok {first second : Next} (ran : orElse looped first second c = .ok r) :
    first c = .ok r ∨ ∃ marks, second { c with marks := marks } = .ok r := by
  unfold orElse at ran
  split at ran
  · rename_i went
    exact .inl (went.trans ran)
  · exact .inr ⟨_, ran⟩

/-! ## Repetitions of one character -/

theorem trackDown_reaches {least extra : Nat} (reach : ∀ n ≤ least + extra, Onward text c.pos (c.pos + n))
    (ran : trackDown looped next least extra c = .ok r) : Reaches text next c r := by
  induction extra generalizing c with
  | zero =>
      rcases orElse_ok ran with here | ⟨marks, none_⟩
      · exact .skipped (reach least (Nat.le_refl _)) here
      · exact absurd none_ not_fail
  | succ extra ih =>
      rcases orElse_ok ran with here | ⟨marks, later⟩
      · exact .skipped (reach _ (Nat.le_refl _)) here
      · exact @ih { c with marks := marks } (fun n upTo => reach n (by omega)) later

theorem trackUp_reaches {least extra : Nat} (reach : ∀ n ≤ least + extra, Onward text c.pos (c.pos + n))
    (ran : trackUp looped next least extra c = .ok r) : Reaches text next c r := by
  induction extra generalizing c least with
  | zero =>
      rcases orElse_ok ran with here | ⟨marks, none_⟩
      · exact .skipped (reach least (Nat.le_refl _)) here
      · exact absurd none_ not_fail
  | succ extra ih =>
      rcases orElse_ok ran with here | ⟨marks, later⟩
      · exact .skipped (reach least (by omega)) here
      · exact @ih { c with marks := marks } (least + 1) (fun n upTo => reach n (by omega)) later

theorem passes_of_lt_runLength {p : Char → Bool} {pos limit k : Nat} (before : k < runLength text p pos limit) :
    passes text p (pos + k) = true := by
  induction limit generalizing pos k with
  | zero => simp [runLength] at before
  | succ limit ih =>
      simp only [runLength] at before
      split at before
      · rename_i here
        cases k with
        | zero => exact here
        | succ k =>
            have later := @ih (pos + 1) k (by omega)
            rwa [show pos + 1 + k = pos + (k + 1) by omega] at later
      · omega

theorem trackChars_reaches {p : Char → Bool} {greed : Greed} {least : Nat} {most : Option Nat}
    (ran : trackChars text p greed least most looped next c = .ok r) : Reaches text next c r := by
  have reach : ∀ n ≤ longestRun text p most c.pos, Onward text c.pos (c.pos + n) := fun n upTo =>
    onward_of_passes fun k before => passes_of_lt_runLength (Nat.lt_of_lt_of_le before upTo)
  simp only [trackChars] at ran
  split at ran
  · exact absurd ran not_fail
  · cases greed with
    | greedy => exact trackDown_reaches (fun n upTo => reach n (by omega)) ran
    | reluctant => exact trackUp_reaches (fun n upTo => reach n (by omega)) ran
    | possessive => exact .skipped (reach _ (Nat.le_refl _)) ran

/-! ## Other repetitions -/

theorem rounds_reaches {body : Next → Next} {reluctant outer : Bool} {least : Nat} {most : Option Nat}
    (round : ∀ {after : Next} {c : Cursor}, body after c = .ok r → Reaches text after c r)
    {fuel count : Nat} {last : Option Nat}
    (ran : rounds body reluctant outer least most next fuel count last c = .ok r) : Reaches text next c r := by
  induction fuel generalizing c count last with
  | zero => exact .here ran
  | succ fuel ih =>
      have onwards : ∀ {c count last}, body (rounds body reluctant outer least most next fuel count last) c = .ok r →
          Reaches text next c r := by
        intro c count last went
        obtain ⟨c', onward, rest⟩ := round went
        exact .after onward (ih rest)
      have again : ∀ {c : Cursor} {count last}, (if mayRepeat most count && last != some c.pos then
          body (rounds body reluctant outer least most next fuel (count + 1) (some c.pos)) c else fail c) = .ok r →
          Reaches text next c r := by
        intro c count last went
        split at went
        · exact onwards went
        · exact absurd went not_fail
      simp only [rounds] at ran
      split at ran
      · exact onwards ran
      · split at ran
        · rcases orElse_ok ran with here | ⟨marks, later⟩
          · exact .here here
          · exact @again { c with marks := marks } count last later
        · rcases orElse_ok ran with here | ⟨marks, later⟩
          · exact again here
          · exact @Reaches.here text next { c with marks := marks } r later

section Possessive

variable {round : Next} (onwards : ∀ {c c'}, round c = .ok c' → Onward text c.pos c'.pos)

include onwards

theorem settled_onward {n : Nat} {c' : Cursor} (ran : settled round n c = .ok c') : Onward text c.pos c'.pos := by
  induction n generalizing c with
  | zero =>
      obtain rfl := Except.ok.inj ran
      exact .refl text c.pos
  | succ n ih =>
      simp only [settled] at ran
      cases went : round c with
      | error lost => simp [went, Except.bind] at ran
      | ok mid =>
          simp only [went, Except.bind] at ran
          exact (onwards went).trans (ih ran)

theorem exhausted_onward (most : Option Nat) (fuel count : Nat) (last : Option Nat) (c : Cursor) :
    Onward text c.pos (exhausted round most fuel count last c).pos := by
  induction fuel generalizing count last c with
  | zero => exact .refl text c.pos
  | succ fuel ih =>
      simp only [exhausted]
      split
      · split
        · rename_i c' went
          exact (onwards went).trans (ih _ _ c')
        · exact .refl text c.pos
      · exact .refl text c.pos

end Possessive

/-! ## Patterns -/

theorem look_reaches {negated : Bool} {found : Except Marks Cursor} (ran : look negated looped next c found = .ok r) :
    Reaches text next c r := by
  cases found with
  | ok c' =>
      simp only [look] at ran
      split at ran
      · simp at ran
      · exact ⟨c'.moved c.pos, .refl text c.pos, ran⟩
  | error lost =>
      simp only [look] at ran
      split at ran
      · exact ⟨{ c with marks := c.marks.restore looped lost }, .refl text c.pos, ran⟩
      · simp at ran

/-- **What follows a pattern is handed a place further on.** -/
theorem track_reaches {p : Pattern} (ran : p.track text looped next c = .ok r) : Reaches text next c r := by
  induction p generalizing looped next c r with
  | empty => exact .here ran
  | char t =>
      simp only [Pattern.track] at ran
      split at ran
      · rename_i holds
        exact ⟨_, onward_of_passes fun k before => by rwa [Nat.lt_one_iff.1 before], ran⟩
      · exact absurd ran not_fail
  | anchor a =>
      simp only [Pattern.track] at ran
      split at ran
      · exact .here ran
      · exact absurd ran not_fail
  | seq a b ihA ihB =>
      obtain ⟨mid, onward, rest⟩ := ihA ran
      exact .after onward (ihB rest)
  | alt a b ihA ihB =>
      rcases orElse_ok ran with first | ⟨marks, later⟩
      · exact ihA first
      · rcases orElse_ok later with second | ⟨marks', none_⟩
        · exact @ihB _ _ { c with marks := marks } _ second
        · exact absurd none_ not_fail
  | group index body ih =>
      obtain ⟨c', onward, leads⟩ := ih ran
      exact ⟨c'.mark (startMark index + 1), onward, leads⟩
  | backref index f =>
      simp only [Pattern.track] at ran
      split at ran
      · split at ran
        · rename_i again
          exact ⟨_, onward_of_repeatsSpan again, ran⟩
        · exact absurd ran not_fail
      · exact absurd ran not_fail
  | repeatChar greed least most t => exact trackChars_reaches ran
  | repeatGroup greed least most body ih =>
      have onwards : ∀ {c c' : Cursor}, body.track text looped .ok c = .ok c' → Onward text c.pos c'.pos := by
        intro c c' went
        obtain ⟨end_, onward, same⟩ := ih went
        rwa [Except.ok.inj same] at onward
      cases greed with
      | possessive =>
          simp only [Pattern.track] at ran
          cases began : settled (body.track text looped .ok) least c with
          | error lost => simp [began, Except.bind] at ran
          | ok c' =>
              simp only [began, Except.bind] at ran
              exact .after (settled_onward onwards began) ⟨_, exhausted_onward onwards _ _ _ _ c', ran⟩
      | greedy => exact rounds_reaches ih ran
      | reluctant => exact rounds_reaches ih ran
  | atomic body ih =>
      simp only [Pattern.track] at ran
      cases went : body.track text looped .ok c with
      | error lost => simp [went, Except.bind] at ran
      | ok c' =>
          simp only [went, Except.bind] at ran
          obtain ⟨end_, onward, same⟩ := ih went
          obtain rfl := Except.ok.inj same
          exact ⟨end_, onward, ran⟩
  | ahead negated body ih => exact look_reaches ran
  | behind negated width body ih => exact look_reaches ran
  | ifGroup index yes no ihYes ihNo =>
      simp only [Pattern.track] at ran
      split at ran
      · exact ihYes ran
      · exact ihNo ran

end Graft.Regex
