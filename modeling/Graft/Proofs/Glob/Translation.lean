/-
# Graft.Proofs.Glob.Translation -- wildcard patterns as regular expressions

A wildcard pattern can be written as a regular expression that is searched for.  Between two stars its parts are
matched as early as they can be, and for good: `(?>.*?parts)` is never tried again further on.  That loses nothing
because a star follows, which takes whatever an earlier match leaves (`finds_atomic`); the parts behind the last star
are tried everywhere.  Stars that follow each other are one.

`regex` is that expression, and it is found where the pattern is (`isFoundIn_regex`).
-/
import Graft.Proofs.Glob.Language
import Graft.Proofs.Regex.Literal

namespace Graft

set_option autoImplicit false

open Graft.Regex (Pattern CharTest ClassItem Folding Follow State passes)

/-! ## The expression -/

namespace GlobPart

/-- The range of a set, in numbers. -/
def classItem (ends : Char × Char) : ClassItem :=
  if ends.1 = ends.2 then .code ends.1.toNat else .range ends.1.toNat ends.2.toNat

/-- The test of a set that is not empty.  A single character is compared with. -/
def setTest (negated : Bool) : List (Char × Char) → CharTest
  | [(low, high)] =>
    if low = high then .code low.toNat negated .exact else .set [classItem (low, high)] negated .exact
  | ranges => .set (ranges.map classItem) negated .exact

/-- A part as a pattern. -/
def pattern : GlobPart → Pattern
  | .star => .repeatChar .greedy 0 none .any
  | .any => .char .any
  | .char c => .char (.only c)
  | .oneOf false [] => .ahead true .empty
  | .oneOf true [] => .char .any
  | .oneOf negated (ends :: more) => .char (setTest negated (ends :: more))

end GlobPart

namespace Glob

/-- The parts in front of the first star, and those behind each star up to the next. -/
def segments : Glob → Glob × List Glob
  | [] => ([], [])
  | .star :: rest => ([], (segments rest).1 :: (segments rest).2)
  | part :: rest => (part :: (segments rest).1, (segments rest).2)

/-- A segment that is looked for from a place on. -/
def sought (segment : Glob) : Pattern := .sequence (.repeatChar .reluctant 0 none .any :: segment.map GlobPart.pattern)

/-- What matches segments behind stars. -/
def behindStars : List Glob → List Pattern
  | [] => []
  | [last] => .repeatChar .greedy 0 none .any :: last.map GlobPart.pattern
  | [] :: rest => behindStars rest
  | segment :: rest => .atomic (sought segment) :: behindStars rest

/-- The regular expression of a wildcard pattern. -/
def regex (g : Glob) : Regex where
  pattern := .seq (.sequence ((segments g).1.map GlobPart.pattern ++ behindStars (segments g).2)) (.anchor .textEnd)
  groups := 0
  names := []

end Glob

/-! ## Runs -/

namespace Regex

/-- A sequence runs its first pattern, and then the others. -/
theorem run_sequence_cons (text : Array Char) (p : Pattern) (ps : List Pattern) (follow : Follow) (st : State) :
    (Pattern.sequence (p :: ps)).run text follow st = p.run text ((Pattern.sequence ps).run text follow) st := by
  cases ps with
  | nil => rfl
  | cons q rest => rfl

theorem passes_any {t : Text} {pos : Nat} : passes t.toArray CharTest.any.holds pos = true ↔ pos < t.length := by
  rw [passes_toArray]
  constructor
  · rintro ⟨c, here, -⟩
    exact (List.getElem?_eq_some_iff.1 here).1
  · intro within
    exact ⟨t[pos], List.getElem?_eq_getElem within, rfl⟩

theorem runLength_any {t : Text} {pos limit : Nat} (within : pos + limit ≤ t.length) :
    runLength t.toArray CharTest.any.holds pos limit = limit := by
  induction limit generalizing pos with
  | zero => rfl
  | succ limit ih => rw [runLength, if_pos (passes_any.2 (by omega)), ih (by omega)]

/-- Where any character passes, a run goes up to the end of the text. -/
theorem longestRun_any {t : Text} {pos : Nat} (within : pos ≤ t.length) :
    longestRun t.toArray CharTest.any.holds none pos = t.length - pos := by
  rw [longestRun, Option.elim_none, List.size_toArray, runLength_any (by omega)]

theorem tryDown_isSome_iff {f : Nat → Option State} {extra : Nat} :
    (tryDown f 0 extra).isSome = true ↔ ∃ n ≤ extra, (f n).isSome = true := by
  induction extra with
  | zero => simp [tryDown]
  | succ extra ih =>
      simp only [tryDown, Nat.zero_add]
      cases longest : f (extra + 1) with
      | some st =>
          simp only [Option.isSome_some, true_iff]
          exact ⟨extra + 1, Nat.le_refl _, by rw [longest]; rfl⟩
      | none =>
          simp only [ih]
          constructor
          · rintro ⟨n, upTo, goes⟩
            exact ⟨n, Nat.le_succ_of_le upTo, goes⟩
          · rintro ⟨n, upTo, goes⟩
            rcases Nat.le_or_eq_of_le_succ upTo with upTo | rfl
            · exact ⟨n, upTo, goes⟩
            · rw [longest] at goes
              cases goes

/-- What is tried from the shortest up goes no further than it has to. -/
theorem tryUp_least {f : Nat → Option State} {least extra k : Nat} (from_ : least ≤ k) (upTo : k ≤ least + extra)
    (goes : (f k).isSome = true) : ∃ n ≤ k, (f n).isSome = true ∧ tryUp f least extra = f n := by
  induction extra generalizing least with
  | zero =>
      obtain rfl : least = k := by omega
      exact ⟨least, Nat.le_refl _, goes, rfl⟩
  | succ extra ih =>
      simp only [tryUp]
      cases here : f least with
      | some st => exact ⟨least, from_, by rw [here]; rfl, here.symm⟩
      | none =>
          have later : least ≠ k := by
            rintro rfl
            rw [here] at goes
            cases goes
          exact ih (by omega) (by omega)

section Any

variable {t : Text} {follow : Follow} {st : State} (within : st.pos ≤ t.length)

include within

theorem runChars_any_greedy_iff :
    (runChars t.toArray CharTest.any.holds .greedy 0 none follow st).isSome = true ↔
      ∃ n, st.pos + n ≤ t.length ∧ (follow (st.moved (st.pos + n))).isSome = true := by
  simp only [runChars, longestRun_any within, Nat.not_lt_zero, if_false, Nat.sub_zero, tryDown_isSome_iff]
  exact exists_congr fun n => and_congr_left fun _ => by omega

/-- A reluctant repetition stops at the first place from which it can be followed. -/
theorem runChars_any_reluctant {k : Nat} (upTo : st.pos + k ≤ t.length)
    (goes : (follow (st.moved (st.pos + k))).isSome = true) :
    ∃ n ≤ k, (follow (st.moved (st.pos + n))).isSome = true ∧
      runChars t.toArray CharTest.any.holds .reluctant 0 none follow st = follow (st.moved (st.pos + n)) := by
  simp only [runChars, longestRun_any within, Nat.not_lt_zero, if_false, Nat.sub_zero]
  exact tryUp_least (f := fun n => follow (st.moved (st.pos + n))) (Nat.zero_le k) (by omega) goes

end Any

end Regex

/-! ## Parts -/

namespace GlobPart

theorem holds_classItem (ends : Char × Char) (c : Char) :
    (classItem ends).holds c = (ends.1 ≤ c && c ≤ ends.2) := by
  obtain ⟨low, high⟩ := ends
  unfold classItem
  split
  · rename_i same
    obtain rfl : low = high := same
    rw [Bool.eq_iff_iff]
    simp only [ClassItem.holds, decide_eq_true_eq, Bool.and_eq_true, Char.toNat_inj]
    constructor
    · rintro rfl
      exact ⟨le_rfl, le_rfl⟩
    · rintro ⟨above, below⟩
      exact le_antisymm below above
  · rfl

theorem hasCase_classItem (ends : Char × Char) : (classItem ends).hasCase .exact = false := by
  unfold classItem
  split <;> rfl

theorem holds_set (negated : Bool) (ranges : List (Char × Char)) (c : Char) :
    (CharTest.set (ranges.map classItem) negated .exact).holds c = (GlobPart.oneOf negated ranges).holds c := by
  have folds : (ranges.map classItem).any (·.hasCase .exact) = false := by
    simp [hasCase_classItem]
  have held : (ranges.map classItem).any (·.holds c) = ranges.any fun ends => ends.1 ≤ c && c ≤ ends.2 := by
    rw [List.any_map]
    exact congrArg ranges.any (funext fun ends => holds_classItem ends c)
  rw [CharTest.holds, folds, held]
  rfl

theorem holds_setTest (negated : Bool) (ranges : List (Char × Char)) (c : Char) :
    (setTest negated ranges).holds c = (GlobPart.oneOf negated ranges).holds c := by
  rw [← holds_set]
  unfold setTest
  split
  · rename_i low high
    split
    · rename_i same
      simp [CharTest.holds, Folding.hasCase, classItem, same, ClassItem.hasCase, ClassItem.holds, beq_eq_decide]
    · rfl
  · rfl

/-- A part takes one character that it holds. -/
theorem run_pattern {part : GlobPart} (single : part ≠ .star) (text : Array Char) (follow : Follow) (st : State) :
    part.pattern.run text follow st =
      if passes text (part.holds ·) st.pos then follow (st.moved (st.pos + 1)) else none := by
  cases part with
  | star => exact absurd rfl single
  | any => rfl
  | char c =>
      have only : (CharTest.only c).holds = fun d => (GlobPart.char c).holds d := by
        funext d
        rw [Bool.eq_iff_iff, CharTest.only_holds, holds, beq_iff_eq]
      rw [pattern, Pattern.run, only]
  | oneOf negated ranges =>
      cases ranges with
      | nil =>
          cases negated with
          | true => rfl
          | false =>
              have never : passes text (fun c => (GlobPart.oneOf false []).holds c) st.pos = false :=
                (Option.any_eq_false_iff_get _ _).2 fun _ => rfl
              rw [never]
              rfl
      | cons ends more =>
          rw [pattern, Pattern.run, funext (holds_setTest negated (ends :: more))]

end GlobPart

namespace Glob

/-! ## Segments -/

theorem matches_nil_iff {s : Text} : Matches [] s ↔ s = [] := by
  constructor
  · intro matches_
    cases matches_
    rfl
  · rintro rfl
    exact .nil

/-- A star takes whatever stands in front. -/
theorem matches_star_of_suffix {g : Glob} {s s' : Text} (suffix : s' <:+ s) (matches_ : Matches (.star :: g) s') :
    Matches (.star :: g) s := by
  obtain ⟨s'', suffix', rest⟩ := matches_star_iff.1 matches_
  exact matches_star_iff.2 ⟨s'', suffix'.trans suffix, rest⟩

/-- The segments with a star in front of each. -/
def starred : List Glob → Glob
  | [] => []
  | segment :: rest => .star :: segment ++ starred rest

theorem segments_join (g : Glob) : (segments g).1 ++ starred (segments g).2 = g := by
  fun_induction segments g with
  | case1 => rfl
  | case2 rest ih => exact congrArg (GlobPart.star :: ·) ih
  | case3 part rest star ih => exact congrArg (part :: ·) ih

/-- No segment has a star. -/
theorem star_not_mem_segments (g : Glob) :
    GlobPart.star ∉ (segments g).1 ∧ ∀ segment ∈ (segments g).2, GlobPart.star ∉ segment := by
  fun_induction segments g with
  | case1 => simp
  | case2 rest ih => exact ⟨List.not_mem_nil, List.forall_mem_cons.2 ih⟩
  | case3 part rest star ih => exact ⟨List.not_mem_cons_of_ne_of_not_mem (Ne.symm star) ih.1, ih.2⟩

/-- Whether the parts of a segment hold the first characters of a text. -/
def standsIn : Glob → Text → Bool
  | [], _ => true
  | _ :: _, [] => false
  | part :: segment, c :: t => part.holds c && standsIn segment t

theorem length_le_of_standsIn {segment : Glob} {s : Text} (stands : standsIn segment s = true) :
    segment.length ≤ s.length := by
  fun_induction standsIn segment s with
  | case1 => exact Nat.zero_le _
  | case2 => cases stands
  | case3 part segment c t ih =>
      have rest := (Bool.and_eq_true_iff.1 stands).2
      exact Nat.succ_le_succ (ih rest)

theorem matches_segment_iff {segment g : Glob} (starless : GlobPart.star ∉ segment) {s : Text} :
    Matches (segment ++ g) s ↔ standsIn segment s = true ∧ Matches g (s.drop segment.length) := by
  induction segment generalizing s with
  | nil => simp [standsIn]
  | cons part segment ih =>
      obtain ⟨single, starless⟩ := not_or.1 (mt List.mem_cons.2 starless)
      rw [List.cons_append, matches_one_iff (Ne.symm single)]
      cases s with
      | nil => simp [standsIn]
      | cons c rest => simp [standsIn, ih starless, and_assoc]

variable {t : Text}

theorem run_segment {segment : Glob} (starless : GlobPart.star ∉ segment) (ps : List Pattern) (follow : Follow)
    (st : State) :
    (Pattern.sequence (segment.map GlobPart.pattern ++ ps)).run t.toArray follow st =
      if standsIn segment (t.drop st.pos) then
        (Pattern.sequence ps).run t.toArray follow (st.moved (st.pos + segment.length))
      else none := by
  induction segment generalizing st with
  | nil => rfl
  | cons part segment ih =>
      obtain ⟨single, starless⟩ := not_or.1 (mt List.mem_cons.2 starless)
      rw [List.map_cons, List.cons_append, Regex.run_sequence_cons, GlobPart.run_pattern (Ne.symm single),
        ih starless, passes, List.getElem?_toArray, ← List.head?_drop]
      cases here : t.drop st.pos with
      | nil => rfl
      | cons c rest =>
          have behind : t.drop (st.pos + 1) = rest := by rw [← List.tail_drop, here, List.tail_cons]
          have moved : st.pos + 1 + segment.length = st.pos + (segment.length + 1) := by omega
          cases held : part.holds c with
          | true => simp [standsIn, held, State.moved, behind, moved]
          | false => simp [standsIn, held]

/-! ## What is found -/

theorem exists_suffix_drop_iff {yes : Text → Prop} {pos : Nat} (within : pos ≤ t.length) :
    (∃ s, s <:+ t.drop pos ∧ yes s) ↔ ∃ n, pos + n ≤ t.length ∧ yes (t.drop (pos + n)) := by
  constructor
  · rintro ⟨s, suffix, holds⟩
    rw [List.suffix_iff_eq_drop.1 suffix, List.drop_drop] at holds
    exact ⟨_, by rw [List.length_drop]; omega, holds⟩
  · rintro ⟨n, -, holds⟩
    rw [← List.drop_drop] at holds
    exact ⟨_, List.drop_suffix n _, holds⟩

/-- From any place on, the patterns reach the end of the text where the parts match all that is left. -/
def Finds (t : Text) (ps : List Pattern) (g : Glob) : Prop :=
  ∀ st : State, st.pos ≤ t.length →
    (((Pattern.sequence ps).run t.toArray ((Pattern.anchor .textEnd).run t.toArray some) st).isSome = true ↔
      Matches g (t.drop st.pos))

theorem finds_nil : Finds t [] [] := by
  intro st within
  have ended : (Pattern.sequence []).run t.toArray ((Pattern.anchor .textEnd).run t.toArray some) st =
      if st.pos = t.length then some st else none := by
    simp [Pattern.sequence, Pattern.run, Regex.Anchor.holds]
  rw [ended, matches_nil_iff, List.drop_eq_nil_iff]
  split <;> simp <;> omega

variable {ps : List Pattern} {g segment : Glob}

theorem finds_segment (finds : Finds t ps g) (starless : GlobPart.star ∉ segment) :
    Finds t (segment.map GlobPart.pattern ++ ps) (segment ++ g) := by
  intro st within
  rw [run_segment starless, matches_segment_iff starless]
  by_cases stands : standsIn segment (t.drop st.pos) = true
  · have inside := length_le_of_standsIn stands
    rw [List.length_drop] at inside
    have rest := finds (st.moved (st.pos + segment.length)) (by simp only [State.moved]; omega)
    rw [if_pos stands, rest, List.drop_drop]
    simp [stands, State.moved]
  · simp [stands]

/-- Two stars are one. -/
theorem finds_star (finds : Finds t ps (.star :: g)) : Finds t ps (.star :: .star :: g) := by
  intro st within
  rw [finds st within, matches_star_iff (g := .star :: g)]
  constructor
  · intro matches_
    exact ⟨_, List.suffix_rfl, matches_⟩
  · rintro ⟨s, suffix, matches_⟩
    exact matches_star_of_suffix suffix matches_

theorem finds_greedy (finds : Finds t ps g) : Finds t (.repeatChar .greedy 0 none .any :: ps) (.star :: g) := by
  intro st within
  rw [Regex.run_sequence_cons, Pattern.run, Regex.runChars_any_greedy_iff within, matches_star_iff,
    exists_suffix_drop_iff within]
  exact exists_congr fun n => and_congr_right fun inside => finds (st.moved (st.pos + n)) inside

/-- Goes behind a segment that stands at the place. -/
def goBehind (t : Text) (segment : Glob) : Follow := fun st =>
  if standsIn segment (t.drop st.pos) then some (st.moved (st.pos + segment.length)) else none

theorem run_sought (starless : GlobPart.star ∉ segment) (st : State) :
    (sought segment).run t.toArray some st =
      Regex.runChars t.toArray CharTest.any.holds .reluctant 0 none (goBehind t segment) st := by
  have stands := run_segment (t := t) starless [] some
  rw [List.append_nil] at stands
  rw [sought, Regex.run_sequence_cons, Pattern.run, funext stands]
  rfl

/-- It is found where it stands. -/
theorem run_sought_some (starless : GlobPart.star ∉ segment) {st st' : State} (within : st.pos ≤ t.length)
    (found : (sought segment).run t.toArray some st = some st') :
    ∃ n, st.pos + n ≤ t.length ∧ standsIn segment (t.drop (st.pos + n)) = true ∧
      st' = st.moved (st.pos + n + segment.length) := by
  rw [run_sought starless] at found
  obtain ⟨n, -, -, hold, behind⟩ := Regex.runChars_some found
  have inside : st.pos + n ≤ t.length := by
    cases n with
    | zero => exact within
    | succ n => exact Regex.passes_any.1 (hold n (Nat.lt_succ_self n))
  unfold goBehind at behind
  split at behind
  · rename_i stands
    exact ⟨n, inside, stands, (Option.some.inj behind).symm⟩
  · cases behind

/-- It is not found behind a place where it stands. -/
theorem run_sought_least (starless : GlobPart.star ∉ segment) {st : State} (within : st.pos ≤ t.length) {k : Nat}
    (inside : st.pos + k ≤ t.length) (stands : standsIn segment (t.drop (st.pos + k)) = true) :
    ∃ n ≤ k, standsIn segment (t.drop (st.pos + n)) = true ∧
      (sought segment).run t.toArray some st = some (st.moved (st.pos + n + segment.length)) := by
  have goes : (goBehind t segment (st.moved (st.pos + k))).isSome = true := by
    rw [goBehind, State.moved, if_pos stands]
    rfl
  obtain ⟨n, upTo, goes, ran⟩ := Regex.runChars_any_reluctant within inside goes
  rw [run_sought starless, ran]
  unfold goBehind at goes ⊢
  split at goes
  · rename_i stands'
    exact ⟨n, upTo, stands', if_pos stands'⟩
  · cases goes

/-- **Matching a segment for good loses nothing if a star follows.** -/
theorem finds_atomic (finds : Finds t ps (.star :: g)) (starless : GlobPart.star ∉ segment) :
    Finds t (.atomic (sought segment) :: ps) (.star :: segment ++ .star :: g) := by
  intro st within
  rw [Regex.run_sequence_cons, Pattern.run, List.cons_append, matches_star_iff, exists_suffix_drop_iff within]
  simp only [matches_segment_iff starless, List.drop_drop]
  have after : ∀ {n}, standsIn segment (t.drop (st.pos + n)) = true → st.pos + n ≤ t.length →
      st.pos + n + segment.length ≤ t.length := by
    intro n stands inside
    have length := length_le_of_standsIn stands
    rw [List.length_drop] at length
    omega
  constructor
  · intro some_
    obtain ⟨st', found⟩ := Option.isSome_iff_exists.1 some_
    obtain ⟨mid, sought_, rest⟩ := Option.bind_eq_some_iff.1 found
    obtain ⟨n, inside, stands, rfl⟩ := run_sought_some starless within sought_
    have follows := (finds _ (after stands inside)).1 (Option.isSome_iff_exists.2 ⟨st', rest⟩)
    exact ⟨n, inside, stands, follows⟩
  · rintro ⟨k, inside, stands, follows⟩
    obtain ⟨n, upTo, stands', sought_⟩ := run_sought_least starless within inside stands
    have inside' : st.pos + n ≤ t.length := by omega
    rw [sought_, Option.bind_some, finds _ (after stands' inside')]
    -- What follows was matched further on, and its star takes what lies between.
    refine matches_star_of_suffix ?_ follows
    rw [show st.pos + k + segment.length = st.pos + n + segment.length + (k - n) by omega, ← List.drop_drop]
    exact List.drop_suffix _ _

theorem finds_behindStars {segments : List Glob} (starless : ∀ segment ∈ segments, GlobPart.star ∉ segment) :
    Finds t (behindStars segments) (starred segments) := by
  fun_induction behindStars segments with
  | case1 => exact finds_nil
  | case2 last =>
      have all := finds_segment (t := t) finds_nil (starless last List.mem_cons_self)
      rw [starred, starred, List.cons_append]
      simp only [List.append_nil] at all ⊢
      exact finds_greedy all
  | case3 rest some_ ih =>
      obtain ⟨next, more, rfl⟩ := List.exists_cons_of_ne_nil some_
      exact finds_star (ih fun segment member => starless segment (List.mem_cons_of_mem _ member))
  | case4 segment rest some_ nonempty ih =>
      obtain ⟨next, more, rfl⟩ := List.exists_cons_of_ne_nil some_
      exact finds_atomic (ih fun segment member => starless segment (List.mem_cons_of_mem _ member))
        (starless segment List.mem_cons_self)

/-! ## No groups -/

/-- A pattern that begins no group, wherever it stands. -/
def IsGroupless (p : Pattern) : Prop := ∀ looped opened begun, p.begunAfter looped opened begun = some begun

theorem isGroupless_sequence {ps : List Pattern} (members : ∀ p ∈ ps, IsGroupless p) :
    IsGroupless (Pattern.sequence ps) := by
  intro looped opened begun
  fun_induction Pattern.sequence ps with
  | case1 => rfl
  | case2 p => exact members p List.mem_cons_self looped opened begun
  | case3 p rest nonempty ih =>
      obtain ⟨here, later⟩ := List.forall_mem_cons.1 members
      rw [Pattern.begunAfter, here, Option.bind_some]
      exact ih later

theorem isGroupless_part (part : GlobPart) : IsGroupless part.pattern := by
  intro looped opened begun
  cases part with
  | star | any | char => rfl
  | oneOf negated ranges => cases ranges <;> cases negated <;> rfl

theorem isGroupless_parts (segment : Glob) : ∀ p ∈ segment.map GlobPart.pattern, IsGroupless p :=
  List.forall_mem_map.2 fun part _ => isGroupless_part part

theorem isGroupless_behindStars (segments : List Glob) : ∀ p ∈ behindStars segments, IsGroupless p := by
  have star : ∀ greed, IsGroupless (.repeatChar greed 0 none .any) := fun greed looped opened begun => rfl
  fun_induction behindStars segments with
  | case1 => simp
  | case2 last => exact List.forall_mem_cons.2 ⟨star .greedy, isGroupless_parts last⟩
  | case3 rest some_ ih => exact ih
  | case4 segment rest some_ nonempty ih =>
      have sought_ : IsGroupless (sought segment) :=
        isGroupless_sequence (List.forall_mem_cons.2 ⟨star .reluctant, isGroupless_parts segment⟩)
      exact List.forall_mem_cons.2 ⟨fun looped opened begun => sought_ looped opened begun, ih⟩

theorem isSteady_regex (g : Glob) : (regex g).isSteady = true := by
  have groupless := isGroupless_sequence (List.forall_mem_append.2
    ⟨isGroupless_parts (segments g).1, isGroupless_behindStars (segments g).2⟩)
  simp [Regex.isSteady, regex, Pattern.begunAfter, groupless false [] 0]

/-- **The expression of a wildcard pattern is found where the pattern is.** -/
theorem isFoundIn_regex (g : Glob) (t : Text) : (regex g).isFoundIn t = g.isFoundIn t := by
  have starless := star_not_mem_segments g
  have finds := finds_segment (finds_behindStars (t := t) starless.2) starless.1
  rw [segments_join] at finds
  have begins : ∀ p ≤ t.length, ((regex g).matchAt? t.toArray p false).isSome = true ↔ Matches g (t.drop p) := by
    intro p within
    rw [← finds ⟨p, List.replicate 0 none⟩ within, Regex.matchAt?_eq_runAt? (isSteady_regex g), Regex.runAt?,
      Option.isSome_map]
    rfl
  rw [Bool.eq_iff_iff, isFoundIn_iff, Regex.isFoundIn_iff_matchAt?]
  have places := @exists_suffix_drop_iff t (Matches g) 0 (Nat.zero_le _)
  simp only [List.drop_zero, Nat.zero_add] at places
  rw [places]
  exact exists_congr fun p => and_congr_right (begins p)

/-- What is written for a pattern is read as its expression. -/
example : Regex.compile {} "(?s:x(?>.*?\\.[^b-d])(?>.*?[b-dx][^c]).*(?!)a)\\Z".toList =
    .ok (regex (read "x*.[!b-d]**[b-dx][b-a!c]*[b-a]a".toList)) := by decide +kernel

end Glob

end Graft
