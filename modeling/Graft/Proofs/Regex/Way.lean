/-
# Graft.Proofs.Regex.Way -- the ways through a pattern

`Pattern.run` tries ways in an order and takes the first that leads to the end.  `Way` forgets the order: it
says which states a pattern may lead to from a state at all.  Whatever a run finds went along a way
(`run_way`), so what holds along every way holds of every match.

Two such facts are computed from the pattern.

* `Pattern.lead` lists tests that the first characters of any match pass.
* `Pattern.trail` is a test that the last character of any match passes, where the pattern ends in one.
-/
import Graft.Proofs.Regex.Onward
import Graft.Proofs.Regex.Run

namespace Graft.Regex

set_option autoImplicit false

/-- A state that a pattern may lead to from a state, whichever way is preferred. -/
inductive Way (text : Array Char) : Pattern → State → State → Prop where
  | empty (st : State) : Way text .empty st st
  | char {t : CharTest} {st : State} (holds : passes text t.holds st.pos = true) :
      Way text (.char t) st (st.moved (st.pos + 1))
  | anchor {a : Anchor} {st : State} (holds : a.holds text st.pos = true) : Way text (.anchor a) st st
  | seq {a b : Pattern} {st mid st' : State} (first : Way text a st mid) (second : Way text b mid st') :
      Way text (.seq a b) st st'
  | left {a b : Pattern} {st st' : State} (way : Way text a st st') : Way text (.alt a b) st st'
  | right {a b : Pattern} {st st' : State} (way : Way text b st st') : Way text (.alt a b) st st'
  | group {index : Nat} {body : Pattern} {st st' : State} (way : Way text body st st') :
      Way text (.group index body) st (st'.setGroup index ⟨st.pos, st'.pos⟩)
  | backref {index : Nat} {f : Folding} {st : State} {s : Span} (matched : st.group? index = some s)
      (again : repeatsSpan text f s st.pos = true) :
      Way text (.backref index f) st (st.moved (st.pos + (s.stop - s.start)))
  | chars {greed : Greed} {least : Nat} {most : Option Nat} {t : CharTest} {st : State} {n : Nat}
      (enough : least ≤ n) (limit : ∀ m, most = some m → n ≤ m)
      (hold : ∀ k < n, passes text t.holds (st.pos + k) = true) :
      Way text (.repeatChar greed least most t) st (st.moved (st.pos + n))
  | done {greed : Greed} {least : Nat} {most : Option Nat} {body : Pattern} (st : State) :
      Way text (.repeatGroup greed least most body) st st
  | round {greed : Greed} {least : Nat} {most : Option Nat} {body : Pattern} {st mid st' : State}
      (first : Way text body st mid) (rest : Way text (.repeatGroup greed least most body) mid st') :
      Way text (.repeatGroup greed least most body) st st'
  | atomic {body : Pattern} {st st' : State} (way : Way text body st st') : Way text (.atomic body) st st'
  | ahead {body : Pattern} {st st' : State} (way : Way text body st st') :
      Way text (.ahead false body) st (st'.moved st.pos)
  | notAhead {body : Pattern} (st : State) : Way text (.ahead true body) st st
  | behind {width : Nat × Nat} {body : Pattern} {st st' : State}
      (way : Way text body (st.moved (st.pos - width.1)) st') :
      Way text (.behind false width body) st (st'.moved st.pos)
  | notBehind {width : Nat × Nat} {body : Pattern} (st : State) : Way text (.behind true width body) st st
  | ifYes {index : Nat} {yes no : Pattern} {st st' : State} (way : Way text yes st st') :
      Way text (.ifGroup index yes no) st st'
  | ifNo {index : Nat} {yes no : Pattern} {st st' : State} (way : Way text no st st') :
      Way text (.ifGroup index yes no) st st'

/-! ## Repetitions of one character -/

theorem runLength_le (text : Array Char) (p : Char → Bool) (pos limit : Nat) :
    runLength text p pos limit ≤ limit := by
  induction limit generalizing pos with
  | zero => exact Nat.le_refl _
  | succ limit ih =>
      simp only [runLength]
      split
      · exact Nat.succ_le_succ (ih (pos + 1))
      · exact Nat.zero_le _

theorem longestRun_le_most (text : Array Char) (p : Char → Bool) (m pos : Nat) :
    longestRun text p (some m) pos ≤ m :=
  Nat.le_trans (runLength_le text p pos _) (Nat.min_le_right _ _)

theorem passes_of_lt_longestRun {text : Array Char} {p : Char → Bool} {most : Option Nat} {pos k : Nat}
    (before : k < longestRun text p most pos) : passes text p (pos + k) = true :=
  passes_of_lt_runLength before

theorem tryDown_some {f : Nat → Option State} {least extra : Nat} {r : State}
    (found : tryDown f least extra = some r) :
    ∃ n, least ≤ n ∧ n ≤ least + extra ∧ f n = some r := by
  induction extra with
  | zero => exact ⟨least, Nat.le_refl _, Nat.le_refl _, found⟩
  | succ extra ih =>
      simp only [tryDown] at found
      split at found
      · rename_i st first
        exact ⟨least + (extra + 1), Nat.le_add_right _ _, Nat.le_refl _, first.trans found⟩
      · obtain ⟨n, enough, upTo, leads⟩ := ih found
        exact ⟨n, enough, by omega, leads⟩

theorem tryUp_some {f : Nat → Option State} {least extra : Nat} {r : State}
    (found : tryUp f least extra = some r) :
    ∃ n, least ≤ n ∧ n ≤ least + extra ∧ f n = some r := by
  induction extra generalizing least with
  | zero => exact ⟨least, Nat.le_refl _, Nat.le_refl _, found⟩
  | succ extra ih =>
      simp only [tryUp] at found
      split at found
      · rename_i st first
        exact ⟨least, Nat.le_refl _, Nat.le_add_right _ _, first.trans found⟩
      · obtain ⟨n, enough, upTo, leads⟩ := ih found
        exact ⟨n, by omega, by omega, leads⟩

theorem runChars_some {text : Array Char} {p : Char → Bool} {greed : Greed} {least : Nat} {most : Option Nat}
    {follow : Follow} {st r : State} (found : runChars text p greed least most follow st = some r) :
    ∃ n, least ≤ n ∧ (∀ m, most = some m → n ≤ m) ∧ (∀ k < n, passes text p (st.pos + k) = true) ∧
      follow (st.moved (st.pos + n)) = some r := by
  simp only [runChars] at found
  split at found
  · simp at found
  · rename_i enough
    have chosen : ∃ n, least ≤ n ∧
        n ≤ longestRun text p most st.pos ∧
        follow (st.moved (st.pos + n)) = some r := by
      cases greed with
      | greedy =>
          obtain ⟨n, fewest, upTo, leads⟩ := tryDown_some found
          exact ⟨n, fewest, by omega, leads⟩
      | reluctant =>
          obtain ⟨n, fewest, upTo, leads⟩ := tryUp_some found
          exact ⟨n, fewest, by omega, leads⟩
      | possessive => exact ⟨_, Nat.le_of_not_lt enough, Nat.le_refl _, found⟩
    obtain ⟨n, fewest, upTo, leads⟩ := chosen
    refine ⟨n, fewest, ?_, fun k before => passes_of_lt_longestRun (Nat.lt_of_lt_of_le before upTo), leads⟩
    rintro m rfl
    exact Nat.le_trans upTo (longestRun_le_most text p m st.pos)

/-! ## Other repetitions -/

section Rounds

variable {body : Follow → Follow} {R : State → State → Prop}

/-- What a repetition leads to, if `R` allows no round and a round followed by more. -/
theorem loop_some {greed : Greed} {least : Nat} {most : Option Nat} {follow : Follow} (refl : ∀ st, R st st)
    (round : ∀ {next st r}, body next st = some r →
      ∃ mid, next mid = some r ∧ ∀ st', R mid st' → R st st')
    {fuel count : Nat} {last : Option Nat} {st r : State}
    (found : loop body greed least most follow fuel count last st = some r) :
    ∃ st', R st st' ∧ follow st' = some r := by
  induction fuel generalizing count last st r with
  | zero => exact ⟨st, refl st, found⟩
  | succ fuel ih =>
      have next : ∀ {count' last'}, body (loop body greed least most follow fuel count' last') st = some r →
          ∃ st', R st st' ∧ follow st' = some r := by
        intro count' last' went
        obtain ⟨mid, rest, extend⟩ := round went
        obtain ⟨st', way, leads⟩ := ih rest
        exact ⟨st', extend st' way, leads⟩
      simp only [loop] at found
      split at found
      · exact next found
      · cases greed with
        | greedy =>
            simp only at found
            split at found
            · rename_i st'' again
              split at again
              · exact next (again.trans found)
              · simp at again
            · exact ⟨st, refl st, found⟩
        | reluctant =>
            simp only at found
            split at found
            · rename_i st'' here
              exact ⟨st, refl st, here.trans found⟩
            · split at found
              · exact next found
              · simp at found
        | possessive =>
            simp only at found
            split at found
            · split at found
              · rename_i mid went
                obtain ⟨mid', same, extend⟩ := round went
                obtain rfl := Option.some.inj same
                obtain ⟨st', way, leads⟩ := ih found
                exact ⟨st', extend st' way, leads⟩
              · exact ⟨st, refl st, found⟩
            · exact ⟨st, refl st, found⟩

theorem settle_some
    (round : ∀ {next st r}, body next st = some r →
      ∃ mid, next mid = some r ∧ ∀ st', R mid st' → R st st')
    {n : Nat} {st r : State} (found : settle body n st = some r) (st' : State) (more : R r st') : R st st' := by
  induction n generalizing st with
  | zero =>
      obtain rfl := Option.some.inj found
      exact more
  | succ n ih =>
      simp only [settle, Option.bind_eq_some_iff] at found
      obtain ⟨mid, went, rest⟩ := found
      obtain ⟨mid', same, extend⟩ := round went
      obtain rfl := Option.some.inj same
      exact extend st' (ih rest)

end Rounds

/-! ## Runs -/

/-- **A run goes along a way and hands its end to what follows.** -/
theorem run_way {text : Array Char} {p : Pattern} {follow : Follow} {st r : State}
    (found : p.run text follow st = some r) : ∃ st', Way text p st st' ∧ follow st' = some r := by
  induction p generalizing follow st r with
  | empty => exact ⟨st, .empty st, found⟩
  | char t =>
      simp only [Pattern.run] at found
      split at found
      · rename_i holds
        exact ⟨_, .char holds, found⟩
      · simp at found
  | anchor a =>
      simp only [Pattern.run] at found
      split at found
      · rename_i holds
        exact ⟨st, .anchor holds, found⟩
      · simp at found
  | seq a b ihA ihB =>
      obtain ⟨mid, first, rest⟩ := ihA found
      obtain ⟨st', second, leads⟩ := ihB rest
      exact ⟨st', .seq first second, leads⟩
  | alt a b ihA ihB =>
      simp only [Pattern.run] at found
      split at found
      · rename_i r' first
        obtain ⟨st', way, leads⟩ := ihA (first.trans found)
        exact ⟨st', .left way, leads⟩
      · obtain ⟨st', way, leads⟩ := ihB found
        exact ⟨st', .right way, leads⟩
  | group index body ih =>
      obtain ⟨st', way, leads⟩ := ih found
      exact ⟨_, .group way, leads⟩
  | backref index f =>
      simp only [Pattern.run] at found
      split at found
      · rename_i s matched
        split at found
        · rename_i again
          exact ⟨_, .backref (Option.filter_eq_some_iff.1 matched).1 again, found⟩
        · simp at found
      · simp at found
  | repeatChar greed least most t =>
      obtain ⟨n, enough, limit, hold, leads⟩ := runChars_some found
      exact ⟨_, .chars enough limit hold, leads⟩
  | repeatGroup greed least most body ih =>
      have refl : ∀ st, Way text (.repeatGroup greed least most body) st st := .done
      have round : ∀ {next : Follow} {st r : State}, body.run text next st = some r →
          ∃ mid, next mid = some r ∧
            ∀ st', Way text (.repeatGroup greed least most body) mid st' →
              Way text (.repeatGroup greed least most body) st st' := by
        intro next st r went
        obtain ⟨mid, way, leads⟩ := ih went
        exact ⟨mid, leads, fun _ rest => .round way rest⟩
      cases greed with
      | possessive =>
          simp only [Pattern.run, Option.bind_eq_some_iff] at found
          obtain ⟨mid, settled, rest⟩ := found
          obtain ⟨st', way, leads⟩ := loop_some refl round rest
          exact ⟨st', settle_some round settled st' way, leads⟩
      | greedy => exact loop_some refl round found
      | reluctant => exact loop_some refl round found
  | atomic body ih =>
      simp only [Pattern.run, Option.bind_eq_some_iff] at found
      obtain ⟨st', went, leads⟩ := found
      obtain ⟨end_, way, same⟩ := ih went
      obtain rfl := Option.some.inj same
      exact ⟨_, .atomic way, leads⟩
  | ahead negated body ih =>
      simp only [Pattern.run] at found
      split at found
      · rename_i st' went
        obtain ⟨end_, way, same⟩ := ih went
        obtain rfl := Option.some.inj same
        cases negated with
        | false => exact ⟨_, .ahead way, by simpa using found⟩
        | true => simp at found
      · cases negated with
        | false => simp at found
        | true => exact ⟨st, .notAhead st, by simpa using found⟩
  | behind negated width body ih =>
      simp only [Pattern.run] at found
      split at found
      · rename_i st' went
        split at went
        · obtain ⟨end_, way, same⟩ := ih went
          obtain rfl := Option.some.inj same
          cases negated with
          | false => exact ⟨_, .behind way, by simpa using found⟩
          | true => simp at found
        · simp at went
      · cases negated with
        | false => simp at found
        | true => exact ⟨st, .notBehind st, by simpa using found⟩
  | ifGroup index yes no ihYes ihNo =>
      simp only [Pattern.run] at found
      split at found
      · obtain ⟨st', way, leads⟩ := ihYes found
        exact ⟨st', .ifYes way, leads⟩
      · obtain ⟨st', way, leads⟩ := ihNo found
        exact ⟨st', .ifNo way, leads⟩

/-! ## The first characters of a match -/

/-- Tests for the first characters of a match; `whole` if a match has no more characters than these. -/
structure Lead where
  tests : List CharTest
  whole : Bool
  deriving DecidableEq, Repr

def Lead.followedBy (l m : Lead) : Lead := if l.whole then ⟨l.tests ++ m.tests, m.whole⟩ else l

def Pattern.lead : Pattern → Lead
  | .empty => ⟨[], true⟩
  | .char t => ⟨[t], true⟩
  | .anchor _ => ⟨[], true⟩
  | .seq a b => a.lead.followedBy b.lead
  | .alt _ _ => ⟨[], false⟩
  | .group _ body => body.lead
  | .backref _ _ => ⟨[], false⟩
  | .repeatChar _ least most t => ⟨List.replicate least t, most = some least⟩
  | .repeatGroup _ _ _ _ => ⟨[], false⟩
  | .atomic body => body.lead
  | .ahead _ _ => ⟨[], true⟩
  | .behind _ _ _ => ⟨[], true⟩
  | .ifGroup _ _ _ => ⟨[], false⟩

/-- Between these two places a match passes the tests of a lead. -/
structure Lead.Fits (text : Array Char) (start stop : Nat) (l : Lead) : Prop where
  passed : ∀ k t, l.tests[k]? = some t → passes text t.holds (start + k) = true
  reach : start + l.tests.length ≤ stop
  whole : l.whole = true → stop = start + l.tests.length

theorem Lead.fits_nil (text : Array Char) (pos : Nat) : (Lead.mk [] true).Fits text pos pos :=
  ⟨fun _ _ none_ => by simp at none_, Nat.le_refl _, fun _ => rfl⟩

theorem Lead.fits_open (text : Array Char) {start stop : Nat} (order : start ≤ stop) :
    (Lead.mk [] false).Fits text start stop :=
  ⟨fun _ _ none_ => by simp at none_, order, fun no => by simp at no⟩

theorem Lead.Fits.followedBy {text : Array Char} {start mid stop : Nat} {l m : Lead}
    (first : l.Fits text start mid) (second : m.Fits text mid stop) :
    (l.followedBy m).Fits text start stop := by
  unfold Lead.followedBy
  split
  · rename_i whole
    have here := first.whole whole
    have reach := second.reach
    refine ⟨fun k t test => ?_, ?_, fun whole' => ?_⟩
    · simp only at test
      by_cases inFirst : k < l.tests.length
      · rw [List.getElem?_append_left inFirst] at test
        exact first.passed k t test
      · rw [List.getElem?_append_right (Nat.le_of_not_lt inFirst)] at test
        have passed := second.passed _ t test
        rwa [here, show start + l.tests.length + (k - l.tests.length) = start + k by omega] at passed
    · simp only [List.length_append]
      omega
    · have := second.whole whole'
      simp only [List.length_append]
      omega
  · rename_i part
    refine ⟨first.passed, Nat.le_trans first.reach ?_, fun whole => absurd whole part⟩
    exact Nat.le_trans (Nat.le_add_right _ _) second.reach

/-- **Every way passes the lead of its pattern.** -/
theorem Way.lead {text : Array Char} {p : Pattern} {st st' : State} (way : Way text p st st') :
    p.lead.Fits text st.pos st'.pos := by
  induction way with
  | empty st => exact Lead.fits_nil text st.pos
  | @char t st holds =>
      refine ⟨fun k t' test => ?_, Nat.le_refl _, fun _ => rfl⟩
      obtain ⟨rfl, rfl⟩ : k = 0 ∧ t = t' := by
        cases k <;> simp [Pattern.lead] at test ⊢
        exact test
      exact holds
  | @anchor a st => exact Lead.fits_nil text st.pos
  | seq _ _ first second => exact first.followedBy second
  | left _ fits => exact Lead.fits_open text (Nat.le_trans (Nat.le_add_right _ _) fits.reach)
  | right _ fits => exact Lead.fits_open text (Nat.le_trans (Nat.le_add_right _ _) fits.reach)
  | group _ fits => exact fits
  | backref => exact Lead.fits_open text (Nat.le_add_right _ _)
  | @chars greed least most t st n enough limit hold =>
      refine ⟨fun k t' test => ?_, ?_, fun whole => ?_⟩
      · obtain ⟨before, rfl⟩ : k < least ∧ t = t' := by
          simpa [Pattern.lead, List.getElem?_replicate] using test
        exact hold k (Nat.lt_of_lt_of_le before enough)
      · simpa [Pattern.lead, State.moved] using enough
      · have most_ := of_decide_eq_true whole
        have := limit least most_
        simp only [Pattern.lead, State.moved, List.length_replicate]
        omega
  | done st => exact Lead.fits_open text (Nat.le_refl _)
  | round _ _ first rest =>
      have := first.reach
      have := rest.reach
      exact Lead.fits_open text (by omega)
  | atomic _ fits => exact fits
  | @ahead body st => exact Lead.fits_nil text st.pos
  | notAhead st => exact Lead.fits_nil text st.pos
  | @behind width body st => exact Lead.fits_nil text st.pos
  | notBehind st => exact Lead.fits_nil text st.pos
  | ifYes _ fits => exact Lead.fits_open text (Nat.le_trans (Nat.le_add_right _ _) fits.reach)
  | ifNo _ fits => exact Lead.fits_open text (Nat.le_trans (Nat.le_add_right _ _) fits.reach)

theorem Way.pos_le {text : Array Char} {p : Pattern} {st st' : State} (way : Way text p st st') :
    st.pos ≤ st'.pos :=
  Nat.le_trans (Nat.le_add_right _ _) way.lead.reach

/-- A way does not leave the text. -/
theorem Way.within {text : Array Char} {p : Pattern} {st st' : State} (way : Way text p st st')
    (within : st.pos ≤ text.size) : st'.pos ≤ text.size := by
  induction way with
  | empty | anchor | done | notAhead | notBehind => exact within
  | char holds => exact lt_size_of_passes holds
  | seq _ _ first second => exact second (first within)
  | left _ ih => exact ih within
  | right _ ih => exact ih within
  | group _ ih => exact ih within
  | backref _ again => exact (onward_of_repeatsSpan again).within within
  | chars _ _ hold => exact (onward_of_passes hold).within within
  | round _ _ first rest => exact rest (first within)
  | atomic _ ih => exact ih within
  | ahead => exact within
  | behind => exact within
  | ifYes _ ih => exact ih within
  | ifNo _ ih => exact ih within

/-! ## The last character of a match -/

/-- The test that the last character of a match passes, if the pattern ends in one. -/
def Pattern.trail : Pattern → Option CharTest
  | .char t => some t
  | .seq _ b => b.trail
  | .group _ body => body.trail
  | .atomic body => body.trail
  | _ => none

theorem Way.trail {text : Array Char} {p : Pattern} {st st' : State} (way : Way text p st st') {t : CharTest}
    (ends : p.trail = some t) : st.pos < st'.pos ∧ passes text t.holds (st'.pos - 1) = true := by
  induction way with
  | char holds =>
      obtain rfl := Option.some.inj ends
      exact ⟨Nat.lt_succ_self _, holds⟩
  | seq first _ _ last =>
      have := first.pos_le
      obtain ⟨moves, passed⟩ := last ends
      exact ⟨by omega, passed⟩
  | group _ last => exact last ends
  | atomic _ last => exact last ends
  | _ => simp [Pattern.trail] at ends

end Graft.Regex
