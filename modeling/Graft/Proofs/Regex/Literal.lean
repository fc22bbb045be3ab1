/-
# Graft.Proofs.Regex.Literal -- patterns that begin with fixed characters

Most patterns of the recipes are fixed characters for the greater part.  A literal is matched by one text
only, so what follows it is matched at a known place (`run_literal`).  A greedy repetition at the end of a
pattern takes all that it can (`runChars_greedy`).
-/
import Graft.Proofs.Regex.Matches
import Graft.Proofs.Text.Occurrence

namespace Graft.Regex

set_option autoImplicit false

open Graft.Text

/-- The test that one character passes. -/
def CharTest.only (c : Char) : CharTest := .code c.toNat false .exact

/-- The characters of a text, then a pattern. -/
def Pattern.literal : Text → Pattern → Pattern
  | [], p => p
  | c :: rest, p => .seq (.char (.only c)) (literal rest p)

theorem CharTest.only_holds (c d : Char) : (CharTest.only c).holds d = true ↔ d = c := by
  simp [CharTest.only, CharTest.holds, Folding.hasCase, Char.toNat_inj]

theorem passes_toArray {t : Text} {p : Char → Bool} {pos : Nat} :
    passes t.toArray p pos = true ↔ ∃ c, t[pos]? = some c ∧ p c = true := by
  rw [passes, List.getElem?_toArray, Option.any_eq_true]

theorem passes_only {t : Text} {c : Char} {pos : Nat} :
    passes t.toArray (CharTest.only c).holds pos = true ↔ t[pos]? = some c := by
  simp only [passes_toArray, CharTest.only_holds, exists_eq_right]

theorem run_literal {t w : Text} {p : Pattern} {follow : Follow} {st r : State}
    (found : (Pattern.literal w p).run t.toArray follow st = some r) :
    StandsAt t w st.pos ∧ p.run t.toArray follow (st.moved (st.pos + w.length)) = some r := by
  induction w generalizing st with
  | nil => exact ⟨standsAt_nil t _, found⟩
  | cons c rest ih =>
      simp only [Pattern.literal, Pattern.run] at found
      split at found
      · rename_i here
        obtain ⟨stands, later⟩ := ih found
        refine ⟨standsAt_cons.2 ⟨passes_only.1 here, stands⟩, ?_⟩
        rw [List.length_cons, show st.pos + (rest.length + 1) = st.pos + 1 + rest.length by omega]
        exact later
      · simp at found

theorem run_literal_of_standsAt {t w : Text} {st : State} (stands : StandsAt t w st.pos) (p : Pattern)
    (follow : Follow) :
    (Pattern.literal w p).run t.toArray follow st = p.run t.toArray follow (st.moved (st.pos + w.length)) := by
  induction w generalizing st with
  | nil => rfl
  | cons c rest ih =>
      obtain ⟨here, later⟩ := standsAt_cons.1 stands
      rw [Pattern.literal, Pattern.run, Pattern.run, if_pos (passes_only.2 here), List.length_cons,
        show st.pos + (rest.length + 1) = st.pos + 1 + rest.length by omega]
      exact ih later

theorem way_literal {t w : Text} {p : Pattern} {st st' : State}
    (way : Way t.toArray (Pattern.literal w p) st st') :
    StandsAt t w st.pos ∧ Way t.toArray p (st.moved (st.pos + w.length)) st' := by
  induction w generalizing st with
  | nil => exact ⟨standsAt_nil t _, way⟩
  | cons c rest ih =>
      rw [Pattern.literal] at way
      cases way with
      | seq first later =>
          cases first with
          | char here =>
              obtain ⟨stands, later⟩ := ih later
              refine ⟨standsAt_cons.2 ⟨passes_only.1 here, stands⟩, ?_⟩
              rw [List.length_cons, show st.pos + (rest.length + 1) = st.pos + 1 + rest.length by omega]
              exact later

theorem run_fixed_of_standsAt {t w : Text} {c : Char} {st : State} (stands : StandsAt t (w ++ [c]) st.pos)
    (follow : Follow) :
    (Pattern.literal w (.char (.only c))).run t.toArray follow st = follow (st.moved (st.pos + (w ++ [c]).length)) := by
  obtain ⟨front, last⟩ := standsAt_append_iff.1 stands
  have here := passes_only.2 (standsAt_cons.1 last).1
  rw [run_literal_of_standsAt front, List.length_append]
  simp only [Pattern.run, State.moved, here, if_true]
  rfl

/-- A pattern of fixed characters alone. -/
theorem way_fixed {t w : Text} {c : Char} {st st' : State}
    (way : Way t.toArray (Pattern.literal w (.char (.only c))) st st') :
    StandsAt t (w ++ [c]) st.pos ∧ st' = st.moved (st.pos + (w ++ [c]).length) := by
  obtain ⟨stands, last⟩ := way_literal way
  cases last with
  | char here =>
      refine ⟨standsAt_append_iff.2 ⟨stands, standsAt_cons.2 ⟨passes_only.1 here, standsAt_nil t _⟩⟩, ?_⟩
      rw [List.length_append]
      rfl

@[simp] theorem begunAfter_literal (w : Text) (p : Pattern) (looped : Bool) (opened : List Nat) (begun : Nat) :
    (Pattern.literal w p).begunAfter looped opened begun = p.begunAfter looped opened begun := by
  induction w with
  | nil => rfl
  | cons c rest ih =>
      rw [Pattern.literal, Pattern.begunAfter, Pattern.begunAfter, Option.bind_some]
      exact ih

theorem isSteady_literal {w : Text} {p : Pattern} {groups : Nat} {names : List (Text × Nat)}
    (steady : isSteady ⟨p, groups, names⟩ = true) : isSteady ⟨.literal w p, groups, names⟩ = true := by
  simpa only [isSteady, begunAfter_literal] using steady

/-- A pattern of fixed characters is found in what contains them. -/
theorem isFoundIn_fixed {w t : Text} {c : Char} (groups : Nat) (names : List (Text × Nat)) :
    isFoundIn ⟨.literal w (.char (.only c)), groups, names⟩ t = true ↔ w ++ [c] <:+: t := by
  rw [isFoundIn, infix_iff_standsAt]
  constructor
  · intro some_
    obtain ⟨m, found⟩ := Option.isSome_iff_exists.1 some_
    obtain ⟨moving, at_⟩ := matchAt?_of_search found
    exact ⟨_, (way_fixed (matchAt?_way (isSteady_literal rfl) at_).2).1⟩
  · rintro ⟨p, stands⟩
    have within := stands.within (by simp)
    refine search_isSome (p := p) (by omega) ?_
    rw [matchAt?_eq_runAt? (isSteady_literal rfl), runAt?, Option.isSome_map, startState,
      run_fixed_of_standsAt stands]
    simp [finish]

theorem lead_literal (w : Text) (p : Pattern) :
    (Pattern.literal w p).lead = ⟨w.map .only ++ p.lead.tests, p.lead.whole⟩ := by
  induction w with
  | nil => rfl
  | cons c rest ih =>
      rw [Pattern.literal, Pattern.lead, ih]
      rfl

/-- Where the tests of a lead are those of a text, the text stands. -/
theorem standsAt_of_fits {t w : Text} {l : Lead} {start stop : Nat} (fits : l.Fits t.toArray start stop)
    (tests : w.map .only <+: l.tests) : StandsAt t w start := by
  intro k c found
  obtain ⟨rest, split_⟩ := tests
  refine passes_only.1 (fits.passed k (.only c) ?_)
  have inside := (List.getElem?_eq_some_iff.1 found).1
  rw [← split_, List.getElem?_append_left (by simpa using inside), List.getElem?_map, found]
  rfl

/-! ## A greedy end -/

/-- A longest run ends at the end of the text, or before a character that does not pass. -/
theorem not_passes_runLength (text : Array Char) (p : Char → Bool) (pos limit : Nat)
    (all : text.size ≤ pos + limit) :
    ¬ passes text p (pos + runLength text p pos limit) = true := by
  induction limit generalizing pos with
  | zero =>
      have none_ : text[pos]? = none := Array.getElem?_eq_none all
      simp [runLength, passes, none_]
  | succ limit ih =>
      simp only [runLength]
      split
      · have later := ih (pos + 1) (by omega)
        rwa [show pos + 1 + runLength text p (pos + 1) limit =
          pos + (runLength text p (pos + 1) limit + 1) by omega]
          at later
      · rename_i here
        exact here

/-- A greedy repetition takes all that it can, if whatever it leaves can be followed. -/
theorem runChars_greedy {text : Array Char} {p : Char → Bool} {least : Nat} {follow : Follow} {st r : State}
    (found : runChars text p .greedy least none follow st = some r)
    (goes : ∀ n, least ≤ n → (follow (st.moved (st.pos + n))).isSome = true) :
    ∃ n, least ≤ n ∧ (∀ k < n, passes text p (st.pos + k) = true) ∧ ¬ passes text p (st.pos + n) = true ∧
      follow (st.moved (st.pos + n)) = some r := by
  simp only [runChars] at found
  split at found
  · simp at found
  · rename_i enough
    have longest := not_passes_runLength text p st.pos (text.size - st.pos) (by omega)
    refine ⟨_, Nat.le_of_not_lt enough, fun k before => passes_of_lt_longestRun before, longest, ?_⟩
    generalize longestRun text p none st.pos = n at found enough
    cases extra : n - least with
    | zero =>
        rw [extra, tryDown, show least = n by omega] at found
        exact found
    | succ extra' =>
        rw [extra, tryDown, show least + (extra' + 1) = n by omega] at found
        obtain ⟨r', leads⟩ := Option.isSome_iff_exists.1 (goes n (by omega))
        rw [leads] at found ⊢
        exact found

/-- How long a run is whose end is known. -/
theorem runLength_eq {text : Array Char} {p : Char → Bool} {pos n limit : Nat}
    (pass : ∀ k < n, passes text p (pos + k) = true) (stops : ¬ passes text p (pos + n) = true)
    (within : n ≤ limit) : runLength text p pos limit = n := by
  induction limit generalizing pos n with
  | zero => simp only [runLength]; omega
  | succ limit ih =>
      cases n with
      | zero => rw [runLength, if_neg (by rwa [Nat.add_zero] at stops)]
      | succ n =>
          have here : passes text p pos = true := pass 0 (Nat.succ_pos n)
          rw [runLength, if_pos here]
          refine congrArg (· + 1) (ih (fun k before => ?_) ?_ (by omega))
          · rw [show pos + 1 + k = pos + (k + 1) by omega]
            exact pass (k + 1) (by omega)
          · rwa [show pos + 1 + n = pos + (n + 1) by omega]

/-- A greedy repetition matches if its longest run can be followed. -/
theorem runChars_isSome {text : Array Char} {p : Char → Bool} {least n : Nat} {follow : Follow} {st : State}
    (pass : ∀ k < n, passes text p (st.pos + k) = true) (stops : ¬ passes text p (st.pos + n) = true)
    (enough : least ≤ n) (leads : (follow (st.moved (st.pos + n))).isSome = true) :
    (runChars text p .greedy least none follow st).isSome = true := by
  have within : n ≤ text.size - st.pos := by
    rcases Nat.eq_zero_or_pos n with rfl | positive
    · exact Nat.zero_le _
    · obtain ⟨c, last, -⟩ := (Option.any_eq_true _ _).1 (pass (n - 1) (by omega))
      have := (Array.getElem?_eq_some_iff.1 last).1
      omega
  obtain ⟨r, leads⟩ := Option.isSome_iff_exists.1 leads
  simp only [runChars, longestRun, Option.elim_none, runLength_eq pass stops within, if_neg (Nat.not_lt.2 enough)]
  cases extra : n - least with
  | zero => rw [tryDown, show least = n by omega, leads, Option.isSome_some]
  | succ extra' => rw [tryDown, show least + (extra' + 1) = n by omega, leads, Option.isSome_some]

end Graft.Regex
