/-
# Graft.Proofs.Regex.Words -- patterns that read words

A pattern without look-around and alternatives amounts to a set of words: it matches where one of them stands, and
matches that word (`Reads`).  Then a search in a part of a text finds the first place there at which a word stands
(`Reads.search_iff`), and how the matching is done no longer matters.
-/
import Graft.Proofs.Regex.Literal

namespace Graft.Regex

set_option autoImplicit false

open Graft.Text

/-- The pattern matches where a word stands, and it matches the word.  No other word stands at the same place. -/
structure Reads (r : Regex) (words : Text → Prop) : Prop where
  some_ : ∀ {w}, words w → w ≠ []
  matched : ∀ {t i moving m}, matchAt? r t.toArray i moving = some m →
    ∃ w, words w ∧ StandsAt t w i ∧ m.span.stop = i + w.length
  found : ∀ {t i w}, words w → StandsAt t w i → (matchAt? r t.toArray i false).isSome = true
  width : ∀ {t i w w'}, words w → words w' → StandsAt t w i → StandsAt t w' i → w.length = w'.length

/-- The first of the words that stand in a part of a text. -/
structure FirstIn (words : Text → Prop) (t : Text) (start stop : Nat) (w : Text) (i : Nat) : Prop where
  word : words w
  from_ : start ≤ i
  upTo : i + w.length ≤ stop
  stands : StandsAt t w i
  least : ∀ k w', start ≤ k → k < i → words w' → k + w'.length ≤ stop → ¬ StandsAt t w' k

section Search

variable {r : Regex} {words : Text → Prop} {t : Text} {start stop i j : Nat}

/-- **A search finds the first of the words.** -/
theorem Reads.search_iff (reads : Reads r words) :
    (∃ m, search r (t.slice start stop) = some m ∧ start + m.span.start = i ∧ start + m.span.stop = j) ↔
      ∃ w, FirstIn words t start stop w i ∧ j = i + w.length := by
  constructor
  · rintro ⟨m, searched, rfl, rfl⟩
    obtain ⟨moving, at_⟩ := matchAt?_of_search searched
    obtain ⟨w, word, stands, ends⟩ := reads.matched at_
    obtain ⟨upTo, there⟩ := (standsAt_slice_iff (reads.some_ word)).1 stands
    refine ⟨w, ⟨word, Nat.le_add_right _ _, upTo, there, ?_⟩, by omega⟩
    intro k w' from_ before word' within stands'
    have first := search_first searched (show k - start < m.span.start by omega)
    have here : StandsAt (t.slice start stop) w' (k - start) := by
      refine (standsAt_slice_iff (reads.some_ word')).2 ?_
      rw [show start + (k - start) = k by omega]
      exact ⟨within, stands'⟩
    have matches_ := reads.found word' here
    rw [first] at matches_
    simp at matches_
  · rintro ⟨w, ⟨word, from_, upTo, stands, least⟩, rfl⟩
    have here : StandsAt (t.slice start stop) w (i - start) := by
      refine (standsAt_slice_iff (reads.some_ word)).2 ?_
      rw [show start + (i - start) = i by omega]
      exact ⟨upTo, stands⟩
    have within := here.within (reads.some_ word)
    obtain ⟨m, searched⟩ := Option.isSome_iff_exists.1
      (search_isSome (p := i - start) (by omega) (reads.found word here))
    obtain ⟨moving, at_⟩ := matchAt?_of_search searched
    obtain ⟨w', word', stands', ends⟩ := reads.matched at_
    obtain ⟨upTo', there⟩ := (standsAt_slice_iff (reads.some_ word')).1 stands'
    -- The match is not in front of the first word, and a search does not pass that by.
    have same : m.span.start = i - start := by
      rcases Nat.lt_trichotomy m.span.start (i - start) with early | same | late
      · exact absurd there (least _ w' (Nat.le_add_right _ _) (by omega) word' upTo')
      · exact same
      · have matches_ := reads.found word here
        rw [search_first searched late] at matches_
        simp at matches_
    rw [same] at stands' ends
    have width := reads.width word word' here stands'
    exact ⟨m, searched, by omega, by omega⟩

/-- A search in the whole text. -/
theorem Reads.search_all_iff (reads : Reads r words) :
    (∃ m, search r t = some m ∧ m.span.start = i ∧ m.span.stop = j) ↔
      ∃ w, FirstIn words t 0 t.length w i ∧ j = i + w.length := by
  have inAll := @Reads.search_iff r words t 0 t.length i j reads
  have all : t.slice 0 t.length = t := by simp [slice]
  simpa only [all, Nat.zero_add] using inAll

end Search

/-- A pattern of fixed characters reads one word. -/
theorem reads_fixed (w : Text) (c : Char) (groups : Nat) (names : List (Text × Nat)) :
    Reads ⟨.literal w (.char (.only c)), groups, names⟩ (· = w ++ [c]) where
  some_ := by
    rintro _ rfl
    simp
  matched := by
    intro t i moving m found
    obtain ⟨stands, ended⟩ := way_fixed (matchAt?_way (isSteady_literal rfl) found).2
    exact ⟨_, rfl, stands, congrArg State.pos ended⟩
  found := by
    rintro t i _ rfl stands
    rw [matchAt?_eq_runAt? (isSteady_literal rfl), runAt?, Option.isSome_map, startState,
      run_fixed_of_standsAt stands]
    simp [finish]
  width := by
    rintro t i _ _ rfl rfl - -
    rfl

end Graft.Regex
