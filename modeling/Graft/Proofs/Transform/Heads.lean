/-
# Graft.Proofs.Transform.Heads -- heads of functions

The recipes insert behind the head of a function without parameters: its name, an empty pair of parentheses and a
brace, with blanks between them.  The pattern of such a head reads these words, however they are spaced
(`reads_head`).
-/
import Graft.Proofs.Regex.Words
import Graft.Proofs.Transform.Wrapper

namespace Graft.Session

set_option autoImplicit false

open Graft.Edit Graft.Patch Graft.Regex Graft.Text

/-- The pattern of a head: a word, an empty pair of parentheses and a brace, however they are spaced. -/
def headRegex (word : Text) : Regex where
  pattern := .literal word (.seq blanks (.literal "()".toList (.seq blanks (.char (.only '{')))))
  groups := 0
  names := []

/-- A head with its blanks. -/
def Head (word w : Text) : Prop :=
  ∃ gap gap', (∀ c ∈ gap, isBlank c = true) ∧ (∀ c ∈ gap', isBlank c = true) ∧
    w = word ++ (gap ++ ("()".toList ++ (gap' ++ ['{'])))

variable {t word w : Text}

/-! ## Gaps -/

theorem blank_of_standsAt {gap : Text} {p : Nat} (blank : ∀ c ∈ gap, isBlank c = true) (stands : StandsAt t gap p) :
    Blank t p (p + gap.length) := by
  intro k from_ before
  have inside : k - p < gap.length := by omega
  refine ⟨gap[k - p], ?_, blank _ (List.getElem_mem inside)⟩
  rw [stands.getElem? from_ before, List.getElem?_eq_getElem inside]

/-- Blanks that stand in a text are a text of blanks. -/
theorem Blank.exists_gap {p n : Nat} (blank : Blank t p (p + n)) :
    ∃ gap, (∀ c ∈ gap, isBlank c = true) ∧ gap.length = n ∧ StandsAt t gap p := by
  induction n generalizing p with
  | zero => exact ⟨[], by simp, rfl, standsAt_nil t p⟩
  | succ n ih =>
      obtain ⟨c, here, isBlank_⟩ := blank p (Nat.le_refl p) (by omega)
      obtain ⟨gap, blanks_, width, stands⟩ := @ih (p + 1) fun k from_ before => blank k (by omega) (by omega)
      refine ⟨c :: gap, List.forall_mem_cons.2 ⟨isBlank_, blanks_⟩, ?_, standsAt_cons.2 ⟨here, stands⟩⟩
      rw [List.length_cons, width]

/-- Blanks up to a character that is none: there is one such gap only. -/
theorem gap_unique {gap gap' rest rest' : Text} {c c' : Char} {p : Nat} (blank : ∀ x ∈ gap, isBlank x = true)
    (blank' : ∀ x ∈ gap', isBlank x = true) (solid : isBlank c = false) (solid' : isBlank c' = false)
    (stands : StandsAt t (gap ++ c :: rest) p) (stands' : StandsAt t (gap' ++ c' :: rest') p) :
    gap.length = gap'.length := by
  induction gap generalizing gap' p with
  | nil =>
      cases gap' with
      | nil => rfl
      | cons x later =>
          have same := Option.some.inj ((stands 0 c rfl).symm.trans (stands' 0 x rfl))
          rw [same, blank' x List.mem_cons_self] at solid
          simp at solid
  | cons x later ih =>
      cases gap' with
      | nil =>
          have same := Option.some.inj ((stands' 0 c' rfl).symm.trans (stands 0 x rfl))
          rw [same, blank x List.mem_cons_self] at solid'
          simp at solid'
      | cons x' later' =>
          rw [List.length_cons, List.length_cons, ih (List.forall_mem_cons.1 blank).2
            (List.forall_mem_cons.1 blank').2 (standsAt_cons.1 stands).2 (standsAt_cons.1 stands').2]

/-- Blanks are matched up to the character behind them. -/
theorem run_blanks_isSome {gap u : Text} {c : Char} {st : State} {follow : Follow}
    (blank : ∀ x ∈ gap, isBlank x = true) (solid : isBlank c = false) (stands : StandsAt t (gap ++ c :: u) st.pos)
    (leads : (follow (st.moved (st.pos + gap.length))).isSome = true) :
    (blanks.run t.toArray follow st).isSome = true := by
  obtain ⟨front, behind⟩ := standsAt_append_iff.1 stands
  refine runChars_isSome (n := gap.length) (fun k inside => ?_) ?_ (Nat.zero_le _) leads
  · exact passes_toArray.2 ⟨gap[k], front k _ (List.getElem?_eq_getElem inside),
      (blankTest_iff _).2 (blank _ (List.getElem_mem inside))⟩
  · intro passed
    obtain ⟨d, at_, holds⟩ := passes_toArray.1 passed
    obtain rfl := Option.some.inj (at_.symm.trans (standsAt_cons.1 behind).1)
    rw [(blankTest_iff d).1 holds] at solid
    simp at solid

/-! ## Heads -/

theorem isSteady_headRegex (word : Text) : isSteady (headRegex word) = true := by
  simp [isSteady, headRegex, Patch.blanks, Pattern.begunAfter]

theorem match_of_head {i : Nat} (head : Head word w) (stands : StandsAt t w i) :
    (matchAt? (headRegex word) t.toArray i false).isSome = true := by
  obtain ⟨gap, gap', blank, blank', rfl⟩ := head
  obtain ⟨word_, rest⟩ := standsAt_append_iff.1 stands
  obtain ⟨-, parens⟩ := standsAt_append_iff.1 rest
  obtain ⟨pair, rest'⟩ := standsAt_append_iff.1 parens
  obtain ⟨-, brace⟩ := standsAt_append_iff.1 rest'
  rw [matchAt?_eq_runAt? (isSteady_headRegex word), runAt?, Option.isSome_map, startState, headRegex,
    run_literal_of_standsAt word_]
  simp only [Pattern.run]
  refine run_blanks_isSome blank (by decide) (u := ')' :: (gap' ++ ['{'])) rest ?_
  rw [run_literal_of_standsAt pair]
  refine run_blanks_isSome blank' (by decide) (u := []) rest' ?_
  simp only [Pattern.run, State.moved, passes_only.2 (standsAt_cons.1 brace).1, if_true]
  rfl

theorem head_of_match {i : Nat} {moving : Bool} {m : Match}
    (found : matchAt? (headRegex word) t.toArray i moving = some m) :
    ∃ w, Head word w ∧ StandsAt t w i ∧ m.span.stop = i + w.length := by
  obtain ⟨-, way⟩ := matchAt?_way (isSteady_headRegex word) found
  generalize ended : (⟨m.span.stop, m.groups⟩ : State) = st at way
  -- The way goes through the parts of the pattern from left to right.
  obtain ⟨word_, rest⟩ := way_literal way
  cases rest with
  | seq first rest =>
  obtain ⟨n, rfl, blank⟩ := way_blanks first
  obtain ⟨pair, rest⟩ := way_literal rest
  cases rest with
  | seq second last =>
  obtain ⟨n', rfl, blank'⟩ := way_blanks second
  cases last with
  | char brace =>
  have stop := congrArg State.pos ended
  obtain ⟨gap, gapBlank, rfl, gap_⟩ := blank.exists_gap
  obtain ⟨gap', gapBlank', rfl, gap_'⟩ := blank'.exists_gap
  simp only [State.moved, startState] at *
  refine ⟨_, ⟨gap, gap', gapBlank, gapBlank', rfl⟩, ?_, ?_⟩
  · simp only [standsAt_append_iff]
    exact ⟨word_, gap_, pair, gap_', standsAt_cons.2 ⟨passes_only.1 brace, standsAt_nil t _⟩⟩
  · rw [stop]
    simp only [List.length_append, List.length_singleton]
    omega

/-- **The pattern of a head reads heads.** -/
theorem reads_head (some_ : word ≠ []) : Reads (headRegex word) (Head word) where
  some_ := by
    rintro w ⟨gap, gap', -, -, rfl⟩
    exact List.append_ne_nil_of_left_ne_nil some_ _
  matched := head_of_match
  found := match_of_head
  width := by
    rintro t i w w' ⟨gap₁, gap₂, blank₁, blank₂, rfl⟩ ⟨gap₁', gap₂', blank₁', blank₂', rfl⟩ stands stands'
    have rest := (standsAt_append_iff.1 stands).2
    have rest' := (standsAt_append_iff.1 stands').2
    have solid : isBlank '(' = false := by decide
    have first := gap_unique blank₁ blank₁' solid solid rest rest'
    have inner := (standsAt_append_iff.1 (standsAt_append_iff.1 rest).2).2
    have inner' := (standsAt_append_iff.1 (standsAt_append_iff.1 rest').2).2
    rw [← first] at inner'
    have second := gap_unique blank₂ blank₂' (by decide) (by decide) inner inner'
    simp only [List.length_append, first, second]

/-! ## The heads of the recipes -/

theorem heads_checked : Regex.compile {} wrapperBody.innerAnchor = .ok (headRegex "setup".toList) ∧
    Regex.compile {} renderHead = .ok (headRegex "render".toList) := by
  decide +kernel

theorem buildRecipe_render (c : Component) :
    ∀ i ∈ (buildRecipe c).insertions, i.innerAnchor = renderHead ∧ i.placement = .after := by
  cases c with
  | checkbox => exact List.forall_mem_singleton.2 ⟨rfl, rfl⟩
  | backTop => exact List.forall_mem_singleton.2 ⟨rfl, rfl⟩
  | rate => exact List.forall_mem_singleton.2 ⟨rfl, rfl⟩
  | result => exact List.forall_mem_nil _

end Graft.Session
