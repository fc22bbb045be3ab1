/-
# Graft.Proofs.Glob.Sets -- what a set in brackets holds

Written from left to right, a set is a list of characters and ranges (`items`), and an exclamation mark in front of
them negates it; so `listed` says what a set holds.  It is not read like that.  The set is cut at the hyphens of its
ranges, ranges in the wrong order are taken out of it (`marks_cut`), and only then is the first character looked at:
an exclamation mark that has come first by then negates the rest, though ranges were written in front of it.
`admitted` says what a set holds as it is read (`holds_bracketPart`).

Sets to which that happens are bare.  The two agree on all characters for all other sets, and for no bare one
(`admitted_eq_listed_iff`).
-/
import Graft.Glob
import Mathlib

namespace Graft.Glob

set_option autoImplicit false

/-! ## Characters and ranges -/

/-- What is written in a set: a character or a range. -/
inductive SetItem where
  | char (c : Char)
  | range (low high : Char)
  deriving DecidableEq, Repr

namespace SetItem

def holds (c : Char) : SetItem → Bool
  | .char d => c == d
  | .range low high => low ≤ c && c ≤ high

/-- Whether the item is a range in the wrong order. -/
def isVoid : SetItem → Bool
  | .char _ => false
  | .range low high => high < low

def marks : SetItem → List Mark
  | .char c => [.char c]
  | .range low high => [.char low, .hyphen, .char high]

def ends : SetItem → Char × Char
  | .char c => (c, c)
  | .range low high => (low, high)

theorem not_holds_of_isVoid {i : SetItem} (void : i.isVoid = true) (c : Char) : i.holds c = false := by
  cases i with
  | char d => cases void
  | range low high =>
      have order : high < low := of_decide_eq_true void
      have outside : ¬ (low ≤ c ∧ c ≤ high) := fun inside => absurd (le_trans inside.1 inside.2) (not_le.2 order)
      simpa [holds] using outside

theorem between_ends (i : SetItem) (c : Char) : (i.ends.1 ≤ c && c ≤ i.ends.2) = i.holds c := by
  cases i with
  | range low high => rfl
  | char d =>
      rw [Bool.eq_iff_iff]
      simp only [ends, holds, Bool.and_eq_true, beq_iff_eq]
      constructor
      · rintro ⟨above, below⟩
        exact le_antisymm (of_decide_eq_true below) (of_decide_eq_true above)
      · rintro rfl
        exact ⟨decide_eq_true le_rfl, decide_eq_true le_rfl⟩

end SetItem

/-- The characters and ranges of a set, from left to right.  A hyphen makes a range of the characters around it. -/
def items : Text → List SetItem
  | low :: '-' :: high :: rest => .range low high :: items rest
  | c :: rest => .char c :: items rest
  | [] => []

/-- The items that are not ranges in the wrong order. -/
def live (set : Text) : List SetItem := (items set).filter (!·.isVoid)

/-! ## Cutting a set -/

/-- The chunks of a set without the ranges in the wrong order. -/
def cut (set : Text) : List Text := (keepLastHyphen (chunksFrom 1 [] set)).foldr prependChunk []

theorem chunksFrom_chunk (held : Nat) (chunk t : Text) :
    chunksFrom held chunk t = (chunksFrom held [] t).modifyHead (chunk ++ ·) := by
  induction t generalizing held chunk with
  | nil => simp [chunksFrom]
  | cons c rest ih =>
      cases held with
      | zero =>
          by_cases hyphen : c = '-'
          · simp [chunksFrom, hyphen]
          · simp only [chunksFrom, if_neg hyphen, List.nil_append]
            rw [ih 0 (chunk ++ [c]), ih 0 [c], List.modifyHead_modifyHead]
            simp [Function.comp_def]
      | succ held =>
          simp only [chunksFrom, List.nil_append]
          rw [ih held (chunk ++ [c]), ih held [c], List.modifyHead_modifyHead]
          simp [Function.comp_def]

theorem chunksFrom_held (held : Nat) (c : Char) (t : Text) :
    chunksFrom (held + 1) [] (c :: t) = (chunksFrom held [] t).modifyHead (c :: ·) := by
  rw [chunksFrom, List.nil_append, chunksFrom_chunk]
  rfl

theorem keepLastHyphen_push (c : Char) (chunks : List Text) :
    keepLastHyphen (chunks.modifyHead (c :: ·)) = (keepLastHyphen chunks).modifyHead (c :: ·) := by
  rcases chunks with _ | ⟨chunk, _ | ⟨next, more⟩⟩
  · rfl
  · rfl
  · cases next with
    | nil => cases more <;> rfl
    | cons d rest => rfl

/-- What stands in front of a chunk's last character does not matter to a range. -/
theorem prependChunk_push (c : Char) {chunk : Text} (some_ : chunk ≠ []) (chunks : List Text) :
    prependChunk (c :: chunk) chunks = (prependChunk chunk chunks).modifyHead (c :: ·) := by
  obtain ⟨d, rest, rfl⟩ := List.exists_cons_of_ne_nil some_
  cases chunks with
  | nil => rfl
  | cons next more =>
      simp only [prependChunk, List.getLast?_cons_cons, List.dropLast_cons_cons]
      split
      · split
        · rfl
        · rfl
      · rfl

theorem cut_push (c : Char) (t : Text) :
    (keepLastHyphen ((chunksFrom 1 [] t).modifyHead (c :: ·))).foldr prependChunk [] =
      (cut t).modifyHead (c :: ·) := by
  cases t with
  | nil => rfl
  | cons a rest =>
      rw [cut, keepLastHyphen_push, chunksFrom_held, keepLastHyphen_push]
      cases keepLastHyphen (chunksFrom 0 [] rest) with
      | nil => rfl
      | cons chunk more => exact prependChunk_push c (List.cons_ne_nil a chunk) _

theorem cut_range (low high : Char) (rest : Text) :
    cut (low :: '-' :: high :: rest) = prependChunk [low] ((cut rest).modifyHead (high :: ·)) := by
  rw [← cut_push, cut, chunksFrom_held, chunksFrom, if_pos rfl, chunksFrom_held]
  cases chunksFrom 1 [] rest with
  | nil => rfl
  | cons chunk more => rfl

theorem cut_char {c : Char} {rest : Text} (single : ∀ high more, rest ≠ '-' :: high :: more) :
    cut (c :: rest) = (cut rest).modifyHead (c :: ·) := by
  rw [← cut_push, cut, chunksFrom_held]
  cases rest with
  | nil => rfl
  | cons d more =>
      by_cases hyphen : d = '-'
      · subst hyphen
        cases more with
        | nil => rfl
        | cons high more => exact absurd rfl (single high more)
      · rw [chunksFrom_held, chunksFrom, if_neg hyphen, chunksFrom_chunk]
        rfl

theorem prependChunk_ne_nil (chunk : Text) (chunks : List Text) : prependChunk chunk chunks ≠ [] := by
  unfold prependChunk
  split
  · simp
  · split
    · split <;> simp
    · simp

theorem cut_ne_nil (set : Text) : cut set ≠ [] := by
  fun_induction items set with
  | case1 low high rest ih =>
      rw [cut_range]
      exact prependChunk_ne_nil _ _
  | case2 c rest single ih =>
      rw [cut_char single]
      obtain ⟨chunk, more, cut_⟩ := List.exists_cons_of_ne_nil ih
      rw [cut_]
      exact List.cons_ne_nil _ _
  | case3 => exact List.cons_ne_nil _ _

theorem marks_push (c : Char) {chunks : List Text} (some_ : chunks ≠ []) :
    marks (chunks.modifyHead (c :: ·)) = .char c :: marks chunks := by
  obtain ⟨chunk, rest, rfl⟩ := List.exists_cons_of_ne_nil some_
  cases rest <;> rfl

theorem marks_prependChunk (low high : Char) {chunks : List Text} (some_ : chunks ≠ []) :
    marks (prependChunk [low] (chunks.modifyHead (high :: ·))) =
      if high < low then marks chunks else .char low :: .hyphen :: .char high :: marks chunks := by
  obtain ⟨chunk, rest, rfl⟩ := List.exists_cons_of_ne_nil some_
  by_cases order : high < low
  · simp [prependChunk, order]
  · have kept := marks_push high (List.cons_ne_nil chunk rest)
    simp [prependChunk, order, marks] at kept ⊢
    exact kept

/-- **Cutting a set takes the ranges in the wrong order out of it, and nothing else.** -/
theorem marks_cut (set : Text) : marks (cut set) = (live set).flatMap SetItem.marks := by
  unfold live
  fun_induction items set with
  | case1 low high rest ih =>
      rw [cut_range, marks_prependChunk low high (cut_ne_nil rest), ih]
      by_cases order : high < low
      · simp [order, SetItem.isVoid]
      · simp [order, SetItem.isVoid, SetItem.marks]
  | case2 c rest single ih =>
      rw [cut_char single, marks_push c (cut_ne_nil rest), ih]
      rfl
  | case3 => rfl

/-- Items are read back from their marks. -/
theorem ranges_marks (is : List SetItem) : ranges (is.flatMap SetItem.marks) = is.map SetItem.ends := by
  induction is with
  | nil => rfl
  | cons i rest ih =>
      rw [List.flatMap_cons, List.map_cons, ← ih]
      cases i with
      | range low high => rfl
      | char c =>
          -- What follows begins with a character, so no hyphen makes a range of this one.
          rcases rest with _ | ⟨_ | _, rest⟩ <;> rfl

/-! ## What a set holds -/

/-- What a set holds as it is written: an exclamation mark in front negates the items. -/
def listed : Text → Char → Bool
  | '!' :: set, c => !(items set).any (·.holds c)
  | set, c => (items set).any (·.holds c)

/-- What is negated when an exclamation mark comes first though it is not written first.  If it is the low end of a
range, the hyphen and the high end stand for themselves. -/
def bared? : List SetItem → Option (List SetItem)
  | .char '!' :: rest => some rest
  | .range '!' high :: rest => some (.char '-' :: .char high :: rest)
  | _ => none

/-- Whether nothing but ranges in the wrong order is written in front of an exclamation mark, and something is. -/
def isBare (set : Text) : Bool := set.head? != some '!' && (bared? (live set)).isSome

/-- What a set holds as it is read. -/
def admitted : Text → Char → Bool
  | '!' :: set, c => !(items set).any (·.holds c)
  | set, c =>
    match bared? (live set) with
    | some rest => !rest.any (·.holds c)
    | none => (items set).any (·.holds c)

theorem any_live (set : Text) (c : Char) : (live set).any (·.holds c) = (items set).any (·.holds c) := by
  have void : ∀ i : SetItem, (!i.isVoid && i.holds c) = i.holds c := by
    intro i
    cases void : i.isVoid with
    | true => rw [SetItem.not_holds_of_isVoid void c, Bool.and_false]
    | false => rfl
  rw [live, List.any_filter, funext void]

theorem holds_oneOf (negated : Bool) (is : List SetItem) (c : Char) :
    (GlobPart.oneOf negated (is.map SetItem.ends)).holds c = (is.any (·.holds c) != negated) := by
  rw [GlobPart.holds, List.any_map]
  exact congrArg (fun holds => is.any holds != negated) (funext fun i => i.between_ends c)

theorem bared?_eq_some_iff {is negated : List SetItem} : bared? is = some negated ↔
    is = .char '!' :: negated ∨
      ∃ high rest, is = .range '!' high :: rest ∧ negated = .char '-' :: .char high :: rest := by
  constructor
  · intro bare
    unfold bared? at bare
    split at bare
    · obtain rfl := Option.some.inj bare
      exact .inl rfl
    · obtain rfl := Option.some.inj bare
      exact .inr ⟨_, _, rfl, rfl⟩
    · cases bare
  · rintro (rfl | ⟨high, rest, rfl, rfl⟩) <;> rfl

theorem bracketPart_mark {set : Text} {rest : List Mark} (cut_ : marks (chunks set) = .char '!' :: rest) :
    bracketPart set = .oneOf true (ranges rest) := by
  rw [bracketPart, cut_]
  rfl

theorem bracketPart_unmarked {set : Text} (unmarked : (marks (chunks set)).head? ≠ some (.char '!')) :
    bracketPart set = .oneOf false (ranges (marks (chunks set))) := by
  unfold bracketPart
  split
  · rename_i rest cut_
    rw [cut_] at unmarked
    exact absurd rfl unmarked
  · rfl

theorem bracketPart_negated (set : Text) :
    bracketPart ('!' :: set) = .oneOf true ((live set).map SetItem.ends) := by
  have cut_ : chunks ('!' :: set) = (cut set).modifyHead ('!' :: ·) := by
    rw [chunks, List.head?_cons, if_pos rfl, chunksFrom_held, cut_push]
  have read : marks (chunks ('!' :: set)) = .char '!' :: (live set).flatMap SetItem.marks := by
    rw [cut_, marks_push '!' (cut_ne_nil set), marks_cut]
  rw [bracketPart_mark read, ranges_marks]

section Plain

variable {set : Text} (plain : set.head? ≠ some '!')

include plain

theorem marks_chunks : marks (chunks set) = (live set).flatMap SetItem.marks := by
  rw [chunks, if_neg plain, ← cut, marks_cut]

theorem bracketPart_bare {negated : List SetItem} (bare : bared? (live set) = some negated) :
    bracketPart set = .oneOf true (negated.map SetItem.ends) := by
  have read := marks_chunks plain
  rcases bared?_eq_some_iff.1 bare with is | ⟨high, rest, is, rfl⟩
  · rw [is, List.flatMap_cons] at read
    rw [bracketPart_mark read]
    exact congrArg (GlobPart.oneOf true) (ranges_marks negated)
  · rw [is, List.flatMap_cons] at read
    rw [bracketPart_mark read]
    -- The hyphen of the range is the first mark now, and stands for itself.
    exact congrArg (fun ends => GlobPart.oneOf true (('-', '-') :: ends)) (ranges_marks (.char high :: rest))

theorem bracketPart_lists (covered : bared? (live set) = none) :
    bracketPart set = .oneOf false ((live set).map SetItem.ends) := by
  have read := marks_chunks plain
  rw [bracketPart_unmarked, read, ranges_marks]
  intro marked
  rw [read] at marked
  cases is : live set with
  | nil => rw [is] at marked; cases marked
  | cons i rest =>
      rw [is] at marked covered
      cases i with
      | char c =>
          cases marked
          cases covered
      | range low high =>
          cases marked
          cases covered

theorem listed_plain (c : Char) : listed set c = (items set).any (·.holds c) := by
  rw [listed]
  rintro rest rfl
  exact plain rfl

theorem admitted_plain (c : Char) : admitted set c =
    match bared? (live set) with
    | some negated => !negated.any (·.holds c)
    | none => (items set).any (·.holds c) := by
  rw [admitted]
  rintro rest rfl
  exact plain rfl

theorem isBare_plain : isBare set = (bared? (live set)).isSome := by
  rw [isBare, bne_iff_ne.2 plain, Bool.true_and]

end Plain

theorem negated_or_plain (set : Text) : (∃ rest, set = '!' :: rest) ∨ set.head? ≠ some '!' :=
  (em (set.head? = some '!')).imp_left List.head?_eq_some_iff.1

theorem le_of_mem_live {set : Text} {low high : Char} (member : SetItem.range low high ∈ live set) : low ≤ high := by
  have kept := (List.mem_filter.1 member).2
  simpa [SetItem.isVoid] using kept

/-- An exclamation mark that comes first is in the list of its set. -/
theorem listed_of_isBare {set : Text} (bare : isBare set = true) : listed set '!' = true := by
  rcases negated_or_plain set with ⟨rest, rfl⟩ | plain
  · cases bare
  · rw [isBare_plain plain] at bare
    obtain ⟨negated, bare⟩ := Option.isSome_iff_exists.1 bare
    rw [listed_plain plain, ← any_live]
    rcases bared?_eq_some_iff.1 bare with is | ⟨high, rest, is, -⟩
    · rw [is]
      rfl
    · have order : '!' ≤ high := le_of_mem_live (is ▸ List.mem_cons_self)
      rw [is]
      simp [SetItem.holds, order]

/-- **What the part that a set makes holds.** -/
theorem holds_bracketPart (set : Text) (c : Char) : (bracketPart set).holds c = admitted set c := by
  rcases negated_or_plain set with ⟨rest, rfl⟩ | plain
  · rw [bracketPart_negated, holds_oneOf, any_live, Bool.bne_true]
    rfl
  · rw [admitted_plain plain]
    cases bare : bared? (live set) with
    | some negated => rw [bracketPart_bare plain bare, holds_oneOf, Bool.bne_true]
    | none => rw [bracketPart_lists plain bare, holds_oneOf, any_live, Bool.bne_false]

/-- **A set holds what it lists, unless an exclamation mark comes first in it that is not written first.** -/
theorem admitted_eq_listed_iff (set : Text) : (∀ c, admitted set c = listed set c) ↔ isBare set = false := by
  rcases negated_or_plain set with ⟨rest, rfl⟩ | plain
  · exact ⟨fun _ => rfl, fun _ c => rfl⟩
  · rw [isBare_plain plain]
    simp only [admitted_plain plain, listed_plain plain, ← any_live set]
    cases bare : bared? (live set) with
    | none => simp
    | some negated =>
        simp only [Option.isSome_some, Bool.true_eq_false, iff_false, not_forall]
        rcases bared?_eq_some_iff.1 bare with is | ⟨high, rest, is, rfl⟩
        · refine ⟨'a', ?_⟩
          rw [is]
          simp [SetItem.holds]
        · have order : '!' ≤ high := le_of_mem_live (is ▸ List.mem_cons_self)
          refine ⟨high, ?_⟩
          rw [is]
          simp [SetItem.holds, order]

example : admitted "b-a!c".toList 'x' = true ∧ listed "b-a!c".toList 'x' = false := by decide

end Graft.Glob
