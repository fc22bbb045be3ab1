/-
# Graft.Proofs.Glob.Language -- the texts that a wildcard pattern stands for

`Language` says by recursion on a written pattern which texts it stands for, given what a set in brackets holds: with
`listed` it is what is written, with `admitted` what is read.  A pattern is read into parts, and `Matches` says the
same of these (`language_iff_matches`).

Matching does not follow either.  It answers for all endings of a text at once, from the last part of the pattern to
the first: `endings_answers` is the induction on the parts, and each part turns the answers of what follows it into
its own.  So a pattern is found in a text when the text has an ending in its language (`isFoundIn_read_iff`).
-/
import Graft.Proofs.Glob.Sets

namespace Graft.Glob

set_option autoImplicit false

/-! ## Brackets -/

/-- What can stand between brackets: an exclamation mark or none, one character that may be a closing bracket, and
others that are not. -/
inductive IsSet : Text → Prop where
  | plain {first : Char} {more : Text} (unmarked : first ≠ '!') (open_ : ']' ∉ more) : IsSet (first :: more)
  | negated {first : Char} {more : Text} (open_ : ']' ∉ more) : IsSet ('!' :: first :: more)

/-- What stands in front of the first closing bracket of a text, if there is one. -/
def untilBracket? (t : Text) : Option Text :=
  if (t.drop (t.takeWhile (· != ']')).length).isEmpty then none else some (t.takeWhile (· != ']'))

theorem untilBracket?_append {body : Text} (open_ : ']' ∉ body) (rest : Text) :
    untilBracket? (body ++ ']' :: rest) = some body := by
  have all : ∀ c ∈ body, (c != ']') = true := fun c member => bne_iff_ne.2 fun same => open_ (same ▸ member)
  have taken : (body ++ ']' :: rest).takeWhile (· != ']') = body := by
    rw [List.takeWhile_append_of_pos all, List.takeWhile_cons_of_neg (by decide), List.append_nil]
  rw [untilBracket?, taken, List.drop_left]
  rfl

theorem untilBracket?_cons {first : Char} (open_ : first ≠ ']') (t : Text) :
    untilBracket? (first :: t) = (untilBracket? t).map (first :: ·) := by
  have taken : (first :: t).takeWhile (· != ']') = first :: t.takeWhile (· != ']') :=
    List.takeWhile_cons_of_pos (bne_iff_ne.2 open_)
  rw [untilBracket?, untilBracket?, taken, List.length_cons, List.drop_succ_cons, apply_ite (Option.map _)]
  rfl

theorem untilBracket?_eq_some_iff {t body : Text} :
    untilBracket? t = some body ↔ ']' ∉ body ∧ ∃ rest, t = body ++ ']' :: rest := by
  constructor
  · intro found
    induction t generalizing body with
    | nil => cases found
    | cons c rest ih =>
        by_cases closing : c = ']'
        · subst closing
          obtain rfl := Option.some.inj (found.symm.trans (untilBracket?_append List.not_mem_nil rest))
          exact ⟨List.not_mem_nil, rest, rfl⟩
        · rw [untilBracket?_cons closing] at found
          obtain ⟨body', found', rfl⟩ := Option.map_eq_some_iff.1 found
          obtain ⟨open_, rest', rfl⟩ := ih found'
          exact ⟨List.not_mem_cons_of_ne_of_not_mem (Ne.symm closing) open_, rest', rfl⟩
  · rintro ⟨open_, rest, rfl⟩
    exact untilBracket?_append open_ rest

/-- What is read behind characters that belong to the set in any case. -/
theorem bracketed?_behind (front t : Text) {lead : Nat} (length : front.length = lead) :
    (if ((front ++ t).drop (lead + (((front ++ t).drop lead).takeWhile (· != ']')).length)).isEmpty then none
      else some ((front ++ t).take lead ++ ((front ++ t).drop lead).takeWhile (· != ']'))) =
      (untilBracket? t).map (front ++ ·) := by
  rw [← length, ← List.drop_drop, List.drop_left, List.take_left, untilBracket?, apply_ite (Option.map _)]
  rfl

theorem bracketed?_plain {first : Char} (unmarked : first ≠ '!') (t : Text) :
    bracketed? (first :: t) = (untilBracket? t).map (first :: ·) := by
  have plain : ¬ (first :: t).head? = some '!' := by simpa using unmarked
  by_cases closing : first = ']'
  · subst closing
    exact bracketed?_behind [']'] t rfl
  · have other : ¬ (first :: t).head? = some ']' := by simpa using closing
    rw [← untilBracket?_cons closing]
    simp only [bracketed?, if_neg plain, List.drop_zero, if_neg other]
    exact (bracketed?_behind [] (first :: t) rfl).trans Option.map_id'

theorem bracketed?_negated (first : Char) (t : Text) :
    bracketed? ('!' :: first :: t) = (untilBracket? t).map ('!' :: first :: ·) := by
  by_cases closing : first = ']'
  · subst closing
    exact bracketed?_behind ['!', ']'] t rfl
  · have other : ¬ some first = some ']' := by simpa using closing
    have behind := bracketed?_behind ['!'] (first :: t) rfl
    rw [untilBracket?_cons closing, Option.map_map] at behind
    simp only [bracketed?, List.head?_cons, if_true, List.drop_succ_cons, List.drop_zero, if_neg other]
    exact behind

/-- **What is read between brackets.** -/
theorem bracketed?_eq_some_iff {t set : Text} :
    bracketed? t = some set ↔ IsSet set ∧ ∃ rest, t = set ++ ']' :: rest := by
  constructor
  · intro found
    rcases negated_or_plain t with ⟨rest, rfl⟩ | plain
    · cases rest with
      | nil => cases found
      | cons first rest =>
          rw [bracketed?_negated] at found
          obtain ⟨body, found', rfl⟩ := Option.map_eq_some_iff.1 found
          obtain ⟨open_, rest', rfl⟩ := untilBracket?_eq_some_iff.1 found'
          exact ⟨.negated open_, rest', rfl⟩
    · cases t with
      | nil => cases found
      | cons first rest =>
          have unmarked : first ≠ '!' := by simpa using plain
          rw [bracketed?_plain unmarked] at found
          obtain ⟨body, found', rfl⟩ := Option.map_eq_some_iff.1 found
          obtain ⟨open_, rest', rfl⟩ := untilBracket?_eq_some_iff.1 found'
          exact ⟨.plain unmarked open_, rest', rfl⟩
  · rintro ⟨isSet, rest, rfl⟩
    cases isSet with
    | plain unmarked open_ =>
        rw [List.cons_append, bracketed?_plain unmarked, untilBracket?_append open_]
        rfl
    | negated open_ =>
        rw [List.cons_append, List.cons_append, bracketed?_negated, untilBracket?_append open_]
        rfl

theorem bracketed?_unclosed {g : Text} (unclosed : ∀ set rest, IsSet set → g ≠ set ++ ']' :: rest) :
    bracketed? g = none := by
  refine Option.eq_none_iff_forall_ne_some.2 fun set bracketed => ?_
  obtain ⟨isSet, rest, split_⟩ := bracketed?_eq_some_iff.1 bracketed
  exact unclosed set rest isSet split_

/-! ## Reading -/

theorem readFrom_append (s t : Text) : readFrom s.length (s ++ t) = read t := by
  induction s with
  | nil => rfl
  | cons c rest ih => exact ih

theorem read_star (g : Text) : read ('*' :: g) = .star :: read g := rfl

theorem read_any (g : Text) : read ('?' :: g) = .any :: read g := rfl

theorem read_char {c : Char} (star : c ≠ '*') (any : c ≠ '?') (bracket : c ≠ '[') (g : Text) :
    read (c :: g) = .char c :: read g := by
  rw [read, readFrom, if_neg star, if_neg any, if_neg bracket]
  rfl

theorem read_bracket (g : Text) : read ('[' :: g) =
    match bracketed? g with
    | some set => bracketPart set :: readFrom (set.length + 1) g
    | none => .char '[' :: read g := rfl

theorem read_set {set : Text} (isSet : IsSet set) (g : Text) :
    read ('[' :: (set ++ ']' :: g)) = bracketPart set :: read g := by
  have bracketed : bracketed? (set ++ ']' :: g) = some set := bracketed?_eq_some_iff.2 ⟨isSet, g, rfl⟩
  have behind : readFrom (set.length + 1) (set ++ ']' :: g) = read g := by
    rw [List.append_cons, ← readFrom_append (set ++ [']']) g, List.length_append, List.length_singleton]
  rw [read_bracket, bracketed]
  exact congrArg (bracketPart set :: ·) behind

theorem read_unclosed {g : Text} (unclosed : ∀ set rest, IsSet set → g ≠ set ++ ']' :: rest) :
    read ('[' :: g) = .char '[' :: read g := by
  rw [read_bracket, bracketed?_unclosed unclosed]

/-- What the first part of a written pattern is read from, and what is left. -/
inductive Begins : Text → GlobPart → Text → Prop where
  | star (g : Text) : Begins ('*' :: g) .star g
  | any (g : Text) : Begins ('?' :: g) .any g
  | set {set : Text} {part : GlobPart} (isSet : IsSet set) (made : bracketPart set = part) (g : Text) :
      Begins ('[' :: (set ++ ']' :: g)) part g
  | unclosed {g : Text} (unclosed : ∀ set more, IsSet set → g ≠ set ++ ']' :: more) : Begins ('[' :: g) (.char '[') g
  | char {c : Char} (star : c ≠ '*') (any : c ≠ '?') (bracket : c ≠ '[') (g : Text) : Begins (c :: g) (.char c) g

theorem Begins.read {g rest : Text} {part : GlobPart} (begins : Begins g part rest) : read g = part :: read rest := by
  cases begins with
  | star => exact read_star rest
  | any => exact read_any rest
  | set isSet made => rw [read_set isSet, made]
  | unclosed unclosed => exact read_unclosed unclosed
  | char star any bracket => exact read_char star any bracket rest

theorem Begins.length_lt {g rest : Text} {part : GlobPart} (begins : Begins g part rest) : rest.length < g.length := by
  cases begins with
  | set isSet made =>
      simp only [List.length_cons, List.length_append]
      omega
  | _ => exact Nat.lt_succ_self _

theorem begins_cons (c : Char) (g : Text) : ∃ part rest, Begins (c :: g) part rest := by
  by_cases star : c = '*'
  · exact star ▸ ⟨_, _, .star g⟩
  by_cases any : c = '?'
  · exact any ▸ ⟨_, _, .any g⟩
  by_cases bracket : c = '['
  · subst bracket
    by_cases closed : ∃ set more, IsSet set ∧ g = set ++ ']' :: more
    · obtain ⟨set, more, isSet, rfl⟩ := closed
      exact ⟨_, _, .set isSet rfl more⟩
    · exact ⟨_, _, .unclosed fun set more isSet same => closed ⟨set, more, isSet, same⟩⟩
  · exact ⟨_, _, .char star any bracket g⟩

/-- Induction on a written pattern, part by part. -/
theorem begins_induction {motive : Text → Prop} (nil : motive [])
    (part : ∀ {g rest part}, Begins g part rest → motive rest → motive g) (g : Text) : motive g := by
  induction length : g.length using Nat.strongRecOn generalizing g with
  | ind n ih =>
      subst length
      cases g with
      | nil => exact nil
      | cons c g =>
          obtain ⟨first, rest, begins⟩ := begins_cons c g
          exact part begins (ih rest.length begins.length_lt rest rfl)

theorem read_ne_nil (c : Char) (g : Text) : read (c :: g) ≠ [] := by
  obtain ⟨part, rest, begins⟩ := begins_cons c g
  rw [begins.read]
  exact List.cons_ne_nil _ _

/-- Where a part has been read, a pattern begins with it. -/
theorem begins_of_read {g : Text} {part : GlobPart} {p : Glob} (read_ : read g = part :: p) :
    ∃ rest, Begins g part rest ∧ read rest = p := by
  cases g with
  | nil => cases read_
  | cons c g =>
      obtain ⟨part', rest, begins⟩ := begins_cons c g
      obtain ⟨rfl, same⟩ := List.cons.inj (read_.symm.trans begins.read)
      exact ⟨rest, begins, same.symm⟩

theorem bracketPart_ne_star (set : Text) : bracketPart set ≠ .star := by
  unfold bracketPart
  split <;> simp

/-! ## The language of a pattern -/

/-- The texts that a written pattern stands for, if sets in brackets hold what `holds` says. -/
inductive Language (holds : Text → Char → Bool) : Text → Text → Prop where
  | nil : Language holds [] []
  | star {g t : Text} (s : Text) (rest : Language holds g t) : Language holds ('*' :: g) (s ++ t)
  | any {g t : Text} (c : Char) (rest : Language holds g t) : Language holds ('?' :: g) (c :: t)
  | set {set g t : Text} {c : Char} (isSet : IsSet set) (held : holds set c = true) (rest : Language holds g t) :
      Language holds ('[' :: (set ++ ']' :: g)) (c :: t)
  | unclosed {g t : Text} (unclosed : ∀ set more, IsSet set → g ≠ set ++ ']' :: more) (rest : Language holds g t) :
      Language holds ('[' :: g) ('[' :: t)
  | char {c : Char} {g t : Text} (star : c ≠ '*') (any : c ≠ '?') (bracket : c ≠ '[') (rest : Language holds g t) :
      Language holds (c :: g) (c :: t)

/-- The texts that the parts of a pattern stand for. -/
inductive Matches : Glob → Text → Prop where
  | nil : Matches [] []
  | star {g : Glob} {t : Text} (s : Text) (rest : Matches g t) : Matches (.star :: g) (s ++ t)
  | one {part : GlobPart} {g : Glob} {c : Char} {t : Text} (held : part.holds c = true) (rest : Matches g t) :
      Matches (part :: g) (c :: t)

theorem Matches.of_language {g t : Text} (language : Language admitted g t) : Matches (read g) t := by
  induction language with
  | nil => exact .nil
  | star s _ rest => exact .star s rest
  | any c _ rest => exact .one rfl rest
  | set isSet held _ rest =>
      rw [read_set isSet]
      exact .one ((holds_bracketPart _ _).trans held) rest
  | unclosed unclosed _ rest =>
      rw [read_unclosed unclosed]
      exact .one (beq_self_eq_true _) rest
  | char star any bracket _ rest =>
      rw [read_char star any bracket]
      exact .one (beq_self_eq_true _) rest

theorem Language.of_matches {p : Glob} {t : Text} (matches_ : Matches p t) {g : Text} (read_ : read g = p) :
    Language admitted g t := by
  induction matches_ generalizing g with
  | nil =>
      cases g with
      | nil => exact .nil
      | cons c g => exact absurd read_ (read_ne_nil c g)
  | star s _ ih =>
      obtain ⟨rest, begins, follows⟩ := begins_of_read read_
      cases begins with
      | star => exact .star s (ih follows)
      | set isSet made => exact absurd made (bracketPart_ne_star _)
  | one held _ ih =>
      obtain ⟨rest, begins, follows⟩ := begins_of_read read_
      cases begins with
      | star => cases held
      | any => exact .any _ (ih follows)
      | set isSet made =>
          subst made
          exact .set isSet ((holds_bracketPart _ _).symm.trans held) (ih follows)
      | unclosed unclosed =>
          obtain rfl := beq_iff_eq.1 held
          exact .unclosed unclosed (ih follows)
      | char star any bracket =>
          obtain rfl := beq_iff_eq.1 held
          exact .char star any bracket (ih follows)

/-- **Reading a pattern keeps its language.** -/
theorem language_iff_matches {g t : Text} : Language admitted g t ↔ Matches (read g) t :=
  ⟨.of_language, fun matches_ => .of_matches matches_ rfl⟩

theorem matches_star_iff {g : Glob} {s : Text} : Matches (.star :: g) s ↔ ∃ s', s' <:+ s ∧ Matches g s' := by
  constructor
  · intro matches_
    cases matches_ with
    | star front rest => exact ⟨_, List.suffix_append _ _, rest⟩
    | one held rest => cases held
  · rintro ⟨s', ⟨front, rfl⟩, rest⟩
    exact .star front rest

theorem matches_one_iff {part : GlobPart} {g : Glob} {s : Text} (one : part ≠ .star) :
    Matches (part :: g) s ↔ ∃ c rest, s = c :: rest ∧ part.holds c = true ∧ Matches g rest := by
  constructor
  · intro matches_
    cases matches_ with
    | star => exact absurd rfl one
    | one held rest => exact ⟨_, _, rfl, held, rest⟩
  · rintro ⟨c, rest, rfl, held, matches_⟩
    exact .one held matches_

/-! ## Matching -/

section Answers

variable {yes : Text → Prop} {t : Text} {answers : List Bool}

/-- The answers to a question, one for each ending of a text. -/
def Answers (yes : Text → Prop) (t : Text) (answers : List Bool) : Prop :=
  List.Forall₂ (fun b s => b = true ↔ yes s) answers t.tails

theorem answers_nil_iff : Answers yes [] answers ↔ ∃ b, answers = [b] ∧ (b = true ↔ yes []) := by
  simp [Answers, List.forall₂_cons_right_iff, and_comm]

theorem answers_cons_iff {c : Char} :
    Answers yes (c :: t) answers ↔
      ∃ b later, answers = b :: later ∧ (b = true ↔ yes (c :: t)) ∧ Answers yes t later := by
  rw [Answers, List.tails_cons, List.forall₂_cons_right_iff]
  constructor
  · rintro ⟨b, later, first, right, rfl⟩
    exact ⟨b, later, rfl, first, right⟩
  · rintro ⟨b, later, rfl, first, right⟩
    exact ⟨b, later, first, right, rfl⟩

theorem Answers.head (right : Answers yes t answers) : ∃ b later, answers = b :: later ∧ (b = true ↔ yes t) := by
  cases t with
  | nil =>
      obtain ⟨b, rfl, first⟩ := answers_nil_iff.1 right
      exact ⟨b, [], rfl, first⟩
  | cons c rest =>
      obtain ⟨b, later, rfl, first, -⟩ := answers_cons_iff.1 right
      exact ⟨b, later, rfl, first⟩

theorem Answers.congr {yes' : Text → Prop} (same : ∀ s, yes s ↔ yes' s) (right : Answers yes t answers) :
    Answers yes' t answers := by
  rwa [← funext fun s => propext (same s)]

theorem Answers.any_iff (right : Answers yes t answers) : answers.any id = true ↔ ∃ s, s <:+ t ∧ yes s := by
  induction t generalizing answers with
  | nil =>
      obtain ⟨b, rfl, first⟩ := answers_nil_iff.1 right
      simp [first]
  | cons c rest ih =>
      obtain ⟨b, later, rfl, first, right⟩ := answers_cons_iff.1 right
      simp [first, ih right, List.suffix_cons_iff, or_and_right, exists_or]

theorem answers_end (t : Text) : Answers (Matches []) t (t.map (fun _ => false) ++ [true]) := by
  induction t with
  | nil => exact answers_nil_iff.2 ⟨true, rfl, fun _ => .nil, fun _ => rfl⟩
  | cons c rest ih => exact answers_cons_iff.2 ⟨false, _, rfl, ⟨fun no => (by cases no), fun no => (by cases no)⟩, ih⟩

theorem Answers.anyLater (right : Answers yes t answers) :
    Answers (fun s => ∃ s', s' <:+ s ∧ yes s') t (anyLater answers) := by
  induction t generalizing answers with
  | nil =>
      obtain ⟨b, rfl, first⟩ := answers_nil_iff.1 right
      exact answers_nil_iff.2 ⟨b, rfl, by simp [first]⟩
  | cons c rest ih =>
      obtain ⟨b, later, rfl, first, right⟩ := answers_cons_iff.1 right
      obtain ⟨b', later', found, first'⟩ := (ih right).head
      have all := ih right
      rw [found] at all
      refine answers_cons_iff.2 ⟨b || b', b' :: later', ?_, ?_, all⟩
      · rw [Glob.anyLater, found]
      · simp [first, first', List.suffix_cons_iff, or_and_right, exists_or]

theorem Answers.one (part : GlobPart) (right : Answers yes t answers) :
    Answers (fun s => ∃ c rest, s = c :: rest ∧ part.holds c = true ∧ yes rest) t
      (List.zipWith (fun c later => part.holds c && later) t answers.tail ++ [false]) := by
  induction t generalizing answers with
  | nil => exact answers_nil_iff.2 ⟨false, rfl, by simp⟩
  | cons c rest ih =>
      obtain ⟨b, later, rfl, first, right⟩ := answers_cons_iff.1 right
      obtain ⟨b', later', rfl, first'⟩ := right.head
      exact answers_cons_iff.2 ⟨part.holds c && b', _, rfl, by simp [first'], ih right⟩

end Answers

/-- **Each answer is whether the parts stand for the ending.** -/
theorem endings_answers (g : Glob) (t : Text) : Answers (Matches g) t (endings t g) := by
  induction g with
  | nil => exact answers_end t
  | cons part rest ih =>
      by_cases star : part = .star
      · subst star
        exact ih.anyLater.congr fun s => matches_star_iff.symm
      · have single : endings t (part :: rest) =
            List.zipWith (fun c later => part.holds c && later) t (endings t rest).tail ++ [false] := by
          cases part with
          | star => exact absurd rfl star
          | any | char | oneOf => rfl
        rw [single]
        exact (ih.one part).congr fun s => (matches_one_iff star).symm

theorem isFoundIn_iff {g : Glob} {t : Text} : g.isFoundIn t = true ↔ ∃ s, s <:+ t ∧ Matches g s :=
  (endings_answers g t).any_iff

/-- **A written pattern is found where an ending of the text is in its language.** -/
theorem isFoundIn_read_iff {g t : Text} :
    (read g).isFoundIn t = true ↔ ∃ s, s <:+ t ∧ Language admitted g s := by
  simp only [isFoundIn_iff, language_iff_matches]

end Graft.Glob
