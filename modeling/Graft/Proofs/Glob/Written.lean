/-
# Graft.Proofs.Glob.Written -- patterns that are found as they are written

A pattern is found by what its sets hold as they are read, and that can be something else than what they list.  It is
nevertheless found as it is written exactly if none of its sets is bare, or one of them lists nothing, so that nothing
is to be found (`isFoundIn_iff_listed_iff`).

That this is needed is shown by a text for each set that tells two readings of the set apart (`exists_shortest_with`):
it has one character for each part but the stars, so there is one way only to match it, and an ending of it that is
shorter is too short.
-/
import Graft.Proofs.Glob.Language

namespace Graft.Glob

set_option autoImplicit false

variable {holds holds' : Text → Char → Bool} {g rest set t : Text} {part : GlobPart} {c : Char}

/-! ## The sets of a pattern -/

/-- A set that is read in a pattern. -/
inductive HasSet (set : Text) : Text → Prop where
  | here (isSet : IsSet set) (g : Text) : HasSet set ('[' :: (set ++ ']' :: g))
  | later {g rest : Text} {part : GlobPart} (begins : Begins g part rest) (has : HasSet set rest) : HasSet set g

/-- The sets of a pattern; the first `skip` characters belong to the part before. -/
def setsFrom (skip : Nat) : Text → List Text
  | [] => []
  | c :: rest =>
    match skip with
    | skip + 1 => setsFrom skip rest
    | 0 =>
      if c = '[' then
        match bracketed? rest with
        | some set => set :: setsFrom (set.length + 1) rest
        | none => setsFrom 0 rest
      else setsFrom 0 rest

def sets (g : Text) : List Text := setsFrom 0 g

theorem setsFrom_append (s t : Text) : setsFrom s.length (s ++ t) = sets t := by
  induction s with
  | nil => rfl
  | cons c rest ih => exact ih

theorem sets_set (isSet : IsSet set) (g : Text) : sets ('[' :: (set ++ ']' :: g)) = set :: sets g := by
  have bracketed : bracketed? (set ++ ']' :: g) = some set := bracketed?_eq_some_iff.2 ⟨isSet, g, rfl⟩
  have behind : setsFrom (set.length + 1) (set ++ ']' :: g) = sets g := by
    rw [List.append_cons, ← setsFrom_append (set ++ [']']) g, List.length_append, List.length_singleton]
  rw [sets, setsFrom, if_pos rfl, bracketed]
  exact congrArg (set :: ·) behind

/-- The sets behind the first part of a pattern are sets of the pattern, and that part may be one more. -/
theorem Begins.sets (begins : Begins g part rest) :
    Glob.sets g = Glob.sets rest ∨ ∃ set, IsSet set ∧ g = '[' :: (set ++ ']' :: rest) ∧
      Glob.sets g = set :: Glob.sets rest := by
  cases begins with
  | star => exact .inl rfl
  | any => exact .inl rfl
  | set isSet made => exact .inr ⟨_, isSet, rfl, sets_set isSet rest⟩
  | unclosed unclosed =>
      rw [Glob.sets, setsFrom, if_pos rfl, bracketed?_unclosed unclosed]
      exact .inl rfl
  | char star any bracket =>
      rw [Glob.sets, setsFrom, if_neg bracket]
      exact .inl rfl

theorem hasSet_iff : HasSet set g ↔ set ∈ sets g := by
  constructor
  · intro has
    induction has with
    | here isSet g =>
        rw [sets_set isSet]
        exact List.mem_cons_self
    | later begins _ ih =>
        rcases begins.sets with same | ⟨set', -, -, more⟩
        · rwa [same]
        · rw [more]
          exact List.mem_cons_of_mem set' ih
  · intro member
    induction g using begins_induction with
    | nil => cases member
    | part begins ih =>
        rcases begins.sets with same | ⟨set', isSet, rfl, more⟩
        · exact .later begins (ih (same ▸ member))
        · rw [more] at member
          rcases List.mem_cons.1 member with rfl | member
          · exact .here isSet _
          · exact .later begins (ih member)

/-- A language depends on what the sets of the pattern hold, and on nothing else. -/
theorem Language.congr {holds holds' : Text → Char → Bool} {g t : Text}
    (same : ∀ set, HasSet set g → ∀ c, holds set c = holds' set c) (language : Language holds g t) :
    Language holds' g t := by
  induction language with
  | nil => exact .nil
  | star s _ ih => exact .star s (ih fun set has => same set (.later (.star _) has))
  | any c _ ih => exact .any c (ih fun set has => same set (.later (.any _) has))
  | @set set' g t c isSet held _ ih =>
      have held' : holds' set' c = true := by rwa [← same set' (.here isSet g) c]
      exact .set isSet held' (ih fun set has => same set (.later (.set isSet rfl g) has))
  | unclosed unclosed _ ih => exact .unclosed unclosed (ih fun set has => same set (.later (.unclosed unclosed) has))
  | char star any bracket _ ih =>
      exact .char star any bracket (ih fun set has => same set (.later (.char star any bracket _) has))

/-- **A pattern without bare sets stands for what is written.** -/
theorem language_admitted_iff_listed {g : Text} (covered : ∀ set, HasSet set g → isBare set = false) (t : Text) :
    Language admitted g t ↔ Language listed g t := by
  have same : ∀ set, HasSet set g → ∀ c, admitted set c = listed set c :=
    fun set has => (admitted_eq_listed_iff set).2 (covered set has)
  exact ⟨.congr same, .congr fun set has c => (same set has c).symm⟩

/-! ## One part at a time -/

theorem language_star_iff : Language holds ('*' :: g) t ↔ ∃ s, s <:+ t ∧ Language holds g s := by
  constructor
  · intro language
    cases language with
    | star front rest => exact ⟨_, List.suffix_append _ _, rest⟩
    | char star => exact absurd rfl star
  · rintro ⟨s, ⟨front, rfl⟩, rest⟩
    exact .star front rest

/-- A closed bracket is read in one way only. -/
theorem IsSet.unique {set set' rest rest' : Text} (isSet : IsSet set) (isSet' : IsSet set')
    (same : set ++ ']' :: rest = set' ++ ']' :: rest') : set = set' ∧ rest = rest' := by
  have read := bracketed?_eq_some_iff.2 ⟨isSet, rest, rfl⟩
  have read' := bracketed?_eq_some_iff.2 ⟨isSet', rest', rfl⟩
  rw [same, read'] at read
  obtain rfl := Option.some.inj read
  exact ⟨rfl, (List.cons.inj (List.append_cancel_left same)).2⟩

theorem language_set_iff (isSet : IsSet set) :
    Language holds ('[' :: (set ++ ']' :: g)) t ↔
      ∃ c rest, t = c :: rest ∧ holds set c = true ∧ Language holds g rest := by
  constructor
  · intro language
    generalize whole : '[' :: (set ++ ']' :: g) = written at language
    cases language with
    | nil => cases whole
    | star s rest => cases whole
    | any c rest => cases whole
    | set isSet' held rest =>
        obtain ⟨rfl, rfl⟩ := isSet.unique isSet' (List.cons.inj whole).2
        exact ⟨_, _, rfl, held, rest⟩
    | unclosed unclosed rest => exact absurd (List.cons.inj whole).2.symm (unclosed set g isSet)
    | char star any bracket rest => exact absurd (List.cons.inj whole).1.symm bracket
  · rintro ⟨c, rest, rfl, held, language⟩
    exact .set isSet held language

/-- Behind a part that takes one character the rest of the pattern follows. -/
theorem Begins.language_rest (begins : Begins g part rest) (single : part ≠ .star)
    (language : Language holds g (c :: t)) : Language holds rest t := by
  generalize whole : c :: t = s at language
  cases begins with
  | star => exact absurd rfl single
  | any =>
      cases language with
      | any _ rest => exact (List.cons.inj whole).2 ▸ rest
      | char star any => exact absurd rfl any
  | set isSet made =>
      obtain ⟨_, _, rfl, -, rest⟩ := (language_set_iff isSet).1 language
      exact (List.cons.inj whole).2 ▸ rest
  | unclosed unclosed =>
      cases language with
      | set isSet held rest => exact absurd rfl (unclosed _ _ isSet)
      | unclosed _ rest => exact (List.cons.inj whole).2 ▸ rest
      | char star any bracket => exact absurd rfl bracket
  | char star any bracket =>
      cases language with
      | star => exact absurd rfl star
      | any => exact absurd rfl any
      | set => exact absurd rfl bracket
      | unclosed => exact absurd rfl bracket
      | char _ _ _ rest => exact (List.cons.inj whole).2 ▸ rest

/-- There is a character for each part but a star, if there is one for each set. -/
theorem Begins.exists_first (begins : Begins g part rest) (single : part ≠ .star)
    (some_ : ∀ set, HasSet set g → ∃ c, holds set c = true) :
    ∃ c, ∀ t, Language holds rest t → Language holds g (c :: t) := by
  cases begins with
  | star => exact absurd rfl single
  | any => exact ⟨'a', fun t rest => .any 'a' rest⟩
  | @set set _ isSet made =>
      obtain ⟨c, held⟩ := some_ set (.here isSet rest)
      exact ⟨c, fun t rest => .set isSet held rest⟩
  | unclosed unclosed => exact ⟨'[', fun t rest => .unclosed unclosed rest⟩
  | @char c star any bracket => exact ⟨c, fun t rest => .char star any bracket rest⟩

/-! ## Shortest texts -/

/-- How many parts take one character. -/
def width (g : Text) : Nat := (read g).countP (· != .star)

theorem width_star (g : Text) : width ('*' :: g) = width g := by
  rw [width, read_star]
  exact List.countP_cons_of_neg (by simp)

theorem Begins.width (begins : Begins g part rest) (single : part ≠ .star) :
    Glob.width g = Glob.width rest + 1 := by
  rw [Glob.width, begins.read]
  exact List.countP_cons_of_pos (bne_iff_ne.2 single)

theorem Language.width_le (language : Language holds g t) : width g ≤ t.length := by
  induction language with
  | nil => exact Nat.zero_le _
  | star s _ ih =>
      rw [width_star, List.length_append]
      omega
  | any c _ ih =>
      rw [(Begins.any _).width (by simp)]
      exact Nat.succ_le_succ ih
  | set isSet _ _ ih =>
      rw [(Begins.set isSet rfl _).width (bracketPart_ne_star _)]
      exact Nat.succ_le_succ ih
  | unclosed unclosed _ ih =>
      rw [(Begins.unclosed unclosed).width (by simp)]
      exact Nat.succ_le_succ ih
  | char star any bracket _ ih =>
      rw [(Begins.char star any bracket _).width (by simp)]
      exact Nat.succ_le_succ ih

/-- What is shortest behind a part is shortest with the part, and then is still matched by what is behind the part. -/
theorem Begins.exists_longer (begins : Begins g part rest) (some_ : ∀ set, HasSet set g → ∃ c, holds set c = true)
    (language : Language holds rest t) (length : t.length = Glob.width rest) :
    ∃ s, Language holds g s ∧ s.length = Glob.width g ∧ ∀ {holds'}, Language holds' g s → Language holds' rest t := by
  by_cases single : part = .star
  · subst single
    cases begins with
    | set isSet made => exact absurd made (bracketPart_ne_star _)
    | star =>
        refine ⟨t, .star [] language, by rw [length, width_star], fun language' => ?_⟩
        obtain ⟨s, suffix, language'⟩ := language_star_iff.1 language'
        have long := language'.width_le
        exact suffix.eq_of_length_le (by omega) ▸ language'
  · obtain ⟨c, first⟩ := begins.exists_first single some_
    refine ⟨c :: t, first t language, ?_, begins.language_rest single⟩
    rw [begins.width single, List.length_cons, length]

theorem exists_shortest (some_ : ∀ set, HasSet set g → ∃ c, holds set c = true) :
    ∃ s, Language holds g s ∧ s.length = width g := by
  induction g using begins_induction with
  | nil => exact ⟨[], .nil, rfl⟩
  | part begins ih =>
      obtain ⟨s, language, length⟩ := ih fun set has => some_ set (.later begins has)
      obtain ⟨s', language', length', -⟩ := begins.exists_longer some_ language length
      exact ⟨s', language', length'⟩

/-- A shortest text that has a given character for a set, in whatever reading it is matched. -/
theorem exists_shortest_with (some_ : ∀ set, HasSet set g → ∃ c, holds set c = true) (has : HasSet set g)
    (held : holds set c = true) :
    ∃ s, Language holds g s ∧ s.length = width g ∧ ∀ holds', Language holds' g s → holds' set c = true := by
  induction has with
  | here isSet g =>
      have begins := Begins.set isSet rfl g
      obtain ⟨s, language, length⟩ := exists_shortest fun set has => some_ set (.later begins has)
      refine ⟨c :: s, .set isSet held language, ?_, fun holds' language' => ?_⟩
      · rw [begins.width (bracketPart_ne_star _), List.length_cons, length]
      · obtain ⟨_, _, same, held', -⟩ := (language_set_iff isSet).1 language'
        cases same
        exact held'
  | later begins has ih =>
      obtain ⟨s, language, length, tells⟩ := ih fun set has => some_ set (.later begins has)
      obtain ⟨s', language', length', behind⟩ := begins.exists_longer some_ language length
      exact ⟨s', language', length', fun holds' language' => tells holds' (behind language')⟩

/-- A set tells readings apart: if one of them finds all that another does, it holds all that the other holds, unless
the other has a set without characters. -/
theorem held_of_found (found : ∀ t, (∃ s, s <:+ t ∧ Language holds g s) → ∃ s, s <:+ t ∧ Language holds' g s)
    (some_ : ∀ set, HasSet set g → ∃ c, holds set c = true) (has : HasSet set g) (held : holds set c = true) :
    holds' set c = true := by
  obtain ⟨t, language, length, tells⟩ := exists_shortest_with some_ has held
  obtain ⟨s, suffix, language'⟩ := found t ⟨t, List.suffix_rfl, language⟩
  have long := language'.width_le
  obtain rfl := suffix.eq_of_length_le (by omega)
  exact tells holds' language'

theorem Begins.exists_behind (begins : Begins g part rest) (language : Language holds g t) :
    ∃ s, Language holds rest s := by
  by_cases single : part = .star
  · subst single
    cases begins with
    | set isSet made => exact absurd made (bracketPart_ne_star _)
    | star =>
        obtain ⟨s, -, language⟩ := language_star_iff.1 language
        exact ⟨s, language⟩
  · have long := language.width_le
    rw [begins.width single] at long
    cases t with
    | nil => exact absurd long (Nat.not_succ_le_zero _)
    | cons c s => exact ⟨s, begins.language_rest single language⟩

/-- Where something is matched, each set holds something. -/
theorem HasSet.exists_held (has : HasSet set g) (language : Language holds g t) : ∃ c, holds set c = true := by
  induction has generalizing t with
  | here isSet g =>
      obtain ⟨c, _, -, held, -⟩ := (language_set_iff isSet).1 language
      exact ⟨c, held⟩
  | later begins has ih =>
      obtain ⟨s, behind⟩ := begins.exists_behind language
      exact ih behind

/-! ## Patterns that are found as they are written -/

/-- No set is bare, or one lists nothing. -/
def AsWritten (g : Text) : Prop :=
  (∀ set, HasSet set g → isBare set = false) ∨ ∃ set, HasSet set g ∧ ∀ c, listed set c = false

/-- **When a pattern is found as it is written.** -/
theorem isFoundIn_iff_listed_iff :
    (∀ t, (read g).isFoundIn t = true ↔ ∃ s, s <:+ t ∧ Language listed g s) ↔ AsWritten g := by
  simp only [isFoundIn_read_iff]
  constructor
  · intro same
    refine or_iff_not_imp_right.2 fun none_ set has => ?_
    have someListed : ∀ set, HasSet set g → ∃ c, listed set c = true := by
      intro set has
      by_contra nothing
      exact none_ ⟨set, has, fun c => Bool.eq_false_iff.2 fun held => nothing ⟨c, held⟩⟩
    have admits : ∀ {set c}, HasSet set g → listed set c = true → admitted set c = true :=
      fun has held => held_of_found (fun t => (same t).2) someListed has held
    have someAdmitted : ∀ set, HasSet set g → ∃ c, admitted set c = true :=
      fun set has => (someListed set has).imp fun c => admits has
    have lists : ∀ {c}, admitted set c = true → listed set c = true :=
      fun held => held_of_found (fun t => (same t).1) someAdmitted has held
    exact (admitted_eq_listed_iff set).1 fun c => Bool.eq_iff_iff.2 ⟨lists, admits has⟩
  · rintro (covered | ⟨set, has, nothing⟩) t
    · simp only [language_admitted_iff_listed covered]
    · have covered : isBare set = false :=
        Bool.eq_false_iff.2 fun bare => by simpa [nothing] using listed_of_isBare bare
      have nothing' : ∀ c, admitted set c = false := by
        intro c
        rw [(admitted_eq_listed_iff set).2 covered c, nothing c]
      constructor
      · rintro ⟨s, -, language⟩
        obtain ⟨c, held⟩ := has.exists_held language
        cases (nothing' c).symm.trans held
      · rintro ⟨s, -, language⟩
        obtain ⟨c, held⟩ := has.exists_held language
        cases (nothing c).symm.trans held

end Graft.Glob
