/-
# Graft.Proofs.FileSystem.Joined -- normal paths with more components behind them

The text of a normal path reads back as the path (`ofText_toText`), and what `Path.absolute` gives is normal
(`absolute_normal`).  So nothing is lost when a path is written down, joined with the name of something inside the
directory, and read again: the components are those of the directory and then those of the name (`absolute_join`).
-/
import Graft.Proofs.FileSystem.Normal
import Mathlib.Data.List.Basic

namespace Graft.Path

set_option autoImplicit false

/-- A component that names something in a directory. -/
structure Ordinary (part : Text) : Prop where
  some_ : part ≠ []
  not_dot : part ≠ dot
  not_dotDot : part ≠ dotDot

/-- An absolute path as it is after all dots are taken away. -/
structure Normal (p : Path) : Prop where
  lead : p.lead = 1 ∨ p.lead = 2
  ordinary : ∀ part ∈ p.parts, Ordinary part
  whole : ∀ part ∈ p.parts, '/' ∉ part

variable {cwd t name : Text} {p : Path} {parts before : List Text}

/-! ## Components of written paths -/

theorem partsOf_slash (t : Text) : partsOf ('/' :: t) = partsOf t := partsOf_append [] t

theorem partsOf_slashes (n : Nat) (t : Text) : partsOf (List.replicate n '/' ++ t) = partsOf t := by
  induction n with
  | zero => rfl
  | succ n ih => rw [List.replicate_succ, List.cons_append, partsOf_slash, ih]

/-- A text whose parts are all components is a path with these components. -/
theorem partsOf_ordinary (ordinary : ∀ part ∈ t.splitOn '/', Ordinary part) : partsOf t = t.splitOn '/' := by
  refine List.filter_eq_self.2 fun part member => ?_
  have isName := ordinary part member
  rw [Bool.and_eq_true, bne_iff_ne, bne_iff_ne]
  exact ⟨isName.some_, isName.not_dot⟩

theorem partsOf_intercalate (ordinary : ∀ part ∈ parts, Ordinary part) (whole : ∀ part ∈ parts, '/' ∉ part) :
    partsOf (['/'].intercalate parts) = parts := by
  by_cases none_ : parts = []
  · subst none_
    rfl
  · have split := Text.splitOn_intercalate whole none_
    rw [partsOf_ordinary (by rwa [split]), split]

/-- Components that take nothing away are added one after another. -/
theorem foldl_push (names : dotDot ∉ parts) : parts.foldl (push true) before = parts.reverse ++ before := by
  induction parts generalizing before with
  | nil => rfl
  | cons part parts ih =>
      have isName : part ≠ dotDot := fun same => names (same ▸ List.mem_cons_self)
      have adds : push true before part = part :: before := if_pos isName
      rw [List.foldl_cons, adds, ih fun member => names (List.mem_cons_of_mem part member), List.reverse_cons,
        List.append_assoc]
      rfl

/-! ## Normal paths -/

theorem Normal.rooted (normal : Normal p) : p.lead ≠ 0 := by
  rcases normal.lead with one | two
  · omega
  · omega

theorem Normal.names (normal : Normal p) : dotDot ∉ p.parts :=
  fun member => (normal.ordinary dotDot member).not_dotDot rfl

theorem Normal.toText_eq (normal : Normal p) : p.toText = List.replicate p.lead '/' ++ ['/'].intercalate p.parts := by
  rw [toText, if_neg fun bare => normal.rooted bare.1]

theorem Normal.isAbsolute (normal : Normal p) : isAbsolute p.toText = true := by
  rw [normal.toText_eq]
  rcases normal.lead with one | two
  · rw [one]
    rfl
  · rw [two]
    rfl

/-- What follows the slashes at the start of a normal path does not begin with one. -/
theorem Normal.leadOf_eq (normal : Normal p) : leadOf p.toText = p.lead := by
  have clear : (['/'].intercalate p.parts).takeWhile (· == '/') = [] := by
    cases parts : p.parts with
    | nil => rfl
    | cons part rest =>
        have isPart : part ∈ p.parts := parts ▸ List.mem_cons_self
        obtain ⟨c, more, rfl⟩ := List.exists_cons_of_ne_nil (normal.ordinary part isPart).some_
        have solid : ¬ (c == '/') = true := by
          intro slash
          exact normal.whole _ isPart (beq_iff_eq.1 slash ▸ List.mem_cons_self)
        rw [List.intercalate_cons_cons_left]
        exact List.takeWhile_cons_of_neg solid
  rw [leadOf, normal.toText_eq, List.takeWhile_append_of_pos (by simp), clear, List.append_nil]
  rcases normal.lead with one | two
  · rw [one]
    rfl
  · rw [two]
    rfl

theorem Normal.partsOf_eq (normal : Normal p) : partsOf p.toText = p.parts := by
  rw [normal.toText_eq, partsOf_slashes, partsOf_intercalate normal.ordinary normal.whole]

/-- **A normal path reads back from its text.** -/
theorem ofText_toText (normal : Normal p) : ofText p.toText = p := by
  rw [ofText, normal.leadOf_eq, normal.partsOf_eq, bne_iff_ne.2 normal.rooted, foldl_push normal.names,
    List.append_nil, List.reverse_reverse]

theorem absolute_toText (normal : Normal p) (cwd : Text) : absolute cwd p.toText = p := by
  rw [absolute, if_pos normal.isAbsolute, ofText_toText normal]

theorem mem_push {part first : Text} (member : part ∈ push true before first) :
    part ∈ before ∨ part = first ∧ first ≠ dotDot := by
  by_cases isName : first ≠ dotDot
  · rw [push.eq_def, if_pos isName] at member
    exact (List.mem_cons.1 member).symm.imp_right fun same => ⟨same, isName⟩
  · rw [push.eq_def, if_neg isName] at member
    cases before with
    | nil => cases member
    | cons last rest =>
        simp only at member
        by_cases up : last = dotDot
        · rw [if_pos up] at member
          rcases List.mem_cons.1 member with rfl | earlier
          · exact .inl (up ▸ List.mem_cons_self)
          · exact .inl earlier
        · rw [if_neg up] at member
          exact .inl (List.mem_cons_of_mem last member)

/-- The components that are left were written, and no double dot is among them. -/
theorem mem_foldl_push {part : Text} (member : part ∈ parts.foldl (push true) before) :
    part ∈ before ∨ part ∈ parts ∧ part ≠ dotDot := by
  induction parts generalizing before with
  | nil => exact .inl member
  | cons first rest ih =>
      rcases ih member with earlier | ⟨later, isName⟩
      · exact (mem_push earlier).imp_right fun ⟨same, isName⟩ => ⟨same ▸ List.mem_cons_self, same ▸ isName⟩
      · exact .inr ⟨List.mem_cons_of_mem _ later, isName⟩

theorem leadOf_le (t : Text) : leadOf t ≤ 2 := by
  rw [leadOf]
  split
  · exact Nat.zero_le 2
  · exact Nat.le_refl 2
  · exact Nat.le_succ 1

/-- Each component of a path that is read was written, and what is in it was in the text. -/
theorem mem_ofText {part : Text} (rooted : isAbsolute t = true) (member : part ∈ (ofText t).parts) :
    part ∈ partsOf t ∧ part ≠ dotDot := by
  rw [ofText, bne_iff_ne.2 (leadOf_ne_zero rooted), List.mem_reverse] at member
  exact (mem_foldl_push member).resolve_left List.not_mem_nil

theorem of_mem_partsOf {part : Text} (member : part ∈ partsOf t) :
    part ≠ [] ∧ part ≠ dot ∧ ∀ c ∈ part, c ≠ '/' ∧ c ∈ t := by
  obtain ⟨inText, kept⟩ := List.mem_filter.1 member
  rw [Bool.and_eq_true, bne_iff_ne, bne_iff_ne] at kept
  exact ⟨kept.1, kept.2, fun c inPart => Text.of_mem_splitOn inText inPart⟩

/-- What an absolute text means is normal. -/
theorem ofText_normal (rooted : isAbsolute t = true) : Normal (ofText t) where
  lead := by
    have some_ : leadOf t ≠ 0 := leadOf_ne_zero rooted
    have few : leadOf t ≤ 2 := leadOf_le t
    show leadOf t = 1 ∨ leadOf t = 2
    omega
  ordinary := by
    intro part member
    obtain ⟨written, isName⟩ := mem_ofText rooted member
    obtain ⟨some_, not_dot, -⟩ := of_mem_partsOf written
    exact ⟨some_, not_dot, isName⟩
  whole := by
    intro part member slash
    obtain ⟨written, -⟩ := mem_ofText rooted member
    exact ((of_mem_partsOf written).2.2 _ slash).1 rfl

theorem join_isAbsolute (rooted : isAbsolute cwd = true) (t : Text) : isAbsolute (join cwd t) = true := by
  cases cwd with
  | nil => cases rooted
  | cons c rest =>
      rw [join]
      split
      · assumption
      · split
        · exact rooted
        · exact rooted

/-- **The path that a text means is normal.** -/
theorem absolute_normal (rooted : isAbsolute cwd = true) (t : Text) : Normal (absolute cwd t) := by
  rw [absolute]
  split
  · rename_i absolute
    exact ofText_normal absolute
  · exact ofText_normal (join_isAbsolute rooted t)

/-! ## Names behind a path -/

/-- A name made of components does not begin with a slash. -/
theorem name_relative (ordinary : ∀ part ∈ name.splitOn '/', Ordinary part) :
    ∃ c rest, name = c :: rest ∧ c ≠ '/' := by
  cases name with
  | nil => exact absurd rfl (ordinary [] List.mem_cons_self).some_
  | cons c rest =>
      refine ⟨c, rest, rfl, ?_⟩
      rintro rfl
      have first : [] ∈ Text.splitOn '/' ('/' :: rest) := by
        rw [Text.splitOn, if_pos rfl]
        exact List.mem_cons_self
      exact (ordinary [] first).some_ rfl

theorem Normal.append (normal : Normal p) (ordinary : ∀ part ∈ name.splitOn '/', Ordinary part) :
    Normal ⟨p.lead, p.parts ++ name.splitOn '/'⟩ where
  lead := normal.lead
  ordinary := by
    intro part member
    rcases List.mem_append.1 member with front | back
    · exact normal.ordinary part front
    · exact ordinary part back
  whole := by
    intro part member slash
    rcases List.mem_append.1 member with front | back
    · exact normal.whole part front slash
    · exact (Text.of_mem_splitOn back slash).1 rfl

/-- A text put together from components does not end with a slash. -/
theorem getLast?_intercalate (ordinary : ∀ part ∈ parts, Ordinary part) (whole : ∀ part ∈ parts, '/' ∉ part)
    (some_ : parts ≠ []) : ∃ c, (['/'].intercalate parts).getLast? = some c ∧ c ≠ '/' := by
  obtain ⟨front, last, rfl⟩ := (List.eq_nil_or_concat' parts).resolve_left some_
  have isLast : last ∈ front ++ [last] := List.mem_append_right _ List.mem_cons_self
  have ends : (['/'].intercalate (front ++ [last])).getLast? = last.getLast? := by
    by_cases alone : front = []
    · rw [alone, List.nil_append, List.intercalate_singleton]
    · rw [Text.intercalate_append _ alone (List.cons_ne_nil _ _), List.intercalate_singleton,
        List.getLast?_append_of_ne_nil _ (ordinary last isLast).some_]
  rw [ends]
  cases found : last.getLast? with
  | none => exact absurd (List.getLast?_eq_none_iff.1 found) (ordinary last isLast).some_
  | some c =>
      refine ⟨c, rfl, ?_⟩
      rintro rfl
      exact whole last isLast (List.mem_of_getLast? found)

/-- **A name behind a normal path is the path with the components of the name.** -/
theorem join_toText (normal : Normal p) (ordinary : ∀ part ∈ name.splitOn '/', Ordinary part) :
    join p.toText name = toText ⟨p.lead, p.parts ++ name.splitOn '/'⟩ := by
  obtain ⟨c, rest, rfl, notSlash⟩ := name_relative ordinary
  have relative : Path.isAbsolute (c :: rest) = false := by simpa [Path.isAbsolute] using notSlash
  have some_ := Text.splitOn_ne_nil '/' (c :: rest)
  rw [join, relative, if_neg Bool.false_ne_true, (normal.append ordinary).toText_eq, normal.toText_eq]
  by_cases bare : p.parts = []
  · have ends : (List.replicate p.lead '/').getLast? = some '/' := by
      rw [List.getLast?_replicate, if_neg normal.rooted]
    simp only [bare, List.intercalate_nil, List.append_nil, List.nil_append, ends, Text.intercalate_splitOn]
    simp
  · obtain ⟨d, ends, solid⟩ := getLast?_intercalate normal.ordinary normal.whole bare
    have nonempty : ['/'].intercalate p.parts ≠ [] := by
      intro empty
      rw [empty] at ends
      cases ends
    have goesOn : ¬ ((List.replicate p.lead '/' ++ ['/'].intercalate p.parts).isEmpty ||
        (List.replicate p.lead '/' ++ ['/'].intercalate p.parts).getLast? == some '/') = true := by
      rw [List.getLast?_append_of_ne_nil _ nonempty, ends]
      simp [nonempty, solid]
    rw [if_neg goesOn, Text.intercalate_append _ bare some_, Text.intercalate_splitOn]
    simp only [List.append_assoc, List.singleton_append]

/-- The path that is read from a normal path with a name behind it. -/
theorem absolute_join (normal : Normal p) (ordinary : ∀ part ∈ name.splitOn '/', Ordinary part) (cwd : Text) :
    absolute cwd (join p.toText name) = ⟨p.lead, p.parts ++ name.splitOn '/'⟩ := by
  rw [join_toText normal ordinary]
  exact absolute_toText (normal.append ordinary) cwd

theorem isAbsolute_join (relative : isAbsolute name = false) (directory : Text) :
    isAbsolute (join directory name) = isAbsolute directory := by
  rw [join, relative, if_neg Bool.false_ne_true]
  cases directory with
  | nil => exact relative
  | cons c rest =>
      split
      · rfl
      · rfl

/-- The components of a path behind a directory, however it is written, are added to those that the directory means. -/
theorem absolute_join_push (rooted : isAbsolute cwd = true) (directory : Text) (relative : isAbsolute name = false) :
    (absolute cwd (join directory name)).parts =
      ((partsOf name).foldl (push true) (absolute cwd directory).parts.reverse).reverse := by
  have parts_eq : ∀ t, isAbsolute t = true → (ofText t).parts = ((partsOf t).foldl (push true) []).reverse := by
    intro t rooted
    rw [ofText, bne_iff_ne.2 (leadOf_ne_zero rooted)]
  rw [absolute, absolute, isAbsolute_join relative]
  by_cases given : isAbsolute directory = true
  · rw [if_pos given, if_pos given, parts_eq _ ((isAbsolute_join relative directory).trans given), parts_eq _ given,
      partsOf_join relative, List.foldl_append, List.reverse_reverse]
  · rw [if_neg given, if_neg given, parts_eq _ (join_isAbsolute rooted _), parts_eq _ (join_isAbsolute rooted _),
      partsOf_join (by rw [isAbsolute_join relative]; exact Bool.eq_false_iff.2 given), partsOf_join relative,
      partsOf_join (Bool.eq_false_iff.2 given), ← List.append_assoc, List.foldl_append, List.reverse_reverse]

/-- **A name behind a directory, however it is written, adds its components to those that the directory means.** -/
theorem absolute_join_parts (rooted : isAbsolute cwd = true) (directory : Text)
    (ordinary : ∀ part ∈ name.splitOn '/', Ordinary part) :
    (absolute cwd (join directory name)).parts = (absolute cwd directory).parts ++ name.splitOn '/' := by
  have relative : isAbsolute name = false := by
    obtain ⟨c, rest, rfl, notSlash⟩ := name_relative ordinary
    simpa [isAbsolute] using notSlash
  rw [absolute_join_push rooted directory relative, partsOf_ordinary ordinary,
    foldl_push fun member => (ordinary dotDot member).not_dotDot rfl, List.reverse_append, List.reverse_reverse,
    List.reverse_reverse]

end Graft.Path

namespace Graft.FileSystem

variable {fs : FileSystem} {p : Path}

theorem splitOn_slashes (n : Nat) (t : Text) :
    Text.splitOn '/' (List.replicate n '/' ++ t) = List.replicate n [] ++ Text.splitOn '/' t := by
  induction n with
  | zero => rfl
  | succ n ih => rw [List.replicate_succ, List.cons_append, Text.splitOn, if_pos rfl, ih]; rfl

/-- **A normal path is walked along its components.** -/
theorem walk_toText (normal : Path.Normal p) (some_ : p.parts ≠ []) (clear : '\x00' ∉ p.toText)
    (short : Text.byteLength p.toText < pathLimit) (follow : Bool) :
    fs.walk follow p.toText = fs.walkFrom follow linkLimit [] p.parts := by
  obtain ⟨c, ends, solid⟩ := Path.getLast?_intercalate normal.ordinary normal.whole some_
  have body : ['/'].intercalate p.parts ≠ [] := by
    intro empty
    rw [empty] at ends
    cases ends
  have last : p.toText.getLast? = some c := by rw [normal.toText_eq, List.getLast?_append_of_ne_nil _ body, ends]
  have goesAlong : steps p.toText = p.parts := by
    rw [steps, last, if_neg fun same => solid (Option.some.inj same), List.append_nil, normal.toText_eq,
      splitOn_slashes, Text.splitOn_intercalate normal.whole some_, List.filter_append]
    have slashes : (List.replicate p.lead []).filter (fun part : Text => part != []) = [] := by simp
    rw [slashes, List.nil_append, List.filter_eq_self]
    exact fun part member => bne_iff_ne.2 (normal.ordinary part member).some_
  have nonempty : p.toText ≠ [] := by
    intro empty
    have rooted := normal.isAbsolute
    rw [empty] at rooted
    cases rooted
  rw [walk, if_neg (by simpa using clear), if_neg (by simpa using nonempty), if_neg (Nat.not_le.2 short),
    if_pos normal.isAbsolute, goesAlong]

end Graft.FileSystem
