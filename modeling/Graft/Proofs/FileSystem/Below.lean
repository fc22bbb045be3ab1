/-
# Graft.Proofs.FileSystem.Below -- which paths lie below a directory

Two paths have a longest path that both begin with, component by component (`common?`).  One normal path lies below
another exactly if the other is what both begin with (`common?_eq_some_iff`).  Comparing the texts would not do: a
directory beside another can have a name that begins with the other's.

A path behind a directory goes up first, over its double dots, and then down its names (`goesDown`).  How far it goes
up does not depend on the directory, so it is read off the path alone, and then it is known what of the directory is
left (`absolute_behind`).  Such a path stays below the directory exactly if it goes down again whatever it has gone up
(`below_behind_iff`).
-/
import Graft.Proofs.FileSystem.Joined

namespace Graft.Path

set_option autoImplicit false

variable {p q : Path} {cwd t u : Text} {s parts before : List Text}

/-! ## What two paths begin with -/

/-- What two lists of components begin with, as far as they agree. -/
def shared : List Text → List Text → List Text
  | a :: s, b :: t => if a = b then a :: shared s t else []
  | _, _ => []

/-- The longest path that two paths begin with; there is none if only one of them is absolute. -/
def common? (t u : Text) : Option Text :=
  if isAbsolute t = isAbsolute u then
    some ((if isAbsolute t then ['/'] else []) ++ ['/'].intercalate (shared (partsOf t) (partsOf u)))
  else none

theorem shared_prefix_left (s t : List Text) : shared s t <+: s := by
  induction s generalizing t with
  | nil => exact List.prefix_rfl
  | cons a s ih =>
      cases t with
      | nil => exact List.nil_prefix
      | cons b t =>
          rw [shared]
          split
          · exact List.cons_prefix_cons.2 ⟨rfl, ih t⟩
          · exact List.nil_prefix

theorem shared_eq_right_iff {s t : List Text} : shared s t = t ↔ t <+: s := by
  refine ⟨fun same => same ▸ shared_prefix_left s t, fun within => ?_⟩
  induction t generalizing s with
  | nil => cases s <;> rfl
  | cons b t ih =>
      obtain ⟨rest, rfl⟩ := within
      rw [List.cons_append, shared, if_pos rfl, ih (List.prefix_append t rest)]

/-- The text of an absolute path with one slash at its start. -/
theorem slash_intercalate (parts : List Text) : '/' :: ['/'].intercalate parts = toText ⟨1, parts⟩ := rfl

/-- **A normal path lies below another one that is what both begin with.** -/
theorem common?_eq_some_iff (normal : Normal p) (normal' : Normal q) :
    common? p.toText q.toText = some q.toText ↔ q.lead = 1 ∧ q.parts <+: p.parts := by
  have agrees : isAbsolute p.toText = isAbsolute q.toText := normal.isAbsolute.trans normal'.isAbsolute.symm
  have within : shared p.parts q.parts <+: p.parts := shared_prefix_left _ _
  have sharedNormal : Normal ⟨1, shared p.parts q.parts⟩ :=
    ⟨.inl rfl, fun part member => normal.ordinary part (within.subset member),
      fun part member => normal.whole part (within.subset member)⟩
  rw [common?, if_pos agrees, if_pos normal.isAbsolute, normal.partsOf_eq, normal'.partsOf_eq, List.singleton_append,
    slash_intercalate, Option.some_inj]
  constructor
  · intro same
    have read : (⟨1, shared p.parts q.parts⟩ : Path) = q := by
      rw [← ofText_toText sharedNormal, same, ofText_toText normal']
    exact ⟨(congrArg lead read).symm, shared_eq_right_iff.1 (congrArg Path.parts read)⟩
  · rintro ⟨lead, below⟩
    rw [shared_eq_right_iff.2 below, ← lead]

/-! ## Paths that go up and down -/

/-- How many directories a path goes up before it goes down. -/
def ups (t : Text) : Nat := ((ofText t).parts.takeWhile (· == dotDot)).length

/-- The names that a path goes down along. -/
def goesDown (t : Text) : List Text := (ofText t).parts.dropWhile (· == dotDot)

/-- One more component of a path behind a directory: it makes no difference whether what was before it has been made
normal on its own. -/
theorem push_foldl_reverse (done before : List Text) (part : Text) :
    push true (done.reverse.foldl (push true) before) part =
      (push false done part).reverse.foldl (push true) before := by
  by_cases isName : part ≠ dotDot
  · rw [push.eq_def false, if_pos isName, List.reverse_cons, List.foldl_concat]
  · obtain rfl := not_not.1 isName
    cases done with
    | nil => rfl
    | cons last rest =>
        by_cases up : last = dotDot
        · subst up
          simp [push, List.foldl_append]
        · simp [push, up, List.foldl_append]

theorem foldl_push_reverse (todo done before : List Text) :
    todo.foldl (push true) (done.reverse.foldl (push true) before) =
      (todo.foldl (push false) done).reverse.foldl (push true) before := by
  induction todo generalizing done with
  | nil => rfl
  | cons part todo ih => rw [List.foldl_cons, push_foldl_reverse, ih, List.foldl_cons]

theorem leadOf_relative (relative : isAbsolute t = false) : leadOf t = 0 := by
  cases t with
  | nil => rfl
  | cons c rest =>
      have solid : ¬ (c == '/') = true := by simpa [isAbsolute] using relative
      rw [leadOf, List.takeWhile_cons_of_neg (p := (· == '/')) solid]

/-- A relative path may be made normal before it is put behind a directory. -/
theorem foldl_partsOf (relative : isAbsolute t = false) (before : List Text) :
    (partsOf t).foldl (push true) before = (ofText t).parts.foldl (push true) before := by
  rw [ofText, leadOf_relative relative]
  exact foldl_push_reverse (partsOf t) [] before

/-- In a relative path that is made normal no double dot comes after a name. -/
theorem push_upward {before : List Text} {part : Text}
    (upward : ∃ names k, before = names ++ List.replicate k dotDot ∧ dotDot ∉ names) :
    ∃ names k, push false before part = names ++ List.replicate k dotDot ∧ dotDot ∉ names := by
  obtain ⟨names, k, rfl, clear⟩ := upward
  by_cases isName : part ≠ dotDot
  · refine ⟨part :: names, k, ?_, ?_⟩
    · rw [push.eq_def, if_pos isName, List.cons_append]
    · rw [List.mem_cons]
      rintro (same | later)
      · exact isName same.symm
      · exact clear later
  · obtain rfl := not_not.1 isName
    cases names with
    | nil =>
        refine ⟨[], k + 1, ?_, List.not_mem_nil⟩
        cases k with
        | zero => rfl
        | succ k => rfl
    | cons last names =>
        refine ⟨names, k, ?_, fun member => clear (List.mem_cons_of_mem last member)⟩
        have down : last ≠ dotDot := fun same => clear (same ▸ List.mem_cons_self)
        simp [push, down]

theorem foldl_push_upward (todo : List Text) {before : List Text}
    (upward : ∃ names k, before = names ++ List.replicate k dotDot ∧ dotDot ∉ names) :
    ∃ names k, todo.foldl (push false) before = names ++ List.replicate k dotDot ∧ dotDot ∉ names := by
  induction todo generalizing before with
  | nil => exact upward
  | cons part todo ih => exact ih (push_upward upward)

/-- **A relative path goes up, and then it goes down along names.** -/
theorem ofText_upward (relative : isAbsolute t = false) :
    (ofText t).parts = List.replicate (ups t) dotDot ++ goesDown t ∧ dotDot ∉ goesDown t := by
  have climbs : (ofText t).parts.takeWhile (· == dotDot) = List.replicate (ups t) dotDot :=
    List.eq_replicate_of_mem fun part member => beq_iff_eq.1 (List.all_eq_true.1 List.all_takeWhile part member)
  refine ⟨?_, ?_⟩
  · rw [← climbs, goesDown, List.takeWhile_append_dropWhile]
  · obtain ⟨names, k, normal, clear⟩ :=
      @foldl_push_upward (partsOf t) [] ⟨[], 0, rfl, List.not_mem_nil⟩
    have parts_eq : (ofText t).parts = List.replicate k dotDot ++ names.reverse := by
      rw [ofText, leadOf_relative relative]
      show ((partsOf t).foldl (push false) []).reverse = _
      rw [normal, List.reverse_append, List.reverse_replicate]
    rw [goesDown, parts_eq, List.dropWhile_append_of_pos (by simp)]
    intro member
    exact clear (List.mem_reverse.1 ((List.dropWhile_sublist _).subset member))

theorem foldl_push_dotDots (k : Nat) {before : List Text} (clear : dotDot ∉ before) :
    (List.replicate k dotDot).foldl (push true) before = before.drop k := by
  induction k generalizing before with
  | zero => rfl
  | succ k ih =>
      rw [List.replicate_succ, List.foldl_cons]
      cases before with
      | nil => exact (ih clear).trans List.drop_nil
      | cons last rest =>
          have isName : last ≠ dotDot := fun same => clear (same ▸ List.mem_cons_self)
          have upOne : push true (last :: rest) dotDot = rest := by simp [push, isName]
          rw [upOne, ih fun member => clear (List.mem_cons_of_mem last member), List.drop_succ_cons]

/-- **A path behind a directory takes as many components of the directory away as it goes up, and adds its names.** -/
theorem absolute_behind (rooted : isAbsolute cwd = true) (directory : Text) (relative : isAbsolute t = false) :
    (absolute cwd (join directory t)).parts =
      (absolute cwd directory).parts.take ((absolute cwd directory).parts.length - ups t) ++ goesDown t := by
  have normal := absolute_normal rooted directory
  obtain ⟨upward, clear⟩ := ofText_upward relative
  have noUps : dotDot ∉ (absolute cwd directory).parts.reverse := fun member => normal.names (List.mem_reverse.1 member)
  rw [absolute_join_push rooted directory relative, foldl_partsOf relative, upward, List.foldl_append,
    foldl_push_dotDots _ noUps, foldl_push clear, List.reverse_append, List.reverse_reverse, List.drop_reverse,
    List.reverse_reverse]

/-- **It stays below the directory if it goes down again what it has gone up.** -/
theorem below_behind_iff (rooted : isAbsolute cwd = true) (directory : Text) (relative : isAbsolute t = false) :
    (absolute cwd directory).parts <+: (absolute cwd (join directory t)).parts ↔
      (absolute cwd directory).parts.drop ((absolute cwd directory).parts.length - ups t) <+: goesDown t := by
  rw [absolute_behind rooted directory relative]
  generalize (absolute cwd directory).parts = parts
  calc parts <+: parts.take (parts.length - ups t) ++ goesDown t
      ↔ parts.take (parts.length - ups t) ++ parts.drop (parts.length - ups t) <+:
          parts.take (parts.length - ups t) ++ goesDown t := by rw [List.take_append_drop]
    _ ↔ parts.drop (parts.length - ups t) <+: goesDown t := List.prefix_append_right_inj _

end Graft.Path
