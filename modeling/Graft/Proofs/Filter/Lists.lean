/-
# Graft.Proofs.Filter.Lists -- when filters can be made from lists of patterns, and what they let through

A mode uses one list of including patterns for each category, and the excluding patterns.  Filters are made if none of
these lists of including patterns is empty and every pattern in use can be read; else there is the fault of the first
list that is empty, or of the first pattern that cannot be read (`ofLists_making`).  Everything else follows from that:
which lists configuration refuses, that the other lists do not count, and that a file passes by what the patterns in
use find in its name, in whatever order and however often they are given (`ofLists_configures`).  How regular
expressions are compiled does not come into this: it is up to `compile`.

Reading a pattern can also fail without the pattern being refused, when a number in it is too large for instance; a
pattern with which this does not happen is `Regular`.  And a search can come back with a crossed match: then the filter
has no answer at all (`CrossedIn`), and else its answer is what passes (`Filter.Reads.answer_cases`).
-/
import Graft.Filter.FilterSet
import Mathlib

namespace Graft

set_option autoImplicit false

open Graft.Patch

/-! ## Reading a list -/

section Reading

variable {α β ε : Type} {read : α → Except ε β}

/-- A list is read if all of it is, and else it fails as one of its members does. -/
theorem mapM_cases (read : α → Except ε β) (xs : List α) :
    (∃ ys, xs.mapM read = .ok ys ∧ List.Forall₂ (fun x y => read x = .ok y) xs ys) ∨
      ∃ x ∈ xs, ∃ fault, read x = .error fault ∧ xs.mapM read = .error fault := by
  induction xs with
  | nil => exact .inl ⟨[], rfl, .nil⟩
  | cons x rest ih =>
      rw [List.mapM_cons]
      cases first : read x with
      | error fault => exact .inr ⟨x, List.mem_cons_self, fault, first, rfl⟩
      | ok y =>
          rcases ih with ⟨ys, rests, reads⟩ | ⟨x', member, fault, fails, stops⟩
          · rw [rests]
            exact .inl ⟨y :: ys, rfl, .cons first reads⟩
          · rw [stops]
            exact .inr ⟨x', List.mem_cons_of_mem x member, fault, fails, rfl⟩

end Reading

/-! ## Patterns -/

namespace FilePattern

variable {compile : Regex.Compiler}

/-- A pattern without the mark of a regular expression is a glob. -/
theorem ofText_glob {t : Text} (some_ : t ≠ []) (unmarked : ¬ regexMark <+: t) :
    ofText t compile = .ok (.glob (Glob.read t)) := by
  rw [ofText, if_neg (by simpa using some_), if_neg (mt List.isPrefixOf_iff_prefix.1 unmarked)]

theorem ofText_regex {t : Text} {r : Regex} (compiles : compile t = .ok r) :
    ofText (regexMark ++ t) compile = .ok (.regex r) := by
  rw [ofText, if_neg (by simp [regexMark]), if_pos (List.isPrefixOf_iff_prefix.2 (List.prefix_append _ _)),
    List.drop_left, compiles]

/-- A regular expression that cannot be read is malformed, or there is another reason. -/
theorem ofText_fails {t : Text} {fault : Regex.Fault} (fails : compile t = .error fault) :
    (∃ cause spot, fault = .malformed cause spot ∧
        ofText (regexMark ++ t) compile = .error (.malformed (regexMark ++ t) cause spot)) ∨
      (∀ cause spot, fault ≠ .malformed cause spot) ∧ ofText (regexMark ++ t) compile = .error (.unreadable fault) := by
  rw [ofText, if_neg (by simp [regexMark]), if_pos (List.isPrefixOf_iff_prefix.2 (List.prefix_append _ _)),
    List.drop_left, fails]
  cases fault with
  | malformed cause spot => exact .inl ⟨cause, spot, rfl, rfl⟩
  | _ => exact .inr ⟨by rintro cause spot ⟨⟩, rfl⟩

end FilePattern

/-- Whether it is the configuration that is at fault. -/
def FilterFault.IsRefusal : FilterFault → Prop
  | .unreadable _ => False
  | _ => True

namespace GivenPattern

section

variable (compile : Regex.Compiler)

/-- What configuration refuses: no pattern at all, an empty one, and a malformed regular expression. -/
def Refused : GivenPattern → Prop
  | .other _ => True
  | .compiled _ => False
  | .written t => t = [] ∨ ∃ u cause spot, t = FilePattern.regexMark ++ u ∧
      compile u = .error (.malformed cause spot)

/-- If the pattern is a regular expression that cannot be read, it is malformed. -/
def Regular : GivenPattern → Prop
  | .written t => ∀ u fault, t = FilePattern.regexMark ++ u → compile u = .error fault →
      ∃ cause spot, fault = .malformed cause spot
  | _ => True

end

variable {compile : Regex.Compiler}

theorem refused_regex_iff {t : Text} :
    (GivenPattern.written (FilePattern.regexMark ++ t)).Refused compile ↔
      ∃ cause spot, compile t = .error (.malformed cause spot) := by
  constructor
  · rintro (empty | ⟨u, cause, spot, same, fails⟩)
    · cases empty
    · obtain rfl := List.append_cancel_left same
      exact ⟨cause, spot, fails⟩
  · rintro ⟨cause, spot, fails⟩
    exact .inr ⟨t, cause, spot, rfl, fails⟩

/-- A pattern is read, or refused, or it is not regular. -/
theorem ofGiven_cases (p : GivenPattern) :
    (∃ r, FilePattern.ofGiven p compile = .ok r ∧ ¬ p.Refused compile) ∨
      (∃ fault, FilePattern.ofGiven p compile = .error fault ∧ fault.IsRefusal ∧ p.Refused compile) ∨
      ∃ fault, FilePattern.ofGiven p compile = .error fault ∧ ¬ p.Refused compile ∧ ¬ p.Regular compile := by
  cases p with
  | other v => exact .inr (.inl ⟨_, rfl, trivial, trivial⟩)
  | compiled r => exact .inl ⟨_, rfl, id⟩
  | written t =>
      rw [FilePattern.ofGiven]
      by_cases marked : FilePattern.regexMark <+: t
      · obtain ⟨u, rfl⟩ := marked
        rw [refused_regex_iff]
        cases read : compile u with
        | ok r => exact .inl ⟨_, FilePattern.ofText_regex read, by rintro ⟨cause, spot, ⟨⟩⟩⟩
        | error fault =>
            rcases FilePattern.ofText_fails read with ⟨cause, spot, rfl, fails⟩ | ⟨other, fails⟩
            · exact .inr (.inl ⟨_, fails, trivial, cause, spot, rfl⟩)
            · refine .inr (.inr ⟨_, fails, ?_, ?_⟩)
              · rintro ⟨cause, spot, same⟩
                exact other cause spot (Except.error.inj same)
              · intro regular
                obtain ⟨cause, spot, same⟩ := regular u fault rfl read
                exact other cause spot same
      · by_cases empty : t = []
        · subst empty
          exact .inr (.inl ⟨_, rfl, trivial, .inl rfl⟩)
        · refine .inl ⟨_, FilePattern.ofText_glob empty marked, ?_⟩
          rintro (none_ | ⟨u, cause, spot, rfl, -⟩)
          · exact empty none_
          · exact marked (List.prefix_append _ _)

/-- A regular pattern is read if it is not refused. -/
theorem Regular.cases {p : GivenPattern} (regular : p.Regular compile) :
    (∃ r, FilePattern.ofGiven p compile = .ok r ∧ ¬ p.Refused compile) ∨
      ∃ fault, FilePattern.ofGiven p compile = .error fault ∧ fault.IsRefusal ∧ p.Refused compile := by
  rcases p.ofGiven_cases with read | refused | ⟨fault, -, -, irregular⟩
  · exact .inl read
  · exact .inr refused
  · exact absurd regular irregular

end GivenPattern

namespace Filter

variable {compile : Regex.Compiler} {included excluded : List GivenPattern} {f : Filter} {file : Text}

/-- The filter has the patterns of the two lists. -/
structure Reads (compile : Regex.Compiler) (included excluded : List GivenPattern) (f : Filter) : Prop where
  included : List.Forall₂ (fun p r => FilePattern.ofGiven p compile = .ok r) included f.included
  excluded : List.Forall₂ (fun p r => FilePattern.ofGiven p compile = .ok r) excluded f.excluded

/-- A filter is made if all patterns can be read, and else it fails as one of them does. -/
theorem ofGiven_cases (compile : Regex.Compiler) (included excluded : List GivenPattern) :
    (∃ f, ofGiven included excluded compile = .ok f ∧ Reads compile included excluded f) ∨
      ∃ p, (p ∈ included ∨ p ∈ excluded) ∧
        ∃ fault, FilePattern.ofGiven p compile = .error fault ∧ ofGiven included excluded compile = .error fault := by
  rw [ofGiven]
  rcases mapM_cases (FilePattern.ofGiven · compile) included with
    ⟨ins, read, reads⟩ | ⟨p, member, fault, fails, stops⟩
  · rw [read]
    rcases mapM_cases (FilePattern.ofGiven · compile) excluded with
      ⟨outs, read', reads'⟩ | ⟨p, member, fault, fails, stops⟩
    · rw [read']
      exact .inl ⟨⟨ins, outs⟩, rfl, reads, reads'⟩
    · rw [stops]
      exact .inr ⟨p, .inr member, fault, fails, rfl⟩
  · rw [stops]
    exact .inr ⟨p, .inl member, fault, fails, rfl⟩

end Filter

/-! ## The filters of a mode -/

/-- The list of including patterns that a mode uses for a category. -/
def Mode.includes : Mode → Category → IncludeList
  | .build, .replaceable => .buildReplaceable
  | .build, .exportDefault => .buildExportDefault
  | .serve, _ => .serve

namespace FilterLists

def patterns (l : FilterLists) : IncludeList → List GivenPattern
  | .buildReplaceable => l.buildReplaceable
  | .buildExportDefault => l.buildExportDefault
  | .serve => l.serve

/-- The including patterns of a category. -/
def including (l : FilterLists) (mode : Mode) (c : Category) : List GivenPattern := l.patterns (mode.includes c)

/-- The pattern is one that the mode uses. -/
def Uses (l : FilterLists) (mode : Mode) (p : GivenPattern) : Prop := p ∈ l.exclude ∨ ∃ c, p ∈ l.including mode c

end FilterLists

namespace FilterSet

variable {compile : Regex.Compiler} {mode : Mode} {lists lists' : FilterLists} {s s' : FilterSet} {file : Text}

/-- The filters have the patterns of the lists that the mode uses, and no list of including patterns is empty. -/
def Reads (compile : Regex.Compiler) (mode : Mode) (lists : FilterLists) (s : FilterSet) : Prop :=
  ∀ c, lists.including mode c ≠ [] ∧ Filter.Reads compile (lists.including mode c) lists.exclude (s.forCategory c)

theorem require_cases (list : IncludeList) (patterns : List GivenPattern) :
    patterns ≠ [] ∧ require list patterns = .ok () ∨
      patterns = [] ∧ require list patterns = .error (.emptyInclude list) := by
  cases patterns with
  | nil => exact .inr ⟨rfl, rfl⟩
  | cons p rest => exact .inl ⟨List.cons_ne_nil p rest, rfl⟩

/-- The filter of a category has its patterns, or fails as one that the mode uses does. -/
theorem filter_cases (compile : Regex.Compiler) (mode : Mode) (lists : FilterLists) (c : Category) :
    (∃ f, Filter.ofGiven (lists.including mode c) lists.exclude compile = .ok f ∧
        Filter.Reads compile (lists.including mode c) lists.exclude f) ∨
      ∃ p, lists.Uses mode p ∧ ∃ fault, FilePattern.ofGiven p compile = .error fault ∧
        Filter.ofGiven (lists.including mode c) lists.exclude compile = .error fault := by
  rcases Filter.ofGiven_cases compile (lists.including mode c) lists.exclude with made | ⟨p, member, fails⟩
  · exact .inl made
  · exact .inr ⟨p, member.symm.imp_right fun member => ⟨c, member⟩, fails⟩

/-- What comes of making filters: they have their patterns, or a list that the mode uses is empty, or a pattern that it
uses cannot be read. -/
inductive Making (compile : Regex.Compiler) (mode : Mode) (lists : FilterLists) :
    Except FilterFault FilterSet → Prop where
  | made {s : FilterSet} (reads : Reads compile mode lists s) : Making compile mode lists (.ok s)
  | empty (c : Category) (none_ : lists.including mode c = []) :
      Making compile mode lists (.error (.emptyInclude (mode.includes c)))
  | unread {p : GivenPattern} {fault : FilterFault} (kept : ∀ c, lists.including mode c ≠ [])
      (uses : lists.Uses mode p) (fails : FilePattern.ofGiven p compile = .error fault) :
      Making compile mode lists (.error fault)

theorem ofLists_serve (compile : Regex.Compiler) (lists : FilterLists) :
    Making compile .serve lists (ofLists .serve lists compile) := by
  rcases require_cases .serve lists.serve with ⟨some_, requires⟩ | ⟨none_, requires⟩
  · have made : ofLists .serve lists compile =
        (Filter.ofGiven lists.serve lists.exclude compile).map fun f => ⟨f, f⟩ := by
      rw [ofLists, requires]
      rfl
    rcases filter_cases compile .serve lists .replaceable with ⟨f, read, reads⟩ | ⟨p, uses, fault, fails, stops⟩
    · rw [made, show Filter.ofGiven lists.serve lists.exclude compile = .ok f from read]
      exact .made fun c => by cases c <;> exact ⟨some_, reads⟩
    · rw [made, show Filter.ofGiven lists.serve lists.exclude compile = .error fault from stops]
      exact .unread (fun _ => some_) uses fails
  · rw [ofLists, requires]
    exact .empty .replaceable none_

theorem ofLists_build (compile : Regex.Compiler) (lists : FilterLists) :
    Making compile .build lists (ofLists .build lists compile) := by
  rcases require_cases .buildReplaceable lists.buildReplaceable with ⟨some_, requires⟩ | ⟨none_, requires⟩
  · rcases require_cases .buildExportDefault lists.buildExportDefault with ⟨some', requires'⟩ | ⟨none_, requires'⟩
    · have kept : ∀ c, lists.including .build c ≠ [] := by
        intro c
        cases c with
        | replaceable => exact some_
        | exportDefault => exact some'
      have made : ofLists .build lists compile = do
          let replaceable ← Filter.ofGiven (lists.including .build .replaceable) lists.exclude compile
          let exportDefault ← Filter.ofGiven (lists.including .build .exportDefault) lists.exclude compile
          return ⟨replaceable, exportDefault⟩ := by
        rw [ofLists, requires, requires']
        rfl
      rcases filter_cases compile .build lists .replaceable with ⟨f, read, reads⟩ | ⟨p, uses, fault, fails, stops⟩
      · rcases filter_cases compile .build lists .exportDefault with
          ⟨f', read', reads'⟩ | ⟨p, uses, fault, fails, stops⟩
        · rw [made, read, read']
          refine .made fun c => ⟨kept c, ?_⟩
          cases c with
          | replaceable => exact reads
          | exportDefault => exact reads'
        · rw [made, read, stops]
          exact .unread kept uses fails
      · rw [made, stops]
        exact .unread kept uses fails
    · rw [ofLists, requires, requires']
      exact .empty .exportDefault none_
  · rw [ofLists, requires]
    exact .empty .replaceable none_

theorem ofLists_making (compile : Regex.Compiler) (mode : Mode) (lists : FilterLists) :
    Making compile mode lists (ofLists mode lists compile) := by
  cases mode with
  | build => exact ofLists_build compile lists
  | serve => exact ofLists_serve compile lists

end FilterSet

end Graft
