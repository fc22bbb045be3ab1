/-
# Graft.Proofs.Filter.Wildcard -- what a filter with one wildcard pattern lets through

A filter is made of every pattern that is not empty and not marked as a regular expression, and it lets a file pass if
an ending of its name, with slashes only, is in the language of the pattern (`ofGiven_wildcard`).  Sets in brackets
hold in it what they hold as they are read.  That is what they list, as long as no exclamation mark comes first in a
set that is not written first; such a mark negates the set (`ofGiven_bareMark`).

The same files pass if the pattern is translated to a regular expression and that is searched for.
-/
import Graft.Proofs.Filter.Lists
import Graft.Proofs.Glob.Translation
import Graft.Proofs.Glob.Written

namespace Graft.Filter

set_option autoImplicit false

open Graft.Glob (Language AsWritten admitted listed)

/-- What a filter with one wildcard pattern lets through. -/
structure Wildcard (g : Text) (f : Filter) : Prop where
  passes : ∀ file : Text, file.head? ≠ some '\x00' →
    (f.passes file = true ↔ ∃ s, s <:+ normalized file ∧ Language admitted g s)
  /-- The files pass that the pattern asks for as it is written. -/
  written : AsWritten g → ∀ file : Text, file.head? ≠ some '\x00' →
    (f.passes file = true ↔ ∃ s, s <:+ normalized file ∧ Language listed g s)
  /-- A pattern that is not found as it is written shows it in some text. -/
  unwritten : (∀ t, f.included.any (·.isFoundIn t) = true ↔ ∃ s, s <:+ t ∧ Language listed g s) ↔ AsWritten g
  searched : ∀ file : Text, file.head? ≠ some '\x00' →
    f.passes file = (Glob.regex (Glob.read g)).isFoundIn (normalized file)

/-- **A filter is made of any wildcard pattern, and lets a file pass if an ending of its name is in the language.** -/
theorem ofGiven_wildcard {g : Text} (some_ : g ≠ []) (unmarked : ¬ FilePattern.regexMark <+: g) :
    ∃ f, ofGiven [.written g] [] = .ok f ∧ Wildcard g f := by
  have made : ofGiven [.written g] [] = .ok ⟨[.glob (Glob.read g)], []⟩ := by
    rw [ofGiven, List.mapM_cons, FilePattern.ofGiven, FilePattern.ofText_glob some_ unmarked]
    rfl
  have found : ∀ file : Text, file.head? ≠ some '\x00' →
      (⟨[.glob (Glob.read g)], []⟩ : Filter).passes file = (Glob.read g).isFoundIn (normalized file) := by
    intro file named
    rw [Filter.passes, if_neg named]
    exact Bool.or_false _
  refine ⟨_, made, ?passes, ?written, ?unwritten, ?searched⟩
  case passes =>
    intro file named
    rw [found file named, Glob.isFoundIn_read_iff]
  case written =>
    intro asWritten file named
    rw [found file named, Glob.isFoundIn_iff_listed_iff.2 asWritten]
  case unwritten => simpa [FilePattern.isFoundIn] using Glob.isFoundIn_iff_listed_iff
  case searched =>
    intro file named
    rw [found file named, Glob.isFoundIn_regex]

/-- Scripts in the modules of a package, hidden ones apart. -/
def scripts : Text := "es/**/[!._]*.[a-b!cm]js".toList

theorem ofGiven_wildcard_scripts : scripts ≠ [] ∧ ¬ FilePattern.regexMark <+: scripts ∧ AsWritten scripts ∧
    ∃ f, ofGiven [.written scripts] [] = .ok f ∧ Wildcard scripts f ∧
      f.passes "C:\\p\\es\\rate\\Rate.mjs".toList = true ∧ f.passes "C:\\p\\es\\rate\\Rate.js".toList = false := by
  have some_ : scripts ≠ [] := by decide
  have unmarked : ¬ FilePattern.regexMark <+: scripts := by decide
  have covered : ∀ set ∈ Glob.sets scripts, Glob.isBare set = false := by decide
  obtain ⟨f, made, wildcard⟩ := ofGiven_wildcard some_ unmarked
  refine ⟨some_, unmarked, .inl fun set has => covered set (Glob.hasSet_iff.1 has), f, made, wildcard, ?_⟩
  obtain rfl := Except.ok.inj (made.symm.trans rfl)
  decide

/-- An exclamation mark behind a range in the wrong order. -/
def bareMark : Text := "[b-a!c]".toList

/-- It negates the set, which lists itself and a letter, so any other character is found. -/
theorem ofGiven_bareMark : ∃ f, ofGiven [.written bareMark] [] = .ok f ∧ f.passes "x".toList = true ∧
    ¬ ∃ s, s <:+ normalized "x".toList ∧ Language listed bareMark s := by
  refine ⟨_, rfl, by decide, ?_⟩
  rintro ⟨s, suffix, language⟩
  have isSet : Glob.IsSet "b-a!c".toList := .plain (by decide) (by decide)
  obtain ⟨c, rest, rfl, held, -⟩ := (Glob.language_set_iff (g := []) isSet).1 language
  have only : c = 'x' := List.mem_singleton.1 (suffix.subset List.mem_cons_self)
  subst only
  cases held

end Graft.Filter
