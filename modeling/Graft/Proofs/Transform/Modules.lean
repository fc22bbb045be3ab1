/-
# Graft.Proofs.Transform.Modules -- the recipes of a build never stop

A bundle can make its recipes stop half-way, as the edits that they ask for may overlap.  A single module cannot,
whatever its text is.  The edits of its recipe are of three kinds: statuses with their icons, import statements, and
insertions just behind an opening brace.  Statuses and import statements contain no such brace, statements of
different icons cannot begin in each other, and no recipe has both statuses and statements.

So each recipe of a build makes all the edits that it asks for (`buildRecipes_carriedOut`).
-/
import Graft.Proofs.Patch.Course
import Graft.Proofs.Transform.Declarations

namespace Graft.Session

set_option autoImplicit false

open Graft.Edit Graft.Patch Graft.Text

/-! ## Descriptors that are carried out -/

/-- The descriptor does not stop on a fresh text: it gives its report and makes all the edits that it asks for, which
lie within the text and stand apart from each other. -/
structure CarriedOut (d : Descriptor) (t file : Text) : Prop where
  reported : (applyDescriptor (Buffer.ofText t) d file).result = .ok (d.report t)
  made : (applied t d file).edits = d.edits t
  sound : (applied t d file).Sound

variable {t : Text} {e : Edit}

/-- A recipe is carried out if its edits fit the text and each other. -/
theorem carriedOut_of_apart {d : Descriptor} (recipe : d ∈ recipes) (inRange : ∀ e ∈ d.edits t, e.InRange t.length)
    (apart : (d.edits t).Pairwise Edit.Apart) (file : Text) : CarriedOut d t file := by
  have takes : (Buffer.ofText t).Takes (d.edits t) := ⟨inRange, apart, by simp [Buffer.ofText]⟩
  have reported : (applyDescriptor (Buffer.ofText t) d file).result = .ok (d.report t) :=
    applyDescriptor_ok_iff.2 ⟨⟨Descriptor.readable_of_reads (recipe_reads recipe) t, takes⟩, rfl⟩
  obtain ⟨buffer, made⟩ := applied_of_ok reported
  refine ⟨reported, made, ?_⟩
  rw [buffer]
  exact (Buffer.adding_sound_iff (Buffer.sound_ofText t)).2 takes

/-! ## Import statements -/

/-- **The import statements of one module** contain no opening brace, and those of different icons cannot begin in
each other, whatever their quotation marks are. -/
theorem statements_checked : ∀ c ∈ Component.all, ∀ icon ∈ c.icons, ∀ quote ∈ quotes,
    importStatement icon quote ≠ [] ∧ '{' ∉ importStatement icon quote ∧
      ∀ icon' ∈ c.icons, icon ≠ icon' → ∀ quote' ∈ quotes,
        cannotBeginIn (importStatement icon quote) (importStatement icon' quote') = true := by
  decide +kernel

section Module

variable {c : Component} {icon icon' : Text} {e' : Edit}

theorem replaces_import (inIcons : icon ∈ c.icons) (member : e ∈ (importRename icon).edits t) :
    ∃ quote ∈ quotes, Replaces t (importStatement icon quote) e := by
  obtain ⟨p, quote, isQuote, rfl, stands⟩ := mem_importRename inIcons member
  exact ⟨quote, isQuote, p, _, rfl, stands⟩

theorem imports_apart (inIcons : icon ∈ c.icons) (inIcons' : icon' ∈ c.icons) (other : icon ≠ icon')
    (member : e ∈ (importRename icon).edits t) (member' : e' ∈ (importRename icon').edits t) : e.Apart e' := by
  obtain ⟨quote, isQuote, replaces⟩ := replaces_import inIcons member
  obtain ⟨quote', isQuote', replaces'⟩ := replaces_import inIcons' member'
  obtain ⟨-, -, clear⟩ := statements_checked c (mem_all c) icon inIcons quote isQuote
  obtain ⟨-, -, clear'⟩ := statements_checked c (mem_all c) icon' inIcons' quote' isQuote'
  exact replaces_apart replaces replaces' (clear' icon inIcons other.symm quote isQuote)
    (clear icon' inIcons' other quote' isQuote')

theorem import_follows_apart (inIcons : icon ∈ c.icons) (member : e ∈ (importRename icon).edits t)
    (follows : FollowsBrace t e') : e.Apart e' := by
  obtain ⟨quote, isQuote, replaces⟩ := replaces_import inIcons member
  obtain ⟨-, plain, -⟩ := statements_checked c (mem_all c) icon inIcons quote isQuote
  exact replaces_followsBrace_apart replaces plain follows

/-! ## The recipe of a module -/

/-- A component that imports no icon has statuses instead. -/
theorem buildRecipe_without_icons (none_ : c.icons = []) : (buildRecipe c).edits t = statusIcons.edits t := by
  cases c with
  | checkbox => simp [Component.icons] at none_
  | backTop => simp [Component.icons] at none_
  | rate => simp [Component.icons] at none_
  | result =>
      have replacements : (buildRecipe .result).replacements = [statusIcons] := rfl
      have insertions : (buildRecipe .result).insertions = [] := rfl
      rw [Descriptor.edits, replacements, insertions, List.flatMap_singleton, List.flatMap_nil, List.append_nil]

theorem buildRecipe_inRange (member : e ∈ (buildRecipe c).edits t) : e.InRange t.length := by
  cases icons : c.icons with
  | nil =>
      rw [buildRecipe_without_icons icons] at member
      exact (replacesStatus_of_mem member).inRange
  | cons icon rest =>
      have inIcons : icon ∈ c.icons := by simp [icons]
      rcases mem_buildRecipe inIcons member with ⟨icon', inIcons', inEdits⟩ | ⟨i, -, -, follows⟩
      · obtain ⟨quote, isQuote, replaces⟩ := replaces_import inIcons' inEdits
        exact replaces.inRange (statements_checked c (mem_all c) icon' inIcons' quote isQuote).1
      · exact follows.inRange

theorem buildRecipe_apart (t : Text) (c : Component) : ((buildRecipe c).edits t).Pairwise Edit.Apart := by
  cases icons : c.icons with
  | nil =>
      rw [buildRecipe_without_icons icons]
      exact regex_edits_apart rfl compile_statusIcons t
  | cons icon rest =>
      have inIcons : icon ∈ c.icons := by simp [icons]
      obtain ⟨none_, i, single, renames⟩ := buildRecipe_of_icons inIcons
      have inList : i ∈ (buildRecipe c).insertions := by simp [single]
      rw [Descriptor.edits, none_, single, List.flatMap_nil, List.nil_append, List.flatMap_singleton]
      have brace := recipe_behindBrace (buildRecipe_mem c) inList
      refine insertion_edits_apart brace renames (fun _ => rfl) (icons_nodup c) ?_
      intro index _ icon inIcons e member
      refine ⟨fun e' follows => import_follows_apart inIcons member follows, ?_⟩
      intro icon' inIcons' other e' member'
      exact imports_apart inIcons inIcons' other member member'

end Module

/-- **The recipes of a build never stop**, whatever the text is: neither the one for the wrapper nor that of any
component. -/
theorem buildRecipes_carriedOut (t file : Text) :
    CarriedOut replaceableRecipe t file ∧ ∀ c, CarriedOut (buildRecipe c) t file := by
  constructor
  · exact carriedOut_of_apart List.mem_cons_self (fun _ member => wrapper_inRange member) (wrapper_apart t) file
  · intro c
    exact carriedOut_of_apart (buildRecipe_mem c) (fun _ member => buildRecipe_inRange member) (buildRecipe_apart t c)
      file

end Graft.Session
