/-
# Graft.Proofs.Patch.Growth -- recipes only make a file longer

Every edit that a recipe asks for puts more characters than it takes away, wherever it is made: a rename adds
underscores, a status gets a call around its icon, and a template is never empty (`recipe_edits_grow`).  So a file
in which anything was edited is longer than it was.
-/
import Graft.Proofs.Edit.Growth
import Graft.Proofs.Patch.Renames
import Mathlib

namespace Graft.Patch

set_option autoImplicit false

open Graft.Edit Graft.Regex Graft.Text

/-- Wherever the replacement is made, it makes the text longer. -/
def Replacement.Lengthens (r : Replacement) : Prop := ∀ {t : Text} {e : Edit}, e ∈ r.edits t → 0 < e.growth

/-! ## Replacements -/

theorem growth_overwrite (start width : Nat) (content : Text) :
    (Edit.overwrite start (start + width) content).growth = (content.length : Int) - width := by
  simp only [Edit.growth, Edit.content, Edit.start, Edit.stop]
  omega

/-- A literal lengthens by what its replacement is longer. -/
theorem literal_lengthens {r : Replacement} (kind : r.regex = false)
    (longer : r.pattern.length < r.replacement.length) : r.Lengthens := by
  intro t e member
  rw [literal_edits kind, Replacement.literalOccurrences, List.map_map] at member
  obtain ⟨p, -, rfl⟩ := List.mem_map.1 member
  have put : Edit.growth (.overwrite p (p + r.pattern.length) r.replacement) = _ := growth_overwrite _ _ _
  rw [Function.comp_apply, Occurrence.edit, Except.toOption, Option.getD_some, put]
  omega

/-- What the call around an icon adds is longer than what it takes the place of. -/
theorem cloneCall_long : arrowMark.length ≤ cloneCall.length := by decide

theorem statusIcons_lengthens : statusIcons.Lengthens := by
  intro t e member
  obtain ⟨i, j, status, rfl⟩ := statusIcons_edit member
  have within : j ≤ t.length := by
    obtain ⟨c, last, -⟩ := status.name (j - 1) (by have := status.some_; omega) (by have := status.some_; omega)
    have := (List.getElem?_eq_some_iff.1 last).1
    omega
  have after := status.some_
  have digits : i + (t.slice i (i + 3)).length = i + 3 := Text.slice_length (by omega) (by omega)
  have name : i + 11 + (t.slice (i + 11) j).length = j := Text.slice_length (by omega) within
  have arrow : arrowMark.length = 8 := rfl
  have long := cloneCall_long
  simp only [Edit.growth, Edit.content, Edit.start, Edit.stop, List.length_append, List.length_singleton]
  omega

theorem importedAs_longer (icon : Text) : (importLead icon).length < (importedAs icon).length := by
  have wider : "import ".toList.length + " from ".toList.length <
      "import _".toList.length + "_ from ".toList.length := by decide
  unfold importLead importedAs
  -- Unfolded literals are slow to compare; only their lengths matter.
  generalize "import ".toList = word, " from ".toList = source, "import _".toList = word',
    "_ from ".toList = source' at wider ⊢
  simp only [List.length_append]
  omega

theorem declaredAs_longer (icon : Text) : (declaration icon).length < (declaredAs icon).length := by
  have wider : "_default".toList.length < "_".toList.length + "_default_".toList.length := by decide
  unfold declaration declaredAs
  simp only [List.length_append]
  omega

section Icons

variable {c : Component} {icon : Text} (inIcons : icon ∈ c.icons)
include inIcons

theorem importRename_lengthens : (importRename icon).Lengthens := by
  intro t e member
  obtain ⟨p, quote, -, rfl, -⟩ := mem_importRename inIcons member
  have longer := importedAs_longer icon
  rw [growth_overwrite, renamedImport, importStatement, List.length_append, List.length_append]
  omega

theorem bundledRename_lengthens : (bundledRename icon).Lengthens := by
  intro t e member
  obtain ⟨p, rfl, -⟩ := mem_bundledRename inIcons member
  have longer := declaredAs_longer icon
  rw [growth_overwrite]
  omega

end Icons

/-! ## Descriptors -/

/-- All replacements of a descriptor, the renames of its insertions among them. -/
def Descriptor.allReplacements (d : Descriptor) : List Replacement :=
  d.replacements ++ d.insertions.flatMap (·.renames)

/-- An edit of a descriptor is one of a replacement, or puts in a template. -/
theorem Descriptor.mem_edits {d : Descriptor} {t : Text} {e : Edit} (member : e ∈ d.edits t) :
    (∃ r ∈ d.allReplacements, e ∈ r.edits t) ∨ ∃ i ∈ d.insertions, ∃ index, e = .insertion index i.template := by
  rcases List.mem_append.1 member with inReplacements | inInsertions
  · obtain ⟨r, inList, inEdits⟩ := List.mem_flatMap.1 inReplacements
    exact .inl ⟨r, List.mem_append_left _ inList, inEdits⟩
  · obtain ⟨i, inList, inEdits⟩ := List.mem_flatMap.1 inInsertions
    unfold Insertion.edits at inEdits
    split at inEdits
    · rcases List.mem_append.1 inEdits with renames | own
      · obtain ⟨r, inRenames, inEdits⟩ := List.mem_flatMap.1 renames
        exact .inl ⟨r, List.mem_append_right _ (List.mem_flatMap.2 ⟨i, inList, inRenames⟩), inEdits⟩
      · exact .inr ⟨i, inList, _, List.mem_singleton.1 own⟩
    · simp at inEdits

theorem allReplacements_lengthen {d : Descriptor} (shipped : d ∈ recipes) :
    ∀ r ∈ d.allReplacements, r.Lengthens := by
  intro r member
  rcases List.mem_cons.1 shipped with rfl | later
  · -- The wrapper has its head renamed; its insertion has no renames.
    obtain rfl : r = _ := List.mem_singleton.1 member
    exact literal_lengthens rfl (by decide)
  rcases List.mem_cons.1 later with rfl | own
  · rcases List.mem_append.1 member with statuses | renames
    · obtain rfl := List.mem_singleton.1 statuses
      exact statusIcons_lengthens
    · obtain ⟨i, inList, inRenames⟩ := List.mem_flatMap.1 renames
      obtain ⟨c, -, rfl⟩ := List.mem_map.1 inList
      obtain ⟨icon, inIcons, rfl⟩ := List.mem_map.1 inRenames
      exact bundledRename_lengthens inIcons
  · obtain ⟨c, -, rfl⟩ := List.mem_map.1 own
    rcases List.mem_append.1 member with statuses | renames
    · obtain rfl : r = statusIcons := by
        have := (List.mem_ite_nil_right.1 statuses).2
        exact List.mem_singleton.1 this
      exact statusIcons_lengthens
    · obtain ⟨i, inList, inRenames⟩ := List.mem_flatMap.1 renames
      obtain rfl := List.mem_singleton.1 (List.mem_ite_nil_left.1 inList).2
      obtain ⟨icon, inIcons, rfl⟩ := List.mem_map.1 inRenames
      exact importRename_lengthens inIcons

/-- **Every edit of a recipe makes the text longer.** -/
theorem recipe_edits_grow {d : Descriptor} (shipped : d ∈ recipes) {t : Text} {e : Edit} (member : e ∈ d.edits t) :
    0 < e.growth := by
  rcases Descriptor.mem_edits member with ⟨r, inList, inEdits⟩ | ⟨i, -, index, rfl⟩
  · exact allReplacements_lengthen shipped r inList inEdits
  · have checked := recipes_checked.1 d shipped
    simp only [Descriptor.checked, Bool.and_eq_true] at checked
    rcases Descriptor.edits_visible checked.1.2 member with overwrites | written
    · simp [Edit.isOverwrite] at overwrites
    · have positive := List.length_pos_iff.2 written
      simp only [Edit.growth, Edit.content, Edit.start, Edit.stop] at positive ⊢
      omega

end Graft.Patch
