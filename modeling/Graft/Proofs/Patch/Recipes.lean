/-
# Graft.Proofs.Patch.Recipes -- what holds of the recipes that are shipped

The proofs about descriptors ask for facts that depend on nothing but the data: that patterns can be read, that
none of them can begin in the line that imports the helper, that insertions go behind an opening brace.  For the
recipes these facts are computed here, once for all of them.
-/
import Graft.Proofs.Patch.Shift
import Graft.Proofs.Patch.Targets

namespace Graft.Patch

set_option autoImplicit false

open Graft.Edit Graft.Regex Graft.Text

theorem mem_all (c : Component) : c ∈ Component.all := by cases c <;> decide

/-- All recipes. -/
def recipes : List Descriptor := replaceableRecipe :: bundleRecipe :: Component.all.map buildRecipe

theorem buildRecipe_mem (c : Component) : buildRecipe c ∈ recipes :=
  List.mem_cons_of_mem _ (List.mem_cons_of_mem _ (List.mem_map_of_mem (mem_all c)))

/-- A descriptor that is selected is one of them. -/
theorem mem_recipes {mode : Mode} {category : Category} {file : Text} {d : Descriptor}
    (selected : (selectDescriptor mode category file).result = some d) : d ∈ recipes := by
  unfold selectDescriptor at selected
  split at selected
  · obtain rfl := Option.some.inj selected
    exact List.mem_cons_self
  · obtain rfl := Option.some.inj selected
    exact List.mem_cons_of_mem _ List.mem_cons_self
  · split at selected
    · rename_i c _
      obtain rfl := Option.some.inj selected
      exact List.mem_cons_of_mem _ (List.mem_cons_of_mem _ (List.mem_map_of_mem (mem_all c)))
    · simp at selected

/-- How the line that imports the helper begins. -/
def importHead : Text := "import ".toList ++ Helper.importName ++ " from '".toList

/-- The descriptor can be read, can be moved behind the line that imports the helper, and inserts behind
braces. -/
def Descriptor.checked (d : Descriptor) : Bool :=
  d.reads && d.movable importHead && d.insertions.all (·.behindBrace)

/-- **All recipes pass, and those patterns that may meet are what they seem.** -/
theorem recipes_checked : (∀ d ∈ recipes, d.checked = true) ∧
    (∀ c ∈ Component.all, (bundledInsertion c).behindBrace = true) ∧
    Regex.compile {} statusIcons.pattern = .ok statusRegex ∧
    (∀ c ∈ Component.all, ∀ icon ∈ c.icons,
      Regex.compile {} (bundledRename icon).pattern = .ok (declarationRegex icon) ∧
        Regex.compile {} (importRename icon).pattern = .ok (importRegex icon)) ∧
    ∀ i ∈ replaceableRecipe.insertions, Regex.compile {} i.anchor = .ok wrapperAnchor := by
  decide +kernel

section Recipe

variable {d : Descriptor} (recipe : d ∈ recipes)
include recipe

theorem recipe_reads : d.reads = true := by
  have passes := recipes_checked.1 d recipe
  simp only [Descriptor.checked, Bool.and_eq_true] at passes
  exact passes.1.1

theorem recipe_movable : d.movable importHead = true := by
  have passes := recipes_checked.1 d recipe
  simp only [Descriptor.checked, Bool.and_eq_true] at passes
  exact passes.1.2

theorem recipe_behindBrace {i : Insertion} (member : i ∈ d.insertions) : i.behindBrace = true := by
  have passes := recipes_checked.1 d recipe
  simp only [Descriptor.checked, Bool.and_eq_true, List.all_eq_true] at passes
  exact passes.2 i member

end Recipe

section Selected

variable {mode : Mode} {category : Category} {file : Text} {d : Descriptor}
variable (selected : (selectDescriptor mode category file).result = some d)
include selected

theorem selectDescriptor_reads : d.reads = true := recipe_reads (mem_recipes selected)

theorem selectDescriptor_movable : d.movable importHead = true := recipe_movable (mem_recipes selected)

end Selected

/-! ## What the recipes of a bundle aim at -/

theorem compile_statusIcons : Regex.compile {} statusIcons.pattern = .ok statusRegex := recipes_checked.2.2.1

theorem compile_bundledRename (c : Component) {icon : Text} (inIcons : icon ∈ c.icons) :
    Regex.compile {} (bundledRename icon).pattern = .ok (declarationRegex icon) :=
  (recipes_checked.2.2.2.1 c (mem_all c) icon inIcons).1

theorem compile_importRename (c : Component) {icon : Text} (inIcons : icon ∈ c.icons) :
    Regex.compile {} (importRename icon).pattern = .ok (importRegex icon) :=
  (recipes_checked.2.2.2.1 c (mem_all c) icon inIcons).2

theorem compile_wrapperAnchor {i : Insertion} (member : i ∈ replaceableRecipe.insertions) :
    Regex.compile {} i.anchor = .ok wrapperAnchor :=
  recipes_checked.2.2.2.2 i member

theorem replacesStatus_of_mem {t : Text} {e : Edit}
    (member : e ∈ statusIcons.edits t) : ReplacesStatus t e := by
  obtain ⟨m, moving, found, rfl⟩ := mem_regex_edits rfl compile_statusIcons isSteady_statusRegex member
  exact ⟨_, _, _, rfl, statusAt_of_match found⟩

theorem replaces_declaration {c : Component} {icon : Text} (inIcons : icon ∈ c.icons) {t : Text} {e : Edit}
    (member : e ∈ (bundledRename icon).edits t) : Replaces t (declaration icon) e := by
  obtain ⟨m, moving, found, rfl⟩ := mem_regex_edits rfl (compile_bundledRename c inIcons)
    (isSteady_declarationRegex icon) member
  have lead : (declarationRegex icon).pattern.lead = ⟨(declaration icon).map .only, true⟩ := by
    simp [declarationRegex, Pattern.lead, lead_literal, Lead.followedBy]
  have fits := matchAt?_lead (isSteady_declarationRegex icon) found
  rw [lead] at fits
  rw [fits.whole rfl, List.length_map]
  exact ⟨m.span.start, _, rfl, standsAt_of_fits fits (List.prefix_refl _)⟩

theorem bundled_behindBrace (c : Component) : (bundledInsertion c).behindBrace = true :=
  recipes_checked.2.1 c (mem_all c)

theorem wrapper_behindBrace {i : Insertion} (member : i ∈ replaceableRecipe.insertions) :
    i.behindBrace = true ∧ i.renames = [] := by
  refine ⟨recipe_behindBrace List.mem_cons_self member, ?_⟩
  obtain rfl := List.mem_singleton.1 member
  rfl

end Graft.Patch
