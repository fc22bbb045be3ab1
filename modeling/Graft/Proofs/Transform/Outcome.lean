/-
# Graft.Proofs.Transform.Outcome -- what a transformation comes to

A file is either declined or comes back longer than it went in, and it depends on little which of the two it is
(`transform_outcome`):

* A session that skips declines every file.
* The first phase, and a run of all stages, take the files that a filter lets through and no others.  The text that
  comes back begins with the line that imports the helper.
* The second phase may decline more files, for it takes only those in which it changes something; what it takes the
  first phase takes too, so no patched text calls the helper without importing it.

That a buffer counts as changed says only that edits were made.  That the text has changed too is because every
edit of a recipe, and the line in front, make it longer.
-/
import Graft.Proofs.Patch.Growth
import Graft.Proofs.Transform.Phases
import Mathlib

namespace Graft.Session

set_option autoImplicit false

open Graft.Edit Graft.Patch

/-- The filter of a category lets the file through. -/
def Meant (s : Session) (file : Text) : Prop :=
  (s.filters.forCategory .replaceable).passes file = true ∨ (s.filters.forCategory .exportDefault).passes file = true

variable {s : Session} {file code : Text} {phase : Option Phase}

theorem meant_iff : s.Meant file ↔ s.filters.passesAny file = true := by
  rw [Meant, passesAny_eq, Bool.or_eq_true]

theorem skip_iff : s.skip = true ↔ s.gate.skip = true ∨ s.active = false := by
  rw [skip, Bool.or_eq_true, Bool.not_eq_true']

/-- A stage that concerns a file finds a filter that lets it through. -/
theorem Stage.concerns_meant {stage : Stage} (concerned : stage.concerns s file = true) :
    s.Meant file := by
  cases stage with
  | helper => exact meant_iff.2 concerned
  | category c =>
      cases c with
      | replaceable => exact .inl concerned
      | exportDefault => exact .inr concerned

/-! ## A patched file is longer -/

/-- Only the import of the helper is put in front of a file. -/
theorem planned_front {front : Text} (member : front ∈ (s.planned file code phase).intro) :
    front = s.helperImport := by
  have inStages : front ∈ (stagesOf phase).reverse.flatMap (·.front s file) ++ [] := member
  rw [List.append_nil] at inStages
  obtain ⟨stage, -, inStage⟩ := List.mem_flatMap.1 inStages
  cases stage with
  | helper => exact List.mem_singleton.1 (List.mem_ite_nil_right.1 inStage).2
  | category => exact absurd inStage List.not_mem_nil

theorem planned_edits_grow {e : Edit} (member : e ∈ (s.planned file code phase).edits) : 0 < e.growth := by
  obtain ⟨d, shipped, inEdits⟩ := mem_planned_edits member
  exact recipe_edits_grow shipped inEdits

/-- **What is planned makes the text longer, if it changes anything.** -/
theorem delta_planned (sound : (s.planned file code phase).Sound)
    (changed : (s.planned file code phase).hasChanged = true) :
    0 < (s.planned file code phase).positionMap.delta := by
  have fronts : ∀ front ∈ (s.planned file code phase).intro, front = s.helperImport :=
    fun front member => planned_front member
  have grow : ∀ g ∈ (s.planned file code phase).edits.map Edit.growth, 0 < g := by
    intro g member
    obtain ⟨e, inEdits, rfl⟩ := List.mem_map.1 member
    exact planned_edits_grow inEdits
  rw [Buffer.delta_sound sound]
  generalize s.planned file code phase = b at changed fronts grow ⊢
  have notNegative := List.sum_nonneg fun g member => Int.le_of_lt (grow g member)
  rcases Bool.or_eq_true_iff.1 changed with inFront | edited
  · -- The line that imports the helper is not empty.
    cases intro_ : b.intro with
    | nil => simp [intro_] at inFront
    | cons front rest =>
        have line := fronts front (by rw [intro_]; exact List.mem_cons_self)
        have some_ := List.length_pos_iff.2 (helperImport_ne_nil s)
        rw [List.flatten_cons, List.length_append, line]
        omega
  · obtain ⟨e, member, -⟩ := List.any_eq_true.1 edited
    have more := List.sum_pos _ grow (List.ne_nil_of_mem (List.mem_map_of_mem member))
    omega

/-- **A patched file is longer than it was**, by what its positions say. -/
theorem transform_grows {r : PatchResult} (ran : (s.transform file code phase).result = .ok (some r)) :
    r.positions.delta = (r.text.length : Int) - code.length ∧ 0 < r.positions.delta ∧ r.text ≠ code := by
  obtain ⟨-, -, sound, changed, rfl⟩ := transform_patches ran
  have grows := delta_planned sound changed
  have delta : (patched file (s.planned file code phase)).positions.delta =
      ((patched file (s.planned file code phase)).text.length : Int) - code.length := rfl
  refine ⟨delta, grows, ?_⟩
  intro same
  rw [same] at delta
  exact absurd (delta ▸ grows) (by simp)

/-! ## Which files are taken -/

/-- A file that any run patches is one that a filter lets through. -/
theorem meant_of_patched {r : PatchResult} (ran : (s.transform file code phase).result = .ok (some r)) :
    s.skip = false ∧ s.Meant file := by
  obtain ⟨engaged, concerned, -⟩ := transform_patches ran
  obtain ⟨stage, -, concerns⟩ := List.any_eq_true.1 concerned
  exact ⟨engaged, Stage.concerns_meant concerns⟩

/-- The first phase takes the files that a filter lets through, and puts the import in front. -/
theorem transform_first (engaged : s.skip = false) (file code : Text) :
    ∃ first, (s.transform file code (some .pre)).result = .ok first ∧ (first.isSome = true ↔ s.Meant file) ∧
      ∀ r, first = some r → r.text = s.helperImport ++ code := by
  by_cases passes : s.filters.passesAny file = true
  · have meant := meant_iff.2 passes
    refine ⟨_, transform_pre engaged passes code, by simpa using meant, ?_⟩
    rintro r ⟨⟩
    exact (put_nil (helperImport_ne_nil s)).1
  · have unmeant : ¬ s.Meant file := fun meant => passes (meant_iff.1 meant)
    refine ⟨none, transform_idle (.inr (Bool.eq_false_iff.2 passes)) code _, by simpa using unmeant, ?_⟩
    intro r none_
    cases none_

/-- The full run takes the same files, and puts the import in front too. -/
theorem transform_whole (engaged : s.skip = false) {whole : Option PatchResult}
    (ran : (s.transform file code none).result = .ok whole) :
    (whole.isSome = true ↔ s.Meant file) ∧ ∀ r, whole = some r → s.helperImport <+: r.text := by
  by_cases passes : s.filters.passesAny file = true
  · have meant := meant_iff.2 passes
    rcases transform_concerned engaged (concerns_whole passes) (planned_whole passes code) with
      ⟨-, result⟩ | ⟨-, fault, result⟩
    · rw [result, reached, if_pos (put_changed _ _ _)] at ran
      obtain rfl := Except.ok.inj ran
      refine ⟨by simpa using meant, ?_⟩
      rintro r ⟨⟩
      rw [patched, Buffer.toText, Buffer.put_pieces (helperImport_ne_nil s), List.flatMap_cons]
      exact List.prefix_append _ _
    · rw [result] at ran
      cases ran
  · have unmeant : ¬ s.Meant file := fun meant => passes (meant_iff.1 meant)
    have idle := transform_idle (.inr (Bool.eq_false_iff.2 passes)) (s := s) code none
    obtain rfl := Except.ok.inj (idle.symm.trans ran)
    refine ⟨by simpa using unmeant, ?_⟩
    intro r none_
    cases none_

/-- **What a transformation comes to.** -/
theorem transform_outcome (s : Session) (file code : Text) :
    (s.gate.skip = true ∨ s.active = false → ∀ phase, (s.transform file code phase).result = .ok none) ∧
    (s.gate.skip = false → s.active = true →
      (∃ first, (s.transform file code (some .pre)).result = .ok first ∧ (first.isSome = true ↔ s.Meant file) ∧
        ∀ r, first = some r → r.text = s.helperImport ++ code) ∧
      ∀ whole, (s.transform file code none).result = .ok whole →
        (whole.isSome = true ↔ s.Meant file) ∧ ∀ r, whole = some r → s.helperImport <+: r.text) ∧
    (∀ second, (s.transform file code (some .post)).result = .ok (some second) →
      ∀ code', ∃ first, (s.transform file code' (some .pre)).result = .ok (some first)) ∧
    ∀ phase r, (s.transform file code phase).result = .ok (some r) →
      r.positions.delta = (r.text.length : Int) - code.length ∧ 0 < r.positions.delta ∧ r.text ≠ code := by
  refine ⟨?_, ?_, ?_, ?_⟩
  · intro skips phase
    exact transform_idle (.inl (skip_iff.2 skips)) code phase
  · intro open_ active
    have engaged : s.skip = false := by simp [skip, open_, active]
    exact ⟨transform_first engaged file code, fun whole ran => transform_whole engaged ran⟩
  · intro second ran code'
    obtain ⟨engaged, meant⟩ := meant_of_patched ran
    exact ⟨_, transform_pre engaged (meant_iff.1 meant) code'⟩
  · intro phase r ran
    exact transform_grows ran

end Graft.Session
