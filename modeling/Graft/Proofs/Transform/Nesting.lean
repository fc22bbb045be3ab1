/-
# Graft.Proofs.Transform.Nesting -- patched files nest as before

A transformation makes only edits of shipped recipes, and these keep the nesting of braces.  So from any offset of
the code the brace that closes the body is found again in the patched text, where the position map carries it, and
where the code has none the patched text has none (`findClose_transform`).  What is put in front of a file plays no
part, whatever the prefix of the overlay is: no offset of the code is carried into it.
-/
import Graft.Proofs.Patch.Nesting
import Graft.Proofs.Transform.Plan

namespace Graft.Session

set_option autoImplicit false

open Graft.Edit Graft.Patch

variable {s : Session} {file code : Text} {phase : Option Phase}

/-- **A patched file nests as its code does.** -/
theorem findClose_transform {r : PatchResult} (ran : (s.transform file code phase).result = .ok (some r)) {i : Nat}
    (within : i ≤ code.length) :
    ∃ g, r.positions.toOutput i = .ok g ∧
      match Delimiters.braces.findClose code i with
      | none => Delimiters.braces.findClose r.text g = none
      | some stop => ∃ g', r.positions.toOutput stop = .ok g' ∧ Delimiters.braces.findClose r.text g = some g' := by
  obtain ⟨sound, rfl⟩ := patched_as_planned ran
  have level : ∀ e ∈ (s.planned file code phase).edits, e.Level .braces code := by
    intro e member
    obtain ⟨d, shipped, inEdits⟩ := mem_planned_edits member
    exact recipe_edits_level shipped inEdits
  exact Buffer.findClose_toText sound level within

/-- The wrapper of a bundle, whose head is renamed and whose innermost body takes an insertion. -/
def wrapperCode : Text := "function replaceable(name, icon) \x7b return \x7b setup() \x7b \x7d \x7d \x7d".toList

theorem wrapperCode_patched :
    ∃ r, (devServer.transform "/p/.vite/deps/naive-ui.js".toList wrapperCode none).result = .ok (some r) := by
  have patched_ :
      (devServer.transform "/p/.vite/deps/naive-ui.js".toList wrapperCode none).result.toOption.join.isSome = true := by
    decide +kernel
  generalize (devServer.transform "/p/.vite/deps/naive-ui.js".toList wrapperCode none).result = result at patched_ ⊢
  rcases result with fault | _ | r
  · simp [Except.toOption] at patched_
  · simp [Except.toOption] at patched_
  · exact ⟨r, rfl⟩

theorem findClose_transform_wrapperCode :
    34 ≤ wrapperCode.length ∧
      ∃ r, (devServer.transform "/p/.vite/deps/naive-ui.js".toList wrapperCode none).result = .ok (some r) ∧
        ∃ g, r.positions.toOutput (34 : Nat) = .ok g ∧
          match Delimiters.braces.findClose wrapperCode (34 : Nat) with
          | none => Delimiters.braces.findClose r.text g = none
          | some stop =>
            ∃ g', r.positions.toOutput stop = .ok g' ∧ Delimiters.braces.findClose r.text g = some g' := by
  obtain ⟨r, ran⟩ := wrapperCode_patched
  have within : 34 ≤ wrapperCode.length := by decide
  exact ⟨within, r, ran, findClose_transform ran within⟩

end Graft.Session
