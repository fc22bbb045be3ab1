/-
# Graft.Proofs.Patch.Order -- what an insertion that was made shows

Whether a descriptor is carried out or fails on the way, it has made the first few of the edits that it asks
for, in order (`applied_reaches`).  Replacements come before insertions, and the renames of an insertion before the
insertion itself.  So an edit that was made shows that everything ahead of it was made: the replacements of the
descriptor, and the renames of an insertion (`made_before_insertion`).

Nothing is asked of the descriptor here, neither that it can be read nor that its edits fit beside each other.
-/
import Graft.Proofs.Patch.Course
import Graft.Proofs.Patch.Targets

namespace Graft.Patch

set_option autoImplicit false

open Graft.Edit

/-! ## What an insertion shows -/

variable {t : Text} {made : List Edit} {d : Descriptor} {i : Insertion} {index : Nat} {e : Edit}

/-- A member of a prefix brings everything ahead of it along. -/
theorem prefix_of_mem {α : Type} {xs front back : List α} {x : α} (upTo : xs <+: front ++ x :: back)
    (member : x ∈ xs) (later : x ∉ front) : front ++ [x] <+: xs := by
  rcases List.prefix_or_prefix_of_prefix (List.prefix_append_right_inj front |>.2
    (List.prefix_append [x] back)) upTo with ahead | short
  · exact ahead
  · rcases List.prefix_concat_iff.1 short with rfl | shorter
    · exact List.prefix_refl _
    · exact absurd (shorter.subset member) later

theorem insertion_not_mem {rs : List Replacement} {content : Text} :
    .insertion index content ∉ rs.flatMap (·.edits t) := by
  intro member
  obtain ⟨r, -, inEdits⟩ := List.mem_flatMap.1 member
  exact Bool.false_ne_true (r.isOverwrite_of_mem inEdits)

/-- The edit that puts in the template of an insertion comes last among the edits of that insertion. -/
theorem insertion_mem_edits {content : Text} (member : .insertion index content ∈ i.edits t) :
    content = i.template ∧ insertionPoint t i = .ok (some index) ∧
      i.edits t = i.renames.flatMap (·.edits t) ++ [.insertion index content] := by
  unfold Insertion.edits at member ⊢
  split at member
  · rename_i k found
    rcases List.mem_append.1 member with renames | own
    · exact absurd renames insertion_not_mem
    · obtain ⟨rfl, rfl⟩ := Edit.insertion.inj (List.mem_singleton.1 own)
      simp [found]
  · simp at member

/-- **An insertion that was made comes after all replacements and after its own renames**, if no other insertion
has the same template. -/
theorem made_before_insertion (upTo : made <+: d.edits t) (inList : i ∈ d.insertions)
    (own : ∀ i' ∈ d.insertions, i'.template = i.template → i' = i)
    (inserted : .insertion index i.template ∈ made) :
    insertionPoint t i = .ok (some index) ∧ (∀ r ∈ d.replacements, ∀ e ∈ r.edits t, e ∈ made) ∧
      ∀ r ∈ i.renames, ∀ e ∈ r.edits t, e ∈ made := by
  -- The insertion stands in the edits of `i` and of no insertion listed before.
  obtain ⟨i', inList', inEdits⟩ : ∃ i' ∈ d.insertions, .insertion index i.template ∈ i'.edits t := by
    rcases List.mem_append.1 (upTo.subset inserted) with replaced | inInsertions
    · exact absurd replaced insertion_not_mem
    · exact List.mem_flatMap.1 inInsertions
  obtain rfl := own i' inList' (insertion_mem_edits inEdits).1.symm
  obtain ⟨-, found, edits⟩ := insertion_mem_edits inEdits
  obtain ⟨earlier, others, insertions, fresh⟩ := List.eq_append_cons_of_mem inList
  have split_ : d.edits t =
      (d.replacements.flatMap (·.edits t) ++ earlier.flatMap (·.edits t) ++ i'.renames.flatMap (·.edits t)) ++
        .insertion index i'.template :: others.flatMap (·.edits t) := by
    rw [Descriptor.edits, insertions, List.flatMap_append, List.flatMap_cons, edits]
    simp only [List.append_assoc, List.singleton_append]
  have later : .insertion index i'.template ∉
      d.replacements.flatMap (·.edits t) ++ earlier.flatMap (·.edits t) ++ i'.renames.flatMap (·.edits t) := by
    intro member
    rcases List.mem_append.1 member with front | renames
    · rcases List.mem_append.1 front with replaced | before
      · exact insertion_not_mem replaced
      · obtain ⟨x, inEarlier, inEdits'⟩ := List.mem_flatMap.1 before
        have same := own x (by rw [insertions]; exact List.mem_append_left _ inEarlier)
          (insertion_mem_edits inEdits').1.symm
        exact fresh (same ▸ inEarlier)
    · exact insertion_not_mem renames
  rw [split_] at upTo
  have ahead := (prefix_of_mem upTo inserted later).subset
  refine ⟨found, fun r inReplacements e member => ?_, fun r inRenames e member => ?_⟩
  · exact ahead (List.mem_append_left _ (List.mem_append_left _ (List.mem_append_left _
      (List.mem_flatMap.2 ⟨r, inReplacements, member⟩))))
  · exact ahead (List.mem_append_left _ (List.mem_append_right _ (List.mem_flatMap.2 ⟨r, inRenames, member⟩)))

end Graft.Patch
