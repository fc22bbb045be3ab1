/-
# Graft.Proofs.Patch.Nesting -- recipes keep the nesting of braces

No recipe writes a brace, none replaces one, and insertions go just behind an opening one.  That none replaces a
brace is read off the patterns: none of their tests passes one.
-/
import Graft.Proofs.Edit.Nesting
import Graft.Proofs.Patch.Recipes
import Graft.Proofs.Regex.Absent

namespace Graft.Patch

set_option autoImplicit false

open Graft.Edit Graft.Regex Graft.Text

/-- The replacement neither finds nor writes the character. -/
def Replacement.avoids (c : Char) (r : Replacement) : Bool :=
  if r.regex then
    match Regex.compile {} r.pattern with
    | .ok regex =>
      regex.isSteady && regex.pattern.avoids c &&
        match TemplatePart.read regex r.replacement with
        | .ok parts => parts.all (·.avoids c)
        | .error _ => false
    | .error _ => false
  else !r.pattern.contains c && !r.replacement.contains c

theorem not_mem_of_contains {c : Char} {t : Text} (lacks : (!t.contains c) = true) : c ∉ t := by
  simpa using lacks

theorem Replacement.edits_avoid {r : Replacement} {c : Char} (avoids : r.avoids c = true)
    (some_ : r.regex = false → r.pattern ≠ []) {t : Text} {e : Edit} (member : e ∈ r.edits t) :
    e.isOverwrite = true ∧ c ∉ e.content ∧ c ∉ t.slice e.start e.stop := by
  unfold Replacement.avoids at avoids
  cases kind : r.regex with
  | true =>
      simp only [kind, if_true] at avoids
      split at avoids
      · rename_i regex compiled
        simp only [Bool.and_eq_true] at avoids
        obtain ⟨m, moving, found, rfl⟩ := mem_regex_edits kind compiled avoids.1.1 member
        obtain ⟨own, groups⟩ := matchAt?_avoids avoids.1.1 avoids.1.2 found
        refine ⟨rfl, ?_, own⟩
        cases expanded : expandTemplate regex r.replacement t m with
        | error fault => simp [Edit.content, Except.toOption]
        | ok content =>
            have clean : c ∉ content := by
              refine expandTemplate_avoids (fun parts read => ?_) own groups expanded
              simpa [read] using avoids.2
            simpa [Edit.content, Except.toOption] using clean
      · simp at avoids
  | false =>
      simp only [kind, Bool.false_eq_true, if_false, Bool.and_eq_true] at avoids
      rw [literal_edits kind, Replacement.literalOccurrences, List.map_map] at member
      obtain ⟨p, inList, rfl⟩ := List.mem_map.1 member
      have stands := standsAt_of_mem_occurrences (some_ kind) ((limited_sublist _ _).subset inList)
      refine ⟨rfl, not_mem_of_contains avoids.2, ?_⟩
      change c ∉ t.slice p (p + r.pattern.length)
      rw [slice_of_standsAt stands]
      exact not_mem_of_contains avoids.1

/-! ## Braces -/

/-- The replacement neither finds nor writes a brace. -/
def Replacement.keepsBraces (r : Replacement) : Bool :=
  r.avoids '{' && r.avoids '}' && (r.regex || !r.pattern.isEmpty)

/-- The insertion writes no brace and goes behind an opening one; so for its renames. -/
def Insertion.keepsBraces (i : Insertion) : Bool :=
  i.behindBrace && i.renames.all (·.keepsBraces) && !i.template.contains '{' && !i.template.contains '}'

def Descriptor.keepsBraces (d : Descriptor) : Bool :=
  d.replacements.all (·.keepsBraces) && d.insertions.all (·.keepsBraces)

theorem recipes_keepBraces : ∀ d ∈ recipes, d.keepsBraces = true := by
  decide +kernel

theorem plain_of_not_mem {t : Text} (noOpening : '{' ∉ t) (noClosing : '}' ∉ t) : Delimiters.braces.Plain t := by
  intro c member
  constructor
  · rintro same
    exact noOpening (Option.some.inj same ▸ member)
  · rintro same
    exact noClosing (Option.some.inj same ▸ member)

theorem Replacement.edits_level {r : Replacement} (keeps : r.keepsBraces = true) {t : Text} {e : Edit}
    (member : e ∈ r.edits t) : e.Level .braces t := by
  simp only [Replacement.keepsBraces, Bool.and_eq_true, Bool.or_eq_true] at keeps
  obtain ⟨⟨opening, closing⟩, some_⟩ := keeps
  have solid : r.regex = false → r.pattern ≠ [] := fun kind => by simpa [kind] using some_
  obtain ⟨overwrites, content, replaced⟩ := Replacement.edits_avoid opening solid member
  obtain ⟨-, content', replaced'⟩ := Replacement.edits_avoid closing solid member
  exact ⟨plain_of_not_mem content content', plain_of_not_mem replaced replaced',
    fun inserts => by simp [overwrites] at inserts⟩

theorem Insertion.edits_level {i : Insertion} (keeps : i.keepsBraces = true) {t : Text} {e : Edit}
    (member : e ∈ i.edits t) : e.Level .braces t := by
  simp only [Insertion.keepsBraces, Bool.and_eq_true] at keeps
  obtain ⟨⟨⟨brace, renames⟩, noOpening⟩, noClosing⟩ := keeps
  obtain ⟨index, -, ⟨r, inList, inEdits⟩ | ⟨rfl, k, content, same, opens⟩⟩ := mem_insertion_edits brace member
  · exact Replacement.edits_level (List.all_eq_true.1 renames r inList) inEdits
  · refine ⟨plain_of_not_mem (not_mem_of_contains noOpening) (not_mem_of_contains noClosing), ?_, ?_⟩
    · rw [show t.slice (Edit.insertion index i.template).start (Edit.insertion index i.template).stop = [] by
        simp [Text.slice, Edit.start, Edit.stop]]
      exact fun c none_ => absurd none_ (List.not_mem_nil)
    · intro _ k' c before at_ closes
      obtain ⟨rfl, -⟩ : index = k + 1 ∧ i.template = content := by simpa using same
      obtain rfl : k = k' := by simpa [Edit.start] using before
      rw [opens] at at_
      obtain rfl := Option.some.inj at_
      exact absurd closes (by decide)

theorem recipe_edits_level {d : Descriptor} (shipped : d ∈ recipes) {t : Text} {e : Edit}
    (member : e ∈ d.edits t) : e.Level .braces t := by
  have keeps := recipes_keepBraces d shipped
  simp only [Descriptor.keepsBraces, Bool.and_eq_true, List.all_eq_true] at keeps
  rcases List.mem_append.1 member with replacements | insertions
  · obtain ⟨r, inList, inEdits⟩ := List.mem_flatMap.1 replacements
    exact Replacement.edits_level (keeps.1 r inList) inEdits
  · obtain ⟨i, inList, inEdits⟩ := List.mem_flatMap.1 insertions
    exact Insertion.edits_level (keeps.2 i inList) inEdits

end Graft.Patch
