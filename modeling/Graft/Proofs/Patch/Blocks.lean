/-
# Graft.Proofs.Patch.Blocks -- what an insertion goes into

The body that an anchor opens is searched with its closing brace, and the inner anchor may match anything in it.  That
an insertion does not end up behind the body is due to the recipes: they insert just behind an opening brace, which
the last character of a body is not.  The block that this brace opens lies in the body and so is closed in it
(`insertionPoint_nested`).
-/
import Graft.Proofs.Delimiter
import Graft.Proofs.Patch.Recipes

namespace Graft.Patch

set_option autoImplicit false

open Graft.Edit Graft.Regex Graft.Text

variable {t : Text} {index : Nat} {i : Insertion}

/-- An insertion goes into a body that its anchor opens. -/
theorem insertionPoint_inside {anchor : Regex} (compiled : Regex.compile {} i.anchor = .ok anchor)
    (found : insertionPoint t i = .ok (some index)) :
    ∃ m stop, search anchor t = some m ∧ Delimiters.braces.findClose t m.span.stop = some stop ∧
      m.span.stop ≤ index ∧ index ≤ stop := by
  obtain ⟨anchor', inner, m, stop, n, compiled', -, searched, closes, inBody, rfl⟩ := insertionPoint_found found
  obtain rfl := Except.ok.inj (compiled'.symm.trans compiled)
  obtain ⟨from_, before, moving, at_⟩ := searchFrom_some inBody
  have order := (searchFrom_order inBody).2
  have within := (matchAt?_onward at_).2.within (by
    simp only [List.size_toArray]
    omega)
  have after := (Delimiters.findClose_bounds closes).1
  simp only [List.size_toArray, slice, List.length_take] at within
  refine ⟨m, stop, searched, closes, Nat.le_add_right _ _, ?_⟩
  split <;> omega

/-! ## Anchors that open a body -/

/-- The pattern is steady, and the last character of a match is an opening brace: by its last test, or since its tests
are all that it reads. -/
def opensBody (anchor : Regex) : Bool :=
  anchor.isSteady && (anchor.pattern.trail = some (.only '{') ||
    (anchor.pattern.lead.whole && anchor.pattern.lead.tests.getLast? = some (.only '{')))

theorem opensBody_match {anchor : Regex} (opens : opensBody anchor = true) {start : Nat} {moving : Bool} {m : Match}
    (found : matchAt? anchor t.toArray start moving = some m) : t[m.span.stop - 1]? = some '{' := by
  simp only [opensBody, Bool.or_eq_true, Bool.and_eq_true, decide_eq_true_eq] at opens
  obtain ⟨steady, ends | ⟨whole, last⟩⟩ := opens
  · exact passes_only.1 ((matchAt?_way steady found).2.trail ends).2
  · have fits := matchAt?_lead steady found
    have some_ : 0 < anchor.pattern.lead.tests.length :=
      List.length_pos_iff.2 (List.ne_nil_of_mem (List.mem_of_getLast? last))
    rw [List.getLast?_eq_getElem?] at last
    have here := passes_only.1 (fits.passed _ _ last)
    rwa [fits.whole whole, show start + anchor.pattern.lead.tests.length - 1 =
      start + (anchor.pattern.lead.tests.length - 1) by omega]

/-- **The anchors of all recipes open bodies.** -/
theorem anchors_checked : ∀ d ∈ recipes, ∀ i ∈ d.insertions,
    (Regex.compile {} i.anchor).toOption.any opensBody = true := by
  decide +kernel

/-! ## Insertions in blocks -/

/-- Just before the offset a brace opens a block, and so does one before `start`; the block is closed before the body
from `start` on is. -/
structure InBlock (t : Text) (start stop index : Nat) : Prop where
  body : t[start - 1]? = some '{' ∧ Delimiters.braces.findClose t start = some stop
  after : start < index
  before : index < stop
  opens : t[index - 1]? = some '{'
  closes : ∃ close, Delimiters.braces.findClose t index = some close ∧ close < stop

/-- An opening brace in a body opens a block there. -/
theorem inBlock_of_brace {start stop : Nat} (body : t[start - 1]? = some '{')
    (closes : Delimiters.braces.findClose t start = some stop) (after : start < index) (upTo : index ≤ stop)
    (opens : t[index - 1]? = some '{') : InBlock t start stop index := by
  -- The body ends with a closing brace, so the opening one is not its last character.
  have before : index < stop := by
    refine Nat.lt_of_le_of_ne upTo ?_
    rintro rfl
    obtain ⟨c, last, closing⟩ := Delimiters.findClose_closing closes
    obtain rfl := Option.some.inj (last.symm.trans opens)
    exact absurd closing (by decide)
  refine ⟨⟨body, closes⟩, after, before, opens, ?_⟩
  have block := Delimiters.findClose_block closes (k := index - 1) (by omega) (by omega) opens rfl
  rwa [show index - 1 + 1 = index by omega] at block

/-- **Recipes insert at the start of a block in the body of their anchor.**  The body begins behind the leftmost match
of the anchor, and the block is closed in it. -/
theorem insertionPoint_nested {d : Descriptor} (shipped : d ∈ recipes) (member : i ∈ d.insertions)
    (found : insertionPoint t i = .ok (some index)) :
    ∃ anchor m stop, Regex.compile {} i.anchor = .ok anchor ∧ search anchor t = some m ∧
      (∀ k < m.span.start, matchAt? anchor t.toArray k false = none) ∧ InBlock t m.span.stop stop index := by
  have brace := recipe_behindBrace shipped member
  obtain ⟨anchor, inner, m, stop, n, compiled, inner_, searched, closes, inBody, place⟩ := insertionPoint_found found
  obtain ⟨m', stop', searched', closes', -, upTo⟩ := insertionPoint_inside compiled found
  obtain rfl := Option.some.inj (searched.symm.trans searched')
  obtain rfl := Option.some.inj (closes.symm.trans closes')
  have opensBody_ : opensBody anchor = true := by
    have checked := anchors_checked d shipped i member
    rwa [compiled] at checked
  obtain ⟨moving, at_⟩ := matchAt?_of_search searched
  obtain ⟨k, content, same, opens⟩ := followsBrace_of_insertionPoint brace found i.template
  obtain ⟨rfl, -⟩ := Edit.insertion.inj same
  -- The brace is one of the characters that the inner anchor matches, and these stand in the body.
  have after : m.span.stop < k + 1 := by
    simp only [Insertion.behindBrace, inner_, Bool.and_eq_true, decide_eq_true_eq] at brace
    obtain ⟨moving', at_'⟩ := matchAt?_of_search inBody
    have moves := ((matchAt?_way brace.2.1 at_').2.trail brace.2.2).1
    rw [brace.1, if_neg (by decide)] at place
    simp only [startState] at moves
    omega
  exact ⟨anchor, m, stop, compiled, searched, fun k before => search_first searched before,
    inBlock_of_brace (opensBody_match opensBody_ at_) closes after upTo opens⟩

/-- A component of a bundle, whose anchor looks ahead for its name. -/
def bundledRate : Text := "defineComponent(\x7b name: \"Rate\", render () \x7b return \x7b\x7d; \x7d \x7d)".toList

theorem insertionPoint_nested_bundledRate :
    bundleRecipe ∈ recipes ∧ bundledInsertion .rate ∈ bundleRecipe.insertions ∧
      insertionPoint bundledRate (bundledInsertion .rate) = .ok (some 43) ∧
      ∃ anchor m stop, Regex.compile {} (bundledInsertion .rate).anchor = .ok anchor ∧
        search anchor bundledRate = some m ∧
        (∀ k < m.span.start, matchAt? anchor bundledRate.toArray k false = none) ∧
        InBlock bundledRate m.span.stop stop 43 := by
  have shipped : bundleRecipe ∈ recipes := List.mem_cons_of_mem _ List.mem_cons_self
  have member : bundledInsertion .rate ∈ bundleRecipe.insertions :=
    List.mem_map_of_mem (by decide)
  have found : insertionPoint bundledRate (bundledInsertion .rate) = .ok (some 43) := by decide +kernel
  exact ⟨shipped, member, found, insertionPoint_nested shipped member found⟩

end Graft.Patch
