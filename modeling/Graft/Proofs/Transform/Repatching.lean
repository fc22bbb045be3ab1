/-
# Graft.Proofs.Transform.Repatching -- running a recipe on its own output

The recipe of a component's module looks for the head of the module, the body that this opens, and in the body the
head of `render` (`RenderPlace`).  Its own edits leave all three where they are.  What they put in ends in a semicolon
or a quotation mark and has no brace, while either head ends in a brace and has neither of these marks; so none of
the heads owes a character to an edit, and none is lost in a statement that is renamed.  A head that is found in the
output was there before, and which one is the first does not change (`firstIn_carried`).

So a second run finds the same body and the same brace, and puts the template there again, directly before the first
copy (`buildRecipe_again`).
-/
import Graft.Proofs.Edit.Carried
import Graft.Proofs.Patch.Nesting
import Graft.Proofs.Transform.Heads
import Graft.Proofs.Transform.Modules

namespace Graft.Session

set_option autoImplicit false

open Graft.Edit Graft.Edit.Buffer Graft.Patch Graft.Regex Graft.Text

/-! ## The first of some words -/

/-- **The first of some words stays the first** in a part of the text, if no edit touches it, and none puts in what
can meet a word. -/
theorem firstIn_carried {b : Buffer} (sound : b.Sound) (bare : b.intro = []) {words : Text → Prop}
    (some_ : ∀ w, words w → w ≠ []) (differ : ∀ e ∈ b.edits, ∀ w, words w → EndsApart e.content w)
    {w : Text} {start stop i start' stop' i' : Nat} (first : FirstIn words b.base start stop w i)
    (within : stop ≤ b.base.length) (spares : ∀ e ∈ b.edits, Spares i w.length e)
    (begins : b.positionMap.toOutput start = .ok start') (ends : b.positionMap.toOutput stop = .ok stop')
    (here : b.positionMap.toOutput i = .ok i') : FirstIn words b.toText start' stop' w i' := by
  have solid := some_ w first.word
  have inText := first.stands.within solid
  have startWithin : start ≤ b.base.length := by
    have := first.from_
    omega
  refine ⟨first.word, ?_, ?_, standsAt_of_spares sound first.stands spares here, ?_⟩
  · exact (from_iff_carried sound solid first.stands spares here startWithin begins).1 first.from_
  · exact (upTo_iff_carried sound solid first.stands spares here within ends).1 first.upTo
  · intro k' v from_ early word upTo stands
    -- The word stood in the text before, and so not in front of the first.
    obtain ⟨k, at_, stands', untouched⟩ :=
      (standsAt_toText_iff sound bare (some_ v word) fun e member => differ e member v word).1 stands
    have before : k < i := by
      by_contra late
      have := stands'.within (some_ v word)
      have := toOutput_mono sound (Nat.le_of_not_lt late) (by omega) here at_
      omega
    exact first.least k v ((from_iff_carried sound (some_ v word) stands' untouched at_ startWithin begins).2 from_)
      before word ((upTo_iff_carried sound (some_ v word) stands' untouched at_ within ends).2 upTo) stands'

/-! ## Where a module is patched -/

/-- How the head of a module is written. -/
def moduleHead : Text := "export default defineComponent(".toList ++ ['{']

/-- The place of a module's insertion: the head of the module stands at `a`, its body ends at `e`, and the head `w` of
`render` stands at `h`, all of them the first. -/
structure RenderPlace (t : Text) (a e : Nat) (w : Text) (h : Nat) : Prop where
  module : FirstIn (· = moduleHead) t 0 t.length moduleHead a
  body : Delimiters.braces.findClose t (a + moduleHead.length : Nat) = some e
  render : FirstIn (Head "render".toList) t (a + moduleHead.length) e w h

/-- **The anchors of the modules are their heads.** -/
theorem moduleHeads_checked : ∀ c ∈ Component.all, ∀ i ∈ (buildRecipe c).insertions,
    Regex.compile {} i.anchor =
      .ok ⟨.literal "export default defineComponent(".toList (.char (.only '{')), 0, []⟩ := by
  decide +kernel

variable {c : Component} {i : Insertion} {t : Text} {p : Nat}

theorem insertionPoint_render (member : i ∈ (buildRecipe c).insertions) :
    insertionPoint t i = .ok (some p) ↔ ∃ a e w h, RenderPlace t a e w h ∧ p = h + w.length := by
  have anchor := moduleHeads_checked c (mem_all c) i member
  obtain ⟨render, after⟩ := buildRecipe_render c i member
  have inner : Regex.compile {} i.innerAnchor = .ok (headRegex "render".toList) := render ▸ heads_checked.2
  have anchorReads : Reads _ (· = moduleHead) := reads_fixed "export default defineComponent(".toList '{' 0 []
  have innerReads : Reads _ (Head "render".toList) := reads_head (by decide)
  constructor
  · intro found
    obtain ⟨anchor', inner', m, e, n, anchor_, inner_, searched, closes, inBody, rfl⟩ := insertionPoint_found found
    obtain rfl := Except.ok.inj (anchor_.symm.trans anchor)
    obtain rfl := Except.ok.inj (inner_.symm.trans inner)
    obtain ⟨w, module, ends⟩ := anchorReads.search_all_iff.1 ⟨m, searched, rfl, rfl⟩
    obtain rfl := module.word
    rw [ends] at closes inBody
    obtain ⟨w, head, ends'⟩ := innerReads.search_iff.1 ⟨n, inBody, rfl, rfl⟩
    refine ⟨m.span.start, e, w, _, ⟨module, closes, head⟩, ?_⟩
    rw [after, if_neg (by decide), ends, ends']
  · rintro ⟨a, e, w, h, ⟨module, closes, head⟩, rfl⟩
    obtain ⟨m, searched, -, ends⟩ := anchorReads.search_all_iff.2 ⟨moduleHead, module, rfl⟩
    obtain ⟨n, inBody, -, ends'⟩ := innerReads.search_iff.2 ⟨w, head, rfl⟩
    rw [← ends] at closes inBody ends'
    rw [insertionPoint_of_found anchor inner (isSteady_literal rfl) (isSteady_headRegex _) searched closes inBody,
      after, if_neg (by decide), ends']

/-! ## What the edits put in -/

/-- What the recipes of modules write, and what they rename, ends in one of these. -/
def marks : List Char := [';', '"', '\'']

/-- The text ends in a mark and opens nothing. -/
structure Marked (u : Text) : Prop where
  plain : '{' ∉ u
  ends : ∃ c ∈ marks, u.getLast? = some c

/-- The text ends in an opening brace and has no mark. -/
structure Opens (w : Text) : Prop where
  plain : ∀ c ∈ marks, c ∉ w
  ends : w.getLast? = some '{'

theorem marked_iff (u : Text) : (!u.contains '{' && u.getLast?.any marks.contains) = true ↔ Marked u := by
  rw [Bool.and_eq_true, Option.any_eq_true]
  constructor
  · rintro ⟨plain, c, last, isMark⟩
    exact ⟨by simpa using plain, c, by simpa using isMark, last⟩
  · rintro ⟨plain, c, isMark, last⟩
    exact ⟨by simpa using plain, c, last, by simpa using isMark⟩

instance markedDecidable (u : Text) : Decidable (Marked u) := decidable_of_iff _ (marked_iff u)

theorem Marked.endsApart {u w : Text} (marked : Marked u) (opens : Opens w) : EndsApart u w := by
  obtain ⟨mark, isMark, last⟩ := marked.ends
  exact ⟨⟨mark, last, opens.plain mark isMark⟩, ⟨'{', opens.ends, marked.plain⟩⟩

theorem moduleHead_opens : Opens moduleHead := ⟨by decide, by decide⟩

theorem head_opens {w : Text} (head : Head "render".toList w) : Opens w := by
  obtain ⟨gap, gap', blank, blank', rfl⟩ := head
  have solid : ∀ c ∈ marks, isBlank c = false ∧ c ∉ "render".toList ∧ c ∉ "()".toList ∧ c ∉ ['{'] := by decide
  have last : ("render".toList ++ (gap ++ ("()".toList ++ (gap' ++ ['{'])))).getLast? = some '{' := by
    rw [List.getLast?_append, List.getLast?_append, List.getLast?_append, List.getLast?_append]
    rfl
  refine ⟨fun c isMark member => ?_, last⟩
  obtain ⟨notBlank, notWord, notPair, notBrace⟩ := solid c isMark
  have notIn : ∀ {u : Text}, (∀ x ∈ u, isBlank x = true) → c ∉ u := by
    intro u allBlank inside
    rw [allBlank c inside] at notBlank
    exact Bool.noConfusion notBlank
  simp only [List.mem_append] at member
  rcases member with inWord | inGap | inPair | inGap' | inBrace
  · exact notWord inWord
  · exact notIn blank inGap
  · exact notPair inPair
  · exact notIn blank' inGap'
  · exact notBrace inBrace

/-- **The texts of the modules' recipes end in marks**, and no statement can meet a template. -/
theorem texts_checked : ∀ c ∈ Component.all,
    (∀ i ∈ (buildRecipe c).insertions, Marked i.template ∧ (buildRecipe c).insertions = [i] ∧
      (buildRecipe c).replacements = [] ∧ i.renames = c.icons.map importRename) ∧
    ∀ icon ∈ c.icons, ∀ quote ∈ quotes,
      Marked (renamedImport icon quote) ∧ Marked (importStatement icon quote) ∧
        ∀ i ∈ (buildRecipe c).insertions, EndsApart (importStatement icon quote) i.template := by
  decide +kernel

/-- The edit renames an import of the component's module. -/
def RenamesImport (c : Component) (t : Text) (e : Edit) : Prop :=
  ∃ icon ∈ c.icons, ∃ quote ∈ quotes, ∃ k,
    e = .overwrite k (k + (importStatement icon quote).length) (renamedImport icon quote) ∧
      StandsAt t (importStatement icon quote) k

/-- A buffer that the recipe of a module leaves, with the template at `p`. -/
structure Patched (c : Component) (i : Insertion) (p : Nat) (b : Buffer) : Prop where
  bare : b.intro = []
  sound : b.Sound
  level : ∀ e ∈ b.edits, e.Level .braces b.base
  edits : ∃ renames, b.edits = renames ++ [.insertion p i.template] ∧ ∀ e ∈ renames, RenamesImport c b.base e

theorem patched_applied (member : i ∈ (buildRecipe c).insertions) (found : insertionPoint t i = .ok (some p))
    (file : Text) : CarriedOut (buildRecipe c) t file ∧ Patched c i p (applied t (buildRecipe c) file) := by
  have carriedOut : CarriedOut (buildRecipe c) t file :=
    carriedOut_of_apart (buildRecipe_mem c) (fun _ inEdits => buildRecipe_inRange inEdits) (buildRecipe_apart t c) file
  obtain ⟨-, sound, base, bare⟩ := applied_reaches t (buildRecipe c) file
  obtain ⟨-, single, none_, renames⟩ := (texts_checked c (mem_all c)).1 i member
  have edits : (buildRecipe c).edits t = i.renames.flatMap (·.edits t) ++ [.insertion p i.template] := by
    rw [Descriptor.edits, none_, single, List.flatMap_nil, List.nil_append, List.flatMap_singleton,
      Insertion.edits_of_found found]
  refine ⟨carriedOut, bare, sound, fun e inEdits => ?_, _, carriedOut.made.trans edits, fun e inRenames => ?_⟩
  · rw [base]
    exact recipe_edits_level (buildRecipe_mem c) (carriedOut.made ▸ inEdits)
  · rw [renames, List.flatMap_map] at inRenames
    obtain ⟨icon, inIcons, inEdits⟩ := List.mem_flatMap.1 inRenames
    obtain ⟨k, quote, isQuote, same, stands⟩ := mem_importRename inIcons inEdits
    rw [base]
    exact ⟨icon, inIcons, quote, isQuote, k, same, stands⟩

namespace Patched

variable {b : Buffer} (patched : Patched c i p b)
include patched

theorem cases {e : Edit} (inEdits : e ∈ b.edits) : e = .insertion p i.template ∨ RenamesImport c b.base e := by
  obtain ⟨renames, edits, each⟩ := patched.edits
  rw [edits, List.mem_append, List.mem_singleton] at inEdits
  exact inEdits.symm.imp_right (each e)

/-- The template is the only text that is inserted. -/
theorem alone : b.edits.filter (insertsAt p) = [.insertion p i.template] := by
  obtain ⟨renames, edits, each⟩ := patched.edits
  have none_ : renames.filter (insertsAt p) = [] := by
    refine List.filter_eq_nil_iff.2 fun e inRenames => ?_
    obtain ⟨icon, -, quote, -, k, rfl, -⟩ := each e inRenames
    simp [insertsAt, isOverwrite]
  rw [edits, List.filter_append, none_, List.nil_append]
  simp [insertsAt, isOverwrite, Edit.start]

/-- What can meet no statement is left as it is, on either side of the template. -/
theorem spares {w : Text} {k : Nat}
    (differ : ∀ icon ∈ c.icons, ∀ quote ∈ quotes, EndsApart (importStatement icon quote) w)
    (stands : StandsAt b.base w k) (side : p ≤ k ∨ k + w.length ≤ p) : ∀ e ∈ b.edits, Spares k w.length e := by
  intro e inEdits
  rcases patched.cases inEdits with rfl | ⟨icon, inIcons, quote, isQuote, k', rfl, stands'⟩
  · exact side
  · exact (differ icon inIcons quote isQuote).apart stands' stands

theorem marked (member : i ∈ (buildRecipe c).insertions) {e : Edit} (inEdits : e ∈ b.edits) : Marked e.content := by
  rcases patched.cases inEdits with rfl | ⟨icon, inIcons, quote, isQuote, k, rfl, -⟩
  · exact ((texts_checked c (mem_all c)).1 i member).1
  · exact ((texts_checked c (mem_all c)).2 icon inIcons quote isQuote).1

theorem spares_head {w : Text} {k : Nat} (opens : Opens w) (stands : StandsAt b.base w k)
    (side : p ≤ k ∨ k + w.length ≤ p) : ∀ e ∈ b.edits, Spares k w.length e :=
  patched.spares (fun icon inIcons quote isQuote =>
    ((texts_checked c (mem_all c)).2 icon inIcons quote isQuote).2.1.endsApart opens) stands side

/-- An edit that ends between two offsets, of a text that none touches, is the template behind that text. -/
theorem eq_of_between {k n : Nat} (spares : ∀ e ∈ b.edits, Spares k n e) {e : Edit} (inEdits : e ∈ b.edits)
    (after : k < e.stop) (upTo : e.stop ≤ k + n) : e = .insertion p i.template ∧ p = k + n := by
  have behind := (spares e inEdits).resolve_left (Nat.not_le.2 after)
  have range := patched.sound.inRange e inEdits
  rcases patched.cases inEdits with rfl | ⟨icon, inIcons, quote, isQuote, k', rfl, -⟩
  · exact ⟨rfl, Nat.le_antisymm upTo behind⟩
  · have proper := range.1
    simp only [Edit.start, Edit.stop] at behind upTo
    omega

/-- Behind a text that no edit touches, and where the template is not, the offset moves along. -/
theorem toOutput_behind {k n k' : Nat} (within : k + n ≤ b.base.length) (spares : ∀ e ∈ b.edits, Spares k n e)
    (elsewhere : p ≠ k + n) (here : b.positionMap.toOutput k = .ok k') :
    b.positionMap.toOutput (k + n : Nat) = .ok (k' + n) := by
  have level := toOutput_level patched.sound (Nat.le_add_right k n) within
    (clear_of_spares spares (Nat.le_refl k) (Nat.le_add_right k n))
    (clear_of_spares spares (Nat.le_add_right k n) (Nat.le_refl _))
    (fun e inEdits ends => elsewhere (patched.eq_of_between spares inEdits ends.1 ends.2).2) here
  rwa [Nat.add_sub_cancel_left] at level

/-- Where the template is, the offset moves on by its length. -/
theorem toOutput_place {k n k' : Nat} (within : p ≤ b.base.length) (spares : ∀ e ∈ b.edits, Spares k n e)
    (some_ : 0 < n) (place : p = k + n) (here : b.positionMap.toOutput k = .ok k') :
    b.positionMap.toOutput p = .ok (k' + n + i.template.length) := by
  obtain ⟨g, atPlace⟩ := exists_toOutput b within
  have between := toOutput_between patched.sound (show k ≤ p by omega) within
    (clear_of_spares spares (Nat.le_refl k) (by omega)) (clear_of_spares spares (by omega) (by omega)) here atPlace
  have only : b.edits.filter (fun e => decide (k < e.stop ∧ e.stop ≤ p)) = [.insertion p i.template] := by
    rw [← patched.alone]
    refine List.filter_congr fun e inEdits => ?_
    by_cases ends : k < e.stop ∧ e.stop ≤ p
    · obtain ⟨rfl, -⟩ := patched.eq_of_between spares inEdits ends.1 (place ▸ ends.2)
      simp [insertsAt, isOverwrite, Edit.start, Edit.stop, show k < p by omega]
    · rw [decide_eq_false ends, eq_comm, Bool.eq_false_iff]
      intro inserts
      refine ends ?_
      obtain rfl := List.mem_singleton.1 (patched.alone ▸ List.mem_filter.2 ⟨inEdits, inserts⟩)
      simp only [Edit.stop]
      omega
  have growth : (Edit.insertion p i.template).growth = i.template.length := by
    simp [Edit.growth, Edit.start, Edit.stop, Edit.content]
  rw [only] at between
  simp only [List.map_cons, List.map_nil, List.sum_cons, List.sum_nil, growth] at between
  rw [atPlace, show g = k' + n + i.template.length by omega]

/-- No edit touches the start of the text, since the template stands behind a head. -/
theorem toOutput_zero (behind : 0 < p) : b.positionMap.toOutput (0 : Nat) = .ok 0 := by
  have clear : ∀ e ∈ b.edits, ¬ (e.start < 0 ∧ 0 < e.stop) := fun e _ around => Nat.not_lt_zero _ around.1
  obtain ⟨g, here, sum⟩ := toOutput_clear patched.sound (Nat.zero_le _) clear
  have none_ : b.edits.filter (Edit.upTo 0) = [] := by
    refine List.filter_eq_nil_iff.2 fun e inEdits => ?_
    have range := patched.sound.inRange e inEdits
    rw [Edit.upTo, decide_eq_true_eq]
    rcases patched.cases inEdits with rfl | ⟨icon, inIcons, quote, isQuote, k, rfl, -⟩
    · exact Nat.not_le.2 behind
    · exact Nat.not_le.2 (Nat.lt_of_le_of_lt (Nat.zero_le k) range.1)
  rw [none_, patched.bare] at sum
  rw [here, show g = 0 by simpa using sum]

/-- **The place of the insertion is carried along**: the head of the module, the end of its body and the head of
`render`.  Behind that head stands the template. -/
theorem render_carried (member : i ∈ (buildRecipe c).insertions) {a e h : Nat} {w : Text}
    (place : RenderPlace b.base a e w h) (here : p = h + w.length) :
    ∃ a' e' h' : Nat, b.positionMap.toOutput a = .ok a' ∧ b.positionMap.toOutput e = .ok e' ∧
      b.positionMap.toOutput h = .ok h' ∧ RenderPlace b.toText a' e' w h' ∧
      b.positionMap.toOutput p = .ok (h' + w.length + i.template.length) := by
  have sound := patched.sound
  obtain ⟨module, body, render⟩ := place
  have opens := head_opens render.word
  have solid : 0 < w.length := List.length_pos_iff.2 (List.ne_nil_of_mem (List.mem_of_getLast? opens.ends))
  have bodyWithin := (Delimiters.findClose_bounds body).2
  have inBody := render.from_
  have inBody' := render.upTo
  have sparesModule := patched.spares_head moduleHead_opens module.stands (.inr (by omega))
  have sparesRender := patched.spares_head opens render.stands (.inr (Nat.le_of_eq here.symm))
  obtain ⟨a', atModule⟩ := exists_toOutput b (show a ≤ b.base.length by omega)
  obtain ⟨h', atRender⟩ := exists_toOutput b (show h ≤ b.base.length by omega)
  have marked : ∀ x ∈ b.edits, Marked x.content := fun x inEdits => patched.marked member inEdits
  have atBody := patched.toOutput_behind (by omega) sparesModule (by omega) atModule
  obtain ⟨e', atEnd, body'⟩ : ∃ e' : Nat, b.positionMap.toOutput e = .ok e' ∧
      Delimiters.braces.findClose b.toText (a' + moduleHead.length : Nat) = some e' := by
    obtain ⟨x, at_, alike⟩ := findClose_toText sound patched.level (show a + moduleHead.length ≤ b.base.length by omega)
    obtain rfl := Except.ok.inj (at_.symm.trans atBody)
    rwa [body] at alike
  have module' : FirstIn (· = moduleHead) b.toText 0 b.toText.length moduleHead a' := by
    refine firstIn_carried sound patched.bare (fun v word => ?_) (fun x inEdits v word => ?_) module (Nat.le_refl _)
      sparesModule (patched.toOutput_zero (by omega)) (toOutput_end sound) atModule
    · subst word
      decide
    · subst word
      exact (marked x inEdits).endsApart moduleHead_opens
  have render' : FirstIn (Head "render".toList) b.toText (a' + moduleHead.length) e' w h' :=
    firstIn_carried sound patched.bare (fun v word => (reads_head (by decide)).some_ word)
      (fun x inEdits v word => (marked x inEdits).endsApart (head_opens word)) render bodyWithin sparesRender atBody
      atEnd atRender
  exact ⟨a', e', h', atModule, atEnd, atRender, ⟨module', body', render'⟩,
    patched.toOutput_place (by omega) sparesRender solid here atRender⟩

/-- Where the template stood already, it stands twice. -/
theorem doubled (member : i ∈ (buildRecipe c).insertions) (stands : StandsAt b.base i.template p) {g : Nat}
    (here : b.positionMap.toOutput p = .ok g) :
    i.template.length ≤ g ∧ StandsAt b.toText (i.template ++ i.template) (g - i.template.length) := by
  obtain ⟨before, copy⟩ := standsAt_inserted patched.sound patched.alone here
  have spares := patched.spares (fun icon inIcons quote isQuote =>
    ((texts_checked c (mem_all c)).2 icon inIcons quote isQuote).2.2 i member) stands (.inl (Nat.le_refl p))
  refine ⟨before, standsAt_append_iff.2 ⟨copy, ?_⟩⟩
  rw [Nat.sub_add_cancel before]
  exact standsAt_of_spares patched.sound stands spares here

end Patched

/-! ## The second run -/

/-- A second run finds the place of its insertion in the output of a buffer whose template was put at `p`, which is
carried to `g`: it is the same place in the same body and behind the same brace, and there the first copy stands. -/
structure FoundAgain (b : Buffer) (i : Insertion) (p g : Nat) : Prop where
  carried : b.positionMap.toOutput p = .ok g
  copy : i.template.length ≤ g ∧ StandsAt b.toText i.template (g - i.template.length)
  again : insertionPoint b.toText i = .ok (some (g - i.template.length))
  body : ∃ (a e h a' e' h' : Nat) (w : Text), RenderPlace b.base a e w h ∧ RenderPlace b.toText a' e' w h' ∧
    b.positionMap.toOutput a = .ok a' ∧ b.positionMap.toOutput e = .ok e' ∧ b.positionMap.toOutput h = .ok h'
  brace : b.base[p - 1]? = some '{' ∧ b.positionMap.toOutput (p - 1 : Nat) = .ok (g - i.template.length - 1) ∧
    b.toText[g - i.template.length - 1]? = some '{'

theorem Patched.foundAgain {b : Buffer} (patched : Patched c i p b) (member : i ∈ (buildRecipe c).insertions)
    (found : insertionPoint b.base i = .ok (some p)) : ∃ g, FoundAgain b i p g := by
  obtain ⟨a, e, w, h, place, rfl⟩ := (insertionPoint_render member).1 found
  obtain ⟨a', e', h', atModule, atEnd, atRender, place', carried⟩ := patched.render_carried member place rfl
  have opens := head_opens place.render.word
  obtain ⟨solid, last⟩ := standsAt_last place.render.stands opens.ends
  obtain ⟨-, last'⟩ := standsAt_last place'.render.stands opens.ends
  have within := place.render.stands.within (List.length_pos_iff.1 solid)
  have spares := patched.spares_head opens place.render.stands (.inr (Nat.le_refl _))
  have brace := toOutput_along patched.sound within spares atRender (show w.length - 1 < w.length by omega)
  refine ⟨_, carried, standsAt_inserted patched.sound patched.alone carried, ?_,
    ⟨a, e, h, a', e', h', w, place, place', atModule, atEnd, atRender⟩, ?_⟩
  · rw [Nat.add_sub_cancel]
    exact (insertionPoint_render member).2 ⟨a', e', w, h', place', rfl⟩
  · rw [Nat.add_sub_cancel, show h + w.length - 1 = h + (w.length - 1) by omega,
      show h' + w.length - 1 = h' + (w.length - 1) by omega]
    exact ⟨last, brace, last'⟩

/-- The text that the recipe of a module leaves. -/
def moduleOutput (c : Component) (t file : Text) : Text := (applied t (buildRecipe c) file).toText

/-- **Running the recipe of a module again doubles its template, and in the same place.**  The first run is carried
out, and so is the second on its output.  The second finds the same body and the same brace, and inserts directly
before the first copy. -/
theorem buildRecipe_again (member : i ∈ (buildRecipe c).insertions) (found : insertionPoint t i = .ok (some p))
    (file : Text) :
    CarriedOut (buildRecipe c) t file ∧ ∃ g, FoundAgain (applied t (buildRecipe c) file) i p g ∧
      CarriedOut (buildRecipe c) (moduleOutput c t file) file ∧
      ∃ g' : Nat, i.template.length ≤ g' ∧
        (applied (moduleOutput c t file) (buildRecipe c) file).positionMap.toOutput (g - i.template.length : Nat) =
          .ok g' ∧
        StandsAt (moduleOutput c (moduleOutput c t file) file) (i.template ++ i.template)
          (g' - i.template.length) := by
  have base : ∀ t, (applied t (buildRecipe c) file).base = t := fun t => (applied_reaches t _ file).2.2.1
  obtain ⟨first, patched⟩ := patched_applied member found file
  obtain ⟨g, again⟩ := patched.foundAgain member (by rwa [base])
  obtain ⟨second, patched'⟩ := patched_applied member again.again file
  obtain ⟨g', again'⟩ := patched'.foundAgain member (by rw [base]; exact again.again)
  obtain ⟨before, twice⟩ := patched'.doubled member (by rw [base]; exact again.copy.2) again'.carried
  exact ⟨first, g, again, second, g', before, again'.carried, twice⟩

/-- A module that imports its icon, and mentions the import in the body that is patched. -/
def rateModule : Text :=
  ("import StarIcon from './StarIcon.mjs'\n" ++
    "export default defineComponent(\x7b render () \x7b " ++
    "return \"import StarIcon from './StarIcon.mjs'\"; \x7d \x7d)").toList

/-- What the recipe inserts in the module. -/
def rateInsertion : Insertion where
  anchor := "export default defineComponent\\(\\\x7b".toList
  innerAnchor := renderHead
  template := cloneBindings [("StarIcon".toList, "_StarIcon_".toList)]
  renames := [importRename "StarIcon".toList]

theorem buildRecipe_again_rateModule :
    rateInsertion ∈ (buildRecipe .rate).insertions ∧ insertionPoint rateModule rateInsertion = .ok (some 82) ∧
      CarriedOut (buildRecipe .rate) rateModule [] ∧
      ∃ g, FoundAgain (applied rateModule (buildRecipe .rate) []) rateInsertion 82 g := by
  have member : rateInsertion ∈ (buildRecipe .rate).insertions := by decide +kernel
  have found : insertionPoint rateModule rateInsertion = .ok (some 82) := by decide +kernel
  obtain ⟨first, g, again, -⟩ := buildRecipe_again member found []
  exact ⟨member, found, first, g, again⟩

end Graft.Session
