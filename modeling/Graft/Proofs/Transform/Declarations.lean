/-
# Graft.Proofs.Transform.Declarations -- whether a freed name is declared

What a component declares in its body reads its icons by their freed names.  The place for that and the
statement that declares an icon are looked for apart from each other, so the one may be found without the other.
Once the body has taken the insertion, the output declares a freed name exactly if the text has the statement
that the recipe renames, or declares the name already (`icon_declared_iff`): in a module, a default import of the
icon from its own file; in a bundle, a declaration that stands alone.  A name declared already is lost in one case
only, where the word `var` is taken for the icon of a status.
-/
import Graft.Proofs.Edit.Found
import Graft.Proofs.Patch.Order
import Graft.Proofs.Patch.Renames
import Graft.Proofs.Transform.Overlap

namespace Graft.Session

set_option autoImplicit false

open Graft.Edit Graft.Patch Graft.Regex Graft.Text

variable {t w : Text} {e : Edit} {p : Nat}

/-! ## Edits that keep clear of a text -/

theorem spares_of_followsBrace (stands : StandsAt t w p) (plain : '{' ∉ w) (follows : FollowsBrace t e) :
    Buffer.Spares p w.length e :=
  (Buffer.spares_iff_apart [] e).2 (replaces_followsBrace_apart ⟨p, [], rfl, stands⟩ plain follows)

theorem spares_of_replaces {v : Text} (stands : StandsAt t w p) (replaces : Replaces t v e)
    (clear : cannotBeginIn v w = true) (clear' : cannotBeginIn w v = true) : Buffer.Spares p w.length e :=
  (Buffer.spares_iff_apart [] e).2 (replaces_apart ⟨p, [], rfl, stands⟩ replaces clear clear')

theorem spares_status_iff {n : Nat} (stands : StandsAt t w p) (word : beginsWithWord n w = true)
    (status : ReplacesStatus t e) : Buffer.Spares p w.length e ↔ e.stop ≠ p + n := by
  rw [Buffer.spares_iff_apart [] e]
  have own : Replaces t w (.overwrite p (p + w.length) []) := ⟨p, [], rfl, stands⟩
  exact ⟨fun apart => (status_apart_iff status own word).1 apart.symm,
    fun other => ((status_apart_iff status own word).2 other).symm⟩

/-! ## What the recipes put in -/

/-- A text stands neither across what replaces `v` nor across `v` itself. -/
def KeepsClear (w v content : Text) : Prop :=
  Settles content w ∧ cannotBeginIn v w = true ∧ cannotBeginIn w v = true

instance (w v content : Text) : Decidable (KeepsClear w v content) := inferInstanceAs (Decidable (_ ∧ _))

/-- A text stands neither across a template nor in it. -/
def Foreign (w template : Text) : Prop := Settles template w ∧ ¬ w <:+: template

instance (w template : Text) : Decidable (Foreign w template) := inferInstanceAs (Decidable (_ ∧ _))

/-! ## What an edit does to a text -/

/-- What an edit does to `w`: it settles where `w` stands, puts `w` in only where the text has what is freed, and
leaves `w` alone at the places that are kept. -/
structure Handles (t w : Text) (freed : Prop) (kept : Nat → Prop) (e : Edit) : Prop where
  settles : Settles e.content w
  declares : w <:+: e.content → freed
  spares : ∀ p, StandsAt t w p → kept p → Buffer.Spares p w.length e

/-- An edit that puts in what has nothing to do with `w`. -/
theorem Handles.of_foreign {freed : Prop} {kept : Nat → Prop} (foreign : Foreign w e.content)
    (spares : ∀ p, StandsAt t w p → kept p → Buffer.Spares p w.length e) : Handles t w freed kept e :=
  ⟨foreign.1, fun inContent => absurd inContent foreign.2, spares⟩

/-- An edit that replaces what keeps clear of `w`. -/
theorem Handles.of_clear {freed : Prop} {kept : Nat → Prop} {v : Text} (clear : KeepsClear w v e.content)
    (replaces : Replaces t v e) (declares : w <:+: e.content → freed) : Handles t w freed kept e :=
  ⟨clear.1, declares, fun _ stands _ => spares_of_replaces stands replaces clear.2.1 clear.2.2⟩

/-- **Whether the output of a descriptor has a text**, by what its edits do to it. -/
theorem infix_applied_iff {d : Descriptor} {file : Text} {freed : Prop} {kept : Nat → Prop} (some_ : w ≠ [])
    (handles : ∀ e ∈ d.edits t, Handles t w freed kept e)
    (put : freed → ∃ e ∈ (applied t d file).edits, w <:+: e.content)
    (lost : ∀ p, StandsAt t w p → (∀ e ∈ (applied t d file).edits, Buffer.Spares p w.length e) → kept p) :
    w <:+: (applied t d file).toText ↔ freed ∨ ∃ p, StandsAt t w p ∧ kept p := by
  obtain ⟨upTo, sound, base, bare⟩ := applied_reaches t d file
  have made : ∀ e ∈ (applied t d file).edits, Handles t w freed kept e := fun e member =>
    handles e (upTo.subset member)
  rw [Buffer.infix_toText_iff sound bare some_ fun e member => (made e member).settles, base]
  constructor
  · rintro (⟨e, member, inContent⟩ | ⟨p, stands, spares⟩)
    · exact .inl ((made e member).declares inContent)
    · exact .inr ⟨p, stands, lost p stands spares⟩
  · rintro (stated | ⟨p, stands, keeps⟩)
    · exact .inl (put stated)
    · exact .inr ⟨p, stands, fun e member => (made e member).spares p stands keeps⟩

/-! ## Modules -/

/-- **The imports of freed names and the texts of the recipes**: each is put in by the rename of its own icon
alone. -/
theorem imports_checked : ∀ c ∈ Component.all, ∀ icon ∈ c.icons, '{' ∉ importedAs icon ∧
    (∀ i ∈ (buildRecipe c).insertions, Foreign (importedAs icon) i.template) ∧
    ∀ icon' ∈ c.icons, ∀ quote ∈ quotes,
      KeepsClear (importedAs icon) (importStatement icon' quote) (renamedImport icon' quote) ∧
        (importedAs icon <:+: renamedImport icon' quote → icon' = icon) := by
  decide +kernel

section Module

variable {c : Component} {icon file : Text} (inIcons : icon ∈ c.icons)
include inIcons

theorem buildRecipe_of_icons :
    (buildRecipe c).replacements = [] ∧
      ∃ i, (buildRecipe c).insertions = [i] ∧ i.renames = c.icons.map importRename := by
  cases c with
  | result => simp [Component.icons] at inIcons
  | checkbox => exact ⟨rfl, _, rfl, rfl⟩
  | backTop => exact ⟨rfl, _, rfl, rfl⟩
  | rate => exact ⟨rfl, _, rfl, rfl⟩

/-- The edits of a module's recipe rename imports, or put the template behind a brace. -/
theorem mem_buildRecipe (member : e ∈ (buildRecipe c).edits t) :
    (∃ icon' ∈ c.icons, e ∈ (importRename icon').edits t) ∨
      ∃ i ∈ (buildRecipe c).insertions, e.content = i.template ∧ FollowsBrace t e := by
  obtain ⟨none_, i, single, renames⟩ := buildRecipe_of_icons inIcons
  have inList : i ∈ (buildRecipe c).insertions := by
    rw [single]
    exact List.mem_cons_self
  have brace : i.behindBrace = true := recipe_behindBrace (buildRecipe_mem c) inList
  rw [Descriptor.edits, none_, single] at member
  obtain ⟨index, -, ⟨r, inRenames, inEdits⟩ | ⟨rfl, follows⟩⟩ :=
    mem_insertion_edits brace (by simpa using member)
  · rw [renames] at inRenames
    obtain ⟨icon', inIcons', rfl⟩ := List.mem_map.1 inRenames
    exact .inl ⟨icon', inIcons', inEdits⟩
  · exact .inr ⟨i, inList, rfl, follows⟩

theorem module_handles (member : e ∈ (buildRecipe c).edits t) :
    Handles t (importedAs icon) (∃ quote ∈ quotes, importStatement icon quote <:+: t) (fun _ => True) e := by
  obtain ⟨plain, foreign, own⟩ := imports_checked c (mem_all c) icon inIcons
  rcases mem_buildRecipe inIcons member with ⟨icon', inIcons', inEdits⟩ | ⟨i, inList, same, follows⟩
  · obtain ⟨p, quote, isQuote, rfl, stands⟩ := mem_importRename inIcons' inEdits
    obtain ⟨clear, single⟩ := own icon' inIcons' quote isQuote
    refine .of_clear clear ⟨p, _, rfl, stands⟩ fun inContent => ?_
    obtain rfl := single inContent
    exact ⟨quote, isQuote, infix_iff_standsAt.2 ⟨p, stands⟩⟩
  · exact .of_foreign (same ▸ foreign i inList) fun p stands _ => spares_of_followsBrace stands plain follows

/-- **Whether a module declares a freed name.** -/
theorem module_declares_iff {i : Insertion} (inList : i ∈ (buildRecipe c).insertions) {index : Nat}
    (inserted : .insertion index i.template ∈ (applied t (buildRecipe c) file).edits) :
    importedAs icon <:+: (applied t (buildRecipe c) file).toText ↔
      (∃ quote ∈ quotes, importStatement icon quote <:+: t) ∨ importedAs icon <:+: t := by
  have some_ : importedAs icon ≠ [] := List.ne_nil_of_mem (List.mem_of_head? (show _ = some 'i' from rfl))
  have put : (∃ quote ∈ quotes, importStatement icon quote <:+: t) →
      ∃ e ∈ (applied t (buildRecipe c) file).edits, importedAs icon <:+: e.content := by
    rintro ⟨quote, isQuote, stated⟩
    obtain ⟨p, stands⟩ := infix_iff_standsAt.1 stated
    obtain ⟨e, asked⟩ := importRename_made inIcons isQuote stands
    obtain ⟨-, i', single, renames⟩ := buildRecipe_of_icons inIcons
    have only : ∀ x ∈ (buildRecipe c).insertions, x = i' := by simp [single]
    have made : e ∈ (applied t (buildRecipe c) file).edits := by
      have upTo := (applied_reaches t (buildRecipe c) file).1
      refine (made_before_insertion upTo inList (fun x member _ => ?_) inserted).2.2 _ ?_ e asked
      · rw [only x member, only i inList]
      · rw [only i inList, renames]
        exact List.mem_map_of_mem inIcons
    obtain ⟨q, quote', -, rfl, -⟩ := mem_importRename inIcons asked
    exact ⟨_, made, (List.prefix_append _ _).isInfix⟩
  rw [infix_applied_iff some_ (fun _ member => module_handles inIcons member) put fun _ _ _ => trivial]
  simp only [and_true, infix_iff_standsAt (w := importedAs icon)]

end Module

/-! ## Bundles -/

/-- **The declarations of freed names and the texts of the bundle's recipe.** -/
theorem declarations_checked : ∀ c ∈ Component.all, ∀ icon ∈ c.icons,
    '{' ∉ declaredAs icon ∧ beginsWithWord 3 (declaredAs icon) = true ∧
      (∀ v ∈ cloneCall.tails, v ≠ [] → Clashes v (declaredAs icon)) ∧
      (∀ i ∈ bundleRecipe.insertions, Foreign (declaredAs icon) i.template) ∧
      ∀ c' ∈ Component.all, ∀ icon' ∈ c'.icons,
        KeepsClear (declaredAs icon) (declaration icon') (declaredAs icon') ∧
          (declaredAs icon <:+: declaredAs icon' → icon' = icon) := by
  decide +kernel

/-- The insertions of the bundle's recipe are told apart by what they put in. -/
theorem bundleRecipe_templates : ∀ i ∈ bundleRecipe.insertions, ∀ i' ∈ bundleRecipe.insertions,
    i'.template = i.template → i' = i := by
  decide +kernel

theorem name_foreign : isDecimal 'v' = false ∧ nameTest.holds ' ' = false ∧ ')' ∉ "var ".toList ∧ ' ' ≠ ')' := by
  decide

/-- The last of what becomes of a status never begins like a declaration: the icon is a name, so before the
blank of the declaration it has ended. -/
theorem clashes_icon {icon name : Text} (word : ∀ c ∈ name, nameTest.holds c = true) {d : Nat}
    (inside : d < (name ++ [')']).length) : Clashes ((name ++ [')']).drop d) (declaredAs icon) := by
  obtain ⟨-, blank, noParen, apart⟩ := name_foreign
  rw [List.length_append, List.length_singleton] at inside
  have lead : ∀ (k : Nat) (c : Char), "var ".toList[k]? = some c → (declaredAs icon)[k]? = some c := by
    intro k c found
    rw [declaredAs, List.getElem?_append_left (List.getElem?_eq_some_iff.1 found).1, found]
  rcases Nat.lt_or_ge (name.length - d) 3 with short | long
  · have width : "var ".toList.length = 4 := rfl
    have letter : name.length - d < "var ".toList.length := by omega
    refine ⟨name.length - d, ')', _, ?_, lead _ _ (List.getElem?_eq_getElem letter), ?_⟩
    · rw [List.getElem?_drop, show d + (name.length - d) = name.length by omega, List.getElem?_concat_length]
    · exact fun same => noParen (same ▸ List.getElem_mem letter)
  · have at_ : ∃ c, ((name ++ [')']).drop d)[3]? = some c ∧ c ≠ ' ' := by
      rw [List.getElem?_drop]
      rcases Nat.lt_or_ge (d + 3) name.length with inName | atEnd
      · refine ⟨name[d + 3], by rw [List.getElem?_append_left inName, List.getElem?_eq_getElem inName], ?_⟩
        intro same
        have holds := word _ (List.getElem_mem inName)
        rw [same, blank] at holds
        simp at holds
      · rw [show d + 3 = name.length by omega, List.getElem?_concat_length]
        exact ⟨')', rfl, apart.symm⟩
    obtain ⟨c, found, differ⟩ := at_
    exact ⟨3, c, ' ', found, lead 3 ' ' rfl, differ⟩

/-- **What becomes of a status settles where a name is declared**, and declares none. -/
theorem status_foreign {icon digits name : Text} (some_ : digits ≠ []) (digit : ∀ c ∈ digits, isDecimal c = true)
    (word : ∀ c ∈ name, nameTest.holds c = true) (keyword : beginsWithWord 3 (declaredAs icon) = true)
    (call : ∀ v ∈ cloneCall.tails, v ≠ [] → Clashes v (declaredAs icon)) :
    Foreign (declaredAs icon) (digits ++ (cloneCall ++ (name ++ [')']))) := by
  have begins : (declaredAs icon)[0]? = some 'v' := rfl
  have plain : ∀ c ∈ declaredAs icon, isDecimal c = false := by
    simp only [beginsWithWord, Bool.and_eq_true] at keyword
    simpa using List.all_eq_true.1 keyword.1.2
  have inside : ∀ d < (digits ++ (cloneCall ++ (name ++ [')']))).length,
      Clashes ((digits ++ (cloneCall ++ (name ++ [')']))).drop d) (declaredAs icon) := by
    intro d before
    rcases Nat.lt_or_ge d digits.length with inDigits | afterDigits
    · refine ⟨0, digits[d], 'v', ?_, begins, fun same => ?_⟩
      · rw [List.getElem?_drop, Nat.add_zero, List.getElem?_append_left inDigits, List.getElem?_eq_getElem inDigits]
      · have holds := digit _ (List.getElem_mem inDigits)
        rw [same, name_foreign.1] at holds
        simp at holds
    · rw [List.drop_append, List.drop_of_length_le afterDigits, List.nil_append]
      rcases Nat.lt_or_ge (d - digits.length) cloneCall.length with inCall | afterCall
      · rw [List.drop_append_of_le_length (Nat.le_of_lt inCall)]
        exact (call _ ((List.mem_tails _ _).2 (List.drop_suffix _ _)) (drop_ne_nil inCall)).append _
      · rw [List.drop_append, List.drop_of_length_le afterCall, List.nil_append]
        refine clashes_icon word ?_
        rw [List.length_append, List.length_append] at before
        omega
  refine ⟨⟨fun v ends some_ => .inr ?_, fun v ends some_' => ?_⟩, fun inContent => ?_⟩
  · have short := ends.length_le
    have positive := List.length_pos_iff.2 some_
    rw [List.suffix_iff_eq_drop.1 ends]
    exact inside _ (by omega)
  · -- The first character is a digit, and the declaration has none.
    obtain ⟨c, rest, rfl⟩ := List.exists_cons_of_ne_nil some_
    obtain ⟨d, rest', rfl⟩ := List.exists_cons_of_ne_nil some_'
    refine ⟨0, d, c, rfl, rfl, fun same => ?_⟩
    have solid := plain d ((ends.trans (List.tail_suffix _)).subset List.mem_cons_self)
    rw [same, digit c List.mem_cons_self] at solid
    simp at solid
  · obtain ⟨p, stands⟩ := infix_iff_standsAt.1 inContent
    have within := stands.within (List.ne_nil_of_mem (List.mem_of_getElem? begins))
    have positive := (List.getElem?_eq_some_iff.1 begins).1
    have own := (standsAt_append [] (digits ++ (cloneCall ++ (name ++ [')']))) []).drop p
    simp only [List.nil_append, List.append_nil, List.length_nil, Nat.zero_add] at own
    exact not_clashes_of_standsAt own stands (inside p (by omega))

section Bundle

variable {c : Component} {icon file : Text}

theorem mem_bundleRecipe_insertions (inIcons : icon ∈ c.icons) : bundledInsertion c ∈ bundleRecipe.insertions := by
  refine List.mem_map_of_mem (List.mem_filter.2 ⟨mem_all c, ?_⟩)
  simpa using List.ne_nil_of_mem inIcons

/-- The edits of the bundle's recipe concern statuses, rename declarations, or put a template behind a brace. -/
theorem mem_bundleRecipe (member : e ∈ bundleRecipe.edits t) :
    e ∈ statusIcons.edits t ∨ (∃ c' ∈ Component.all, ∃ icon' ∈ c'.icons, e ∈ (bundledRename icon').edits t) ∨
      ∃ i ∈ bundleRecipe.insertions, e.content = i.template ∧ FollowsBrace t e := by
  rw [bundleRecipe_edits] at member
  rcases List.mem_append.1 member with status | inComponents
  · exact .inl status
  · obtain ⟨i, inList, inEdits⟩ := List.mem_flatMap.1 inComponents
    obtain ⟨c', -, rfl⟩ := List.mem_map.1 inList
    obtain ⟨index, -, ⟨r, inRenames, inEdits⟩ | ⟨rfl, follows⟩⟩ :=
      mem_insertion_edits (bundled_behindBrace c') inEdits
    · obtain ⟨icon', inIcons', rfl⟩ := List.mem_map.1 inRenames
      exact .inr (.inl ⟨c', mem_all c', icon', inIcons', inEdits⟩)
    · exact .inr (.inr ⟨_, inList, rfl, follows⟩)

theorem bundle_handles (inIcons : icon ∈ c.icons) (member : e ∈ bundleRecipe.edits t) :
    Handles t (declaredAs icon) (∃ p, StandsAlone t (declaration icon) p) (fun p => ¬ StatusEndsAt t (p + 3)) e := by
  obtain ⟨plain, keyword, call, foreign, own⟩ := declarations_checked c (mem_all c) icon inIcons
  rcases mem_bundleRecipe member with status | ⟨c', inAll, icon', inIcons', inEdits⟩ | ⟨i, inList, same, follows⟩
  · have spares : ∀ p, StandsAt t (declaredAs icon) p → ¬ StatusEndsAt t (p + 3) →
        Buffer.Spares p (declaredAs icon).length e := fun p stands clear =>
      (spares_status_iff stands keyword (replacesStatus_of_mem status)).2 fun ends => clear ⟨e, status, ends⟩
    obtain ⟨i, j, digits, name, rfl, -, some_, digit, word⟩ := mem_statusIcons status
    exact .of_foreign (status_foreign some_ digit word keyword call) spares
  · obtain ⟨p, rfl, alone⟩ := mem_bundledRename inIcons' inEdits
    obtain ⟨clear, single⟩ := own c' inAll icon' inIcons'
    refine .of_clear clear ⟨p, _, rfl, alone.stands⟩ fun inContent => ?_
    obtain rfl := single inContent
    exact ⟨p, alone⟩
  · exact .of_foreign (same ▸ foreign i inList) fun p stands _ => spares_of_followsBrace stands plain follows

/-- **Whether a bundle declares a freed name.** -/
theorem bundle_declares_iff (inIcons : icon ∈ c.icons) {index : Nat}
    (inserted : .insertion index (bundledInsertion c).template ∈ (applied t bundleRecipe file).edits) :
    declaredAs icon <:+: (applied t bundleRecipe file).toText ↔
      (∃ p, StandsAlone t (declaration icon) p) ∨
        ∃ p, StandsAt t (declaredAs icon) p ∧ ¬ StatusEndsAt t (p + 3) := by
  obtain ⟨-, keyword, -⟩ := declarations_checked c (mem_all c) icon inIcons
  obtain ⟨-, replaced, renamed⟩ := made_before_insertion (applied_reaches t bundleRecipe file).1
    (mem_bundleRecipe_insertions inIcons) (bundleRecipe_templates _ (mem_bundleRecipe_insertions inIcons)) inserted
  have some_ : declaredAs icon ≠ [] := List.ne_nil_of_mem (List.mem_of_head? (show _ = some 'v' from rfl))
  refine infix_applied_iff some_ (fun _ member => bundle_handles inIcons member) ?_ ?_
  · rintro ⟨p, alone⟩
    obtain ⟨e, asked⟩ := bundledRename_made inIcons alone
    have made := renamed (bundledRename icon) (List.mem_map_of_mem inIcons) e asked
    obtain ⟨q, rfl, -⟩ := mem_bundledRename inIcons asked
    exact ⟨_, made, List.infix_refl _⟩
  · rintro p stands spares ⟨s, status, ends⟩
    -- All statuses are replaced ahead of any insertion.
    have made : s ∈ (applied t bundleRecipe file).edits := by
      refine replaced statusIcons ?_ s status
      rw [bundleRecipe_replacements]
      exact List.mem_cons_self
    exact (spares_status_iff stands keyword (replacesStatus_of_mem status)).1 (spares s made) ends

end Bundle

/-! ## Both -/

/-- **Whether a freed name is declared**: once the bindings that read it are put in, the output declares it
exactly if the text has the statement that is renamed, or declares it already with the declaration left alone. -/
theorem icon_declared_iff {c : Component} {icon : Text} (inIcons : icon ∈ c.icons) (t file : Text) :
    (∀ i ∈ (buildRecipe c).insertions, ∀ index,
      .insertion index i.template ∈ (applied t (buildRecipe c) file).edits →
        (importedAs icon <:+: (applied t (buildRecipe c) file).toText ↔
          (∃ quote ∈ quotes, importStatement icon quote <:+: t) ∨ importedAs icon <:+: t)) ∧
    ∀ index, .insertion index (bundledInsertion c).template ∈ (applied t bundleRecipe file).edits →
      (declaredAs icon <:+: (applied t bundleRecipe file).toText ↔
        (∃ p, StandsAlone t (declaration icon) p) ∨
          ∃ p, StandsAt t (declaredAs icon) p ∧ ¬ StatusEndsAt t (p + 3)) :=
  ⟨fun _ inList _ inserted => module_declares_iff inIcons inList inserted,
    fun _ inserted => bundle_declares_iff inIcons inserted⟩

/-- A module that imports its icon, and a bundle that declares it. -/
def moduleCode : Text :=
  "import StarIcon from \"./StarIcon.mjs\";\nexport default defineComponent(\x7b render() \x7b \x7d \x7d)".toList

def bundleCode : Text :=
  "var StarIcon_default = 1; defineComponent(\x7b name: \"Rate\", render() \x7b \x7d \x7d)".toList

theorem icon_declared_starIcon :
    "StarIcon".toList ∈ Component.icons .rate ∧
      (∃ i ∈ (buildRecipe .rate).insertions,
        .insertion 82 i.template ∈ (applied moduleCode (buildRecipe .rate) []).edits ∧
          (importedAs "StarIcon".toList <:+: (applied moduleCode (buildRecipe .rate) []).toText ↔
            (∃ quote ∈ quotes, importStatement "StarIcon".toList quote <:+: moduleCode) ∨
              importedAs "StarIcon".toList <:+: moduleCode)) ∧
      .insertion 68 (bundledInsertion .rate).template ∈ (applied bundleCode bundleRecipe []).edits ∧
        (declaredAs "StarIcon".toList <:+: (applied bundleCode bundleRecipe []).toText ↔
          (∃ p, StandsAlone bundleCode (declaration "StarIcon".toList) p) ∨
            ∃ p, StandsAt bundleCode (declaredAs "StarIcon".toList) p ∧ ¬ StatusEndsAt bundleCode (p + 3)) := by
  have inIcons : "StarIcon".toList ∈ Component.icons .rate := by decide
  have taken : (∃ i ∈ (buildRecipe .rate).insertions,
        .insertion 82 i.template ∈ (applied moduleCode (buildRecipe .rate) []).edits) ∧
      .insertion 68 (bundledInsertion .rate).template ∈ (applied bundleCode bundleRecipe []).edits := by
    decide +kernel
  obtain ⟨⟨i, inList, inModule⟩, inBundle⟩ := taken
  exact ⟨inIcons, ⟨i, inList, inModule, (icon_declared_iff inIcons moduleCode []).1 i inList 82 inModule⟩, inBundle,
    (icon_declared_iff inIcons bundleCode []).2 68 inBundle⟩

/-- A module in which nothing declares the icon. -/
def bareModule : Text := "export default defineComponent(\x7b render() \x7b \x7d \x7d)".toList

/-- The place is found without the import, and the freed name is read but not imported. -/
theorem bareModule_undeclared :
    (∃ i ∈ (buildRecipe .rate).insertions,
        .insertion 43 i.template ∈ (applied bareModule (buildRecipe .rate) []).edits) ∧
      ¬ importedAs "StarIcon".toList <:+: (applied bareModule (buildRecipe .rate) []).toText := by
  decide +kernel

end Graft.Session
