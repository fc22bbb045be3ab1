/-
# Graft.Proofs.Patch.Renames -- what the renames of icons do

A component's own module imports its icons, and a bundle declares them; the recipes free the name in either case.
What is overwritten and what is put there is known exactly, and so is when anything is (`mem_importRename`,
`importRename_made`, `mem_bundledRename`, `bundledRename_made`): an import is renamed where its statement stands
with either quotation mark, a declaration where it stands as words of their own.
-/
import Graft.Proofs.Patch.Recipes

namespace Graft.Patch

set_option autoImplicit false

open Graft.Edit Graft.Regex Graft.Text

/-! ## Statements -/

/-- Where an icon is imported from. -/
def importPath (icon : Text) : Text := "./".toList ++ icon ++ ".mjs".toList

/-- The path between quotation marks. -/
def quoted (icon : Text) (quote : Char) : Text := quote :: (importPath icon ++ [quote])

/-- How a module imports an icon. -/
def importStatement (icon : Text) (quote : Char) : Text := importLead icon ++ quoted icon quote

/-- How the import of the freed name begins. -/
def importedAs (icon : Text) : Text := "import _".toList ++ icon ++ "_ from ".toList

/-- The import of the freed name. -/
def renamedImport (icon : Text) (quote : Char) : Text := importedAs icon ++ quoted icon quote

/-- The declaration of the freed name. -/
def declaredAs (icon : Text) : Text := "var ".toList ++ ("_".toList ++ icon ++ "_default_".toList)

def quotes : List Char := ['"', '\'']

/-- What is asked of the characters of a list is decided along the list, and not over all characters. -/
instance decidableOnChars {p : Char → Prop} [DecidablePred p] (u : List Char) : Decidable (∀ c ∈ u, p c) :=
  u.decidableBAll p

/-- The text stands with no character of a word just before or behind it. -/
structure StandsAlone (t w : Text) (p : Nat) : Prop where
  stands : StandsAt t w p
  before : ∀ c, 0 < p → t[p - 1]? = some c → isWord c = false
  behind : ∀ c, t[p + w.length]? = some c → isWord c = false

/-! ## Templates -/

/-- The parts of a template that are its own characters. -/
def written (w : Text) : List TemplatePart := w.map fun c => .text [c]

theorem expand_written (t w : Text) (m : Match) : (written w).flatMap (·.expand t m) = w := by
  induction w with
  | nil => rfl
  | cons c rest ih =>
      rw [written, List.map_cons, List.flatMap_cons]
      exact congrArg (c :: ·) ih

theorem expand_group {t w : Text} {m : Match} {index p : Nat} (matched : m.group? index = some ⟨p, p + w.length⟩)
    (stands : StandsAt t w p) : (TemplatePart.group index).expand t m = w := by
  simp only [TemplatePart.expand, matched]
  exact slice_of_standsAt stands

/-- **The templates of the recipes**, part by part. -/
theorem templates_read : (∀ c ∈ Component.all, ∀ icon ∈ c.icons,
      TemplatePart.read (importRegex icon) (importRename icon).replacement =
          .ok (written (importedAs icon) ++ [.group 1, .group 2, .group 1]) ∧
        TemplatePart.read (declarationRegex icon) (bundledRename icon).replacement =
          .ok (written (declaredAs icon))) ∧
    TemplatePart.read statusRegex statusIcons.replacement =
      .ok (.group 1 :: written (": () => ".toList ++ Helper.importName ++ "(".toList) ++
        .group 2 :: written [')']) := by
  decide +kernel

/-! ## Imports -/

variable {t icon : Text}

theorem quote_iff (c : Char) : quoteTest.holds c = true ↔ c ∈ quotes := by
  simp [quoteTest, quotes, CharTest.holds, ClassItem.hasCase, ClassItem.holds, Folding.hasCase, ← Char.toNat_inj]

/-- The statement as the pattern reads it. -/
theorem standsAt_importStatement {quote : Char} {p : Nat} :
    StandsAt t (importStatement icon quote) p ↔
      StandsAt t (importLead icon) p ∧ t[p + (importLead icon).length]? = some quote ∧
        StandsAt t (importPath icon) (p + (importLead icon).length + 1) ∧
        t[p + (importLead icon).length + 1 + (importPath icon).length]? = some quote := by
  rw [importStatement, quoted, standsAt_append_iff, standsAt_cons, standsAt_append_iff, standsAt_cons]
  simp only [standsAt_nil, and_true]

theorem importPath_eq (icon : Text) : "./".toList ++ icon ++ ".mj".toList ++ ['s'] = importPath icon := by
  rw [importPath, List.append_assoc]
  rfl

/-- **A match of the import pattern** is a statement, and its groups are the quotation mark and the path. -/
theorem import_of_match {i : Nat} {moving : Bool} {m : Match}
    (found : matchAt? (importRegex icon) t.toArray i moving = some m) :
    ∃ quote ∈ quotes, StandsAt t (importStatement icon quote) i ∧
      m.span.stop = i + (importStatement icon quote).length ∧
      (TemplatePart.group 1).expand t m = [quote] ∧ (TemplatePart.group 2).expand t m = importPath icon := by
  obtain ⟨-, way⟩ := matchAt?_way (isSteady_importRegex icon) found
  generalize ended : (⟨m.span.stop, m.groups⟩ : State) = st at way
  obtain ⟨lead, rest⟩ := way_literal way
  cases rest with
  | seq first rest =>
  cases first with
  | group first =>
  cases first with
  | char mark =>
  cases rest with
  | seq second last =>
  cases second with
  | group second =>
  obtain ⟨path, rfl⟩ := way_fixed second
  cases last with
  | @backref _ _ _ s matched again =>
  rw [importPath_eq] at *
  simp only [State.moved, State.setGroup, startState] at *
  obtain rfl := Option.some.inj matched
  obtain ⟨quote, first, isQuote⟩ := passes_toArray.1 mark
  have last : t[i + (importLead icon).length + 1 + (importPath icon).length]? = some quote := by
    obtain ⟨c, at_, here⟩ := repeatsSpan_exact_iff.1 again 0 (by simp)
    simp only [List.getElem?_toArray, Nat.add_zero] at at_ here
    rw [here, ← at_, first]
  have stop := congrArg State.pos ended
  have groups := congrArg State.groups ended
  simp only at stop groups
  refine ⟨quote, (quote_iff quote).1 isQuote, standsAt_importStatement.2 ⟨lead, first, path, last⟩, ?_, ?_, ?_⟩
  · simp only [stop, importStatement, quoted, List.length_append, List.length_cons, List.length_nil]
    omega
  · refine expand_group (p := i + (importLead icon).length) (by rw [Match.group?, groups]; rfl) ?_
    exact standsAt_cons.2 ⟨first, standsAt_nil t _⟩
  · exact expand_group (by rw [Match.group?, groups]; rfl) path

/-- Where the statement stands, the pattern matches. -/
theorem match_of_import {quote : Char} (isQuote : quote ∈ quotes) {i : Nat}
    (stands : StandsAt t (importStatement icon quote) i) :
    (matchAt? (importRegex icon) t.toArray i false).isSome = true := by
  obtain ⟨lead, first, path, last⟩ := standsAt_importStatement.1 stands
  have mark : passes t.toArray quoteTest.holds (i + (importLead icon).length) = true :=
    passes_toArray.2 ⟨quote, first, (quote_iff quote).2 isQuote⟩
  have again : repeatsSpan t.toArray .exact
      ⟨i + (importLead icon).length, i + (importLead icon).length + 1⟩
      (i + (importLead icon).length + 1 + (importPath icon).length) = true := by
    refine repeatsSpan_exact_iff.2 fun k before => ⟨quote, ?_⟩
    simp only at before
    rw [show k = 0 by omega, List.getElem?_toArray, List.getElem?_toArray]
    exact ⟨first, last⟩
  rw [← importPath_eq] at path again
  rw [matchAt?_eq_runAt? (isSteady_importRegex icon), runAt?, Option.isSome_map, startState, importRegex,
    run_literal_of_standsAt lead]
  simp only [Pattern.run, State.moved, mark, if_true, State.setGroup]
  rw [run_fixed_of_standsAt path]
  generalize ("./".toList ++ icon ++ ".mj".toList ++ ['s']).length = width at again ⊢
  simp [State.moved, State.referred?, State.group?, Option.filter, finish, again]

variable {c : Component} (inIcons : icon ∈ c.icons)
include inIcons

/-- **What the rename of an import does**: it overwrites a statement, whatever its quotation mark. -/
theorem mem_importRename {e : Edit} (member : e ∈ (importRename icon).edits t) :
    ∃ p, ∃ quote ∈ quotes, e = .overwrite p (p + (importStatement icon quote).length) (renamedImport icon quote) ∧
      StandsAt t (importStatement icon quote) p := by
  obtain ⟨m, moving, found, rfl⟩ := mem_regex_edits rfl (compile_importRename c inIcons) (isSteady_importRegex icon)
    member
  obtain ⟨quote, isQuote, stands, stop, mark, path⟩ := import_of_match found
  refine ⟨m.span.start, quote, isQuote, ?_, stands⟩
  have expanded : expandTemplate (importRegex icon) (importRename icon).replacement t m =
      .ok (renamedImport icon quote) := by
    rw [expandTemplate, (templates_read.1 c (mem_all c) icon inIcons).1]
    simp only [bind, Except.bind, pure, Except.pure, List.flatMap_append, expand_written, List.flatMap_cons,
      List.flatMap_nil, mark, path]
    rfl
  rw [stop, expanded]
  rfl

/-- An import is renamed if a statement stands anywhere. -/
theorem importRename_made {quote : Char} (isQuote : quote ∈ quotes) {p : Nat}
    (stands : StandsAt t (importStatement icon quote) p) : ∃ e, e ∈ (importRename icon).edits t := by
  have some_ : importStatement icon quote ≠ [] := by simp [importStatement, quoted]
  have within := stands.within some_
  refine regex_edits_made rfl rfl (compile_importRename c inIcons) (isSteady_importRegex icon) ?_ (by omega)
    (match_of_import isQuote stands)
  rw [importRegex, lead_literal]
  simp [Pattern.lead, Lead.followedBy]

/-! ## Declarations -/

omit inIcons

/-- A text that begins and ends with characters of words stands alone between two borders of words. -/
theorem standsAlone_iff {w : Text} {p : Nat} {first last : Char} (begins : w.head? = some first)
    (ends : w.getLast? = some last) (inWord : isWord first = true) (inWord' : isWord last = true) :
    StandsAlone t w p ↔ (Anchor.wordBoundary false false).holds t.toArray p = true ∧ StandsAt t w p ∧
      (Anchor.wordBoundary false false).holds t.toArray (p + w.length) = true := by
  have some_ : w ≠ [] := by
    rintro rfl
    simp at begins
  have positive := List.length_pos_iff.2 some_
  have isWord_ : ∀ {k : Nat}, passes t.toArray (CharKind.word.holds false) k = true ↔
      ∃ c, t[k]? = some c ∧ isWord c = true := passes_toArray
  -- Where the text stands, the character on the inner side of either border is one of a word.
  have borders : StandsAt t w p →
      ((Anchor.wordBoundary false false).holds t.toArray p = true ↔
        ∀ c, 0 < p → t[p - 1]? = some c → isWord c = false) ∧
      ((Anchor.wordBoundary false false).holds t.toArray (p + w.length) = true ↔
        ∀ c, t[p + w.length]? = some c → isWord c = false) := by
    intro stands
    have here : passes t.toArray (CharKind.word.holds false) p = true := by
      rw [List.head?_eq_getElem?] at begins
      exact isWord_.2 ⟨first, stands 0 first begins, inWord⟩
    have there : passes t.toArray (CharKind.word.holds false) (p + w.length - 1) = true := by
      rw [List.getLast?_eq_getElem?] at ends
      refine isWord_.2 ⟨last, ?_, inWord'⟩
      rw [show p + w.length - 1 = p + (w.length - 1) by omega]
      exact stands _ last ends
    have outside : ∀ {k : Nat}, ¬ passes t.toArray (CharKind.word.holds false) k = true ↔
        ∀ c, t[k]? = some c → isWord c = false := by
      intro k
      rw [isWord_]
      simp
    rw [wordBoundary_holds, wordBoundary_holds, here, there]
    constructor
    · rcases Nat.eq_zero_or_pos p with rfl | after
      · simp
      · simp [← outside, after, Nat.ne_of_gt after]
    · have later : (p + w.length != 0) = true := bne_iff_ne.2 (by omega)
      rw [← outside, later]
      simp
  constructor
  · rintro ⟨stands, before, behind⟩
    exact ⟨(borders stands).1.2 before, stands, (borders stands).2.2 behind⟩
  · rintro ⟨before, stands, behind⟩
    exact ⟨stands, (borders stands).1.1 before, (borders stands).2.1 behind⟩

theorem declaration_alone_iff {p : Nat} :
    StandsAlone t (declaration icon) p ↔ (Anchor.wordBoundary false false).holds t.toArray p = true ∧
      StandsAt t (declaration icon) p ∧
      (Anchor.wordBoundary false false).holds t.toArray (p + (declaration icon).length) = true := by
  have begins : (declaration icon).head? = some 'v' := rfl
  have ends : (declaration icon).getLast? = some 't' := by
    rw [declaration, List.getLast?_append]
    rfl
  exact standsAlone_iff begins ends (by decide) (by decide)

theorem declaration_of_match {i : Nat} {moving : Bool} {m : Match}
    (found : matchAt? (declarationRegex icon) t.toArray i moving = some m) :
    StandsAlone t (declaration icon) i ∧ m.span.stop = i + (declaration icon).length := by
  obtain ⟨-, way⟩ := matchAt?_way (isSteady_declarationRegex icon) found
  generalize ended : (⟨m.span.stop, m.groups⟩ : State) = st at way
  cases way with
  | seq first rest =>
  cases first with
  | anchor before =>
  obtain ⟨stands, last⟩ := way_literal rest
  cases last with
  | anchor behind =>
  exact ⟨declaration_alone_iff.2 ⟨before, stands, behind⟩, congrArg State.pos ended⟩

theorem match_of_declaration {i : Nat} (alone : StandsAlone t (declaration icon) i) :
    (matchAt? (declarationRegex icon) t.toArray i false).isSome = true := by
  obtain ⟨before, stands, behind⟩ := declaration_alone_iff.1 alone
  rw [matchAt?_eq_runAt? (isSteady_declarationRegex icon), runAt?, Option.isSome_map, startState, declarationRegex]
  simp only [Pattern.run, before, if_true]
  rw [run_literal_of_standsAt stands]
  simp [Pattern.run, State.moved, finish, behind]

include inIcons

/-- **What the rename of a declaration does**: it overwrites the declaration where it stands alone. -/
theorem mem_bundledRename {e : Edit} (member : e ∈ (bundledRename icon).edits t) :
    ∃ p, e = .overwrite p (p + (declaration icon).length) (declaredAs icon) ∧
      StandsAlone t (declaration icon) p := by
  obtain ⟨m, moving, found, rfl⟩ := mem_regex_edits rfl (compile_bundledRename c inIcons)
    (isSteady_declarationRegex icon) member
  obtain ⟨alone, stop⟩ := declaration_of_match found
  refine ⟨m.span.start, ?_, alone⟩
  have expanded : expandTemplate (declarationRegex icon) (bundledRename icon).replacement t m =
      .ok (declaredAs icon) := by
    rw [expandTemplate, (templates_read.1 c (mem_all c) icon inIcons).2]
    simp only [bind, Except.bind, pure, Except.pure, expand_written]
  rw [stop, expanded]
  rfl

/-- A declaration is renamed if it stands alone anywhere. -/
theorem bundledRename_made {p : Nat} (alone : StandsAlone t (declaration icon) p) :
    ∃ e, e ∈ (bundledRename icon).edits t := by
  have some_ : declaration icon ≠ [] := by simp [declaration]
  have within := alone.stands.within some_
  refine regex_edits_made rfl rfl (compile_bundledRename c inIcons) (isSteady_declarationRegex icon) ?_ (by omega)
    (match_of_declaration alone)
  simpa [declarationRegex, Pattern.lead, lead_literal, Lead.followedBy] using some_

omit inIcons

/-! ## Statuses -/

/-- What stands between a status and its icon once the icon is cloned. -/
def cloneCall : Text := ": () => ".toList ++ Helper.importName ++ "(".toList

/-- The groups of a status are its digits and its icon. -/
theorem status_groups {i : Nat} {moving : Bool} {m : Match}
    (found : matchAt? statusRegex t.toArray i moving = some m) :
    m.groups = [some ⟨i, i + 3⟩, some ⟨i + 11, m.span.stop⟩] := by
  obtain ⟨-, way⟩ := matchAt?_way isSteady_statusRegex found
  generalize ended : (⟨m.span.stop, m.groups⟩ : State) = st at way
  cases way with
  | seq first rest =>
  cases first with
  | group first =>
  cases first with
  | seq border digits =>
  cases border with
  | anchor =>
  cases digits with
  | @chars _ _ _ _ _ n enough limit =>
  obtain rfl : n = 3 := Nat.le_antisymm (limit 3 rfl) enough
  obtain ⟨-, last⟩ := way_literal rest
  cases last with
  | group last =>
  cases last with
  | chars =>
  have stop := congrArg State.pos ended
  have groups := congrArg State.groups ended
  simp only at stop groups
  rw [groups, stop]
  rfl

/-- What replaces a status: its digits, and its icon in a call. -/
theorem statusIcons_edit {e : Edit} (member : e ∈ statusIcons.edits t) :
    ∃ i j, StatusAt t i j ∧
      e = .overwrite i j (t.slice i (i + 3) ++ (cloneCall ++ (t.slice (i + 11) j ++ [')']))) := by
  obtain ⟨m, moving, found, rfl⟩ := mem_regex_edits rfl compile_statusIcons isSteady_statusRegex member
  have groups := status_groups found
  refine ⟨m.span.start, m.span.stop, statusAt_of_match found, ?_⟩
  have expanded : expandTemplate statusRegex statusIcons.replacement t m =
      .ok (t.slice m.span.start (m.span.start + 3) ++ (cloneCall ++
        (t.slice (m.span.start + 11) m.span.stop ++ [')']))) := by
    rw [expandTemplate, templates_read.2]
    simp only [bind, Except.bind, pure, Except.pure, List.flatMap_append, List.flatMap_cons,
      List.cons_append, TemplatePart.expand, Match.group?, groups]
    rfl
  rw [expanded]
  rfl

/-- **What becomes of a status**: its digits, and its icon in a call. -/
theorem mem_statusIcons {e : Edit} (member : e ∈ statusIcons.edits t) :
    ∃ i j digits name, e = .overwrite i j (digits ++ (cloneCall ++ (name ++ [')']))) ∧ StatusAt t i j ∧ digits ≠ [] ∧
      (∀ c ∈ digits, isDecimal c = true) ∧ ∀ c ∈ name, nameTest.holds c = true := by
  obtain ⟨i, j, status, rfl⟩ := statusIcons_edit member
  refine ⟨i, j, t.slice i (i + 3), t.slice (i + 11) j, rfl, status, ?_, ?_, all_slice status.name⟩
  · obtain ⟨c, at_, -⟩ := status.digits 0 (by omega)
    intro empty
    have first : (t.slice i (i + 3))[0]? = some c := by
      rw [getElem?_slice, if_pos (by omega)]
      exact at_
    rw [empty] at first
    simp at first
  · refine all_slice fun k from_ before => ?_
    obtain ⟨c, at_, digit⟩ := status.digits (k - i) (by omega)
    rw [show i + (k - i) = k by omega] at at_
    exact ⟨c, at_, digit⟩

end Graft.Patch
