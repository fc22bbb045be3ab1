/-
# Graft.Proofs.Transform.Exchange -- stages that do not meddle with each other

A descriptor looks for everything in the base text.  So if it does not stop on a buffer with earlier edits, it does
there what it does on the fresh text, and gives the same report.

Two descriptors that are carried out one after the other are also carried out the other way round, since edits that
stand apart do so in either order.  The output is the same as long as they never insert at one offset.  The recipe
for the wrapper inserts behind a head of `setup`, and those for the components behind a head of `render`.  Read
backwards from the brace, the two heads cannot be mistaken for each other, as the words end in different letters.

Both are put together in `stages_exchange`.
-/
import Graft.Proofs.Edit.Permutation
import Graft.Proofs.Patch.Course
import Graft.Proofs.Transform.Heads

namespace Graft.Session

set_option autoImplicit false

open Graft.Edit Graft.Patch Graft.Regex Graft.Text

variable {t file : Text} {d d' : Descriptor} {report report' : Report}

/-! ## One descriptor, whatever was done before -/

/-- **What a descriptor does on a buffer is what it does on the fresh text.** -/
theorem applyDescriptor_afresh {b : Buffer} (ran : (applyDescriptor b d file).result = .ok report) :
    (applyDescriptor (Buffer.ofText b.base) d file).result = .ok report ∧
      (applyDescriptor b d file).buffer = b.adding (applied b.base d file).edits := by
  obtain ⟨⟨readable, takes⟩, rfl⟩ := applyDescriptor_ok_iff.1 ran
  have afresh : (applyDescriptor (Buffer.ofText b.base) d file).result = .ok (d.report b.base) :=
    applyDescriptor_ok_iff.2 ⟨⟨readable, takes.fresh⟩, rfl⟩
  refine ⟨afresh, ?_⟩
  rw [(applied_of_ok afresh).2]
  exact applyDescriptor_buffer ran

/-! ## Two descriptors, one after the other -/

/-- Neither of two descriptors stops, the second on the buffer that the first leaves. -/
structure InTurn (t : Text) (d d' : Descriptor) (file : Text) (report report' : Report) : Prop where
  first : (applyDescriptor (Buffer.ofText t) d file).result = .ok report
  second : (applyDescriptor (applied t d file) d' file).result = .ok report'

/-- The buffer that two descriptors leave, one after the other. -/
def appliedInTurn (t : Text) (d d' : Descriptor) (file : Text) : Buffer :=
  (applyDescriptor (applied t d file) d' file).buffer

/-- Neither stops exactly if both can be read in the text and the buffer takes the edits of both. -/
theorem inTurn_iff : InTurn t d d' file report report' ↔
    (d.Readable t ∧ d'.Readable t ∧ (Buffer.ofText t).Takes (d.edits t ++ d'.edits t)) ∧
      report = d.report t ∧ report' = d'.report t := by
  have second_iff : (applyDescriptor ((Buffer.ofText t).adding (d.edits t)) d' file).result = .ok report' ↔
      (d'.Readable t ∧ ((Buffer.ofText t).adding (d.edits t)).Takes (d'.edits t)) ∧ report' = d'.report t :=
    applyDescriptor_ok_iff
  have first_iff : (applyDescriptor (Buffer.ofText t) d file).result = .ok report ↔
      (d.Readable t ∧ (Buffer.ofText t).Takes (d.edits t)) ∧ report = d.report t := applyDescriptor_ok_iff
  rw [Buffer.takes_append]
  constructor
  · rintro ⟨first, second⟩
    rw [(applied_of_ok first).1] at second
    obtain ⟨⟨readable, takes⟩, same⟩ := first_iff.1 first
    obtain ⟨⟨readable', takes'⟩, same'⟩ := second_iff.1 second
    exact ⟨⟨readable, readable', takes, takes'⟩, same, same'⟩
  · rintro ⟨⟨readable, readable', takes, takes'⟩, same, same'⟩
    have first := first_iff.2 ⟨⟨readable, takes⟩, same⟩
    refine ⟨first, ?_⟩
    rw [(applied_of_ok first).1]
    exact second_iff.2 ⟨⟨readable', takes'⟩, same'⟩

theorem InTurn.buffer (inTurn : InTurn t d d' file report report') :
    appliedInTurn t d d' file = (Buffer.ofText t).adding (d.edits t ++ d'.edits t) := by
  obtain ⟨first, second⟩ := inTurn
  rw [(applied_of_ok first).1] at second
  rw [appliedInTurn, (applied_of_ok first).1, ← Buffer.adding_adding]
  exact applyDescriptor_buffer second

/-- What is carried out in turn is carried out the other way round. -/
theorem InTurn.swap (inTurn : InTurn t d d' file report report') : InTurn t d' d file report' report := by
  obtain ⟨⟨readable, readable', both⟩, reports⟩ := inTurn_iff.1 inTurn
  exact inTurn_iff.2 ⟨⟨readable', readable, both.perm List.perm_append_comm⟩, reports.symm⟩

/-- **The order shows only where both insert at one offset.** -/
theorem InTurn.same (inTurn : InTurn t d d' file report report')
    (unshared : ∀ i, (d.edits t).filter (Buffer.insertsAt i) = [] ∨ (d'.edits t).filter (Buffer.insertsAt i) = []) :
    (appliedInTurn t d' d file).toText = (appliedInTurn t d d' file).toText ∧
      (appliedInTurn t d' d file).positionMap = (appliedInTurn t d d' file).positionMap ∧
      ∀ source target, (appliedInTurn t d' d file).sourceMap source target =
        (appliedInTurn t d d' file).sourceMap source target := by
  have takes := (inTurn_iff.1 inTurn).1.2.2
  have sound := (Buffer.adding_sound_iff (Buffer.sound_ofText t)).2 takes
  rw [inTurn.buffer, inTurn.swap.buffer]
  have ranked : ((Buffer.ofText t).adding (d'.edits t ++ d.edits t)).ranked =
      ((Buffer.ofText t).adding (d.edits t ++ d'.edits t)).ranked := by
    refine Buffer.ranked_perm_eq sound (List.perm_append_comm.append_left _) fun i => ?_
    simp only [Buffer.adding, List.filter_append]
    rcases unshared i with none_ | none_ <;> simp [none_]
  refine Buffer.maps_congr rfl ?_
  rw [Buffer.pieces, Buffer.pieces, ranked]
  rfl

/-! ## Heads, read backwards -/

/-- The last character before `stop` that is no blank is the `c` at `k`. -/
structure LastSolid (t : Text) (k : Nat) (c : Char) (stop : Nat) : Prop where
  here : t[k]? = some c
  solid : isBlank c = false
  before : k < stop
  blank : Blank t (k + 1) stop

/-- A head whose word ends in `c` ends at `stop`: ahead of its brace stand the parentheses, and ahead of these the
word. -/
def HeadEnds (t : Text) (c : Char) (stop : Nat) : Prop :=
  ∃ j k, LastSolid t (j + 1) ')' (stop - 1) ∧ t[j]? = some '(' ∧ LastSolid t k c j

section Head

variable {k k' start stop index : Nat} {c c' : Char} {word : Text}

theorem LastSolid.not_before (last : LastSolid t k c stop) (last' : LastSolid t k' c' stop) : ¬ k < k' := by
  intro order
  obtain ⟨d, at_, blank⟩ := last.blank k' order last'.before
  obtain rfl := Option.some.inj (at_.symm.trans last'.here)
  exact Bool.false_ne_true (last'.solid.symm.trans blank)

theorem LastSolid.unique (last : LastSolid t k c stop) (last' : LastSolid t k' c' stop) : k = k' ∧ c = c' := by
  have same : k = k' := Nat.le_antisymm (Nat.not_lt.1 (last'.not_before last)) (Nat.not_lt.1 (last.not_before last'))
  subst same
  exact ⟨rfl, Option.some.inj (last.here.symm.trans last'.here)⟩

/-- **The word of a head is told by its last character**, wherever the head begins. -/
theorem HeadEnds.unique (ends : HeadEnds t c stop) (ends' : HeadEnds t c' stop) : c = c' := by
  obtain ⟨j, k, paren, -, letter⟩ := ends
  obtain ⟨j', k', paren', -, letter'⟩ := ends'
  obtain rfl := Nat.succ.inj (paren.unique paren').1
  exact (letter.unique letter').2

theorem Blank.of_slice {first last : Nat} (blank : Blank (t.slice start stop) first last) :
    Blank t (start + first) (start + last) := by
  intro k from_ before
  obtain ⟨c, at_, isBlank_⟩ := blank (k - start) (by omega) (by omega)
  have there := getElem?_of_slice at_
  rw [show start + (k - start) = k by omega] at there
  exact ⟨c, there, isBlank_⟩

theorem LastSolid.of_slice {last : Nat} (solid : LastSolid (t.slice start stop) k c last) :
    LastSolid t (start + k) c (start + last) where
  here := getElem?_of_slice solid.here
  solid := solid.solid
  before := Nat.add_lt_add_left solid.before start
  blank := solid.blank.of_slice

theorem HeadEnds.of_slice {n : Nat} (ends : HeadEnds (t.slice start stop) c n) : HeadEnds t c (start + n) := by
  obtain ⟨j, k, paren, open_, letter⟩ := ends
  have inside := paren.before
  refine ⟨start + j, start + k, ?_, getElem?_of_slice open_, letter.of_slice⟩
  rw [show start + n - 1 = start + (n - 1) by omega]
  exact paren.of_slice

/-- A head that stands somewhere ends there. -/
theorem Head.ends {w : Text} {i : Nat} (head : Head word w) (ends : word.getLast? = some c) (solid : isBlank c = false)
    (stands : StandsAt t w i) : HeadEnds t c (i + w.length) := by
  obtain ⟨gap, gap', blank, blank', rfl⟩ := head
  obtain ⟨word_, rest⟩ := standsAt_append_iff.1 stands
  obtain ⟨first, rest⟩ := standsAt_append_iff.1 rest
  obtain ⟨parens, rest⟩ := standsAt_append_iff.1 rest
  obtain ⟨second, -⟩ := standsAt_append_iff.1 rest
  have some_ : 0 < word.length := List.length_pos_iff.2 (List.ne_nil_of_mem (List.mem_of_getLast? ends))
  have width : "()".toList.length = 2 := rfl
  rw [List.getLast?_eq_getElem?] at ends
  rw [width] at second
  refine ⟨i + word.length + gap.length, i + word.length - 1, ⟨parens 1 ')' rfl, by decide, ?_, ?_⟩, parens 0 '(' rfl,
    ⟨?_, solid, by omega, ?_⟩⟩
  · simp only [List.length_append, width, List.length_singleton]
    omega
  · rw [show i + (word ++ (gap ++ ("()".toList ++ (gap' ++ ['\x7b'])))).length - 1 =
      i + word.length + gap.length + 2 + gap'.length by
        simp only [List.length_append, width, List.length_singleton]
        omega]
    exact blank_of_standsAt blank' second
  · rw [show i + word.length - 1 = i + (word.length - 1) by omega]
    exact word_ _ c ends
  · rw [show i + word.length - 1 + 1 = i + word.length by omega]
    exact blank_of_standsAt blank first

/-- An insertion behind a head goes where a head ends. -/
theorem headEnds_of_insertionPoint {i : Insertion} (some_ : word ≠ [])
    (inner : Regex.compile {} i.innerAnchor = .ok (headRegex word))
    (after : i.placement = .after) (ends : word.getLast? = some c) (solid : isBlank c = false)
    (found : insertionPoint t i = .ok (some index)) : HeadEnds t c index := by
  obtain ⟨anchor, inner', m, stop, n, -, inner_, -, -, searched, rfl⟩ := insertionPoint_found found
  obtain rfl := Except.ok.inj (inner_.symm.trans inner)
  obtain ⟨moving, at_⟩ := matchAt?_of_search searched
  obtain ⟨w, head, stands, stops⟩ := (reads_head some_).matched at_
  rw [after, if_neg (by decide), stops]
  exact (head.ends ends solid stands).of_slice

end Head

/-! ## Where the recipes insert -/

/-- What is inserted at an offset is the template of an insertion that has its place there. -/
theorem placed_of_insertsAt {index : Nat} {e : Edit} (member : e ∈ d.edits t)
    (here : Buffer.insertsAt index e = true) : ∃ i ∈ d.insertions, insertionPoint t i = .ok (some index) := by
  simp only [Buffer.insertsAt, Bool.and_eq_true, beq_iff_eq, Bool.not_eq_true'] at here
  cases e with
  | overwrite start stop content => simp [Edit.isOverwrite] at here
  | insertion place content =>
      obtain rfl : place = index := here.1
      rcases List.mem_append.1 member with heads | bodies
      · exact absurd heads insertion_not_mem
      · obtain ⟨i, inList, inEdits⟩ := List.mem_flatMap.1 bodies
        exact ⟨i, inList, (insertion_mem_edits inEdits).2.1⟩

/-- The recipes for the components: of the bundle and of the modules. -/
def exportRecipes : List Descriptor := bundleRecipe :: Component.all.map buildRecipe

theorem exportRecipes_render : ∀ d ∈ exportRecipes, ∀ i ∈ d.insertions,
    i.innerAnchor = renderHead ∧ i.placement = .after := by
  rw [exportRecipes, List.forall_mem_cons, List.forall_mem_map]
  constructor
  · intro i inList
    obtain ⟨c, -, rfl⟩ := List.mem_map.1 inList
    exact ⟨rfl, rfl⟩
  · intro c _
    exact buildRecipe_render c

/-- **The recipe for the wrapper and those for the components never insert at one offset.** -/
theorem recipes_unshared (member : d ∈ exportRecipes) (t : Text) (index : Nat) :
    (replaceableRecipe.edits t).filter (Buffer.insertsAt index) = [] ∨
      (d.edits t).filter (Buffer.insertsAt index) = [] := by
  by_contra shared
  rw [not_or] at shared
  obtain ⟨e, inWrapper⟩ := List.exists_mem_of_ne_nil _ shared.1
  obtain ⟨e', inExport⟩ := List.exists_mem_of_ne_nil _ shared.2
  obtain ⟨edits, here⟩ := List.mem_filter.1 inWrapper
  obtain ⟨edits', here'⟩ := List.mem_filter.1 inExport
  obtain ⟨i, inList, found⟩ := placed_of_insertsAt edits here
  obtain ⟨i', inList', found'⟩ := placed_of_insertsAt edits' here'
  rw [replaceableRecipe_insertions] at inList
  obtain rfl := List.mem_singleton.1 inList
  obtain ⟨render, after⟩ := exportRecipes_render d member _ inList'
  have setup : HeadEnds t 'p' index :=
    headEnds_of_insertionPoint (by decide) heads_checked.1 rfl (by decide) (by decide) found
  have render_ : HeadEnds t 'r' index :=
    headEnds_of_insertionPoint (by decide) (render ▸ heads_checked.2) after (by decide) (by decide) found'
  exact absurd (setup.unique render_) (by decide)

/-- **Stages do not meddle with each other.**  What a descriptor does on a buffer, whatever was done there before, is
what it does on the fresh text.  And if the recipe for the wrapper and then one for the components are carried out,
they are carried out the other way round as well, with the same output and the same maps. -/
theorem stages_exchange :
    (∀ (b : Buffer) (d : Descriptor) (file : Text) (report : Report),
      (applyDescriptor b d file).result = .ok report →
        (applyDescriptor (Buffer.ofText b.base) d file).result = .ok report ∧
          (applyDescriptor b d file).buffer = b.adding (applied b.base d file).edits) ∧
      ∀ (t file : Text) (d : Descriptor) (report report' : Report), d ∈ exportRecipes →
        InTurn t replaceableRecipe d file report report' →
          InTurn t d replaceableRecipe file report' report ∧
            (appliedInTurn t d replaceableRecipe file).toText = (appliedInTurn t replaceableRecipe d file).toText ∧
            (appliedInTurn t d replaceableRecipe file).positionMap =
              (appliedInTurn t replaceableRecipe d file).positionMap := by
  constructor
  · intro b d file report ran
    exact applyDescriptor_afresh ran
  · intro t file d report report' member inTurn
    obtain ⟨text, map, -⟩ := inTurn.same (recipes_unshared member t)
    exact ⟨inTurn.swap, text, map⟩

/-- The wrapper and a component in one text. -/
def wrappedModule : Text :=
  ("function replaceable(name, icon) \x7b setup() \x7b \x7d \x7d\n" ++
    "export default defineComponent(\x7b render() \x7b \x7d \x7d)").toList

theorem stages_exchange_wrappedModule :
    buildRecipe .rate ∈ exportRecipes ∧
      InTurn wrappedModule replaceableRecipe (buildRecipe .rate) [] ⟨"replaceable".toList, 1, 1, []⟩
        ⟨"export-default:rate".toList, 0, 1, []⟩ ∧
      InTurn wrappedModule (buildRecipe .rate) replaceableRecipe [] ⟨"export-default:rate".toList, 0, 1, []⟩
        ⟨"replaceable".toList, 1, 1, []⟩ ∧
      (appliedInTurn wrappedModule (buildRecipe .rate) replaceableRecipe []).toText =
        (appliedInTurn wrappedModule replaceableRecipe (buildRecipe .rate) []).toText := by
  have member : buildRecipe .rate ∈ exportRecipes := List.mem_cons_of_mem _ (List.mem_map_of_mem (mem_all .rate))
  have results : (applyDescriptor (Buffer.ofText wrappedModule) replaceableRecipe []).result =
        .ok ⟨"replaceable".toList, 1, 1, []⟩ ∧
      (applyDescriptor (applied wrappedModule replaceableRecipe []) (buildRecipe .rate) []).result =
        .ok ⟨"export-default:rate".toList, 0, 1, []⟩ := by decide +kernel
  have inTurn : InTurn wrappedModule replaceableRecipe (buildRecipe .rate) [] _ _ := ⟨results.1, results.2⟩
  obtain ⟨swapped, text, -⟩ := stages_exchange.2 wrappedModule [] (buildRecipe .rate) _ _ member inTurn
  exact ⟨member, inTurn, swapped, text⟩

end Graft.Session
