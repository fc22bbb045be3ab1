/-
# Graft.Proofs.Transform.Wrapper -- whose parameter is renamed

The recipe for the wrapper that lets icons be replaced declares the name `icon` anew in the wrapper's body, and
renames the parameter of that name.  The body is found by a pattern that allows for any first parameter and any
spacing; the parameter is renamed where a fixed text first occurs, with or without a body.  The two are the same
function exactly if its head is written as that text and no such text stands before it
(`wrapper_renames_own_iff`).  Otherwise the parameter of another head is renamed or none at all, and what the
body declares refers to a name that nothing introduces (`keyedWrapper_keeps_parameter`).
-/
import Graft.Proofs.Patch.Blocks
import Graft.Proofs.Patch.Order
import Graft.Proofs.Regex.Absent
import Graft.Proofs.Transform.Nesting
import Graft.Proofs.Transform.Overlap

namespace Graft.Session

set_option autoImplicit false

open Graft.Edit Graft.Patch Graft.Regex Graft.Text

/-! ## Where the body is -/

/-- What the recipe inserts in the wrapper's body. -/
def wrapperBody : Insertion where
  anchor := "function replaceable\\s*\\(([^,]+),\\s*icon\\)\\s*\\\x7b".toList
  innerAnchor := "setup\\s*\\(\\)\\s*\\\x7b".toList
  template := "\n  const icon = ".toList ++ Helper.importName ++ "(_icon_);".toList

theorem replaceableRecipe_insertions : replaceableRecipe.insertions = [wrapperBody] := rfl

variable {t : Text} {index : Nat}

/-- Only blanks stand between two offsets. -/
def Blank (t : Text) (start stop : Nat) : Prop := ∀ k, start ≤ k → k < stop → ∃ c, t[k]? = some c ∧ isBlank c = true

/-- A head of the wrapper stands from `i` to `j`, with its comma at `k` and `n` blanks between the comma and the
word `icon`. -/
structure HeadAt (t : Text) (i j k n : Nat) : Prop where
  before : Lacks t.toArray ',' i k
  after : Lacks t.toArray ',' (k + 1) j
  blanks : Blank t (k + 1) (k + 1 + n)
  icon : StandsAt t "icon)".toList (k + 1 + n)
  gap : Blank t (k + 6 + n) (j - 1)
  brace : t[j - 1]? = some '{'
  order : k + 6 + n < j

theorem way_blanks {st st' : State} (way : Way t.toArray blanks st st') :
    ∃ n, st' = st.moved (st.pos + n) ∧ Blank t st.pos (st.pos + n) := by
  cases way with
  | @chars _ _ _ _ _ n enough limit hold =>
      refine ⟨n, rfl, fun k from_ before => ?_⟩
      obtain ⟨c, at_, blank⟩ := passes_toArray.1 (hold (k - st.pos) (by omega))
      rw [show st.pos + (k - st.pos) = k by omega] at at_
      exact ⟨c, at_, (blankTest_iff c).1 blank⟩

theorem lacks_of_standsAt {w : Text} {p : Nat} {c : Char} (stands : StandsAt t w p) (plain : c ∉ w) :
    Lacks t.toArray c p (p + w.length) := by
  intro k from_ before found
  rw [List.getElem?_toArray, stands.getElem? from_ before] at found
  exact plain (List.mem_of_getElem? found)

theorem Blank.lacks {start stop : Nat} {c : Char} (blank : Blank t start stop) (solid : isBlank c = false) :
    Lacks t.toArray c start stop := by
  intro k from_ before found
  obtain ⟨d, at_, isBlank_⟩ := blank k from_ before
  rw [List.getElem?_toArray, at_] at found
  rw [Option.some.inj found, solid] at isBlank_
  simp at isBlank_

/-- **What the anchor matches is a head of the wrapper.** -/
theorem headAt_of_match {i : Nat} {moving : Bool} {m : Match}
    (found : matchAt? wrapperAnchor t.toArray i moving = some m) : ∃ k n, HeadAt t i m.span.stop k n := by
  obtain ⟨-, way⟩ := matchAt?_way isSteady_wrapperAnchor found
  generalize ended : (⟨m.span.stop, m.groups⟩ : State) = st at way
  -- The way goes through the parts of the pattern from left to right.
  obtain ⟨keyword, rest⟩ := way_literal way
  cases rest with
  | seq first rest =>
  obtain ⟨gap, rfl, blank⟩ := way_blanks first
  obtain ⟨paren, rest⟩ := way_literal rest
  cases rest with
  | seq name rest =>
  cases name with
  | group name =>
  cases name with
  | @chars _ _ _ _ _ width _ _ hold =>
  obtain ⟨comma, rest⟩ := way_literal rest
  cases rest with
  | seq second rest =>
  obtain ⟨n, rfl, blank'⟩ := way_blanks second
  obtain ⟨icon, rest⟩ := way_literal rest
  cases rest with
  | seq third last =>
  obtain ⟨gap', rfl, blank''⟩ := way_blanks third
  cases last with
  | char brace =>
  have stop := congrArg State.pos ended
  have width₁ : "function replaceable".toList.length = 20 := rfl
  have width₂ : "(".toList.length = 1 := rfl
  have width₃ : ",".toList.length = 1 := rfl
  have width₄ : "icon)".toList.length = 5 := rfl
  simp only [State.moved, State.setGroup, startState, width₁, width₂, width₃, width₄] at *
  have solid : isBlank ',' = false := by decide
  have keyword_ : Lacks t.toArray ',' i (i + 20) := lacks_of_standsAt keyword (by decide)
  have paren_ : Lacks t.toArray ',' (i + 20 + gap) (i + 20 + gap + 1) := lacks_of_standsAt paren (by decide)
  have name_ := lacks_of_passes (c := ',') (by decide) hold
  have icon_ : Lacks t.toArray ',' (i + 20 + gap + 1 + width + 1 + n) (i + 20 + gap + 1 + width + 1 + n + 5) :=
    lacks_of_standsAt icon (by decide)
  have body := passes_only.1 brace
  have brace_ : Lacks t.toArray ',' (m.span.stop - 1) m.span.stop := by
    intro x from_ before found
    rw [List.getElem?_toArray, show x = i + 20 + gap + 1 + width + 1 + n + 5 + gap' by omega, body] at found
    simp at found
  refine ⟨i + 20 + gap + 1 + width, n, ?_, ?_, blank', icon, ?_, ?_, ?_⟩
  · exact ((keyword_.append (blank.lacks solid)).append paren_).append name_
  · rw [show m.span.stop - 1 = i + 20 + gap + 1 + width + 1 + n + 5 + gap' by omega] at brace_
    exact (((blank'.lacks solid).append icon_).append (blank''.lacks solid)).append brace_
  · rw [stop, show i + 20 + gap + 1 + width + 6 + n = i + 20 + gap + 1 + width + 1 + n + 5 by omega]
    exact blank''
  · rw [stop]
    exact body
  · omega

/-! ## Which parameter is renamed -/

/-- **Where the head is written as the text that is replaced**: the text stands in the match, and only blanks
separate it from the brace. -/
theorem HeadAt.plain {i j k n p : Nat} (head : HeadAt t i j k n) (stands : StandsAt t wrapperHead.pattern p)
    (from_ : i ≤ p) (upTo : p + wrapperHead.pattern.length ≤ j) :
    p + wrapperHead.pattern.length < j ∧ Blank t (p + wrapperHead.pattern.length) (j - 1) := by
  have width : wrapperHead.pattern.length = 32 := rfl
  rw [width] at upTo ⊢
  -- Both commas are the only one of the match.
  have comma : t[p + 25]? = some ',' := stands 25 ',' rfl
  have same : p + 25 = k := by
    by_contra other
    have order := head.order
    rcases Nat.lt_or_ge (p + 25) k with early | late
    · exact head.before (p + 25) (by omega) early (by rwa [List.getElem?_toArray])
    · exact head.after (p + 25) (by omega) (by omega) (by rwa [List.getElem?_toArray])
  -- One blank follows it in the text that is replaced, so one does in the match.
  have space : t[p + 26]? = some ' ' := stands 26 ' ' rfl
  have letter : t[p + 27]? = some 'i' := stands 27 'i' rfl
  have first : t[k + 1 + n]? = some 'i' := head.icon 0 'i' rfl
  have one : n = 1 := by
    rcases Nat.lt_trichotomy n 1 with none_ | one | more
    · rw [show k + 1 + n = p + 26 by omega, space] at first
      simp at first
    · exact one
    · obtain ⟨c, at_, blank⟩ := head.blanks (p + 27) (by omega) (by omega)
      rw [letter] at at_
      rw [← Option.some.inj at_] at blank
      exact absurd blank (by decide)
  have gap := head.gap
  have order := head.order
  rw [show k + 6 + n = p + 32 by omega] at gap order
  exact ⟨order, gap⟩

/-- A literal that is replaced once is replaced where it first stands. -/
theorem mem_once_iff {r : Replacement} (kind : r.regex = false) (once : r.count = 1) (some_ : r.pattern ≠ [])
    (e : Edit) :
    e ∈ r.edits t ↔ ∃ p, e = .overwrite p (p + r.pattern.length) r.replacement ∧ StandsAt t r.pattern p ∧
      ∀ q < p, ¬ StandsAt t r.pattern q := by
  have firstOnly : limited r.count (occurrences r.pattern t) = (occurrences r.pattern t).head?.toList := by
    rw [limited, once, if_pos (by decide)]
    cases occurrences r.pattern t <;> rfl
  rw [literal_edits kind, Replacement.literalOccurrences, firstOnly, List.map_map, List.mem_map]
  constructor
  · rintro ⟨p, head, rfl⟩
    exact ⟨p, rfl, (occurrences_head_iff some_).1 (Option.mem_toList.1 head)⟩
  · rintro ⟨p, rfl, first⟩
    exact ⟨p, Option.mem_toList.2 ((occurrences_head_iff some_).2 first), rfl⟩

/-- One of the edits renames a parameter of the wrapper within a range. -/
def RenamesWithin (es : List Edit) (start stop : Nat) : Prop :=
  ∃ p, .overwrite p (p + wrapperHead.pattern.length) wrapperHead.replacement ∈ es ∧
    start ≤ p ∧ p + wrapperHead.pattern.length ≤ stop

/-- A range that ends with a brace has the text that is replaced ahead of the brace, blanks aside. -/
def PlainBefore (t : Text) (start stop : Nat) : Prop :=
  ∃ p, start ≤ p ∧ StandsAt t wrapperHead.pattern p ∧ p + wrapperHead.pattern.length < stop ∧
    Blank t (p + wrapperHead.pattern.length) (stop - 1)

/-- **Whose parameter is renamed**: if the recipe inserts in the body of a wrapper, it renames that wrapper's own
parameter exactly if its head is written as the text that is replaced, and no such text stands before it. -/
theorem wrapper_renames_own_iff {t file : Text} {index : Nat}
    (inserted : .insertion index wrapperBody.template ∈ (applied t replaceableRecipe file).edits) :
    ∃ m stop, search wrapperAnchor t = some m ∧ Delimiters.braces.findClose t m.span.stop = some stop ∧
      m.span.stop ≤ index ∧ index ≤ stop ∧
      (RenamesWithin (applied t replaceableRecipe file).edits m.span.start m.span.stop ↔
        PlainBefore t m.span.start m.span.stop ∧ ∀ p < m.span.start, ¬ StandsAt t wrapperHead.pattern p) := by
  have upTo := (applied_reaches t replaceableRecipe file).1
  have inList : wrapperBody ∈ replaceableRecipe.insertions := by
    rw [replaceableRecipe_insertions]
    exact List.mem_cons_self
  obtain ⟨place, replaced, -⟩ := made_before_insertion upTo inList
    (fun i' member _ => List.mem_singleton.1 member) inserted
  obtain ⟨m, stop, found, closes, after, before⟩ := insertionPoint_inside (compile_wrapperAnchor inList) place
  obtain ⟨moving, at_⟩ := matchAt?_of_search found
  obtain ⟨k, n, head⟩ := headAt_of_match at_
  -- What is overwritten is the first place where the text stands.
  have first_iff : ∀ p,
      .overwrite p (p + wrapperHead.pattern.length) wrapperHead.replacement ∈
          (applied t replaceableRecipe file).edits ↔
        StandsAt t wrapperHead.pattern p ∧ ∀ q < p, ¬ StandsAt t wrapperHead.pattern q := by
    intro p
    constructor
    · intro member
      rcases mem_wrapper (upTo.subset member) with inHeads | ⟨i, content, same, -⟩
      · obtain ⟨p', same, first⟩ := (mem_once_iff rfl rfl wrapperHead_plain.2.2 _).1 inHeads
        rwa [(Edit.overwrite.inj same).1]
      · simp at same
    · intro first
      exact replaced wrapperHead List.mem_cons_self _
        ((mem_once_iff rfl rfl wrapperHead_plain.2.2 _).2 ⟨p, rfl, first⟩)
  refine ⟨m, stop, found, closes, after, before, ?_⟩
  constructor
  · rintro ⟨p, renamed, from_, within⟩
    obtain ⟨stands, first⟩ := (first_iff p).1 renamed
    obtain ⟨order, gap⟩ := head.plain stands from_ within
    exact ⟨⟨p, from_, stands, order, gap⟩, fun q early => first q (by omega)⟩
  · rintro ⟨⟨p, -, stands, order, -⟩, none_⟩
    obtain ⟨q, upTo_, first⟩ := stands.exists_first
    refine ⟨q, (first_iff q).2 first, ?_, by omega⟩
    by_contra early
    exact none_ q (by omega) first.1

/-- The head is written as the text that is replaced. -/
theorem wrapper_renames_own_wrapperCode :
    .insertion 53 wrapperBody.template ∈ (applied wrapperCode replaceableRecipe []).edits ∧
      ∃ m stop, search wrapperAnchor wrapperCode = some m ∧
        Delimiters.braces.findClose wrapperCode m.span.stop = some stop ∧ m.span.stop ≤ 53 ∧ 53 ≤ stop ∧
        (RenamesWithin (applied wrapperCode replaceableRecipe []).edits m.span.start m.span.stop ↔
          PlainBefore wrapperCode m.span.start m.span.stop ∧
            ∀ p < m.span.start, ¬ StandsAt wrapperCode wrapperHead.pattern p) := by
  have inserted : .insertion 53 wrapperBody.template ∈ (applied wrapperCode replaceableRecipe []).edits := by
    decide +kernel
  exact ⟨inserted, wrapper_renames_own_iff inserted⟩

/-- A wrapper whose first parameter has another name. -/
def keyedWrapper : Text := "function replaceable(key, icon) \x7b return \x7b setup() \x7b \x7d \x7d \x7d".toList

/-- Its body takes the insertion, and its parameter keeps its name. -/
theorem keyedWrapper_keeps_parameter :
    .insertion 52 wrapperBody.template ∈ (applied keyedWrapper replaceableRecipe []).edits ∧
      ∀ e ∈ (applied keyedWrapper replaceableRecipe []).edits, e.isOverwrite = false := by
  decide +kernel

end Graft.Session
