/-
# Graft.Proofs.Patch.Shift -- edits behind a line in front

A line in front of a text moves the edits that a descriptor asks for, if nothing that the descriptor looks for
begins in the line.  The lines in question have a fixed head, and behind it neither a blank nor an opening
brace; then it can be computed from the first characters of a pattern that no match begins there (`barred`).

* `matchAt?_line`: no match begins in such a line, nor reaches over its end.
* `Descriptor.edits_shift`: the edits of a descriptor that is `movable` are moved.
-/
import Graft.Proofs.Edit.Shift
import Graft.Proofs.Patch.Edits
import Graft.Proofs.Regex.Literal
import Graft.Proofs.Regex.Shift

namespace Graft.Patch

set_option autoImplicit false

open Graft.Edit Graft.Regex Graft.Text

/-! ## What cannot begin in a line -/

/-- Some test fails on the text, if the tests are laid on it from an offset on. -/
def fails (head : Text) (start : Nat) (tests : List CharTest) : Bool :=
  (List.range tests.length).any fun k =>
    match tests[k]?, head[start + k]? with
    | some test, some c => !test.holds c
    | _, _ => false

/-- The test at `k` asks for `c`, and some test fails wherever the head has one at that place. -/
def marks (head : Text) (tests : List CharTest) (k : Nat) (c : Char) : Bool :=
  tests[k]? == some (.only c) &&
    (List.range head.length).all fun j => head[j]? != some c || j < k || fails head (j - k) tests

/-- The tests exclude a line feed, and one of them asks for a blank or a brace that is marked. -/
def barred (head : Text) (tests : List CharTest) : Bool :=
  tests.all (fun test => !test.holds '\n') &&
    (List.range tests.length).any fun k => marks head tests k ' ' || marks head tests k '{'

/-- The tests pass from an offset on. -/
def PassFrom (t : Text) (start : Nat) (tests : List CharTest) : Prop :=
  ∀ k test, tests[k]? = some test → ∃ c, t[start + k]? = some c ∧ test.holds c = true

theorem not_passFrom_of_fails {head t : Text} {start : Nat} {tests : List CharTest}
    (failing : fails head start tests = true) : ¬ PassFrom (head ++ t) start tests := by
  intro passed
  obtain ⟨k, -, failed⟩ := List.any_eq_true.1 failing
  split at failed
  · rename_i test c atTest atHead
    obtain ⟨d, at_, holds⟩ := passed k test atTest
    have inHead := (List.getElem?_eq_some_iff.1 atHead).1
    rw [List.getElem?_append_left inHead, atHead] at at_
    obtain rfl := Option.some.inj at_
    simp [holds] at failed
  · simp at failed

theorem not_passFrom_of_marks {head rest t : Text} {start k : Nat} {c : Char} {tests : List CharTest}
    (marked : marks head tests k c = true) (plain : c ∉ rest)
    (within : start + tests.length ≤ (head ++ rest).length) :
    ¬ PassFrom (head ++ (rest ++ t)) start tests := by
  intro passed
  simp only [marks, Bool.and_eq_true, beq_iff_eq] at marked
  obtain ⟨asks, clear⟩ := marked
  have inTests := (List.getElem?_eq_some_iff.1 asks).1
  obtain ⟨d, at_, holds⟩ := passed k _ asks
  obtain rfl := (CharTest.only_holds c d).1 holds
  rw [List.length_append] at within
  by_cases inHead : start + k < head.length
  · rw [List.getElem?_append_left inHead] at at_
    have refused := List.all_eq_true.1 clear (start + k) (List.mem_range.2 inHead)
    simp only [at_, bne_self_eq_false, Bool.false_or, Bool.or_eq_true, decide_eq_true_eq,
    Nat.add_sub_cancel] at refused
    rcases refused with before | failing
    · omega
    · exact not_passFrom_of_fails failing passed
  · rw [List.getElem?_append_right (Nat.le_of_not_lt inHead), List.getElem?_append_left (by omega)] at at_
    exact plain (List.mem_of_getElem? at_)

/-- **What is barred does not begin in the line.** -/
theorem not_passFrom_of_barred {head rest : Text}
    (plain : ' ' ∉ rest ∧ '{' ∉ rest) (t : Text) {tests : List CharTest}
    (bars : barred head tests = true) {start : Nat} (inLine : start < lineWidth (head ++ rest)) :
    ¬ PassFrom (head ++ rest ++ '\n' :: t) start tests := by
  intro passed
  simp only [barred, Bool.and_eq_true] at bars
  obtain ⟨noFeed, marked⟩ := bars
  -- The end of the line would have to pass a test, so all tests are within the line.
  have within : start + tests.length ≤ (head ++ rest).length := by
    by_contra beyond
    rw [lineWidth] at inLine
    have inTests : (head ++ rest).length - start < tests.length := by omega
    obtain ⟨c, at_, holds⟩ := passed _ _ (List.getElem?_eq_getElem inTests)
    rw [show start + ((head ++ rest).length - start) = (head ++ rest).length by omega,
      List.getElem?_append_right (Nat.le_refl _), Nat.sub_self, List.getElem?_cons_zero] at at_
    obtain rfl := Option.some.inj at_
    have refused := List.all_eq_true.1 noFeed _ (List.getElem_mem inTests)
    rw [holds] at refused
    exact absurd refused (by decide)
  rw [List.append_assoc] at passed
  obtain ⟨k, -, marked⟩ := List.any_eq_true.1 marked
  rcases Bool.or_eq_true_iff.1 marked with blank | brace
  · exact not_passFrom_of_marks blank plain.1 within passed
  · exact not_passFrom_of_marks brace plain.2 within passed

/-! ## What is looked for -/

section

variable {head rest : Text} (plain : ' ' ∉ rest ∧ '{' ∉ rest) (t : Text)

/-- A steady pattern that does not ask for its place in the whole text, and whose matches begin with what is barred. -/
def movablePattern (head : Text) (r : Regex) : Bool :=
  r.isSteady && r.pattern.isLocal && barred head r.pattern.lead.tests

include plain in
theorem matchAt?_line {r : Regex} (movable : movablePattern head r = true) :
    ∀ i < lineWidth (head ++ rest), matchAt? r (behindLine (head ++ rest) t) i false = none := by
  intro i inLine
  simp only [movablePattern, Bool.and_eq_true] at movable
  refine Option.eq_none_iff_forall_ne_some.2 fun m found => ?_
  refine not_passFrom_of_barred plain t movable.2 inLine fun k test asks => ?_
  exact passes_toArray.1 ((matchAt?_lead movable.1.1 found).passed k test asks)

include plain in
theorem occurrences_line {needle : Text} (bars : barred head (needle.map .only) = true) :
    occurrences needle (head ++ rest ++ '\n' :: t) =
      (occurrences needle t).map (lineWidth (head ++ rest) + ·) := by
  have some_ : needle ≠ [] := by
    rintro rfl
    simp [barred] at bars
  have width : lineWidth (head ++ rest) = (head ++ rest ++ ['\n']).length := by
    simp only [lineWidth, List.length_append, List.length_singleton]
  have whole : head ++ rest ++ '\n' :: t = (head ++ rest ++ ['\n']) ++ t := by simp
  rw [whole, width]
  refine occurrences_append some_ t fun i inLine stands => ?_
  rw [← width] at inLine
  rw [← whole] at stands
  refine not_passFrom_of_barred plain t bars inLine fun k test asks => ?_
  obtain ⟨c, found, rfl⟩ := Option.map_eq_some_iff.1 (List.getElem?_map ▸ asks)
  exact ⟨c, stands k c found, (CharTest.only_holds c c).2 rfl⟩

/-! ## Replacements -/

/-- What the replacement looks for does not begin in a line with this head. -/
def Replacement.movable (head : Text) (r : Replacement) : Bool :=
  if r.regex then
    match Regex.compile {} r.pattern with
    | .ok regex => movablePattern head regex
    | .error _ => false
  else barred head (r.pattern.map .only)

theorem slice_line (line t : Text) (start stop : Nat) :
    (line ++ '\n' :: t).slice (lineWidth line + start) (lineWidth line + stop) = t.slice start stop := by
  have moved := Buffer.slice_shift (line ++ ['\n']) t start stop
  rw [List.append_assoc, List.length_append] at moved
  exact moved

theorem limited_map {α β : Type} (count : Int) (f : α → β) (xs : List α) :
    limited count (xs.map f) = (limited count xs).map f := by
  unfold limited
  split
  · exact List.map_take.symm
  · rfl

theorem shift_group? (n : Nat) (m : Match) (index : Nat) :
    (m.shift n).group? index = (m.group? index).map (·.shift n) := by
  unfold Match.group?
  split
  · rfl
  · simp only [Match.shift, List.getElem?_map]
    cases m.groups[index - 1]? <;> rfl

theorem expandTemplate_line (r : Regex) (template line t : Text) (m : Match) :
    expandTemplate r template (line ++ '\n' :: t) (m.shift (lineWidth line)) =
      expandTemplate r template t m := by
  have expand : TemplatePart.expand (line ++ '\n' :: t) (m.shift (lineWidth line)) =
      TemplatePart.expand t m := by
    funext part
    cases part with
    | text => rfl
    | group index =>
        simp only [TemplatePart.expand, shift_group?]
        cases m.group? index with
        | none => rfl
        | some span => exact slice_line line t span.start span.stop
  simp only [expandTemplate, expand]

include plain in
theorem Replacement.edits_shift {r : Replacement} (movable : r.movable head = true) :
    r.edits (head ++ rest ++ '\n' :: t) = (r.edits t).map (·.shift (lineWidth (head ++ rest))) := by
  unfold Replacement.movable at movable
  cases kind : r.regex with
  | true =>
      simp only [kind, if_true] at movable
      split at movable
      · rename_i regex compiled
        have clear := matchAt?_line plain t movable
        simp only [movablePattern, Bool.and_eq_true] at movable
        obtain ⟨⟨steady, isLocal⟩, -⟩ := movable
        have proper : (isProper ∘ fun m : Match => m.shift (lineWidth (head ++ rest))) = isProper := by
          funext m
          rw [Function.comp_apply, Bool.eq_iff_iff, isProper_iff, isProper_iff]
          simp [Match.shift, Span.shift]
        simp only [steady_edits kind compiled steady, findAll_append steady isLocal _ t clear, List.filter_map, proper,
          limited_map, List.map_map]
        refine List.map_congr_left fun m _ => ?_
        simp only [Function.comp_apply, occurrenceOf, Occurrence.edit, expandTemplate_line]
        rfl
      · simp at movable
  | false =>
      simp only [kind, Bool.false_eq_true, if_false] at movable
      simp only [Replacement.edits, Replacement.occurrences, kind, Bool.false_eq_true, if_false,
        Replacement.literalOccurrences, occurrences_line plain t movable, limited_map, List.map_map]
      refine List.map_congr_left fun start _ => ?_
      simp only [Function.comp_apply, Occurrence.edit, Nat.add_assoc]
      rfl

/-! ## Insertions -/

/-- So for the anchor and the renames of an insertion, whose template leaves a trace. -/
def Insertion.movable (head : Text) (i : Insertion) : Bool :=
  (match Regex.compile {} i.anchor with
    | .ok anchor => movablePattern head anchor
    | .error _ => false) &&
    i.renames.all (·.movable head) && !i.template.isEmpty

theorem closeFrom_shift (d : Delimiters) (n depth pos : Nat) (t : Text) :
    d.closeFrom depth (n + pos) t = (d.closeFrom depth pos t).map (n + ·) := by
  induction t generalizing depth pos with
  | nil => rfl
  | cons c rest ih =>
      simp only [Delimiters.closeFrom, Nat.add_assoc, ih]
      split
      · rfl
      · split
        · cases depth <;> rfl
        · rfl

theorem findClose_line (d : Delimiters) (line t : Text) (start : Nat) :
    d.findClose (line ++ '\n' :: t) ((lineWidth line + start : Nat) : Int) =
      (d.findClose t (start : Int)).map (lineWidth line + ·) := by
  have dropped : (line ++ '\n' :: t).drop (lineWidth line + start) = t.drop start := by
    rw [lineWidth, List.drop_append, List.drop_of_length_le (by omega)]
    simp [show line.length + 1 + start - line.length = start + 1 by omega]
  simp only [Delimiters.findClose, Int.toNat_natCast, dropped, closeFrom_shift]

include plain in
theorem insertionPoint_shift {i : Insertion} (movable : i.movable head = true) :
    insertionPoint (head ++ rest ++ '\n' :: t) i =
      (insertionPoint t i).map (·.map (lineWidth (head ++ rest) + ·)) := by
  simp only [Insertion.movable, Bool.and_eq_true] at movable
  obtain ⟨⟨movable, -⟩, -⟩ := movable
  split at movable
  · rename_i anchor compiled
    have clear := matchAt?_line plain t movable
    simp only [movablePattern, Bool.and_eq_true] at movable
    obtain ⟨⟨steady, isLocal⟩, -⟩ := movable
    have searched := search_append steady isLocal (head ++ rest) t clear
    simp only [insertionPoint, compiled, Regex.find_of_steady steady, searched, bind, Except.bind, pure, Except.pure]
    cases search anchor t with
    | none => rfl
    | some m =>
        simp only [Option.map_some, Match.shift, Span.shift, findClose_line]
        cases Delimiters.braces.findClose t m.span.stop with
        | none => rfl
        | some stop =>
            simp only [Option.map_some, slice_line]
            cases Regex.compile {} i.innerAnchor with
            | error fault => rfl
            | ok inner =>
                simp only
                cases Regex.find inner (t.slice m.span.stop stop) with
                | error fault => rfl
                | ok place => simp only [Except.map, Option.map_map, Function.comp_def, Nat.add_assoc]
  · simp at movable

include plain in
theorem Insertion.edits_shift {i : Insertion} (movable : i.movable head = true) :
    i.edits (head ++ rest ++ '\n' :: t) = (i.edits t).map (·.shift (lineWidth (head ++ rest))) := by
  have renames : i.renames.flatMap (·.edits (head ++ rest ++ '\n' :: t)) =
      (i.renames.flatMap (·.edits t)).map (·.shift (lineWidth (head ++ rest))) := by
    simp only [Insertion.movable, Bool.and_eq_true, List.all_eq_true] at movable
    rw [List.map_flatMap]
    exact List.flatMap_congr fun r member => Replacement.edits_shift plain t (movable.1.2 r member)
  unfold Insertion.edits
  rw [insertionPoint_shift plain t movable, renames]
  cases insertionPoint t i with
  | error fault => rfl
  | ok place =>
      cases place with
      | none => rfl
      | some index => simp [Except.map, Edit.shift]

/-! ## Descriptors -/

def Descriptor.movable (head : Text) (d : Descriptor) : Bool :=
  d.replacements.all (·.movable head) && d.insertions.all (·.movable head)

include plain in
/-- **Behind the line, a descriptor asks for the same edits, moved.** -/
theorem Descriptor.edits_shift {d : Descriptor} (movable : d.movable head = true) :
    d.edits (head ++ rest ++ '\n' :: t) = (d.edits t).map (·.shift (lineWidth (head ++ rest))) := by
  simp only [Descriptor.movable, Bool.and_eq_true, List.all_eq_true] at movable
  rw [Descriptor.edits, Descriptor.edits, List.map_append, List.map_flatMap, List.map_flatMap]
  congr 1
  · exact List.flatMap_congr fun r member => Replacement.edits_shift plain t (movable.1 r member)
  · exact List.flatMap_congr fun i member => Insertion.edits_shift plain t (movable.2 i member)

end

/-! ## Edits that leave a trace -/

/-- The edit changes what it is made on, if only in where things come from. -/
def Visible (e : Edit) : Prop := e.isOverwrite = true ∨ e.content ≠ []

theorem Replacement.edits_visible {r : Replacement} {t : Text} {e : Edit}
    (member : e ∈ r.edits t) : Visible e := by
  unfold Replacement.edits at member
  split at member
  · obtain ⟨o, -, rfl⟩ := List.mem_map.1 member
    exact .inl rfl
  · simp at member

theorem Descriptor.edits_visible {head : Text} {d : Descriptor} (movable : d.movable head = true)
    {t : Text} {e : Edit} (member : e ∈ d.edits t) : Visible e := by
  simp only [Descriptor.movable, Bool.and_eq_true, List.all_eq_true] at movable
  rcases List.mem_append.1 member with inReplacements | inInsertions
  · obtain ⟨r, -, inEdits⟩ := List.mem_flatMap.1 inReplacements
    exact Replacement.edits_visible inEdits
  · obtain ⟨i, inList, inEdits⟩ := List.mem_flatMap.1 inInsertions
    have movable' := movable.2 i inList
    simp only [Insertion.movable, Bool.and_eq_true] at movable'
    unfold Insertion.edits at inEdits
    split at inEdits
    · rcases List.mem_append.1 inEdits with renames | own
      · obtain ⟨r, -, inEdits⟩ := List.mem_flatMap.1 renames
        exact Replacement.edits_visible inEdits
      · obtain rfl := List.mem_singleton.1 own
        exact .inr (by simpa [Edit.content] using movable'.2)
    · simp at inEdits

end Graft.Patch
