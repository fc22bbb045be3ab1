/-
# Graft.Proofs.SourceMap.Decoding -- reading mappings by the rules of the format

Mappings are read as a consumer of source maps reads them, from the text alone: groups between semicolons,
one for each line of the output; segments between commas; in a segment variable-length integers, each the
difference to a running value.  The output column begins anew on each line, the source and the place in the
base text are carried on.

* `decodeMappings_encodeLines`: lines of entries read back, if each entry is on the line it is written for.
* `groupLines_flatten`: grouping entries that are sorted by line loses none.
-/
import Graft.Proofs.SourceMap.Vlq
import Graft.Proofs.Text.Parts
import Graft.Proofs.Text.Place
import Graft.SourceMap.Mappings
import Mathlib.Data.List.TakeDrop
import Mathlib.Data.List.TakeWhile

namespace Graft.SourceMap

set_option autoImplicit false

open Graft.Edit Graft.Text

/-! ## The reader -/

/-- The running values that segments are differences to, but for the output column. -/
structure Running where
  source : Nat
  base : Place
  deriving DecidableEq, Repr

/-- A running value moved by a difference; it must not go below zero. -/
def moved? (value : Nat) (difference : Int) : Option Nat :=
  if 0 ≤ (value : Int) + difference then some ((value : Int) + difference).toNat else none

/-- Reads one segment of a line: its entry, and the source and place in the base carried on. -/
def decodeSegment (line column : Nat) (last : Running) (segment : Text) : Option (Entry × Running) := do
  match ← decodeFields segment with
  | [dColumn, dSource, dBaseLine, dBaseColumn] =>
    let column' ← moved? column dColumn
    let source ← moved? last.source dSource
    let baseLine ← moved? last.base.line dBaseLine
    let baseColumn ← moved? last.base.column dBaseColumn
    return (⟨⟨line, column'⟩, ⟨baseLine, baseColumn⟩⟩, ⟨source, ⟨baseLine, baseColumn⟩⟩)
  | _ => none

def decodeSegments (line : Nat) : Nat → Running → List Text → Option (List Entry × Running)
  | _, last, [] => some ([], last)
  | column, last, segment :: rest => do
    let (e, running) ← decodeSegment line column last segment
    let (es, after) ← decodeSegments line e.output.column running rest
    return (e :: es, after)

/-- The segments of a group; an empty group has none. -/
def segmentsOf (group : Text) : List Text := if group.isEmpty then [] else List.splitOn ',' group

def decodeGroups : Nat → Running → List Text → Option (List (List Entry))
  | _, _, [] => some []
  | line, last, group :: rest => do
    let (es, after) ← decodeSegments line 0 last (segmentsOf group)
    return es :: (← decodeGroups (line + 1) after rest)

/-- The entries of each group of mappings. -/
def decodeMappings (mappings : Text) : Option (List (List Entry)) :=
  decodeGroups 0 ⟨0, ⟨0, 0⟩⟩ (List.splitOn ';' mappings)

/-! ## Reading back what was written -/

theorem moved?_difference (value value' : Nat) : moved? value ((value' : Int) - value) = some value' := by
  unfold moved?
  split
  · exact congrArg some (by omega)
  · omega

theorem decodeSegment_encodeEntry (column source : Nat) (last : Place) (e : Entry) :
    decodeSegment e.output.line column ⟨source, last⟩ (encodeEntry column last e) =
      some (e, ⟨source, e.base⟩) := by
  have fields : encodeEntry column last e =
      [(e.output.column : Int) - column, 0, (e.base.line : Int) - last.line,
        (e.base.column : Int) - last.column].flatMap encodeVlq := by
    simp [encodeEntry]
  have still : moved? source 0 = some source := by simpa using moved?_difference source source
  rw [decodeSegment, fields, decodeFields_encode]
  simp [moved?_difference, still]

theorem decodeSegments_encodeLine (line column source : Nat) (last : Place) (es : List Entry)
    (onLine : ∀ e ∈ es, e.output.line = line) :
    decodeSegments line column ⟨source, last⟩ (encodeLine column last es).1 =
      some (es, ⟨source, (encodeLine column last es).2⟩) := by
  induction es generalizing column last with
  | nil => rfl
  | cons e rest ih =>
      have first := decodeSegment_encodeEntry column source last e
      rw [onLine e List.mem_cons_self] at first
      have later := ih e.output.column e.base fun x member => onLine x (List.mem_cons_of_mem e member)
      simp [encodeLine, decodeSegments, first, later]

theorem encodeEntry_ne_nil (column : Nat) (last : Place) (e : Entry) : encodeEntry column last e ≠ [] := by
  simp [encodeEntry, encodeVlq, encodeNat_ne_nil]

theorem not_mem_encodeEntry {c : Char} (other : c ∉ base64Digits) (column : Nat) (last : Place) (e : Entry) :
    c ∉ encodeEntry column last e := by
  simp [encodeEntry, not_mem_encodeVlq other]

theorem mem_encodeLine {column : Nat} {last : Place} {es : List Entry} {segment : Text}
    (member : segment ∈ (encodeLine column last es).1) :
    ∃ column' last' e, segment = encodeEntry column' last' e := by
  induction es generalizing column last with
  | nil => simp [encodeLine] at member
  | cons e rest ih =>
      rcases List.mem_cons.1 member with rfl | later
      · exact ⟨column, last, e, rfl⟩
      · exact ih later

/-- The segments of a line are found again between its commas. -/
theorem segmentsOf_encodeLine (column : Nat) (last : Place) (es : List Entry) :
    segmentsOf ([','].intercalate (encodeLine column last es).1) = (encodeLine column last es).1 := by
  have clear : ∀ segment ∈ (encodeLine column last es).1, ',' ∉ segment := by
    intro segment member
    obtain ⟨column', last', e, rfl⟩ := mem_encodeLine member
    exact not_mem_encodeEntry (by decide) column' last' e
  cases es with
  | nil => rfl
  | cons e rest =>
      have shown : ([','].intercalate (encodeLine column last (e :: rest)).1).isEmpty = false := by
        obtain ⟨c, digits, written⟩ := List.exists_cons_of_ne_nil (encodeEntry_ne_nil column last e)
        cases tail : (encodeLine e.output.column e.base rest).1 <;>
          simp [encodeLine, tail, List.intercalate, written]
      rw [segmentsOf, shown]
      exact List.splitOn_intercalate _ clear (by simp [encodeLine])

theorem encodeLines_ne_nil {last : Place} {lines : List (List Entry)} (some_ : lines ≠ []) :
    encodeLines last lines ≠ [] := by
  cases lines with
  | nil => exact absurd rfl some_
  | cons => simp [encodeLines]

theorem not_mem_encodeLines {last : Place} {lines : List (List Entry)} {group : Text}
    (member : group ∈ encodeLines last lines) : ';' ∉ group := by
  induction lines generalizing last with
  | nil => simp [encodeLines] at member
  | cons es rest ih =>
      rcases List.mem_cons.1 member with rfl | later
      · intro semicolon
        rcases mem_intercalate semicolon with comma | ⟨segment, inLine, inSegment⟩
        · exact absurd comma (by decide)
        · obtain ⟨column', last', e, rfl⟩ := mem_encodeLine inLine
          exact not_mem_encodeEntry (by decide) column' last' e inSegment
      · exact ih later

/-- Each entry is on the line of its group, the groups being those of the lines from `line` on. -/
def OnLines : Nat → List (List Entry) → Prop
  | _, [] => True
  | line, es :: rest => (∀ e ∈ es, e.output.line = line) ∧ OnLines (line + 1) rest

theorem decodeGroups_encodeLines (line source : Nat) (last : Place) (lines : List (List Entry))
    (onLines : OnLines line lines) :
    decodeGroups line ⟨source, last⟩ (encodeLines last lines) = some lines := by
  induction lines generalizing line last with
  | nil => rfl
  | cons es rest ih =>
      have here := decodeSegments_encodeLine line 0 source last es onLines.1
      have later := ih (line + 1) (encodeLine 0 last es).2 onLines.2
      simp [encodeLines, decodeGroups, segmentsOf_encodeLine, here, later]

/-- **Lines of entries read back from their mappings.** -/
theorem decodeMappings_encodeLines {lines : List (List Entry)} (some_ : lines ≠ [])
    (onLines : OnLines 0 lines) :
    decodeMappings ([';'].intercalate (encodeLines ⟨0, 0⟩ lines)) = some lines := by
  rw [decodeMappings, List.splitOn_intercalate _ (fun _ member => not_mem_encodeLines member)
    (encodeLines_ne_nil some_)]
  exact decodeGroups_encodeLines 0 0 ⟨0, 0⟩ lines onLines

/-! ## Grouping by line -/

theorem groupLines_succ (count line : Nat) (es : List Entry) :
    groupLines (count + 1) line es =
      es.takeWhile (·.output.line == line) ::
        groupLines count (line + 1) (es.dropWhile (·.output.line == line)) := by
  rw [groupLines, List.span_eq_takeWhile_dropWhile]

theorem length_groupLines (count line : Nat) (es : List Entry) :
    (groupLines count line es).length = count := by
  induction count generalizing line es with
  | zero => rfl
  | succ count ih => simp [groupLines, ih]

theorem groupLines_onLines (count line : Nat) (es : List Entry) : OnLines line (groupLines count line es) := by
  induction count generalizing line es with
  | zero => trivial
  | succ count ih =>
      rw [groupLines_succ]
      refine ⟨fun e member => ?_, ih _ _⟩
      have here := List.mem_takeWhile_imp member
      exact beq_iff_eq.1 here

/-- Entries that are sorted by line, and on the lines that are grouped, all end up in a group. -/
theorem groupLines_flatten {count line : Nat} {es : List Entry}
    (sorted : es.Pairwise fun e e' => e.output.line ≤ e'.output.line)
    (within : ∀ e ∈ es, line ≤ e.output.line ∧ e.output.line < line + count) :
    (groupLines count line es).flatten = es := by
  induction count generalizing line es with
  | zero =>
      cases es with
      | nil => rfl
      | cons e rest =>
          have := within e List.mem_cons_self
          omega
  | succ count ih =>
      have rest_ : ∀ e ∈ es.dropWhile (·.output.line == line),
          line + 1 ≤ e.output.line ∧ e.output.line < line + 1 + count := by
        intro e member
        have bounds := within e (List.dropWhile_sublist _ |>.subset member)
        cases left : es.dropWhile (·.output.line == line) with
        | nil => simp [left] at member
        | cons first more =>
            have firstBounds := within first (List.dropWhile_sublist _ |>.subset (left ▸ List.mem_cons_self))
            have off : ¬ first.output.line = line := by
              have := List.head_dropWhile_not (p := (·.output.line == line)) (l := es) (by simp [left])
              simpa [left] using this
            have order := sorted.sublist (List.dropWhile_sublist (·.output.line == line))
            rw [left] at order member
            rcases List.mem_cons.1 member with rfl | later
            · omega
            · have := (List.pairwise_cons.1 order).1 e later
              omega
      rw [groupLines_succ, List.flatten_cons, ih (sorted.sublist (List.dropWhile_sublist _)) rest_,
        List.takeWhile_append_dropWhile]

end Graft.SourceMap
