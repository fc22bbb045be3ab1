/-
# Graft.Proofs.Patch.Account -- what the report of a descriptor accounts for

The template of an insertion reads the names that its renames free, so an insertion is made with all its renames or
not at all.  What is left out has to be told, because a file that is patched in part works no longer.

A descriptor that is carried out on a fresh text made the edits that each of its replacements makes alone, and, for
each insertion that has a place, those of its renames and the template.  Nothing else is in the buffer, the report
counts all of it, and what is missing is listed and warned of (`applyDescriptor_accounted`).
-/
import Graft.Proofs.Patch.Course
import Graft.Proofs.Patch.Targets
import Mathlib.Data.List.Flatten

namespace Graft.Edit.Buffer

set_option autoImplicit false

/-- Without edits the text is left as it is. -/
theorem toText_ofText (t : Text) : (ofText t).toText = t := by
  cases t with
  | nil => rfl
  | cons c rest => simp [toText, pieces, ofText, ranked, layOut, kept, Text.slice]

end Graft.Edit.Buffer

namespace Graft.Patch

set_option autoImplicit false

open Graft.Edit

/-! ## What is made alone -/

/-- The edits that a replacement makes on a fresh text, with nothing before it. -/
def Replacement.alone (r : Replacement) (t : Text) : List Edit := (applyReplacement (Buffer.ofText t) r).1.edits

/-- The edits of an insertion: what its renames make alone and then the template, or nothing without a place. -/
def Insertion.alone (i : Insertion) (t : Text) : List Edit :=
  match insertionPoint t i with
  | .ok (some index) => i.renames.flatMap (·.alone t) ++ [.insertion index i.template]
  | _ => []

/-- A replacement that is made alone does not fail, counts what it makes and keeps to its own count. -/
structure Replacement.Counted (r : Replacement) (t : Text) : Prop where
  counts : (applyReplacement (Buffer.ofText t) r).2 = .ok (r.alone t).length
  limits : 0 < r.count → ((r.alone t).length : Int) ≤ r.count

/-- The replacements that a descriptor makes in a text: its own, and the renames of what has a place. -/
def Descriptor.replacementsIn (d : Descriptor) (t : Text) : List Replacement :=
  d.replacements ++ (d.insertions.filter (!·.missingIn t)).flatMap (·.renames)

/-- What is warned of: the insertions that have no place. -/
def Descriptor.warnings (d : Descriptor) (t file : Text) : List Notice :=
  (missingFrom t d.insertions).map fun i => .anchorMissing d.name file i.anchor i.innerAnchor

variable {t : Text} {r : Replacement} {i : Insertion} {d : Descriptor} {file : Text}

theorem Replacement.alone_eq (readable : r.Readable t) (takes : (Buffer.ofText t).Takes (r.edits t)) :
    r.alone t = r.edits t ∧ r.Counted t := by
  have outcome := (applyReplacement_course (Buffer.ofText t) r).completes readable takes
  have same : r.alone t = r.edits t := by
    rw [Replacement.alone, outcome]
    exact List.nil_append _
  refine ⟨same, ⟨?_, fun positive => ?_⟩⟩
  · rw [same, outcome]
    rfl
  · rw [same]
    obtain ⟨occurrences, found, had⟩ := readable
    exact r.length_edits_le positive found had

theorem Insertion.alone_of_found {index : Nat} (found : insertionPoint t i = .ok (some index)) :
    i.alone t = i.renames.flatMap (·.alone t) ++ [.insertion index i.template] := by
  simp only [Insertion.alone, found]

theorem Insertion.alone_of_missing (missing : i.missingIn t = true) : i.alone t = [] := by
  simp only [Insertion.alone, of_decide_eq_true missing]

/-- An insertion that can be read and is not missing has a place, and its renames can be read. -/
theorem Insertion.Readable.placed (readable : i.Readable t) (there : i.missingIn t = false) :
    ∃ index, insertionPoint t i = .ok (some index) ∧ ∀ r ∈ i.renames, r.Readable t := by
  obtain ⟨place, found, renames⟩ := readable
  cases place with
  | none => exact absurd found (of_decide_eq_false there)
  | some index => exact ⟨index, found, renames rfl⟩

theorem sublist_edits_of_mem {α : Type} {x : α} {xs : List α} (member : x ∈ xs) (edits : α → List Edit) :
    (edits x).Sublist (xs.flatMap edits) := by
  have single := (List.singleton_sublist.2 member).flatMap edits
  rwa [List.flatMap_singleton] at single

theorem Insertion.alone_eq (readable : i.Readable t) (takes : (Buffer.ofText t).Takes (i.edits t)) :
    i.alone t = i.edits t := by
  cases missing : i.missingIn t with
  | true => rw [i.alone_of_missing missing, Insertion.edits, of_decide_eq_true missing]
  | false =>
      obtain ⟨index, found, renames⟩ := readable.placed missing
      rw [Insertion.edits_of_found found] at takes ⊢
      rw [Insertion.alone_of_found found]
      refine congrArg (· ++ [_]) (List.flatMap_congr fun r member => ?_)
      refine (Replacement.alone_eq (renames r member) ?_).1
      exact takes.sublist ((sublist_edits_of_mem member (·.edits t)).trans (List.sublist_append_left _ _))

/-! ## What is warned of -/

/-- **One warning for each insertion that has no place**, in order. -/
theorem applyInsertions_notices (file : Text) (b : Buffer) (report : Report) (is : List Insertion) {after : Report}
    (ran : (applyInsertions file b report is).result = .ok after) :
    (applyInsertions file b report is).notices =
      (missingFrom b.base is).map fun i => .anchorMissing report.descriptor file i.anchor i.innerAnchor := by
  induction is generalizing b report with
  | nil => rfl
  | cons i rest ih =>
      have first := applyInsertion_course b i
      rw [applyInsertions] at ran ⊢
      generalize applyInsertion b i = outcome at first ran ⊢
      cases first with
      | stopped => simp at ran
      | done reads takes =>
          rw [missingFrom_cons]
          cases missing : i.missingIn b.base with
          | true =>
              have none_ : i.renamed? b.base = none := by simp [Insertion.renamed?, missing]
              have listed : missingFrom b.base [i] = [i] := by simp [missingFrom, missing]
              rw [none_] at ran ⊢
              rw [listed]
              exact congrArg (_ :: ·) (ih _ _ ran)
          | false =>
              obtain ⟨count, some_⟩ : ∃ count, i.renamed? b.base = some count := by simp [Insertion.renamed?, missing]
              have unlisted : missingFrom b.base [i] = [] := by simp [missingFrom, missing]
              rw [some_] at ran ⊢
              rw [unlisted]
              exact ih _ _ ran

/-- A report tells of a change exactly if it counts an edit. -/
theorem Descriptor.report_changed (d : Descriptor) (t : Text) : (d.report t).changed = true ↔ d.edits t ≠ [] := by
  have all := (d.edits t).length_eq_countP_add_countP (·.isOverwrite)
  have counts : (d.report t).changed = true ↔
      (d.edits t).countP (·.isOverwrite) ≠ 0 ∨ (d.edits t).countP (!·.isOverwrite) ≠ 0 := by
    simp [Report.changed, Descriptor.report, Report.plus]
  rw [counts, ← List.length_pos_iff]
  simp only [Bool.not_eq_true, Bool.decide_eq_false] at all
  omega

/-- What a descriptor that is carried out tells: the warnings, and an error after them if it is carried out in part. -/
theorem applyDescriptor_notices (d : Descriptor) (file : Text) (b : Buffer) {report : Report}
    (ran : (applyDescriptor b d file).result = .ok report) :
    (applyDescriptor b d file).notices = d.warnings b.base file ++ partialNotice file (d.report b.base) := by
  obtain ⟨-, rfl⟩ := applyDescriptor_ok_iff.1 ran
  have first := applyReplacements_course b d.replacements
  rw [applyDescriptor] at ran ⊢
  generalize applyReplacements b d.replacements = outcome at first ran ⊢
  cases first with
  | stopped => simp at ran
  | done reads takes =>
      simp only at ran ⊢
      split at ran
      · rename_i fault fails
        cases fails.symm.trans ran
      · rename_i report' done
        simp only [done] at ran ⊢
        obtain rfl := Except.ok.inj ran
        rw [applyInsertions_notices _ _ _ _ done]
        rfl

/-! ## The account -/

/-- The report accounts for all that a descriptor made of a fresh text and for all that it told. -/
structure Accounted (t : Text) (d : Descriptor) (file : Text) (report : Report) : Prop where
  /-- The edits are counted by their kinds, and the anchors of what has no place are listed in order. -/
  reported : report = {
    descriptor := d.name
    replacements := (applied t d file).edits.countP (·.isOverwrite)
    insertions := (applied t d file).edits.countP (!·.isOverwrite)
    missingAnchors := (missingFrom t d.insertions).map (·.anchor) }
  made : (applied t d file).edits = d.replacements.flatMap (·.alone t) ++ d.insertions.flatMap (·.alone t)
  /-- What has no place makes nothing. -/
  skipped : ∀ i ∈ d.insertions, i.missingIn t = true → i.alone t = []
  /-- All else makes its renames and its template. -/
  placed : ∀ i ∈ d.insertions, i.missingIn t = false → ∃ index, insertionPoint t i = .ok (some index) ∧
    i.alone t = i.renames.flatMap (·.alone t) ++ [.insertion index i.template]
  counted : ∀ r ∈ d.replacementsIn t, r.Counted t
  told : (applyDescriptor (Buffer.ofText t) d file).notices = d.warnings t file ++
    if missingFrom t d.insertions ≠ [] ∧ (applied t d file).edits ≠ [] then
      [.partlyPatched d.name file (missingFrom t d.insertions).length]
    else []
  levels : (applyDescriptor (Buffer.ofText t) d file).notices.map (·.level) =
    List.replicate (missingFrom t d.insertions).length .warning ++
      if missingFrom t d.insertions ≠ [] ∧ (applied t d file).edits ≠ [] then [.error] else []

theorem partialNotice_report (d : Descriptor) (t file : Text) :
    partialNotice file (d.report t) = if missingFrom t d.insertions ≠ [] ∧ d.edits t ≠ [] then
      [.partlyPatched d.name file (missingFrom t d.insertions).length] else [] := by
  have missing : (d.report t).missingAnchors = (missingFrom t d.insertions).map (·.anchor) := List.nil_append _
  have partly : (d.report t).isPartial = true ↔ missingFrom t d.insertions ≠ [] ∧ d.edits t ≠ [] := by
    simp [Report.isPartial, d.report_changed, missing, and_comm]
  rw [partialNotice, missing, List.length_map]
  exact if_congr partly rfl rfl

theorem warnings_level (d : Descriptor) (t file : Text) :
    (d.warnings t file).map (·.level) = List.replicate (missingFrom t d.insertions).length .warning := by
  rw [Descriptor.warnings, List.map_map]
  exact List.map_const'

/-- Each replacement that a descriptor makes in a text asks for some of the edits. -/
theorem mem_replacementsIn (readable : d.Readable t) (member : r ∈ d.replacementsIn t) :
    r.Readable t ∧ (r.edits t).Sublist (d.edits t) := by
  rcases List.mem_append.1 member with own | renamed
  · exact ⟨readable.1 r own, (sublist_edits_of_mem own (·.edits t)).trans (List.sublist_append_left _ _)⟩
  · obtain ⟨i, inList, inRenames⟩ := List.mem_flatMap.1 renamed
    obtain ⟨inInsertions, there⟩ := List.mem_filter.1 inList
    obtain ⟨index, found, renames⟩ := (readable.2 i inInsertions).placed (by simpa using there)
    refine ⟨renames r inRenames, ?_⟩
    have inInsertion : (r.edits t).Sublist (i.edits t) := by
      rw [Insertion.edits_of_found found]
      exact (sublist_edits_of_mem inRenames (·.edits t)).trans (List.sublist_append_left _ _)
    exact inInsertion.trans ((sublist_edits_of_mem inInsertions (·.edits t)).trans (List.sublist_append_right _ _))

/-- **The report accounts for every edit**, and insertions are made with all their renames or not at all.  If there is
nothing to replace and no insertion has a place, the text is left as it is. -/
theorem applyDescriptor_accounted {report : Report}
    (ran : (applyDescriptor (Buffer.ofText t) d file).result = .ok report) :
    Accounted t d file report ∧
      (d.replacements = [] → missingFrom t d.insertions = d.insertions → (applied t d file).toText = t) := by
  obtain ⟨⟨readable, takes⟩, rfl⟩ := applyDescriptor_ok_iff.1 ran
  obtain ⟨buffer, edits⟩ := applied_of_ok ran
  have asked : d.edits t = d.replacements.flatMap (·.alone t) ++ d.insertions.flatMap (·.alone t) := by
    refine congr (congrArg (· ++ ·) (List.flatMap_congr ?_)) (List.flatMap_congr ?_)
    · intro r own
      obtain ⟨reads, some_⟩ := mem_replacementsIn readable (List.mem_append_left _ own)
      exact (Replacement.alone_eq reads (takes.sublist some_)).1.symm
    · intro i inList
      have some_ : (i.edits t).Sublist (d.edits t) :=
        (sublist_edits_of_mem inList (·.edits t)).trans (List.sublist_append_right _ _)
      exact (Insertion.alone_eq (readable.2 i inList) (takes.sublist some_)).symm
  have told : (applyDescriptor (Buffer.ofText t) d file).notices = d.warnings t file ++
      if missingFrom t d.insertions ≠ [] ∧ d.edits t ≠ [] then
        [.partlyPatched d.name file (missingFrom t d.insertions).length]
      else [] :=
    (applyDescriptor_notices d file _ ran).trans (congrArg (_ ++ ·) (partialNotice_report d t file))
  refine ⟨⟨?_, edits.trans asked, ?_, ?_, ?_, ?_, ?_⟩, ?_⟩
  · rw [edits]
    simp [Descriptor.report, Report.plus, Buffer.ofText]
  · intro i _ missing
    exact i.alone_of_missing missing
  · intro i inList there
    obtain ⟨index, found, -⟩ := (readable.2 i inList).placed there
    exact ⟨index, found, Insertion.alone_of_found found⟩
  · intro r member
    obtain ⟨reads, some_⟩ := mem_replacementsIn readable member
    exact (Replacement.alone_eq reads (takes.sublist some_)).2
  · rw [edits]
    exact told
  · rw [edits, told, List.map_append, warnings_level, apply_ite (List.map _)]
    rfl
  · intro none_ missing
    have idle : d.edits t = [] := by
      rw [asked, none_, List.flatMap_nil, List.nil_append, List.flatMap_eq_nil_iff]
      intro i inList
      exact i.alone_of_missing (List.filter_eq_self.1 missing i inList)
    rw [buffer, idle, Buffer.adding_nil, Buffer.toText_ofText]

/-- Two insertions, each with a rename; the second finds its anchor but no body. -/
def twoInsertions : Descriptor where
  name := "two".toList
  insertions := [
    { anchor := "f\\(\\) \\\x7b".toList, innerAnchor := "g\\(\\) \\\x7b".toList, template := " a = _a;".toList
      renames := [{ pattern := "import a".toList, replacement := "import _a".toList }] },
    { anchor := "h\\(\\) \\\x7b".toList, innerAnchor := "g\\(\\) \\\x7b".toList, template := " b = _b;".toList
      renames := [{ pattern := "import b".toList, replacement := "import _b".toList }] }]

def twoBodies : Text := "import a; import b; f() \x7b g() \x7b a \x7d \x7d h() \x7b b \x7d".toList

theorem twoInsertions_accounted :
    (applyDescriptor (Buffer.ofText twoBodies) twoInsertions "x.js".toList).result =
        .ok ⟨"two".toList, 1, 1, ["h\\(\\) \\\x7b".toList]⟩ ∧
      Accounted twoBodies twoInsertions "x.js".toList ⟨"two".toList, 1, 1, ["h\\(\\) \\\x7b".toList]⟩ := by
  have ran : (applyDescriptor (Buffer.ofText twoBodies) twoInsertions "x.js".toList).result =
      .ok ⟨"two".toList, 1, 1, ["h\\(\\) \\\x7b".toList]⟩ := by decide +kernel
  exact ⟨ran, (applyDescriptor_accounted ran).1⟩

end Graft.Patch
