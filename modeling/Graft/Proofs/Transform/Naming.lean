/-
# Graft.Proofs.Transform.Naming -- what a transformation takes from the name of a file

The name of a file is looked at by the filters and by the dispatch, and it is quoted in notices and in the source map.
Each of those who look at it takes its backslashes for slashes on their own; the mark of the bundler, which a filter
asks for before it does so, is neither.  So under another name that reads the same with slashes a transformation goes
the same way, and only quotes the other name (`transform_renamed`).

That is an equation between the two runs, and not a relation that both would have to be kept in: each part of a
transformation has one lemma that says what becomes of it under the other name, and a run of stages is one induction.
-/
import Graft.Proofs.Patch.Dispatch
import Graft.Proofs.Transform.Plan

namespace Graft

set_option autoImplicit false

open Graft.Edit Graft.Patch

/-! ## Other names -/

/-- The notice with another name for the file that it is about. -/
def Notice.renamed (file : Text) : Notice → Notice
  | .anchorMissing descriptor _ anchor innerAnchor => .anchorMissing descriptor file anchor innerAnchor
  | .partlyPatched descriptor _ missing => .partlyPatched descriptor file missing
  | .noRecipe _ => .noRecipe file
  | .moduleMissing _ => .moduleMissing file
  | .transformFailed _ reason => .transformFailed file reason
  | notice => notice

/-- The patched file with another name in its source map. -/
def PatchResult.renamed (file : Text) (r : PatchResult) : PatchResult :=
  { r with map := { r.map with file := file, source := file } }

/-- What came of a descriptor, with another name in the notices. -/
def Patch.Application.renamed (file : Text) (a : Application) : Application :=
  { a with notices := a.notices.map (·.renamed file) }

/-- What came of a stage, with another name in the notices. -/
def Session.StageResult.renamed (file : Text) (r : StageResult) : StageResult :=
  { r with notices := r.notices.map (·.renamed file) }

/-! ## What looks at a name -/

section

variable {file file' : Text}

theorem Filter.normalized_marked_iff : (Filter.normalized file).head? = some '\x00' ↔ file.head? = some '\x00' := by
  cases file with
  | nil => rfl
  | cons c rest =>
      simp only [Filter.normalized, Text.replaceChar, List.map_cons, List.head?_cons, Option.some.injEq]
      by_cases back : c = '\\'
      · subst back
        decide
      · rw [if_neg back]

theorem Filter.passes_alike (alike : Filter.normalized file' = Filter.normalized file) (f : Filter) :
    f.passes file' = f.passes file := by
  have marked : file'.head? = some '\x00' ↔ file.head? = some '\x00' := by
    rw [← normalized_marked_iff, alike, normalized_marked_iff]
  simp only [Filter.passes, marked, alike]

theorem Patch.componentFor_alike (alike : Filter.normalized file' = Filter.normalized file) :
    componentFor file' = componentFor file := by
  have opened : ∀ file, componentFor file = componentDirectory.toOption.bind fun regex =>
      (Regex.search regex (Filter.normalized file)).bind fun m => (m.group? 1).bind fun span =>
        Component.all.find? (·.name == (Filter.normalized file).slice span.start span.stop) := fun _ => rfl
  rw [opened, opened, alike]

theorem Patch.selectDescriptor_renamed (alike : Filter.normalized file' = Filter.normalized file) (mode : Mode)
    (c : Category) :
    selectDescriptor mode c file' =
      ⟨(selectDescriptor mode c file).notices.map (·.renamed file'), (selectDescriptor mode c file).result⟩ := by
  cases c with
  | replaceable => rfl
  | exportDefault =>
      cases mode with
      | serve => rfl
      | build =>
          simp only [selectDescriptor, componentFor_alike alike]
          cases componentFor file <;> rfl

end

/-! ## What quotes a name -/

section

variable (file file' : Text)

theorem Patch.partialNotice_renamed (report : Report) :
    partialNotice file' report = (partialNotice file report).map (·.renamed file') := by
  unfold partialNotice
  split <;> rfl

/-- Nothing but notices depends on the name that insertions are given. -/
theorem Patch.applyInsertions_renamed (b : Buffer) (report : Report) (insertions : List Insertion) :
    applyInsertions file' b report insertions = (applyInsertions file b report insertions).renamed file' := by
  induction insertions generalizing b report with
  | nil => rfl
  | cons i rest ih =>
      rw [applyInsertions, applyInsertions]
      rcases applyInsertion b i with ⟨b', fault | (_ | count)⟩
      · rfl
      · simp only [ih]
        rfl
      · simp only [ih]

/-- Nor on the name that a descriptor is given. -/
theorem Patch.applyDescriptor_renamed (b : Buffer) (d : Descriptor) :
    applyDescriptor b d file' = (applyDescriptor b d file).renamed file' := by
  rw [applyDescriptor, applyDescriptor]
  rcases applyReplacements b d.replacements with ⟨b', fault | count⟩
  · rfl
  · simp only [applyInsertions_renamed file file']
    cases ran : (applyInsertions file b' { descriptor := d.name, replacements := count } d.insertions).result with
    | error => simp only [Application.renamed, ran]
    | ok report => simp only [Application.renamed, ran, partialNotice_renamed file file', List.map_append]

end

/-! ## Runs -/

namespace Session

variable {s : Session} {file file' : Text}

/-- A stage goes the same way under another name that reads the same. -/
theorem Stage.run_renamed (alike : Filter.normalized file' = Filter.normalized file) (b : Buffer) (stage : Stage) :
    stage.run s file' b = (stage.run s file b).renamed file' := by
  cases stage with
  | helper =>
      have same : s.filters.passesAny file' = s.filters.passesAny file := by
        simp only [FilterSet.passesAny, Filter.passes_alike alike]
      rw [Stage.run, Stage.run, same]
      cases s.filters.passesAny file <;> rfl
  | category c =>
      rw [Stage.run, Stage.run, Filter.passes_alike alike, selectDescriptor_renamed alike]
      cases (s.filters.forCategory c).passes file with
      | false => rfl
      | true =>
          cases selected : (selectDescriptor s.mode c file).result with
          | none => simp [selected, StageResult.renamed]
          | some d =>
              simp [selected, StageResult.renamed, applyDescriptor_renamed file file', Application.renamed]

/-- And so does a run of stages, whatever buffer it begins with. -/
theorem runStages_renamed (alike : Filter.normalized file' = Filter.normalized file) (b : Buffer) (concerned : Bool)
    (stages : List Stage) :
    s.runStages file' b concerned stages = (s.runStages file b concerned stages).renamed file' := by
  induction stages generalizing b concerned with
  | nil => rfl
  | cons stage rest ih =>
      rw [runStages, runStages, Stage.run_renamed alike]
      cases ran : (stage.run s file b).result with
      | error fault => simp only [StageResult.renamed, ran]
      | ok concerns => simp only [StageResult.renamed, ran, ih, List.map_append]

/-- **A transformation under another name that reads the same quotes that name, and is the same otherwise.** -/
theorem transform_renamed (alike : Filter.normalized file' = Filter.normalized file) (code : Text)
    (phase : Option Phase) :
    s.transform file' code phase =
      ⟨(s.transform file code phase).notices.map (·.renamed file'),
        (s.transform file code phase).result.map (Option.map (PatchResult.renamed file'))⟩ := by
  rw [transform, transform]
  split
  · rfl
  · rw [runStages_renamed alike]
    generalize s.runStages file (Buffer.ofText code) false (stagesOf phase) = run
    obtain ⟨b, notices, fault | concerned⟩ := run
    · rfl
    · simp only [StageResult.renamed, Except.map]
      by_cases patches : (concerned && b.hasChanged) = true
      · simp only [patches, if_true, Option.map_some, PatchResult.renamed, Buffer.sourceMap]
      · simp only [patches, Bool.false_eq_true, if_false, Option.map_none]

/-- **Slashes and backslashes are alike to a transformation.**  Under two names that are equal once backslashes are
taken for slashes, every session declines the file both times, or fails both times and for the same reason, or patches
it both times: to the same text, with the same positions and the same mappings.  The source map has the name that was
given, as the notices have, and nothing else in them differs. -/
theorem transform_separators (s : Session) {file file' : Text}
    (alike : Filter.normalized file' = Filter.normalized file) (code : Text) (phase : Option Phase) :
    ((s.transform file' code phase).result = .ok none ↔ (s.transform file code phase).result = .ok none) ∧
      (∀ fault, (s.transform file' code phase).result = .error fault ↔
        (s.transform file code phase).result = .error fault) ∧
      (∀ r', (s.transform file' code phase).result = .ok (some r') ↔
        ∃ r, (s.transform file code phase).result = .ok (some r) ∧ r'.text = r.text ∧ r'.positions = r.positions ∧
          r'.map = { r.map with file := file', source := file' }) ∧
      (s.transform file' code phase).notices = (s.transform file code phase).notices.map (·.renamed file') := by
  rw [transform_renamed alike]
  generalize s.transform file code phase = run
  obtain ⟨notices, result⟩ := run
  cases result with
  | error fault => simp [Except.map]
  | ok patched =>
      cases patched with
      | none => simp [Except.map]
      | some r =>
          refine ⟨by simp [Except.map], by simp [Except.map], fun r' => ?_, rfl⟩
          constructor
          · intro ran
            obtain rfl := Option.some.inj (Except.ok.inj ran)
            exact ⟨r, rfl, rfl, rfl, rfl⟩
          · rintro ⟨r₀, ran, text, positions, map⟩
            obtain rfl := Option.some.inj (Except.ok.inj ran)
            obtain ⟨text', positions', map'⟩ := r'
            subst text positions map
            rfl

/-- A build whose filters let the files of components through. -/
def moduleBuild : Session := { devServer with mode := .build, filters := ⟨defaultFilter, defaultFilter⟩ }

def slashedFile : Text := "C:/naive-ui/es/rate/src/Rate.mjs".toList

def backslashedFile : Text := "C:\\naive-ui\\es\\rate\\src\\Rate.mjs".toList

def rateCode : Text := "export default defineComponent(\x7b render() \x7b \x7d \x7d)".toList

theorem slashedFile_patched : ∃ r, (moduleBuild.transform slashedFile rateCode none).result = .ok (some r) := by
  have patches : (moduleBuild.transform slashedFile rateCode none).result.toOption.join.isSome = true := by
    decide +kernel
  generalize (moduleBuild.transform slashedFile rateCode none).result = result at patches ⊢
  rcases result with fault | (_ | r)
  · cases patches
  · cases patches
  · exact ⟨r, rfl⟩

theorem transform_separators_backslashed :
    Filter.normalized backslashedFile = Filter.normalized slashedFile ∧
      ∃ r r', (moduleBuild.transform slashedFile rateCode none).result = .ok (some r) ∧
        (moduleBuild.transform backslashedFile rateCode none).result = .ok (some r') ∧
        r'.text = r.text ∧ r'.positions = r.positions ∧
        r'.map = { r.map with file := backslashedFile, source := backslashedFile } := by
  have alike : Filter.normalized backslashedFile = Filter.normalized slashedFile := by decide
  obtain ⟨r, ran⟩ := slashedFile_patched
  obtain ⟨-, -, patched, -⟩ := transform_separators moduleBuild alike rateCode none
  have ran' := (patched (r.renamed backslashedFile)).2 ⟨r, ran, rfl, rfl, rfl⟩
  exact ⟨alike, r, r.renamed backslashedFile, ran, ran', rfl, rfl, rfl⟩

end Session

end Graft
