/-
# Graft.Proofs.Transform.Plan -- what a transformation is about to do

The stages of a session look for everything in the code they are given, so a transformation can be planned:
`planned` is the buffer with all texts in front and all edits that the stages ask for.  A session that does not
skip either patches the file as planned, or fails because the edits do not stand beside each other
(`transform_cases`).
-/
import Graft.Proofs.Patch.Course
import Graft.Proofs.Patch.Recipes
import Graft.Transform

namespace Graft.Session

set_option autoImplicit false

open Graft.Edit Graft.Patch

namespace Stage

/-- Whether the stage concerns a file. -/
def concerns (s : Session) (file : Text) : Stage → Bool
  | .helper => s.filters.passesAny file
  | .category c => (s.filters.forCategory c).passes file

/-- What the stage puts in front of a file. -/
def front (s : Session) (file : Text) : Stage → List Text
  | .helper => if s.filters.passesAny file then [s.helperImport] else []
  | .category _ => []

/-- The edits that the stage asks for in a file with this code. -/
def edits (s : Session) (file code : Text) : Stage → List Edit
  | .helper => []
  | .category c =>
    if (s.filters.forCategory c).passes file then
      ((selectDescriptor s.mode c file).result.map (·.edits code)).getD []
    else []

end Stage

/-- The buffer with what stages put in front and the edits that they ask for. -/
def afterStages (s : Session) (file : Text) (b : Buffer) (stages : List Stage) : Buffer where
  base := b.base
  intro := stages.reverse.flatMap (·.front s file) ++ b.intro
  edits := b.edits ++ stages.flatMap (·.edits s file b.base)

/-- The buffer that a transformation is about to reach. -/
def planned (s : Session) (file code : Text) (phase : Option Phase) : Buffer :=
  s.afterStages file (Buffer.ofText code) (stagesOf phase)

/-- What a file is patched to by a buffer. -/
def patched (file : Text) (b : Buffer) : PatchResult := ⟨b.toText, b.positionMap, b.sourceMap file none⟩

variable (s : Session) (file : Text)

/-- The texts in front play no part in whether edits are sound. -/
theorem sound_congr {b b' : Buffer} (sound : b.Sound) (base : b'.base = b.base) (edits : b'.edits = b.edits) :
    b'.Sound :=
  ⟨base ▸ edits ▸ sound.inRange, edits ▸ sound.apart⟩

/-- One stage does as planned, or fails. -/
theorem stage_cases {b : Buffer} (sound : b.Sound) (stage : Stage) :
    ((s.afterStages file b [stage]).Sound ∧ (stage.run s file b).buffer = s.afterStages file b [stage] ∧
        (stage.run s file b).result = .ok (stage.concerns s file)) ∨
      (¬ (s.afterStages file b [stage]).Sound ∧ ∃ fault, (stage.run s file b).result = .error fault) := by
  cases stage with
  | helper =>
      left
      by_cases passes : s.filters.passesAny file = true <;>
        simp [Stage.run, Stage.concerns, passes, afterStages, Stage.front, Stage.edits, Buffer.prepend]
      · exact sound_congr sound rfl rfl
      · exact sound
  | category c =>
      by_cases passes : (s.filters.forCategory c).passes file = true
      · cases selected : (selectDescriptor s.mode c file).result with
        | none =>
            left
            simpa [Stage.run, Stage.concerns, passes, afterStages, Stage.front, Stage.edits, selected] using sound
        | some d =>
            have after : s.afterStages file b [.category c] = b.adding (d.edits b.base) := by
              simp [afterStages, Stage.front, Stage.edits, passes, selected, Buffer.adding]
            rw [after]
            rcases applyDescriptor_makes sound (selectDescriptor_reads selected) file with
              ⟨sound', report, made⟩ | ⟨not_, b', fault, failed⟩
            · obtain ⟨buffer, result⟩ := Prod.mk.inj made
              exact .inl ⟨sound', by simp [Stage.run, passes, selected, buffer],
                by simp [Stage.run, Stage.concerns, passes, selected, result, Except.map]⟩
            · obtain ⟨-, result⟩ := Prod.mk.inj failed
              exact .inr ⟨not_, fault, by simp [Stage.run, passes, selected, result, Except.map]⟩
      · left
        simpa [Stage.run, Stage.concerns, passes, afterStages, Stage.front, Stage.edits] using sound

theorem afterStages_cons (b : Buffer) (stage : Stage) (rest : List Stage) :
    s.afterStages file b (stage :: rest) = s.afterStages file (s.afterStages file b [stage]) rest := by
  simp [afterStages]

theorem sound_of_afterStages {b : Buffer} {stages : List Stage}
    (sound : (s.afterStages file b stages).Sound) :
    b.Sound := by
  have edits : (b.adding (stages.flatMap (·.edits s file b.base))).Sound := sound_congr sound rfl rfl
  exact edits.of_adding

/-- Stages do as planned, or fail. -/
theorem runStages_cases {b : Buffer} (sound : b.Sound) (concerned : Bool) (stages : List Stage) :
    ((s.afterStages file b stages).Sound ∧
        (s.runStages file b concerned stages).buffer = s.afterStages file b stages ∧
        (s.runStages file b concerned stages).result = .ok (concerned || stages.any (·.concerns s file))) ∨
      (¬ (s.afterStages file b stages).Sound ∧
        ∃ fault, (s.runStages file b concerned stages).result = .error fault) := by
  induction stages generalizing b concerned with
  | nil =>
      left
      simpa [runStages, afterStages] using sound
  | cons stage rest ih =>
      rw [afterStages_cons s file]
      rcases stage_cases s file sound stage with ⟨sound', buffer, result⟩ | ⟨not_, fault, result⟩
      · have later := ih sound' (concerned || stage.concerns s file)
        rw [runStages, List.any_cons, ← Bool.or_assoc]
        simp only [result, buffer]
        exact later
      · exact .inr ⟨fun both => not_ (sound_of_afterStages s file both), fault, by simp [runStages, result]⟩

/-- **A transformation patches the file as planned, or fails because the edits do not stand together.** -/
theorem transform_cases {s : Session} (engaged : s.skip = false) (file code : Text) (phase : Option Phase) :
    ((s.planned file code phase).Sound ∧
        (s.transform file code phase).result = .ok
          (if (stagesOf phase).any (·.concerns s file) && (s.planned file code phase).hasChanged then
            some (patched file (s.planned file code phase)) else none)) ∨
      (¬ (s.planned file code phase).Sound ∧ ∃ fault, (s.transform file code phase).result = .error fault) := by
  simp only [transform, engaged, Bool.false_eq_true, if_false, planned]
  rcases runStages_cases s file (Buffer.sound_ofText code) false (stagesOf phase) with
    ⟨sound, buffer, result⟩ | ⟨not_, fault, result⟩
  · refine .inl ⟨sound, ?_⟩
    rw [buffer, result]
    rfl
  · exact .inr ⟨not_, fault, by simp [result, Except.map]⟩

/-! ## What is planned -/

variable {s : Session} {file code : Text} {phase : Option Phase}

/-- A planned edit is one that a shipped recipe asks for. -/
theorem mem_planned_edits {e : Edit} (member : e ∈ (s.planned file code phase).edits) :
    ∃ d ∈ recipes, e ∈ d.edits code := by
  obtain ⟨stage, -, inStage⟩ := List.mem_flatMap.1 member
  cases stage with
  | helper => simp [Stage.edits] at inStage
  | category c =>
      simp only [Stage.edits] at inStage
      split at inStage
      · cases selected : (selectDescriptor s.mode c file).result with
        | none => simp [selected] at inStage
        | some d =>
            rw [selected, Option.map_some, Option.getD_some] at inStage
            exact ⟨d, mem_recipes selected, inStage⟩
      · simp at inStage

/-- **A file is patched only if a stage concerns it and changes something**, and then as planned, with edits that
stand beside each other. -/
theorem transform_patches {r : PatchResult} (ran : (s.transform file code phase).result = .ok (some r)) :
    s.skip = false ∧ (stagesOf phase).any (·.concerns s file) = true ∧ (s.planned file code phase).Sound ∧
      (s.planned file code phase).hasChanged = true ∧ r = patched file (s.planned file code phase) := by
  cases skips : s.skip with
  | true => simp [transform, skips, Logged.quiet] at ran
  | false =>
      rcases transform_cases skips file code phase with ⟨sound, result⟩ | ⟨-, fault, result⟩
      · rw [result] at ran
        obtain ⟨reaches, same⟩ := Option.ite_none_right_eq_some.1 (Except.ok.inj ran)
        obtain ⟨concerned, changed⟩ := Bool.and_eq_true_iff.1 reaches
        exact ⟨rfl, concerned, sound, changed, (Option.some.inj same).symm⟩
      · rw [result] at ran
        simp at ran

theorem patched_as_planned {r : PatchResult} (ran : (s.transform file code phase).result = .ok (some r)) :
    (s.planned file code phase).Sound ∧ r = patched file (s.planned file code phase) :=
  ⟨(transform_patches ran).2.2.1, (transform_patches ran).2.2.2.2⟩

/-! ## A session -/

/-- A development server for a project whose version of the package is unknown, with the filter that it has by
default. -/
def devServer : Session where
  mode := .serve
  apply := .always
  gate := ⟨Version.unknown, "2.40.4".toList, false⟩
  filters := (FilterSet.ofLists .serve ⟨[], [], Settings.defaultServe.map .written, []⟩).toOption.getD
    ⟨⟨[], []⟩, ⟨[], []⟩⟩
  overlay := ⟨"virtual:fixNaiveuiIcon-path:".toList, ⟨1, ["overlay".toList]⟩⟩

end Graft.Session
