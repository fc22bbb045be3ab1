/-
# Graft.Proofs.Transform.Phases -- one run, or a run for each phase

A host may run all stages on a file at once, or those of the first phase and then, on their output, those of
the second.  In the second case the patches are looked for in a text that begins with the import of the helper.
If the overlay's prefix has no blank and no opening brace, nothing that a patch looks for begins in that line,
so the patches are the same, moved by its length; the two ways fail alike, leave the same text, and carry every
offset to the same place (`transform_phases`).
-/
import Graft.Proofs.Transform.Plan

namespace Graft.Session

set_option autoImplicit false

open Graft.Edit Graft.Patch Graft.Regex

/-- The text of a file after a transformation; a declined file keeps its code. -/
def textAfter (code : Text) : Option PatchResult → Text
  | none => code
  | some r => r.text

/-- Where a transformation carries an offset of the code; in a declined file it stays where it is. -/
def carried : Option PatchResult → Nat → Except OffsetFault Nat
  | none, i => .ok i
  | some r, i => r.positions.toOutput i

/-! ## The line that imports the helper -/

/-- The line behind its head. -/
def importRest (s : Session) : Text := s.overlay.namePrefix ++ (Helper.fileName ++ "';".toList)

theorem import_ending : "';\n".toList = "';".toList ++ ['\n'] := by decide

theorem helperImport_eq (s : Session) : s.helperImport = importHead ++ s.importRest ++ ['\n'] := by
  unfold helperImport importHead importRest
  have ending := import_ending
  -- The literals are kept closed, for nothing depends on what they are.
  generalize "';\n".toList = written at ending ⊢
  generalize "';".toList = quote, "import ".toList = word, " from '".toList = source at ending ⊢
  subst ending
  simp only [List.append_assoc]

theorem import_ending_plain :
    ' ' ∉ Helper.fileName ++ "';".toList ∧ '{' ∉ Helper.fileName ++ "';".toList := by decide

variable {s : Session} {file : Text}

/-- The edits of the second phase. -/
def postEdits (s : Session) (file t : Text) : List Edit :=
  Stage.edits s file t (.category .replaceable) ++ Stage.edits s file t (.category .exportDefault)

section Plain

variable (plain : ' ' ∉ s.overlay.namePrefix ∧ '{' ∉ s.overlay.namePrefix)
include plain

theorem importRest_plain : ' ' ∉ s.importRest ∧ '{' ∉ s.importRest := by
  obtain ⟨noBlank, noBrace⟩ := import_ending_plain
  constructor
  · exact fun member => (List.mem_append.1 member).elim plain.1 noBlank
  · exact fun member => (List.mem_append.1 member).elim plain.2 noBrace

theorem stage_edits_shift (code : Text) (c : Category) :
    Stage.edits s file (s.helperImport ++ code) (.category c) =
      (Stage.edits s file code (.category c)).map (·.shift s.helperImport.length) := by
  have whole : s.helperImport ++ code = importHead ++ s.importRest ++ '\n' :: code := by
    simp [helperImport_eq]
  have width : s.helperImport.length = lineWidth (importHead ++ s.importRest) := by
    simp only [helperImport_eq, lineWidth, List.length_append, List.length_singleton]
  simp only [Stage.edits]
  split
  · cases selected : (selectDescriptor s.mode c file).result with
    | none => rfl
    | some d =>
        rw [Option.map_some, Option.map_some, Option.getD_some, Option.getD_some, whole, width]
        exact Descriptor.edits_shift (importRest_plain plain) code (selectDescriptor_movable selected)
  · rfl

theorem postEdits_shift (code : Text) :
    postEdits s file (s.helperImport ++ code) =
      (postEdits s file code).map (·.shift s.helperImport.length) := by
  rw [postEdits, postEdits, List.map_append, stage_edits_shift plain, stage_edits_shift plain]

end Plain

theorem stage_edits_visible {code : Text} {c : Category} {e : Edit}
    (member : e ∈ Stage.edits s file code (.category c)) : Visible e := by
  simp only [Stage.edits] at member
  split at member
  · cases selected : (selectDescriptor s.mode c file).result with
    | none => simp [selected] at member
    | some d =>
        rw [selected] at member
        exact Descriptor.edits_visible (selectDescriptor_movable selected) member
  · simp at member

theorem postEdits_visible {code : Text} {e : Edit} (member : e ∈ postEdits s file code) : Visible e := by
  rcases List.mem_append.1 member with first | second
  · exact stage_edits_visible first
  · exact stage_edits_visible second

/-! ## What is planned -/

theorem passesAny_eq (s : Session) (file : Text) :
    s.filters.passesAny file =
      ((s.filters.forCategory .replaceable).passes file ||
        (s.filters.forCategory .exportDefault).passes file) := rfl

section Passes

variable (passes : s.filters.passesAny file = true) (code : Text)
include passes

theorem planned_pre : s.planned file code (some .pre) = Buffer.put s.helperImport code [] := by
  simp [planned, afterStages, stagesOf, Stage.all, Stage.phase, Stage.front, Stage.edits, passes, Buffer.ofText,
    Buffer.put]

theorem planned_whole : s.planned file code none = Buffer.put s.helperImport code (postEdits s file code) := by
  simp [planned, afterStages, stagesOf, Stage.all, Stage.front, passes, Buffer.ofText, Buffer.put, postEdits,
    show Stage.edits s file code .helper = [] from rfl]

omit passes in
theorem planned_post : s.planned file code (some .post) = ⟨code, [], postEdits s file code⟩ := by
  simp [planned, afterStages, stagesOf, Stage.all, Stage.phase, Stage.front, Buffer.ofText, postEdits]

theorem concerns_pre : (stagesOf (some .pre)).any (·.concerns s file) = true := by
  simp [stagesOf, Stage.all, Stage.phase, Stage.concerns, passes]

theorem concerns_whole : (stagesOf none).any (·.concerns s file) = true := by
  simp [stagesOf, Stage.all, Stage.concerns, passes]

theorem concerns_post : (stagesOf (some .post)).any (·.concerns s file) = true := by
  rw [passesAny_eq] at passes
  simpa [stagesOf, Stage.all, Stage.phase, Stage.concerns] using passes

end Passes

theorem helperImport_ne_nil (s : Session) : s.helperImport ≠ [] := by
  rw [helperImport_eq]
  exact List.append_ne_nil_of_right_ne_nil _ (by simp)

theorem put_changed (front t : Text) (es : List Edit) : (Buffer.put front t es).hasChanged = true := by
  simp [Buffer.put, Buffer.hasChanged]

/-- Without edits the text in front moves every offset by its length. -/
theorem put_nil {front t : Text} (some_ : front ≠ []) :
    (Buffer.put front t []).toText = front ++ t ∧
      ∀ i ≤ t.length, (Buffer.put front t []).positionMap.toOutput i = .ok (front.length + i) := by
  have pieces : (Buffer.put front t []).pieces = ⟨0, 0, front, true⟩ :: Buffer.kept t 0 t.length :=
    Buffer.put_pieces some_
  have text : (Buffer.put front t []).toText = front ++ t := by
    rw [Buffer.toText, pieces, List.flatMap_cons, Buffer.kept_text, Text.slice]
    simp
  refine ⟨text, fun i within => ?_⟩
  have skipped : (Piece.segment ⟨0, 0, front, true⟩ 0).toOutput? i = none := by
    simp [Segment.toOutput?, Piece.segment]
  rw [PositionMap.toOutput_eq within]
  simp only [Buffer.positionMap, text, pieces, segmentsFrom_cons, List.findSome?_cons, skipped]
  by_cases inside : i < t.length
  · have shown : Buffer.kept t 0 t.length = [⟨0, t.length, t.slice 0 t.length, false⟩] := if_pos (by omega)
    rw [shown, segmentsFrom_cons, List.findSome?_cons]
    simp [Segment.toOutput?, Piece.segment, inside]
  · have beyond : (segmentsFrom (0 + front.length) (Buffer.kept t 0 t.length)).findSome? (·.toOutput? i) =
        none := by
      rw [List.findSome?_eq_none_iff]
      intro x member
      obtain ⟨_, p, _, split_, rfl⟩ := mem_segmentsFrom.1 member
      have inKept : p ∈ Buffer.kept t 0 t.length := by rw [split_]; simp
      obtain ⟨-, rfl⟩ := Buffer.mem_kept inKept
      exact if_neg fun range => inside range.2
    rw [beyond, Option.getD_none, List.length_append, show i = t.length by omega]

/-! ## The two ways -/

theorem concerns_idle (idle : s.filters.passesAny file = false) (stage : Stage) :
    stage.concerns s file = false ∧ ∀ code, stage.edits s file code = [] := by
  obtain ⟨replaceable, exportDefault⟩ := Bool.or_eq_false_iff.1 (passesAny_eq s file ▸ idle)
  match stage with
  | .helper => exact ⟨idle, fun _ => rfl⟩
  | .category .replaceable => simp [Stage.concerns, Stage.edits, replaceable]
  | .category .exportDefault => simp [Stage.concerns, Stage.edits, exportDefault]

/-- A session that skips, or has no filter for the file, leaves the file as it is. -/
theorem transform_idle (idle : s.skip = true ∨ s.filters.passesAny file = false) (code : Text)
    (phase : Option Phase) :
    (s.transform file code phase).result = .ok none := by
  cases skips : s.skip with
  | true =>
      simp only [transform, skips, if_true]
      rfl
  | false =>
      have unconcerned := concerns_idle (idle.resolve_left (by simp [skips]))
      have nothing : (stagesOf phase).any (·.concerns s file) = false :=
        List.any_eq_false.2 fun stage _ => by simp [unconcerned stage]
      have sound : (s.planned file code phase).Sound :=
        sound_congr (Buffer.sound_ofText code) rfl
          (List.flatMap_eq_nil_iff.2 fun stage _ => (unconcerned stage).2 code)
      rcases transform_cases skips file code phase with ⟨-, result⟩ | ⟨unsound, -⟩
      · simpa [nothing] using result
      · exact absurd sound unsound

/-- What a transformation gives that reaches a buffer. -/
def reached (file : Text) (b : Buffer) : Option PatchResult :=
  if b.hasChanged then some (patched file b) else none

/-- A phase with a stage for the file reaches the buffer that is planned, or fails. -/
theorem transform_concerned (engaged : s.skip = false) {phase : Option Phase}
    (concerned : (stagesOf phase).any (·.concerns s file) = true) {code : Text} {b : Buffer}
    (planned_ : s.planned file code phase = b) :
    (b.Sound ∧ (s.transform file code phase).result = .ok (reached file b)) ∨
      (¬ b.Sound ∧ ∃ fault, (s.transform file code phase).result = .error fault) := by
  subst planned_
  simpa [concerned, reached] using transform_cases engaged file code phase

/-- A buffer with the text in its base reaches what one that puts it there does. -/
theorem reached_standing (file : Text) {front t : Text} {es : List Edit} (some_ : front ≠ [])
    (sound : (Buffer.put front t es).Sound) (visible : ∀ e ∈ es, Visible e) :
    textAfter (front ++ t) (reached file (Buffer.standing front t es)) = (Buffer.put front t es).toText ∧
      ∀ i ≤ t.length, carried (reached file (Buffer.standing front t es)) (front.length + i) =
        (Buffer.put front t es).positionMap.toOutput i := by
  cases changed : (Buffer.standing front t es).hasChanged with
  | true =>
      simp only [reached, changed, if_true]
      exact ⟨Buffer.toText_shift some_ sound, fun i within => Buffer.toOutput_shift some_ sound within⟩
  | false =>
      have nothing : es = [] := by
        refine List.eq_nil_iff_forall_not_mem.2 fun e member => ?_
        simp only [Buffer.hasChanged, Buffer.standing, List.isEmpty_nil, Bool.not_true, Bool.false_or,
          List.any_map, Function.comp_def, shift_isOverwrite, shift_content, List.any_eq_false] at changed
        rcases visible e member with overwrites | written
        · exact changed e member (by simp [overwrites])
        · exact changed e member (by simp [written])
      subst nothing
      obtain ⟨text, offsets⟩ := put_nil (t := t) some_
      simp only [reached, changed, Bool.false_eq_true, if_false]
      exact ⟨text.symm, fun i within => (offsets i within).symm⟩

/-- The first phase only puts the line in front. -/
theorem transform_pre (engaged : s.skip = false) (passes : s.filters.passesAny file = true) (code : Text) :
    (s.transform file code (some .pre)).result =
      .ok (some (patched file (Buffer.put s.helperImport code []))) := by
  have sound : (Buffer.put s.helperImport code []).Sound := sound_congr (Buffer.sound_ofText code) rfl rfl
  rcases transform_concerned engaged (concerns_pre passes) (planned_pre passes code) with
    ⟨-, result⟩ | ⟨unsound, -⟩
  · simpa [reached, put_changed] using result
  · exact absurd sound unsound

/-- One run, and the second phase behind the line, leave the same, or both fail. -/
theorem transform_whole_post (plain : ' ' ∉ s.overlay.namePrefix ∧ '{' ∉ s.overlay.namePrefix)
    (engaged : s.skip = false) (passes : s.filters.passesAny file = true) (code : Text) :
    (∃ whole second, (s.transform file code none).result = .ok whole ∧
        (s.transform file (s.helperImport ++ code) (some .post)).result = .ok second ∧
        textAfter code whole = textAfter (s.helperImport ++ code) second ∧
        ∀ i ≤ code.length, ∃ k,
          carried second (s.helperImport.length + i) = .ok k ∧ carried whole i = .ok k) ∨
      (∃ fault, (s.transform file code none).result = .error fault) ∧
        ∃ fault, (s.transform file (s.helperImport ++ code) (some .post)).result = .error fault := by
  have front := helperImport_ne_nil s
  have visible : ∀ e ∈ postEdits s file code, Visible e := fun e member => postEdits_visible member
  have second : s.planned file (s.helperImport ++ code) (some .post) =
      Buffer.standing s.helperImport code (postEdits s file code) := by
    rw [planned_post, postEdits_shift plain]
    rfl
  rcases transform_concerned engaged (concerns_whole passes) (planned_whole passes code) with
    ⟨sound, atOnce⟩ | ⟨unsound, atOnce⟩ <;>
    rcases transform_concerned engaged (concerns_post passes) second with
      ⟨sound', later⟩ | ⟨unsound', later⟩
  · obtain ⟨same, moved⟩ := reached_standing file front sound visible
    refine .inl ⟨_, _, atOnce, later, ?_⟩
    simp only [reached, put_changed, if_true]
    refine ⟨same.symm, fun i within => ⟨_, ?_, PositionMap.toOutput_eq within⟩⟩
    exact (moved i within).trans (PositionMap.toOutput_eq within)
  · exact absurd ((Buffer.sound_shift_iff _ _ _).2 sound) unsound'
  · exact absurd ((Buffer.sound_shift_iff _ _ _).1 sound') unsound
  · exact .inr ⟨atOnce, later⟩

/-- **The second phase on what the first one left does what one run does.** -/
theorem transform_phases {s : Session} (plain : ' ' ∉ s.overlay.namePrefix ∧ '{' ∉ s.overlay.namePrefix)
    (file code : Text) :
    ∃ first, (s.transform file code (some .pre)).result = .ok first ∧
      ((∃ fault, (s.transform file code none).result = .error fault) ↔
        ∃ fault, (s.transform file (textAfter code first) (some .post)).result = .error fault) ∧
      ∀ whole second, (s.transform file code none).result = .ok whole →
        (s.transform file (textAfter code first) (some .post)).result = .ok second →
        textAfter code whole = textAfter (textAfter code first) second ∧
          ∀ i ≤ code.length, ∃ j k,
            carried first i = .ok j ∧ carried second j = .ok k ∧ carried whole i = .ok k := by
  by_cases idle : s.skip = true ∨ s.filters.passesAny file = false
  · refine ⟨none, transform_idle idle code _, ?_, ?_⟩
    · simp [transform_idle idle]
    · intro whole second ran ran'
      rw [transform_idle idle] at ran ran'
      obtain rfl := Except.ok.inj ran
      obtain rfl := Except.ok.inj ran'
      exact ⟨rfl, fun i _ => ⟨i, i, rfl, rfl, rfl⟩⟩
  · obtain ⟨engaged, passes⟩ : s.skip = false ∧ s.filters.passesAny file = true := by
      simpa [not_or] using idle
    obtain ⟨text, offsets⟩ := put_nil (t := code) (helperImport_ne_nil s)
    refine ⟨_, transform_pre engaged passes code, ?_⟩
    rw [show textAfter code (some (patched file (Buffer.put s.helperImport code []))) =
      s.helperImport ++ code from text]
    rcases transform_whole_post plain engaged passes code with
      ⟨whole, second, atOnce, later, same, moved⟩ | ⟨⟨fault, atOnce⟩, fault', later⟩
    · refine ⟨by simp [atOnce, later], fun whole' second' ran ran' => ?_⟩
      obtain rfl := Except.ok.inj (atOnce.symm.trans ran)
      obtain rfl := Except.ok.inj (later.symm.trans ran')
      refine ⟨same, fun i within => ?_⟩
      obtain ⟨k, there, here⟩ := moved i within
      exact ⟨_, k, offsets i within, there, here⟩
    · exact ⟨by simp [atOnce, later], fun whole second ran => by simp [atOnce] at ran⟩

theorem transform_phases_devServer :
    (' ' ∉ devServer.overlay.namePrefix ∧ '{' ∉ devServer.overlay.namePrefix) ∧
      ∃ first, (devServer.transform "/p/.vite/deps/naive-ui.js".toList "404: () => image".toList (some .pre)).result =
          .ok first ∧
        ((∃ fault, (devServer.transform "/p/.vite/deps/naive-ui.js".toList "404: () => image".toList none).result =
            .error fault) ↔
          ∃ fault, (devServer.transform "/p/.vite/deps/naive-ui.js".toList
            (textAfter "404: () => image".toList first) (some .post)).result = .error fault) ∧
        ∀ whole second,
          (devServer.transform "/p/.vite/deps/naive-ui.js".toList "404: () => image".toList none).result = .ok whole →
          (devServer.transform "/p/.vite/deps/naive-ui.js".toList
            (textAfter "404: () => image".toList first) (some .post)).result = .ok second →
          textAfter "404: () => image".toList whole =
              textAfter (textAfter "404: () => image".toList first) second ∧
            ∀ i ≤ "404: () => image".toList.length, ∃ j k,
              carried first i = .ok j ∧ carried second j = .ok k ∧ carried whole i = .ok k :=
  ⟨by decide, transform_phases (by decide) _ _⟩

end Graft.Session
