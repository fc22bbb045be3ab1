/-
# Graft.Proofs.Transform.Overlap -- when the edits of a development server overlap

In a bundle the recipes of both categories work on one text.  A status takes the longest name as its icon, and
that name may be the first word of something else that is replaced: `function` of the wrapper that lets icons
be replaced, or `var` of the declaration of an icon.  Then the edits overlap and the transformation fails, and
it fails in no other case (`transform_serve_fails_iff`).
-/
import Graft.Proofs.Transform.Plan

namespace Graft.Session

set_option autoImplicit false

open Graft.Edit Graft.Patch Graft.Text

/-! ## What the recipes ask for -/

/-- The replacement of the wrapper's head. -/
def wrapperHead : Replacement where
  pattern := "function replaceable(name, icon)".toList
  replacement := "function replaceable(name, _icon_)".toList

theorem replaceableRecipe_replacements : replaceableRecipe.replacements = [wrapperHead] := rfl

theorem bundleRecipe_replacements : bundleRecipe.replacements = [statusIcons] := rfl

/-- There is a place for the insertion of a component. -/
def HasPlace (t : Text) (c : Component) : Prop :=
  ∃ index, insertionPoint t (bundledInsertion c) = .ok (some index)

/-- The edit frees the name of an icon of a component for which there is a place. -/
def Declares (t : Text) (c : Component) (icon : Text) (e : Edit) : Prop :=
  HasPlace t c ∧ icon ∈ c.icons ∧ e ∈ (bundledRename icon).edits t

variable {t : Text} {e e' : Edit}

theorem wrapperHead_plain :
    '{' ∉ wrapperHead.pattern ∧ beginsWithWord 8 wrapperHead.pattern = true ∧ wrapperHead.pattern ≠ [] := by
  decide

theorem replaces_wrapperHead (member : e ∈ wrapperHead.edits t) : Replaces t wrapperHead.pattern e :=
  replaces_of_literal rfl wrapperHead_plain.2.2 member

theorem followsBrace_of_wrapper (member : e ∈ replaceableRecipe.insertions.flatMap (·.edits t)) :
    FollowsBrace t e := by
  obtain ⟨i, inList, inEdits⟩ := List.mem_flatMap.1 member
  obtain ⟨brace, none_⟩ := wrapper_behindBrace inList
  obtain ⟨index, -, ⟨r, inRenames, -⟩ | ⟨-, follows⟩⟩ := mem_insertion_edits brace inEdits
  · rw [none_] at inRenames
    simp at inRenames
  · exact follows

theorem mem_wrapper (member : e ∈ replaceableRecipe.edits t) :
    e ∈ wrapperHead.edits t ∨ FollowsBrace t e := by
  rcases List.mem_append.1 member with heads | bodies
  · rw [replaceableRecipe_replacements] at heads
    exact .inl (by simpa using heads)
  · exact .inr (followsBrace_of_wrapper bodies)

/-- The edits for the components of a bundle. -/
def componentEdits (t : Text) : List Edit := bundleRecipe.insertions.flatMap (·.edits t)

theorem mem_component {c : Component} (member : e ∈ (bundledInsertion c).edits t) :
    (∃ icon, Declares t c icon e) ∨ FollowsBrace t e := by
  obtain ⟨index, found, ⟨r, inRenames, inEdits⟩ | ⟨-, follows⟩⟩ := mem_insertion_edits (bundled_behindBrace c) member
  · obtain ⟨icon, inIcons, rfl⟩ := List.mem_map.1 inRenames
    exact .inl ⟨icon, ⟨index, found⟩, inIcons, inEdits⟩
  · exact .inr follows

theorem mem_componentEdits (member : e ∈ componentEdits t) :
    (∃ c icon, Declares t c icon e) ∨ FollowsBrace t e := by
  obtain ⟨i, inList, inEdits⟩ := List.mem_flatMap.1 member
  obtain ⟨c, -, rfl⟩ := List.mem_map.1 inList
  rcases mem_component inEdits with ⟨icon, declares⟩ | follows
  · exact .inl ⟨c, icon, declares⟩
  · exact .inr follows

/-! ## What never overlaps -/

theorem declarations_clear :
    ∀ c ∈ Component.all, ∀ icon ∈ c.icons, ∀ c' ∈ Component.all, ∀ icon' ∈ c'.icons, icon ≠ icon' →
      cannotBeginIn (declaration icon) (declaration icon') = true := by decide

theorem declaration_plain : ∀ c ∈ Component.all, ∀ icon ∈ c.icons,
    '{' ∉ declaration icon ∧ beginsWithWord 3 (declaration icon) = true ∧ declaration icon ≠ [] ∧
      cannotBeginIn (declaration icon) wrapperHead.pattern = true ∧
      cannotBeginIn wrapperHead.pattern (declaration icon) = true := by decide

theorem icons_distinct :
    Component.all.Pairwise fun c c' => ∀ icon ∈ c.icons, ∀ icon' ∈ c'.icons, icon ≠ icon' := by decide

theorem icons_nodup (c : Component) : c.icons.Nodup := by cases c <;> decide

theorem Declares.replaces {c : Component} {icon : Text} (declares : Declares t c icon e) :
    Replaces t (declaration icon) e :=
  replaces_declaration declares.2.1 declares.2.2

theorem Declares.plain {c : Component} {icon : Text} (declares : Declares t c icon e) :
    '{' ∉ declaration icon ∧ beginsWithWord 3 (declaration icon) = true ∧ declaration icon ≠ [] ∧
      cannotBeginIn (declaration icon) wrapperHead.pattern = true ∧
      cannotBeginIn wrapperHead.pattern (declaration icon) = true :=
  declaration_plain c (mem_all c) icon declares.2.1

theorem declares_apart {c c' : Component} {icon icon' : Text} (declares : Declares t c icon e)
    (declares' : Declares t c' icon' e') (other : icon ≠ icon') : e.Apart e' :=
  replaces_apart declares.replaces declares'.replaces
    (declarations_clear c' (mem_all c') icon' declares'.2.1 c (mem_all c) icon declares.2.1 other.symm)
    (declarations_clear c (mem_all c) icon declares.2.1 c' (mem_all c') icon' declares'.2.1 other)

theorem declares_follows_apart {c : Component} {icon : Text} (declares : Declares t c icon e)
    (follows : FollowsBrace t e') : e.Apart e' :=
  replaces_followsBrace_apart declares.replaces declares.plain.1 follows

theorem wrapper_apart (t : Text) : (replaceableRecipe.edits t).Pairwise Edit.Apart := by
  rw [Descriptor.edits, replaceableRecipe_replacements]
  refine List.pairwise_append.2 ⟨?_, ?_, ?_⟩
  · simpa using once_apart rfl t
  · exact List.pairwise_of_forall_mem_list fun e member e' member' =>
      followsBrace_apart (followsBrace_of_wrapper member) (followsBrace_of_wrapper member')
  · intro e head e' body
    have replaces := replaces_wrapperHead (by simpa using head)
    exact replaces_followsBrace_apart replaces wrapperHead_plain.1 (followsBrace_of_wrapper body)

theorem component_apart (t : Text) (c : Component) : ((bundledInsertion c).edits t).Pairwise Edit.Apart := by
  refine insertion_edits_apart (bundled_behindBrace c) rfl (fun _ => rfl) (icons_nodup c) ?_
  intro index found icon inIcons e member
  have declares : Declares t c icon e := ⟨⟨index, found⟩, inIcons, member⟩
  refine ⟨fun e' follows => declares_follows_apart declares follows, ?_⟩
  intro icon' inIcons' other e' member'
  exact declares_apart declares ⟨⟨index, found⟩, inIcons', member'⟩ other

theorem componentEdits_apart (t : Text) : (componentEdits t).Pairwise Edit.Apart := by
  refine List.pairwise_flatMap.2 ⟨fun i inList => ?_, List.pairwise_map.2 ?_⟩
  · obtain ⟨c, -, rfl⟩ := List.mem_map.1 inList
    exact component_apart t c
  · refine (icons_distinct.filter _).imp fun {c c'} distinct e member e' member' => ?_
    rcases mem_component member with ⟨icon, declares⟩ | follows <;>
      rcases mem_component member' with ⟨icon', declares'⟩ | follows'
    · exact declares_apart declares declares' (distinct icon declares.2.1 icon' declares'.2.1)
    · exact declares_follows_apart declares follows'
    · exact (declares_follows_apart declares' follows).symm
    · exact followsBrace_apart follows follows'

theorem wrapper_component_apart (inWrapper : e ∈ replaceableRecipe.edits t)
    (inComponents : e' ∈ componentEdits t) :
    e.Apart e' := by
  rcases mem_wrapper inWrapper with head | follows <;>
    rcases mem_componentEdits inComponents with ⟨c, icon, declares⟩ | follows'
  · obtain ⟨-, -, -, clear, clear'⟩ := declares.plain
    exact replaces_apart (replaces_wrapperHead head) declares.replaces clear clear'
  · exact replaces_followsBrace_apart (replaces_wrapperHead head) wrapperHead_plain.1 follows'
  · exact (declares_follows_apart declares follows).symm
  · exact followsBrace_apart follows follows'

/-! ## What may overlap -/

/-- A status with its icon ends at an offset. -/
def StatusEndsAt (t : Text) (k : Nat) : Prop := ∃ e ∈ statusIcons.edits t, e.stop = k

/-- The icon of a status ends with the word `function` of the wrapper's head. -/
def TakesWrapper (t : Text) : Prop := ∃ e ∈ wrapperHead.edits t, StatusEndsAt t (e.start + 8)

/-- The icon of a status ends with the word `var` of a declaration whose name is to be freed. -/
def TakesDeclaration (t : Text) : Prop := ∃ c icon e, Declares t c icon e ∧ StatusEndsAt t (e.start + 3)

theorem status_apart_iff {s : Edit} {w : Text} {n : Nat} (status : ReplacesStatus t s)
    (replaces : Replaces t w e) (word : beginsWithWord n w = true) : s.Apart e ↔ s.stop ≠ e.start + n := by
  obtain ⟨i, j, content, rfl, stands⟩ := status
  obtain ⟨p, content', rfl, at_⟩ := replaces
  exact apart_status_iff word stands at_

theorem wrapper_status_iff (t : Text) :
    (∀ e ∈ replaceableRecipe.edits t, ∀ s ∈ statusIcons.edits t, e.Apart s) ↔ ¬ TakesWrapper t := by
  constructor
  · rintro apart ⟨e, head, s, member, ends⟩
    have inEdits : e ∈ replaceableRecipe.edits t := by
      refine List.mem_append_left _ ?_
      rw [replaceableRecipe_replacements]
      simpa using head
    exact (status_apart_iff (replacesStatus_of_mem member) (replaces_wrapperHead head) wrapperHead_plain.2.1).1
      (apart e inEdits s member).symm ends
  · intro clear e inEdits s member
    rcases mem_wrapper inEdits with head | follows
    · refine Edit.Apart.symm ((status_apart_iff (replacesStatus_of_mem member) (replaces_wrapperHead head)
        wrapperHead_plain.2.1).2 fun ends => clear ⟨e, head, s, member, ends⟩)
    · exact (status_followsBrace_apart (replacesStatus_of_mem member) follows).symm

theorem Declares.mem_componentEdits {c : Component} {icon : Text} (declares : Declares t c icon e) :
    e ∈ componentEdits t := by
  obtain ⟨⟨index, found⟩, inIcons, member⟩ := declares
  refine List.mem_flatMap.2 ⟨bundledInsertion c, List.mem_map_of_mem ?_, ?_⟩
  · refine List.mem_filter.2 ⟨mem_all c, ?_⟩
    simpa using List.ne_nil_of_mem inIcons
  · rw [Insertion.edits_of_found found]
    exact List.mem_append_left _ (List.mem_flatMap.2 ⟨_, List.mem_map_of_mem inIcons, member⟩)

theorem status_component_iff (t : Text) :
    (∀ s ∈ statusIcons.edits t, ∀ e ∈ componentEdits t, s.Apart e) ↔ ¬ TakesDeclaration t := by
  constructor
  · rintro apart ⟨c, icon, e, declares, s, member, ends⟩
    have word := declares.plain.2.1
    exact (status_apart_iff (replacesStatus_of_mem member) declares.replaces word).1
      (apart s member e declares.mem_componentEdits) ends
  · intro clear s member e inEdits
    rcases mem_componentEdits inEdits with ⟨c, icon, declares⟩ | follows
    · have word := declares.plain.2.1
      exact (status_apart_iff (replacesStatus_of_mem member) declares.replaces word).2 fun ends =>
        clear ⟨c, icon, e, declares, s, member, ends⟩
    · exact status_followsBrace_apart (replacesStatus_of_mem member) follows

/-! ## All edits of a development server -/

theorem bundleRecipe_edits (t : Text) : bundleRecipe.edits t = statusIcons.edits t ++ componentEdits t := by
  rw [Descriptor.edits, bundleRecipe_replacements, List.flatMap_singleton]
  rfl

theorem bundle_apart_iff (t : Text) : (bundleRecipe.edits t).Pairwise Edit.Apart ↔ ¬ TakesDeclaration t := by
  rw [bundleRecipe_edits, List.pairwise_append, ← status_component_iff]
  constructor
  · exact fun ⟨_, _, apart⟩ => apart
  · exact fun apart => ⟨regex_edits_apart rfl compile_statusIcons t, componentEdits_apart t, apart⟩

theorem wrapper_bundle_iff (t : Text) :
    (∀ e ∈ replaceableRecipe.edits t, ∀ e' ∈ bundleRecipe.edits t, e.Apart e') ↔ ¬ TakesWrapper t := by
  rw [← wrapper_status_iff, bundleRecipe_edits]
  constructor
  · exact fun apart e member s status => apart e member s (List.mem_append_left _ status)
  · intro apart e member e' inBundle
    rcases List.mem_append.1 inBundle with status | inComponents
    · exact apart e member e' status
    · exact wrapper_component_apart member inComponents

theorem wrapper_inRange (member : e ∈ replaceableRecipe.edits t) : e.InRange t.length := by
  rcases mem_wrapper member with head | follows
  · exact (replaces_wrapperHead head).inRange wrapperHead_plain.2.2
  · exact follows.inRange

theorem bundle_inRange (member : e ∈ bundleRecipe.edits t) : e.InRange t.length := by
  rw [bundleRecipe_edits] at member
  rcases List.mem_append.1 member with status | inComponents
  · exact (replacesStatus_of_mem status).inRange
  · rcases mem_componentEdits inComponents with ⟨c, icon, declares⟩ | follows
    · exact declares.replaces.inRange declares.plain.2.2.1
    · exact follows.inRange

/-- The edits that a development server asks for, by the categories that concern the file. -/
def serveEdits (replaceable exportDefault : Bool) (t : Text) : List Edit :=
  (if replaceable then replaceableRecipe.edits t else []) ++ if exportDefault then bundleRecipe.edits t else []

theorem serveEdits_inRange {replaceable exportDefault : Bool}
    (member : e ∈ serveEdits replaceable exportDefault t) :
    e.InRange t.length := by
  rcases List.mem_append.1 member with first | second
  · split at first
    · exact wrapper_inRange first
    · simp at first
  · split at second
    · exact bundle_inRange second
    · simp at second

theorem pairwise_chosen (first second : Bool) (es es' : List Edit) :
    ((if first then es else []) ++ if second then es' else []).Pairwise Edit.Apart ↔
      (first = true → es.Pairwise Edit.Apart) ∧ (second = true → es'.Pairwise Edit.Apart) ∧
        (first = true → second = true → ∀ e ∈ es, ∀ e' ∈ es', e.Apart e') := by
  cases first <;> cases second <;> simp [List.pairwise_append]

theorem serveEdits_apart_iff (replaceable exportDefault : Bool) (t : Text) :
    (serveEdits replaceable exportDefault t).Pairwise Edit.Apart ↔
      ¬ (exportDefault = true ∧ (replaceable = true ∧ TakesWrapper t ∨ TakesDeclaration t)) := by
  rw [serveEdits, pairwise_chosen, bundle_apart_iff, wrapper_bundle_iff]
  constructor
  · rintro ⟨-, second, both⟩ ⟨exports, ⟨replaces, takes⟩ | takes⟩
    · exact both replaces exports takes
    · exact second exports takes
  · intro clear
    exact ⟨fun _ => wrapper_apart t, fun exports takes => clear ⟨exports, .inr takes⟩,
      fun replaces exports takes => clear ⟨exports, .inl ⟨replaces, takes⟩⟩⟩

theorem category_edits {s : Session} {file : Text} {c : Category} {d : Descriptor}
    (selected : (selectDescriptor s.mode c file).result = some d) (code : Text) :
    Stage.edits s file code (.category c) =
      if (s.filters.forCategory c).passes file then d.edits code else [] := by
  simp [Stage.edits, selected]

theorem planned_serve {s : Session} (serve : s.mode = .serve) (file code : Text) (phase : Option Phase) :
    (s.planned file code phase).edits =
      if phase = some .pre then []
      else serveEdits ((s.filters.forCategory .replaceable).passes file)
        ((s.filters.forCategory .exportDefault).passes file) code := by
  have replaceable : (selectDescriptor s.mode .replaceable file).result = some replaceableRecipe := by
    rw [serve]
    rfl
  have exportDefault : (selectDescriptor s.mode .exportDefault file).result = some bundleRecipe := by
    rw [serve]
    rfl
  rw [serveEdits, ← category_edits replaceable, ← category_edits exportDefault]
  match phase with
  | none => simp [planned, afterStages, Buffer.ofText, stagesOf, Stage.all, Stage.edits]
  | some .pre => simp [planned, afterStages, Buffer.ofText, stagesOf, Stage.all, Stage.phase, Stage.edits]
  | some .post => simp [planned, afterStages, Buffer.ofText, stagesOf, Stage.all, Stage.phase]

/-- **When a development server's transformation fails**: the icon of a status is taken to be the first word of
something else that is replaced in the same run. -/
theorem transform_serve_fails_iff {s : Session} (serve : s.mode = .serve) (engaged : s.skip = false)
    (file code : Text) (phase : Option Phase) :
    (∃ fault, (s.transform file code phase).result = .error fault) ↔
      phase ≠ some .pre ∧ (s.filters.forCategory .exportDefault).passes file = true ∧
        ((s.filters.forCategory .replaceable).passes file = true ∧ TakesWrapper code ∨ TakesDeclaration code) := by
  have sound_iff : (s.planned file code phase).Sound ↔
      (s.planned file code phase).edits.Pairwise Edit.Apart := by
    refine ⟨fun sound => sound.apart, fun apart => ⟨fun e member => ?_, apart⟩⟩
    rw [planned_serve serve] at member
    split at member
    · simp at member
    · exact serveEdits_inRange member
  have fails_iff : (∃ fault, (s.transform file code phase).result = .error fault) ↔
      ¬ (s.planned file code phase).Sound := by
    rcases transform_cases engaged file code phase with ⟨sound, result⟩ | ⟨unsound, fault, result⟩
    · simp [sound, result]
    · simp [unsound, result]
  rw [fails_iff, sound_iff, planned_serve serve]
  by_cases pre : phase = some .pre
  · simp [pre]
  · rw [if_neg pre, serveEdits_apart_iff, not_not]
    exact (and_iff_right pre).symm

/-- A function in the place of an icon. -/
def wrapperIcon : Text := "404: () => function replaceable(name, icon)".toList

theorem devServer_fails : (devServer.transform "/p/.vite/deps/naive-ui.js".toList wrapperIcon none).result =
    .error (.edit (.overlap 0 19 11 43)) := by
  decide +kernel

/-- The word is taken for the name of the icon, and the wrapper's head begins with it. -/
theorem transform_serve_fails_devServer :
    devServer.mode = .serve ∧ devServer.skip = false ∧
      (∃ fault, (devServer.transform "/p/.vite/deps/naive-ui.js".toList wrapperIcon none).result = .error fault) ∧
      (devServer.filters.forCategory .exportDefault).passes "/p/.vite/deps/naive-ui.js".toList = true ∧
      ((devServer.filters.forCategory .replaceable).passes "/p/.vite/deps/naive-ui.js".toList = true ∧
        TakesWrapper wrapperIcon ∨ TakesDeclaration wrapperIcon) := by
  have fails := (transform_serve_fails_iff rfl rfl _ _ none).1 ⟨_, devServer_fails⟩
  exact ⟨rfl, rfl, ⟨_, devServer_fails⟩, fails.2⟩

/-- An edit that overlaps another is refused with the places of both. -/
theorem devServer_overlap :
    devServer.mode = .serve ∧ devServer.skip = false ∧
      (devServer.transform "/p/.vite/deps/naive-ui.js".toList
        "404: () => function replaceable(name, icon)".toList none).result =
          .error (.edit (.overlap 0 19 11 43)) :=
  ⟨rfl, rfl, devServer_fails⟩

end Graft.Session
