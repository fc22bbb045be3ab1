/-
# Graft.Proofs.Patch.Dispatch -- which recipe a file gets in a build

Two things look at the name of a file.  A filter asks whether the file of a component stands anywhere in it, and
the dispatch takes the component of the first directory in it that has the form of a component's directory
(`componentFor_first`).  The filter does not ask that nothing stand in front, so the two can look at different
places: a file of a component that lies below another such directory is let through, and is dispatched by the
directory in front (`dispatch_default`).  They agree exactly if the first directory is that of a component whose
own file stands in the name, and so in every name with one such directory only.
-/
import Graft.Filter.FilterSet
import Graft.Proofs.Patch.Renames
import Graft.Settings

namespace Graft.Patch

set_option autoImplicit false

open Graft.Regex Graft.Text

/-! ## Directories of components -/

/-- What stands in front of the name of a component's directory. -/
def directoryHead : Text := "/naive-ui/es/".toList

/-- What stands behind it. -/
def directoryTail : Text := "/src/".toList

/-- A directory of the form of a component's directory stands at an offset. -/
structure DirectoryAt (t : Text) (p : Nat) (name : Text) : Prop where
  some_ : name ≠ []
  plain : ∀ c ∈ name, isWord c = true ∨ c = '-'
  stands : StandsAt t (directoryHead ++ name ++ directoryTail) p

/-- It is the first such directory. -/
def FirstDirectory (t : Text) (p : Nat) (name : Text) : Prop :=
  DirectoryAt t p name ∧ ∀ q name', DirectoryAt t q name' → p ≤ q

variable {t name name' : Text} {p : Nat}

/-- What the name of a directory is made of. -/
def directoryTest : CharTest := .set [.kind .word false false, .code '-'.toNat] false .exact

theorem directoryTest_iff (c : Char) : directoryTest.holds c = true ↔ isWord c = true ∨ c = '-' := by
  simp [directoryTest, CharTest.holds, ClassItem.hasCase, ClassItem.holds, CharKind.holds, Folding.hasCase,
    ← Char.toNat_inj]

theorem slash_not_directoryTest : directoryTest.holds '/' = false := by decide

def directoryRegex : Regex where
  pattern := .literal directoryHead (.seq (.group 1 (.repeatChar .greedy 1 none directoryTest))
    (.literal "/src".toList (.char (.only '/'))))
  groups := 1
  names := []

theorem componentDirectory_eq : componentDirectory = .ok directoryRegex := by decide +kernel

/-- The name reaches from behind the head to the slash of the tail. -/
theorem DirectoryAt.shape (dir : DirectoryAt t p name) :
    StandsAt t directoryHead p ∧ StandsAt t name (p + directoryHead.length) ∧
      StandsAt t directoryTail (p + directoryHead.length + name.length) := by
  obtain ⟨front, tail⟩ := standsAt_append_iff.1 dir.stands
  obtain ⟨head, own⟩ := standsAt_append_iff.1 front
  rw [List.length_append, ← Nat.add_assoc] at tail
  exact ⟨head, own, tail⟩

theorem DirectoryAt.passes (dir : DirectoryAt t p name) :
    (∀ k < name.length, passes t.toArray directoryTest.holds (p + directoryHead.length + k) = true) ∧
      ¬ passes t.toArray directoryTest.holds (p + directoryHead.length + name.length) = true := by
  obtain ⟨-, own, tail⟩ := dir.shape
  refine ⟨fun k inside => ?_, fun pass => ?_⟩
  · have found := List.getElem?_eq_getElem inside
    exact passes_toArray.2 ⟨_, own k _ found, (directoryTest_iff _).2 (dir.plain _ (List.mem_of_getElem? found))⟩
  · obtain ⟨c, at_, holds⟩ := passes_toArray.1 pass
    have slash : t[p + directoryHead.length + name.length]? = some '/' := tail 0 '/' rfl
    obtain rfl := Option.some.inj (slash.symm.trans at_)
    rw [slash_not_directoryTest] at holds
    exact Bool.false_ne_true holds

/-- One directory stands at an offset. -/
theorem DirectoryAt.unique (dir : DirectoryAt t p name) (dir' : DirectoryAt t p name') : name = name' := by
  have length : name.length = name'.length := by
    rcases Nat.lt_trichotomy name.length name'.length with shorter | same | longer
    · exact absurd (dir'.passes.1 _ shorter) dir.passes.2
    · exact same
    · exact absurd (dir.passes.1 _ longer) dir'.passes.2
  rw [← slice_of_standsAt dir.shape.2.1, ← slice_of_standsAt dir'.shape.2.1, length]

theorem directoryTail_eq : "/src".toList ++ ['/'] = directoryTail := by decide

theorem isSteady_directoryRegex : isSteady directoryRegex = true := by decide

/-- A match is a directory, and its group is the name. -/
theorem directory_of_match {i : Nat} {moving : Bool} {m : Match}
    (found : matchAt? directoryRegex t.toArray i moving = some m) :
    ∃ span, m.group? 1 = some span ∧ DirectoryAt t i (t.slice span.start span.stop) := by
  obtain ⟨-, way⟩ := matchAt?_way isSteady_directoryRegex found
  generalize ended : (⟨m.span.stop, m.groups⟩ : State) = st at way
  obtain ⟨head, rest⟩ := way_literal way
  cases rest with
  | seq first rest =>
  cases first with
  | group first =>
  cases first with
  | @chars _ _ _ _ _ n enough _ hold =>
  obtain ⟨tail, rfl⟩ := way_fixed rest
  have groups := congrArg State.groups ended
  simp only [State.moved, State.setGroup, startState] at head tail groups hold
  rw [directoryTail_eq] at tail
  have inText : i + directoryHead.length + n ≤ t.length := by
    obtain ⟨c, last, -⟩ := passes_toArray.1 (hold (n - 1) (by omega))
    have := (List.getElem?_eq_some_iff.1 last).1
    omega
  have width : (t.slice (i + directoryHead.length) (i + directoryHead.length + n)).length = n := by
    rw [slice, List.length_take, List.length_drop]
    omega
  have name : ∀ c ∈ t.slice (i + directoryHead.length) (i + directoryHead.length + n),
      directoryTest.holds c = true := by
    apply all_slice
    intro k from_ before
    have here := passes_toArray.1 (hold (k - (i + directoryHead.length)) (by omega))
    rwa [Nat.add_sub_cancel' from_] at here
  have dir : DirectoryAt t i (t.slice (i + directoryHead.length) (i + directoryHead.length + n)) := by
    refine ⟨List.ne_nil_of_length_pos (by omega), fun c member => (directoryTest_iff c).1 (name c member), ?_⟩
    rw [standsAt_append_iff, standsAt_append_iff, List.length_append, width, ← Nat.add_assoc]
    exact ⟨⟨head, standsAt_slice t _ _⟩, tail⟩
  exact ⟨⟨i + directoryHead.length, i + directoryHead.length + n⟩, by rw [Match.group?, groups]; rfl, dir⟩

/-- Where a directory stands, the pattern matches. -/
theorem match_of_directory (dir : DirectoryAt t p name) :
    (matchAt? directoryRegex t.toArray p false).isSome = true := by
  obtain ⟨head, -, tail⟩ := dir.shape
  obtain ⟨pass, stops⟩ := dir.passes
  rw [← directoryTail_eq] at tail
  rw [matchAt?_eq_runAt? isSteady_directoryRegex, runAt?, Option.isSome_map, directoryRegex,
    run_literal_of_standsAt head]
  simp only [Pattern.run]
  refine runChars_isSome pass stops (List.length_pos_iff.2 dir.some_) ?_
  rw [run_fixed_of_standsAt tail]
  rfl

/-- **The dispatch takes the first directory**, and asks which component has its name. -/
theorem componentFor_first (file : Text) :
    (∃ p name, FirstDirectory (Filter.normalized file) p name ∧
        componentFor file = Component.all.find? (·.name == name)) ∨
      (∀ p name, ¬ DirectoryAt (Filter.normalized file) p name) ∧ componentFor file = none := by
  have opened : componentFor file = (Regex.search directoryRegex (Filter.normalized file)).bind fun m =>
      (m.group? 1).bind fun span =>
        Component.all.find? (·.name == (Filter.normalized file).slice span.start span.stop) := by
    simp only [componentFor, componentDirectory_eq, Filter.normalized]
    rfl
  rw [opened]
  generalize Filter.normalized file = t
  cases found : Regex.search directoryRegex t with
  | none =>
      right
      refine ⟨?_, rfl⟩
      intro p name dir
      have within := dir.stands.within
        (List.append_ne_nil_of_left_ne_nil (List.append_ne_nil_of_right_ne_nil _ dir.some_) _)
      have some_ := search_isSome (by omega) (match_of_directory dir)
      rw [found] at some_
      simp at some_
  | some m =>
      left
      obtain ⟨moving, at_⟩ := matchAt?_of_search found
      obtain ⟨span, group, dir⟩ := directory_of_match at_
      refine ⟨m.span.start, _, ⟨dir, ?_⟩, by rw [Option.bind_some, group, Option.bind_some]⟩
      intro q name' dir'
      by_contra before
      have none_ := search_first found (Nat.lt_of_not_le before)
      have matches_ := match_of_directory dir'
      rw [none_] at matches_
      simp at matches_

theorem find_component (name : Text) (c : Component) :
    Component.all.find? (·.name == name) = some c ↔ name = c.name := by
  constructor
  · intro found
    have same := List.find?_some found
    exact (eq_of_beq same).symm
  · rintro rfl
    cases c <;> decide

/-! ## Files that the filter lets through -/

/-- The file in which a component is defined. -/
def ownFile (c : Component) : Text := directoryHead ++ c.name ++ directoryTail ++ (c.title ++ ".mjs".toList)

/-- How the filter asks for it. -/
def ownPattern (c : Component) : Text :=
  "re:".toList ++ directoryHead ++ c.name ++ directoryTail ++ c.title ++ "\\.mjs".toList

def ownRegex (c : Component) : Regex where
  pattern := .literal (directoryHead ++ c.name ++ directoryTail ++ (c.title ++ ".mj".toList)) (.char (.only 's'))
  groups := 0
  names := []

/-- **The filter that is there by default asks for the own file of each component.** -/
theorem defaultBuildExportDefault_eq : Settings.defaultBuildExportDefault = Component.all.map ownPattern := by decide

theorem ofText_ownPattern : ∀ c ∈ Component.all, FilePattern.ofText (ownPattern c) = .ok (.regex (ownRegex c)) := by
  decide +kernel

/-- The own pattern of a component lets the file through. -/
def TakenBy (c : Component) (file : Text) : Prop :=
  ∃ own, FilePattern.ofText (ownPattern c) = .ok own ∧ own.isFoundIn (Filter.normalized file) = true

theorem takenBy_iff {c : Component} {file : Text} : TakenBy c file ↔ ownFile c <:+: Filter.normalized file := by
  have compiled := ofText_ownPattern c (mem_all c)
  have whole : directoryHead ++ c.name ++ directoryTail ++ (c.title ++ ".mj".toList) ++ ['s'] = ownFile c := by
    have ending : ".mj".toList ++ ['s'] = ".mjs".toList := by decide
    rw [ownFile, List.append_assoc, List.append_assoc c.title, ending]
  have found := isFoundIn_fixed (w := directoryHead ++ c.name ++ directoryTail ++ (c.title ++ ".mj".toList)) (c := 's')
    (t := Filter.normalized file) 0 []
  rw [whole] at found
  rw [← found, TakenBy, compiled]
  constructor
  · rintro ⟨own, made, taken⟩
    obtain rfl := Except.ok.inj made
    exact taken
  · intro taken
    exact ⟨_, rfl, taken⟩

/-- The own file of a component stands in its directory. -/
theorem directory_of_ownFile {c : Component} (stands : StandsAt t (ownFile c) p) : DirectoryAt t p c.name := by
  have name : c.name ≠ [] ∧ ∀ d ∈ c.name, isWord d = true ∨ d = '-' := by cases c <;> decide
  exact ⟨name.1, name.2, (standsAt_append_iff.1 stands).1⟩

theorem mapM_ok {α β γ ε : Type} {read : β → Except ε γ} {put : α → β} {value : α → γ} {xs : List α}
    (reads : ∀ x ∈ xs, read (put x) = .ok (value x)) : (xs.map put).mapM read = .ok (xs.map value) := by
  induction xs with
  | nil => rfl
  | cons x rest ih =>
      rw [List.map_cons, List.mapM_cons, reads x List.mem_cons_self,
        ih fun y member => reads y (List.mem_cons_of_mem x member)]
      rfl

/-- The patterns that are there by default, as they are read. -/
theorem included_default {excluded : List GivenPattern} {f : Filter}
    (made : Filter.ofGiven (Settings.defaultBuildExportDefault.map .written) excluded = .ok f) :
    f.included = Component.all.map fun c => .regex (ownRegex c) := by
  have included : (Settings.defaultBuildExportDefault.map GivenPattern.written).mapM FilePattern.ofGiven =
      .ok (Component.all.map fun c => .regex (ownRegex c)) := by
    rw [defaultBuildExportDefault_eq, List.map_map]
    exact mapM_ok ofText_ownPattern
  rw [Filter.ofGiven, included] at made
  cases outs : excluded.mapM FilePattern.ofGiven with
  | error fault =>
      rw [outs] at made
      cases made
  | ok out =>
      rw [outs] at made
      obtain rfl := Except.ok.inj made
      rfl

/-- What the filter lets through is taken by the own pattern of some component. -/
theorem taken_of_passes {excluded : List GivenPattern} {f : Filter} {file : Text}
    (made : Filter.ofGiven (Settings.defaultBuildExportDefault.map .written) excluded = .ok f)
    (passes : f.passes file = true) : ∃ c, TakenBy c file := by
  rw [Filter.passes, included_default made] at passes
  split at passes
  · cases passes
  split at passes
  · cases passes
  obtain ⟨own, inList, found⟩ := List.any_eq_true.1 ((Bool.or_eq_true_iff.1 passes).resolve_left Bool.false_ne_true)
  obtain ⟨c, member, rfl⟩ := List.mem_map.1 inList
  exact ⟨c, _, ofText_ownPattern c member, found⟩

/-! ## Where the two agree -/

/-- The file gets the recipe of a component whose own pattern lets it through. -/
def Agreed (file : Text) : Prop :=
  ∃ c, componentFor file = some c ∧ TakenBy c file ∧
    selectDescriptor .build .exportDefault file = .quiet (some (buildRecipe c))

theorem select_component {file : Text} {c : Component} (found : componentFor file = some c) :
    selectDescriptor .build .exportDefault file = .quiet (some (buildRecipe c)) := by
  simp only [selectDescriptor, found]

theorem select_none {file : Text} :
    selectDescriptor .build .exportDefault file = ⟨[.noRecipe file], none⟩ ↔ componentFor file = none := by
  cases found : componentFor file with
  | none => simp only [selectDescriptor, found]
  | some c => simp [select_component found, Logged.quiet]

/-- **Filter and dispatch agree on a file that is let through exactly if the first directory is that of a component
whose own file stands in the name**, and so in every name with one such directory.  If the first directory has the
name of no component, the file gets no recipe. -/
theorem dispatch_default {excluded : List GivenPattern} {f : Filter}
    (made : Filter.ofGiven (Settings.defaultBuildExportDefault.map .written) excluded = .ok f) {file : Text}
    (passes : f.passes file = true) :
    ∃ p name, FirstDirectory (Filter.normalized file) p name ∧
      (∀ c, componentFor file = some c ↔ name = c.name) ∧
      (Agreed file ↔ ∃ c, name = c.name ∧ ownFile c <:+: Filter.normalized file) ∧
      (selectDescriptor .build .exportDefault file = ⟨[.noRecipe file], none⟩ ↔ ∀ c : Component, name ≠ c.name) ∧
      ((∀ q name', DirectoryAt (Filter.normalized file) q name' → q = p) → Agreed file) := by
  obtain ⟨taken, takes⟩ := taken_of_passes made passes
  obtain ⟨q, stands⟩ := infix_iff_standsAt.1 (takenBy_iff.1 takes)
  have own := directory_of_ownFile stands
  rcases componentFor_first file with ⟨p, name, first, found⟩ | ⟨nowhere, -⟩
  · have names : ∀ c, componentFor file = some c ↔ name = c.name := by
      intro c
      rw [found]
      exact find_component name c
    have agreed : ∀ c, name = c.name → ownFile c <:+: Filter.normalized file → Agreed file := by
      intro c same inName
      exact ⟨c, (names c).2 same, takenBy_iff.2 inName, select_component ((names c).2 same)⟩
    refine ⟨p, name, first, names, ?_, ?_, ?_⟩
    · constructor
      · rintro ⟨c, dispatched, takes', -⟩
        exact ⟨c, (names c).1 dispatched, takenBy_iff.1 takes'⟩
      · rintro ⟨c, same, inName⟩
        exact agreed c same inName
    · rw [select_none, Option.eq_none_iff_forall_ne_some]
      exact forall_congr' fun c => not_congr (names c)
    · intro single
      obtain rfl := single q _ own
      exact agreed taken (first.1.unique own) (takenBy_iff.1 takes)
  · exact absurd own (nowhere q _)

/-- The filter that is there by default. -/
def defaultFilter : Filter := ⟨Component.all.map fun c => .regex (ownRegex c), []⟩

theorem ofGiven_default :
    Filter.ofGiven (Settings.defaultBuildExportDefault.map .written) [] = .ok defaultFilter := by
  decide +kernel

/-- The file of a component, installed below a directory that looks like that of a component. -/
def installedBelow (directory : String) : Text :=
  ("/p/naive-ui/es/" ++ directory ++ "/src/node_modules/naive-ui/es/checkbox/src/Checkbox.mjs").toList

theorem installedBelow_runs :
    defaultFilter.passes (installedBelow "demo") = true ∧ componentFor (installedBelow "demo") = none ∧
      defaultFilter.passes (installedBelow "rate") = true ∧ componentFor (installedBelow "rate") = some .rate ∧
      (FilePattern.regex (ownRegex .rate)).isFoundIn (Filter.normalized (installedBelow "rate")) = false := by
  decide +kernel

theorem dispatch_default_installedBelow :
    Filter.ofGiven (Settings.defaultBuildExportDefault.map .written) [] = .ok defaultFilter ∧
      defaultFilter.passes (installedBelow "rate") = true ∧
      ∃ p name, FirstDirectory (Filter.normalized (installedBelow "rate")) p name ∧
        (∀ c, componentFor (installedBelow "rate") = some c ↔ name = c.name) ∧
        (Agreed (installedBelow "rate") ↔
          ∃ c, name = c.name ∧ ownFile c <:+: Filter.normalized (installedBelow "rate")) ∧
        (selectDescriptor .build .exportDefault (installedBelow "rate") = ⟨[.noRecipe (installedBelow "rate")], none⟩ ↔
          ∀ c : Component, name ≠ c.name) ∧
        ((∀ q name', DirectoryAt (Filter.normalized (installedBelow "rate")) q name' → q = p) →
          Agreed (installedBelow "rate")) :=
  ⟨ofGiven_default, installedBelow_runs.2.2.1, dispatch_default ofGiven_default installedBelow_runs.2.2.1⟩

/-- The directory in front decides: below one of no component the file gets no recipe, and below one of another
component it gets the recipe of that one. -/
theorem installedBelow_misled :
    defaultFilter.passes (installedBelow "demo") = true ∧ componentFor (installedBelow "demo") = none ∧
      defaultFilter.passes (installedBelow "rate") = true ∧ componentFor (installedBelow "rate") = some .rate ∧
      ¬ TakenBy .rate (installedBelow "rate") := by
  obtain ⟨passes, none_, passes', dispatched, missed⟩ := installedBelow_runs
  refine ⟨passes, none_, passes', dispatched, ?_⟩
  rintro ⟨own, made, taken⟩
  obtain rfl := Except.ok.inj ((ofText_ownPattern .rate (mem_all .rate)).symm.trans made)
  rw [missed] at taken
  cases taken

end Graft.Patch
