/-
# Graft.Proofs.Settings -- lists of patterns from the environment

A variable that lists patterns separates them by commas; there may be blanks around each of them, and blank items
anywhere.  What is read from it are the patterns (`patternList_written`), if none of them is empty, has a comma in it
or a blank character at its ends.  A variable that is not set, or has nothing in it but blanks and commas, gives the
default list, and no default list of including patterns is empty.

So settings and options are two ways to say the same: the session that is configured from an environment is the one
that is configured with its lists given outright, and what goes wrong with the one goes wrong with the other
(`ofEnvironment_configures`).  That is so in whatever room they are configured, and however regular expressions are
compiled.
-/
import Graft.Proofs.Filter.Lists
import Graft.Proofs.Text.Parts
import Graft.Session
import Mathlib

namespace Graft

set_option autoImplicit false

open Graft.Text

/-- A pattern that can be written in a list. -/
structure Listable (p : Text) : Prop where
  some_ : p ≠ []
  whole : ',' ∉ p
  first : ∀ c ∈ p.head?, isBlank c = false
  last : ∀ c ∈ p.getLast?, isBlank c = false

instance listableDecidable (p : Text) : Decidable (Listable p) :=
  decidable_of_iff (p ≠ [] ∧ ',' ∉ p ∧ p.head?.all (!isBlank ·) = true ∧ p.getLast?.all (!isBlank ·) = true) (by
    simp only [Option.all_eq_true, Bool.not_eq_true']
    exact ⟨fun ⟨some_, whole, first, last⟩ => ⟨some_, whole, first, last⟩,
      fun listable => ⟨listable.some_, listable.whole, listable.first, listable.last⟩⟩)

/-- The items between commas that give patterns, in their order: each with blanks around it, and blank ones between. -/
inductive Items : List Text → List Text → Prop
  | nil : Items [] []
  | blank {patterns items : List Text} {gap : Text} (blank : ∀ c ∈ gap, isBlank c = true)
      (rest : Items patterns items) : Items patterns (gap :: items)
  | pattern {patterns items : List Text} {front p back : Text} (blank : ∀ c ∈ front, isBlank c = true)
      (blank' : ∀ c ∈ back, isBlank c = true) (rest : Items patterns items) :
      Items (p :: patterns) ((front ++ p ++ back) :: items)

/-- The value of a variable that lists patterns. -/
def Lists (value : Text) (patterns : List Text) : Prop :=
  ∃ items, Items patterns items ∧ value = [','].intercalate items

variable {patterns items : List Text} {value : Text}

theorem comma_solid : isBlank ',' = false := by decide

theorem Items.whole (listed : Items patterns items) (listable : ∀ p ∈ patterns, Listable p) :
    ∀ item ∈ items, ',' ∉ item := by
  have clear : ∀ gap : Text, (∀ c ∈ gap, isBlank c = true) → ',' ∉ gap := by
    intro gap blank comma
    exact absurd (blank ',' comma) (by rw [comma_solid]; decide)
  induction listed with
  | nil => simp
  | blank blank rest ih =>
      intro item member
      rcases List.mem_cons.1 member with rfl | later
      · exact clear _ blank
      · exact ih listable item later
  | pattern blank blank' rest ih =>
      intro item member
      rcases List.mem_cons.1 member with rfl | later
      · simp only [List.mem_append]
        rintro ((front | own) | back)
        · exact clear _ blank front
        · exact (listable _ List.mem_cons_self).whole own
        · exact clear _ blank' back
      · exact ih (fun p member => listable p (List.mem_cons_of_mem _ member)) item later

/-- What is left of the items when blanks are trimmed away and blank items left out. -/
theorem Items.trimmed (listed : Items patterns items) (listable : ∀ p ∈ patterns, Listable p) :
    (items.map trim).filter (· != []) = patterns := by
  induction listed with
  | nil => rfl
  | blank blank rest ih =>
      rw [List.map_cons, trim_blank blank]
      exact ih listable
  | pattern blank blank' rest ih =>
      have own := listable _ List.mem_cons_self
      rw [List.map_cons, trim_padded own.some_ blank blank' own.first own.last,
        List.filter_cons_of_pos (p := (· != [])) (bne_iff_ne.2 own.some_),
        ih fun p member => listable p (List.mem_cons_of_mem _ member)]

namespace Settings

/-- **What a variable lists is what is read from it**, and nothing listed is the default. -/
theorem patternList_written (lists : Lists value patterns) (listable : ∀ p ∈ patterns, Listable p)
    (default : List Text) :
    patternList (some value) default = if patterns = [] then default else patterns := by
  obtain ⟨items, listed, rfl⟩ := lists
  have read : ((splitOn ',' ([','].intercalate items)).map trim).filter (· != []) = patterns := by
    by_cases none_ : items = []
    · subst none_
      cases listed
      rfl
    · rw [splitOn_intercalate (listed.whole listable) none_, listed.trimmed listable]
  rw [patternList, Option.getD_some, read]
  simp only [List.isEmpty_iff]

/-- A variable that is not set or has only blanks and commas gives the default. -/
theorem patternList_blank {value : Option Text} (blank : ∀ t ∈ value, ∀ c ∈ t, c = ',' ∨ isBlank c = true)
    (default : List Text) : patternList value default = default := by
  have none_ : (((value.getD []).splitOn ',').map trim).filter (· != []) = [] := by
    rw [List.filter_eq_nil_iff]
    intro item member
    obtain ⟨part, isPart, rfl⟩ := List.mem_map.1 member
    have gap : ∀ c ∈ part, isBlank c = true := by
      intro c inPart
      obtain ⟨notComma, inValue⟩ := of_mem_splitOn isPart inPart
      cases value with
      | none => cases inValue
      | some t => exact (blank t rfl c inValue).resolve_left notComma
    simp [trim_blank gap]
  rw [patternList, none_]
  rfl

/-! ## The lists of an environment -/

/-- The variable that lists the including patterns. -/
def listVariable : IncludeList → Text
  | .buildReplaceable => "ICONFIX_BUILD_REPLACEABLE_INCLUDE".toList
  | .buildExportDefault => "ICONFIX_BUILD_EXPORT_DEFAULT_INCLUDE".toList
  | .serve => "ICONFIX_SERVE_INCLUDE".toList

def excludeVariable : Text := "ICONFIX_FILTER_EXCLUDE".toList

def listDefault : IncludeList → List Text
  | .buildReplaceable => defaultBuildReplaceable
  | .buildExportDefault => defaultBuildExportDefault
  | .serve => defaultServe

def including (s : Settings) : IncludeList → List Text
  | .buildReplaceable => s.buildReplaceable
  | .buildExportDefault => s.buildExportDefault
  | .serve => s.serve

/-- The options of the settings, but with lists of patterns that are given outright. -/
def optionsWith (s : Settings) (apply : ApplyCondition) (included : IncludeList → List Text) (excluded : List Text) :
    SessionOptions :=
  { s.options apply with
    lists := {
      buildReplaceable := (included .buildReplaceable).map .written
      buildExportDefault := (included .buildExportDefault).map .written
      serve := (included .serve).map .written
      exclude := excluded.map .written } }

/-- The variables of an environment list these patterns. -/
structure Gives (env : Environment) (included : IncludeList → List Text) (excluded : List Text) : Prop where
  including : ∀ list, ∃ value, env.lookup (listVariable list) = some value ∧ Lists value (included list)
  excluding : ∃ value, env.lookup excludeVariable = some value ∧ Lists value excluded
  some_ : ∀ list, included list ≠ []
  listable : ∀ list, ∀ p ∈ included list, Listable p
  listable' : ∀ p ∈ excluded, Listable p

variable {env : Environment} {cwd helperDirectory : Text} {s : Settings} {included : IncludeList → List Text}
  {excluded : List Text}

theorem listDefault_ne_nil (list : IncludeList) : listDefault list ≠ [] := by
  cases list <;> exact List.cons_ne_nil _ _

/-- The lists of the settings are what is read from their variables. -/
theorem ofEnvironment_lists (read : ofEnvironment env cwd helperDirectory = .ok s) :
    (∀ list, s.including list = patternList (env.lookup (listVariable list)) (listDefault list)) ∧
      s.exclude = patternList (env.lookup excludeVariable) [] := by
  rw [ofEnvironment] at read
  cases number : readInteger ((env.lookup "PORT".toList).getD "8890".toList) with
  | error fault =>
      simp only [number] at read
      cases read
  | ok tcpPort =>
      simp only [number] at read
      obtain rfl := Except.ok.inj read
      refine ⟨fun list => ?_, rfl⟩
      cases list <;> rfl

theorem patternList_ne_nil (value : Option Text) {default : List Text} (some_ : default ≠ []) :
    patternList value default ≠ [] := by
  intro none_
  simp only [patternList] at none_
  split at none_
  · exact some_ none_
  · rename_i items
    exact items (by rw [none_]; rfl)

theorem including_ne_nil (read : ofEnvironment env cwd helperDirectory = .ok s) (list : IncludeList) :
    s.including list ≠ [] := by
  rw [(ofEnvironment_lists read).1 list]
  exact patternList_ne_nil _ (listDefault_ne_nil list)

/-- **What the environment gives, the settings have.** -/
theorem options_eq (read : ofEnvironment env cwd helperDirectory = .ok s) (gives : Gives env included excluded)
    (apply : ApplyCondition) : s.options apply = s.optionsWith apply included excluded := by
  obtain ⟨reads, reads'⟩ := ofEnvironment_lists read
  have same : ∀ list, s.including list = included list := by
    intro list
    obtain ⟨value, set_, lists⟩ := gives.including list
    rw [reads list, set_, patternList_written lists (gives.listable list), if_neg (gives.some_ list)]
  have same' : s.exclude = excluded := by
    obtain ⟨value, set_, lists⟩ := gives.excluding
    rw [reads', set_, patternList_written lists gives.listable']
    split
    · rename_i none_
      exact none_.symm
    · rfl
  rw [optionsWith, ← same, ← same, ← same, ← same']
  rfl

end Settings

namespace Session

open Settings

open Graft.Version (Room)

variable {env : Environment} {cwd helperDirectory : Text} {s : Settings} {room : Room} {fs : FileSystem}
  {compile : Regex.Compiler}

theorem ofSettings_result {mode : Mode} {apply : ApplyCondition} (named : Mode.parse (some s.mode) = .ok mode)
    (named' : s.applyCondition = .ok apply) :
    (ofSettings room fs s compile).result =
      (configure room fs s.projectRoot mode (s.options apply) compile).result := by
  rw [ofSettings, named]
  simp only [named']
  rfl

/-- Reading a pattern never finds fault with a list. -/
theorem ofGiven_ne_emptyInclude (p : GivenPattern) (list : IncludeList) :
    FilePattern.ofGiven p compile ≠ .error (.emptyInclude list) := by
  cases p with
  | other v => rintro ⟨⟩
  | compiled r => rintro ⟨⟩
  | written t =>
      rw [FilePattern.ofGiven, FilePattern.ofText]
      split
      · rintro ⟨⟩
      split
      · split <;> rintro ⟨⟩
      · rintro ⟨⟩

/-- No list of including patterns that the settings have is empty, so none is refused for that. -/
theorem ofSettings_ne_emptyInclude (read : ofEnvironment env cwd helperDirectory = .ok s) (list : IncludeList) :
    (ofSettings room fs s compile).result ≠ .error (.filter (.emptyInclude list)) := by
  cases named : Mode.parse (some s.mode) with
  | error fault =>
      rw [ofSettings, named]
      rintro ⟨⟩
  | ok mode =>
      cases named' : s.applyCondition with
      | error fault =>
          rw [ofSettings, named]
          simp only [named']
          rintro ⟨⟩
      | ok apply =>
          rw [ofSettings_result named named', configure]
          have making := FilterSet.ofLists_making compile mode (s.options apply).lists
          generalize FilterSet.ofLists mode (s.options apply).lists compile = outcome at making ⊢
          cases making with
          | made reads =>
              simp only [Logged.map]
              split <;> rintro ⟨⟩
          | empty c none_ =>
              have written : (s.options apply).lists.including mode c =
                  (s.including (mode.includes c)).map .written := by
                rw [FilterLists.including]
                cases mode.includes c <;> rfl
              rw [written, List.map_eq_nil_iff] at none_
              exact absurd none_ (including_ne_nil read _)
          | @unread p fault _ _ fails =>
              intro same
              obtain rfl : fault = .emptyInclude list := SessionFault.filter.inj (Except.error.inj same)
              exact ofGiven_ne_emptyInclude p list fails

/-- **A session from the environment is the one with its lists given outright**, and it fails as that one does.  What
is not listed is the default, and no session fails because nothing is listed. -/
theorem ofEnvironment_configures (read : ofEnvironment env cwd helperDirectory = .ok s) (room : Room)
    (fs : FileSystem) (compile : Regex.Compiler) :
    (∀ included excluded mode apply, Gives env included excluded → Mode.parse (some s.mode) = .ok mode →
        s.applyCondition = .ok apply →
        (ofSettings room fs s compile).result =
          (configure room fs s.projectRoot mode (s.optionsWith apply included excluded) compile).result) ∧
      (∀ list, (∀ value ∈ env.lookup (listVariable list), ∀ c ∈ value, c = ',' ∨ isBlank c = true) →
        s.including list = listDefault list) ∧
      ((∀ value ∈ env.lookup excludeVariable, ∀ c ∈ value, c = ',' ∨ isBlank c = true) → s.exclude = []) ∧
      ∀ list, (ofSettings room fs s compile).result ≠ .error (.filter (.emptyInclude list)) := by
  obtain ⟨reads, reads'⟩ := ofEnvironment_lists read
  refine ⟨?_, ?_, ?_, ofSettings_ne_emptyInclude read⟩
  · intro included excluded mode apply gives named named'
    rw [ofSettings_result named named', options_eq read gives apply]
  · intro list blank
    rw [reads list, patternList_blank blank]
  · intro blank
    rw [reads', patternList_blank blank]

/-- An environment of a server, with blank items and blanks of several scripts in its lists. -/
def paddedEnvironment : Environment := [
  ("ICONFIX_MODE".toList, " Dev".toList),
  ("ICONFIX_BUILD_REPLACEABLE_INCLUDE".toList, "re:a".toList),
  ("ICONFIX_BUILD_EXPORT_DEFAULT_INCLUDE".toList, "re:a".toList),
  ("ICONFIX_SERVE_INCLUDE".toList, " ,\u3000re:a\t,,re:b c\u00a0".toList),
  ("ICONFIX_FILTER_EXCLUDE".toList, " , ".toList)]

def paddedIncluded : IncludeList → List Text
  | .serve => ["re:a".toList, "re:b c".toList]
  | _ => ["re:a".toList]

theorem padding_blank : ∀ c ∈ [' ', '\t', '\u3000', '\u00a0'], isBlank c = true := List.all_eq_true.1 (by decide)

theorem padded_gives : Gives paddedEnvironment paddedIncluded [] where
  including := by
    have item : Items ["re:a".toList] [[] ++ "re:a".toList ++ []] := .pattern (by simp) (by simp) .nil
    have single : Lists "re:a".toList ["re:a".toList] := ⟨_, item, rfl⟩
    intro list
    cases list with
    | serve =>
        have items : Items (paddedIncluded .serve)
            [[' '], ['\u3000'] ++ "re:a".toList ++ ['\t'], [], [] ++ "re:b c".toList ++ ['\u00a0']] :=
          .blank (by simp [padding_blank]) (.pattern (by simp [padding_blank]) (by simp [padding_blank])
            (.blank (by simp) (.pattern (by simp) (by simp [padding_blank]) .nil)))
        exact ⟨" ,\u3000re:a\t,,re:b c\u00a0".toList, rfl, _, items, rfl⟩
    | buildReplaceable => exact ⟨_, rfl, single⟩
    | buildExportDefault => exact ⟨_, rfl, single⟩
  excluding := ⟨" , ".toList, rfl, [[' '], [' ']],
    .blank (by simp [padding_blank]) (.blank (by simp [padding_blank]) .nil), rfl⟩
  some_ := by
    intro list
    cases list <;> exact List.cons_ne_nil _ _
  listable := by
    intro list
    cases list <;> decide
  listable' := fun p member => absurd member List.not_mem_nil

theorem ofEnvironment_configures_padded :
    ∃ s, ofEnvironment paddedEnvironment "/p".toList "/v".toList = .ok s ∧ Gives paddedEnvironment paddedIncluded [] ∧
      Mode.parse (some s.mode) = .ok .serve ∧ s.applyCondition = .ok .always ∧
      ∀ room, (ofSettings room ⟨"/p".toList, []⟩ s).result =
        (configure room ⟨"/p".toList, []⟩ s.projectRoot .serve (s.optionsWith .always paddedIncluded [])).result := by
  have read : ∃ s, ofEnvironment paddedEnvironment "/p".toList "/v".toList = .ok s ∧
      Mode.parse (some s.mode) = .ok .serve ∧ s.applyCondition = .ok .always := ⟨_, rfl, rfl, rfl⟩
  obtain ⟨s, read, named, named'⟩ := read
  refine ⟨s, read, padded_gives, named, named', fun room => ?_⟩
  exact (ofEnvironment_configures read room ⟨"/p".toList, []⟩ (Regex.compile {})).1 _ _ _ _ padded_gives named named'

end Session

end Graft
