/-
# Graft.Proofs.Patch.Targets -- what the recipes of a bundle aim at

The edits that the recipes of a development server ask for are of three kinds: they replace a fixed text, they
replace a status with its icon, or they insert just behind an opening brace.  Each kind is described by the
characters that stand in the text, whatever the text is.

* `replaces_apart`, `followsBrace_apart`: fixed texts and insertions keep clear of each other.
* `apart_status_iff`: a status meets a fixed text exactly if its icon ends with the first word of that text.
-/
import Graft.Proofs.Patch.Edits
import Graft.Proofs.Regex.Literal

namespace Graft.Patch

set_option autoImplicit false

open Graft.Edit Graft.Regex Graft.Text

/-! ## Kinds of edits -/

/-- The edit replaces the text `w`, which stands where it begins. -/
def Replaces (t w : Text) (e : Edit) : Prop :=
  ∃ p content, e = .overwrite p (p + w.length) content ∧ StandsAt t w p

/-- The edit inserts just behind an opening brace. -/
def FollowsBrace (t : Text) (e : Edit) : Prop := ∃ i content, e = .insertion (i + 1) content ∧ t[i]? = some '{'

/-- What the name of an icon is made of. -/
def nameTest : CharTest := .set [.kind .word false false, .code '$'.toNat] false .exact

/-- What stands between a status and its icon. -/
def arrowMark : Text := [':', ' ', '(', ')', ' ', '=', '>', ' ']

/-- A status with its icon stands from `i` to `j`: three digits, an arrow, and a name that ends there. -/
structure StatusAt (t : Text) (i j : Nat) : Prop where
  digits : ∀ k < 3, ∃ c, t[i + k]? = some c ∧ isDecimal c = true
  arrow : StandsAt t arrowMark (i + 3)
  some_ : i + 11 < j
  name : ∀ k, i + 11 ≤ k → k < j → ∃ c, t[k]? = some c ∧ nameTest.holds c = true
  ends : ∀ c, t[j]? = some c → ¬ nameTest.holds c = true

/-- The edit replaces a status with its icon. -/
def ReplacesStatus (t : Text) (e : Edit) : Prop :=
  ∃ i j content, e = .overwrite i j content ∧ StatusAt t i j

/-! ## The edits of a replacement -/

theorem limited_sublist {α : Type} (count : Int) (xs : List α) : (limited count xs).Sublist xs := by
  unfold limited
  split
  · exact List.take_sublist _ _
  · exact List.Sublist.refl _

theorem mem_regex_edits {r : Replacement} (kind : r.regex = true) {regex : Regex}
    (compiled : Regex.compile {} r.pattern = .ok regex) (steady : isSteady regex = true) {t : Text} {e : Edit}
    (member : e ∈ r.edits t) :
    ∃ m moving, matchAt? regex t.toArray m.span.start moving = some m ∧
      e = .overwrite m.span.start m.span.stop ((expandTemplate regex r.replacement t m).toOption.getD []) := by
  rw [steady_edits kind compiled steady, List.map_map] at member
  obtain ⟨m, inList, rfl⟩ := List.mem_map.1 member
  have found := (List.mem_filter.1 ((limited_sublist _ _).subset inList)).1
  obtain ⟨moving, at_⟩ := matchAt?_of_mem_findAll found
  exact ⟨m, moving, at_, rfl⟩

/-- A pattern that is replaced once is replaced somewhere if it matches anywhere. -/
theorem regex_edits_made {r : Replacement} (kind : r.regex = true) (once : r.count = 1) {regex : Regex}
    (compiled : Regex.compile {} r.pattern = .ok regex) (steady : isSteady regex = true)
    (solid : regex.pattern.lead.tests ≠ []) {t : Text} {p : Nat} (within : p ≤ t.length)
    (here : (matchAt? regex t.toArray p false).isSome = true) : ∃ e, e ∈ r.edits t := by
  obtain ⟨m, found⟩ := Option.isSome_iff_exists.1
    (searchFrom_isSome here (Nat.zero_le p) (show p < 0 + (t.length + 1) by omega))
  obtain ⟨rest, all⟩ := findAll_head found
  have proper : isProper m = true := by
    obtain ⟨moving, at_⟩ := matchAt?_of_search found
    have := (matchAt?_lead steady at_).reach
    have := List.length_pos_iff.2 solid
    exact isProper_iff.2 (by omega)
  have first : m ∈ limited r.count ((findAll regex t).filter isProper) := by
    rw [all, List.filter_cons, if_pos proper, limited, once, if_pos (by decide)]
    exact List.mem_cons_self
  rw [steady_edits kind compiled steady]
  exact ⟨_, List.mem_map_of_mem (List.mem_map_of_mem first)⟩

theorem regex_edits_apart {r : Replacement} (kind : r.regex = true) {regex : Regex}
    (compiled : Regex.compile {} r.pattern = .ok regex) (t : Text) : (r.edits t).Pairwise Edit.Apart := by
  rw [regex_edits kind compiled]
  exact List.pairwise_map.2 ((fetched_chain _ (findAll_chain regex t) _).imp fun order => .inl order)

theorem literal_edits {r : Replacement} (kind : r.regex = false) (t : Text) :
    r.edits t = (r.literalOccurrences t).map (·.edit) := by
  simp [Replacement.edits, Replacement.occurrences, kind]

theorem replaces_of_literal {r : Replacement} (kind : r.regex = false) (some_ : r.pattern ≠ [])
    {t : Text} {e : Edit} (member : e ∈ r.edits t) : Replaces t r.pattern e := by
  rw [literal_edits kind, Replacement.literalOccurrences, List.map_map] at member
  obtain ⟨p, inList, rfl⟩ := List.mem_map.1 member
  exact ⟨p, _, rfl, standsAt_of_mem_occurrences some_ ((limited_sublist _ _).subset inList)⟩

theorem length_limited_le {α : Type} {count : Int} (positive : 0 < count) (xs : List α) :
    ((limited count xs).length : Int) ≤ count := by
  rw [limited, if_pos positive, List.length_take]
  omega

/-- A replacement with a count asks for so many edits at most, if it can be read. -/
theorem Replacement.length_edits_le (r : Replacement) (positive : 0 < r.count) {t : Text}
    {occurrences : List Occurrence} (found : r.occurrences t = .ok occurrences)
    (had : ∀ o ∈ occurrences, ∃ content, o.content = .ok content) : ((r.edits t).length : Int) ≤ r.count := by
  cases kind : r.regex with
  | false =>
      rw [literal_edits kind, Replacement.literalOccurrences, List.length_map, List.length_map]
      exact length_limited_le positive _
  | true =>
      cases compiled : Regex.compile {} r.pattern with
      | error fault => simp [Replacement.occurrences, kind, compiled, bind, Except.bind] at found
      | ok regex =>
          obtain rfl : r.regexOccurrences regex t = occurrences := by
            simpa [Replacement.occurrences, kind, compiled, bind, Except.bind, pure, Except.pure] using found
          rw [Replacement.regexOccurrences, Replacement.limit?, if_pos positive] at had
          have few := length_fetched_le had
          rw [regex_edits kind compiled, List.length_map, Replacement.regexOccurrences, Replacement.limit?,
            if_pos positive]
          omega

/-- A replacement that is made once asks for edits that are apart. -/
theorem once_apart {r : Replacement} (once : r.count = 1) (t : Text) : (r.edits t).Pairwise Edit.Apart := by
  cases kind : r.regex with
  | true =>
      cases compiled : Regex.compile {} r.pattern with
      | error fault =>
          have none_ : r.edits t = [] := by
            simp [Replacement.edits, Replacement.occurrences, kind, compiled, bind, Except.bind]
          rw [none_]
          exact List.Pairwise.nil
      | ok regex => exact regex_edits_apart kind compiled t
  | false =>
      have single : ((r.edits t).length : Int) ≤ 1 := by
        rw [literal_edits kind, Replacement.literalOccurrences, List.length_map, List.length_map, once]
        exact length_limited_le (by decide) _
      cases edits : r.edits t with
      | nil => exact List.Pairwise.nil
      | cons e rest =>
          rw [edits, List.length_cons] at single
          have none_ : rest = [] := List.length_eq_zero_iff.1 (by omega)
          rw [none_]
          exact List.pairwise_singleton _ _

/-! ## The patterns of the bundle -/

def digitTest : CharTest := .set [.kind .digit false false] false .exact

/-- Three digits that begin a word. -/
def statusCode : Pattern :=
  .group 1 (.seq (.anchor (.wordBoundary false false)) (.repeatChar .greedy 3 (some 3) digitTest))

def iconName : Pattern := .group 2 (.repeatChar .greedy 1 none nameTest)

/-- The pattern of a status with its icon. -/
def statusRegex : Regex := ⟨.seq statusCode (.literal arrowMark iconName), 2, []⟩

theorem isSteady_statusRegex : isSteady statusRegex = true := by decide

theorem statusAt_of_match {t : Text} {i : Nat} {moving : Bool} {m : Match}
    (found : matchAt? statusRegex t.toArray i moving = some m) : StatusAt t i m.span.stop := by
  rw [matchAt?_eq_runAt? isSteady_statusRegex] at found
  obtain ⟨st, ran, rfl⟩ := Option.map_eq_some_iff.1 found
  obtain ⟨st₁, way, later⟩ := run_way (p := statusCode) ran
  have code := way.lead
  have three : st₁.pos = i + 3 := code.whole rfl
  obtain ⟨arrow_, ran₂⟩ := run_literal later
  rw [three] at arrow_ ran₂
  -- The name is followed by the end of the match only, so the longest one is taken.
  simp only [iconName, Pattern.run] at ran₂
  obtain ⟨n, some_, name, ends, ended⟩ := runChars_greedy ran₂ (by
    intro n some_
    simp [State.moved, State.setGroup, arrowMark, finish, Nat.add_assoc])
  have stop : st.pos = i + 11 + n := by
    rw [← finish_some ended]
    rfl
  have from_ : (st₁.moved (i + 3 + arrowMark.length)).pos = i + 11 := rfl
  rw [from_] at name ends
  refine ⟨fun k before => ?_, arrow_, ?_, fun k from_ before => ?_, fun c at_ passes_ => ends ?_⟩
  · have test : statusCode.lead.tests[k]? = some digitTest := by
      change (List.replicate 3 digitTest)[k]? = some digitTest
      exact List.getElem?_replicate_of_lt before
    obtain ⟨c, at_, digit⟩ := passes_toArray.1 (code.passed k digitTest test)
    refine ⟨c, at_, ?_⟩
    simpa [digitTest, CharTest.holds, ClassItem.hasCase, ClassItem.holds, CharKind.holds] using digit
  · simp only [stop]
    omega
  · simp only [stop] at before
    obtain ⟨c, at_, passes_⟩ := passes_toArray.1 (name (k - (i + 11)) (by omega))
    exact ⟨c, by rwa [show i + 11 + (k - (i + 11)) = k by omega] at at_, passes_⟩
  · simp only [stop] at at_
    exact passes_toArray.2 ⟨c, at_, passes_⟩

/-- How a bundle declares an icon. -/
def declaration (icon : Text) : Text := "var ".toList ++ icon ++ "_default".toList

def declarationRegex (icon : Text) : Regex where
  pattern := .seq (.anchor (.wordBoundary false false))
    (.literal (declaration icon) (.anchor (.wordBoundary false false)))
  groups := 0
  names := []

theorem isSteady_declarationRegex (icon : Text) : isSteady (declarationRegex icon) = true := by
  simp [isSteady, declarationRegex, Pattern.begunAfter]

/-! ## Other patterns of the recipes -/

def blankTest : CharTest := .set [.kind .space false false] false .exact

theorem blankTest_iff (c : Char) : blankTest.holds c = true ↔ isBlank c = true := by
  simp [blankTest, CharTest.holds, ClassItem.hasCase, ClassItem.holds, CharKind.holds]

def blanks : Pattern := .repeatChar .greedy 0 none blankTest

/-- The head of the wrapper, whatever its first parameter is and however it is spaced. -/
def wrapperAnchor : Regex where
  pattern := .literal "function replaceable".toList (.seq blanks (.literal "(".toList
    (.seq (.group 1 (.repeatChar .greedy 1 none (.code ','.toNat true .exact))) (.literal ",".toList
      (.seq blanks (.literal "icon)".toList (.seq blanks (.char (.only '{')))))))))
  groups := 1
  names := []

theorem isSteady_wrapperAnchor : isSteady wrapperAnchor = true := by decide

/-- Either quotation mark. -/
def quoteTest : CharTest := .set [.code '"'.toNat, .code '\''.toNat] false .exact

/-- How the import of an icon begins. -/
def importLead (icon : Text) : Text := "import ".toList ++ icon ++ " from ".toList

/-- How a module imports an icon, with either quotation mark. -/
def importRegex (icon : Text) : Regex where
  pattern := .literal (importLead icon) (.seq (.group 1 (.char quoteTest))
    (.seq (.group 2 (.literal ("./".toList ++ icon ++ ".mj".toList) (.char (.only 's')))) (.backref 1 .exact)))
  groups := 2
  names := []

theorem isSteady_importRegex (icon : Text) : isSteady (importRegex icon) = true := by
  simp [isSteady, importRegex, Pattern.begunAfter]

/-! ## Insertions -/

/-- The insertion goes behind an inner anchor that ends in an opening brace. -/
def Insertion.behindBrace (i : Insertion) : Bool :=
  i.placement = .after &&
    match Regex.compile {} i.innerAnchor with
    | .ok inner => inner.isSteady && inner.pattern.trail = some (.only '{')
    | .error _ => false

theorem followsBrace_of_insertionPoint {i : Insertion} (brace : i.behindBrace = true) {t : Text} {index : Nat}
    (found : insertionPoint t i = .ok (some index)) (content : Text) :
    FollowsBrace t (.insertion index content) := by
  obtain ⟨anchor, inner, m, stop, n, -, compiled, -, -, searched, rfl⟩ := insertionPoint_found found
  simp only [Insertion.behindBrace, compiled, Bool.and_eq_true, decide_eq_true_eq] at brace
  obtain ⟨after, steady, ends⟩ := brace
  obtain ⟨moving, at_⟩ := matchAt?_of_search searched
  obtain ⟨moves, last⟩ := (matchAt?_way steady at_).2.trail ends
  have here := getElem?_of_slice (passes_only.1 last)
  simp only [startState] at moves here
  refine ⟨m.span.stop + (n.span.stop - 1), content, ?_, here⟩
  rw [after, show m.span.stop + (n.span.stop - 1) + 1 = m.span.stop + n.span.stop by omega]
  rfl

/-- The edits of an insertion are those of its renames, and its template behind a brace. -/
theorem mem_insertion_edits {i : Insertion} (brace : i.behindBrace = true) {t : Text} {e : Edit}
    (member : e ∈ i.edits t) :
    ∃ index, insertionPoint t i = .ok (some index) ∧
      ((∃ r ∈ i.renames, e ∈ r.edits t) ∨ e = .insertion index i.template ∧ FollowsBrace t e) := by
  unfold Insertion.edits at member
  split at member
  · rename_i index found
    refine ⟨index, found, ?_⟩
    rcases List.mem_append.1 member with renames | own
    · exact .inl (List.mem_flatMap.1 renames)
    · obtain rfl := List.mem_singleton.1 own
      exact .inr ⟨rfl, followsBrace_of_insertionPoint brace found i.template⟩
  · simp at member

/-! ## What stands apart -/

variable {t w w' : Text} {e e' : Edit}

theorem Replaces.inRange (replaces : Replaces t w e) (some_ : w ≠ []) : e.InRange t.length := by
  obtain ⟨p, content, rfl, stands⟩ := replaces
  have := stands.within some_
  have := List.length_pos_iff.2 some_
  exact ⟨by omega, by omega⟩

theorem ReplacesStatus.inRange (replaces : ReplacesStatus t e) : e.InRange t.length := by
  obtain ⟨i, j, content, rfl, status⟩ := replaces
  have order := status.some_
  obtain ⟨c, last, -⟩ := status.name (j - 1) (by omega) (by omega)
  have := (List.getElem?_eq_some_iff.1 last).1
  exact ⟨by omega, by omega⟩

theorem FollowsBrace.inRange (follows : FollowsBrace t e) : e.InRange t.length := by
  obtain ⟨i, content, rfl, brace⟩ := follows
  exact (List.getElem?_eq_some_iff.1 brace).1

theorem followsBrace_apart (follows : FollowsBrace t e) (follows' : FollowsBrace t e') : e.Apart e' := by
  obtain ⟨i, content, rfl, -⟩ := follows
  obtain ⟨i', content', rfl, -⟩ := follows'
  trivial

theorem replaces_apart (replaces : Replaces t w e) (replaces' : Replaces t w' e')
    (clear : cannotBeginIn w' w = true) (clear' : cannotBeginIn w w' = true) : e.Apart e' := by
  obtain ⟨p, content, rfl, stands⟩ := replaces
  obtain ⟨p', content', rfl, stands'⟩ := replaces'
  exact standsAt_apart clear clear' stands stands'

theorem replaces_followsBrace_apart (replaces : Replaces t w e)
    (plain : '{' ∉ w) (follows : FollowsBrace t e') :
    e.Apart e' := by
  obtain ⟨p, content, rfl, stands⟩ := replaces
  obtain ⟨i, content', rfl, brace⟩ := follows
  by_contra meets
  simp only [Edit.Apart] at meets
  have inWord := stands.getElem? (i := i) (by omega) (by omega)
  exact plain (List.mem_of_getElem? (inWord.symm.trans brace))

/-- The edits of an insertion are apart, if its renames are made once each, and what they ask for keeps clear of what
the others ask for and of what follows a brace. -/
theorem insertion_edits_apart {i : Insertion} (brace : i.behindBrace = true) {icons : List Text}
    {rename : Text → Replacement} (renames : i.renames = icons.map rename) (once : ∀ icon, (rename icon).count = 1)
    (nodup : icons.Nodup)
    (clear : ∀ index, insertionPoint t i = .ok (some index) → ∀ icon ∈ icons, ∀ e ∈ (rename icon).edits t,
      (∀ e', FollowsBrace t e' → e.Apart e') ∧
        ∀ icon' ∈ icons, icon ≠ icon' → ∀ e' ∈ (rename icon').edits t, e.Apart e') :
    (i.edits t).Pairwise Edit.Apart := by
  unfold Insertion.edits
  split
  · rename_i index found
    rw [renames]
    refine List.pairwise_append.2 ⟨?_, List.pairwise_singleton _ _, ?_⟩
    · refine List.pairwise_flatMap.2 ⟨fun r inRenames => ?_, List.pairwise_map.2 ?_⟩
      · obtain ⟨icon, -, rfl⟩ := List.mem_map.1 inRenames
        exact once_apart (once icon) t
      · refine nodup.imp_of_mem fun {icon icon'} inIcons inIcons' other e member e' member' => ?_
        exact (clear index found icon inIcons e member).2 icon' inIcons' other e' member'
    · intro e member e' last
      obtain ⟨r, inRenames, inEdits⟩ := List.mem_flatMap.1 member
      obtain ⟨icon, inIcons, rfl⟩ := List.mem_map.1 inRenames
      obtain rfl := List.mem_singleton.1 last
      exact (clear index found icon inIcons e inEdits).1 _ (followsBrace_of_insertionPoint brace found _)
  · exact List.Pairwise.nil

/-- What characters a status with its icon consists of. -/
theorem StatusAt.consists {i j k : Nat} (status : StatusAt t i j) (from_ : i ≤ k) (before : k < j) :
    ∃ c, t[k]? = some c ∧
      (isDecimal c = true ∧ k < i + 3 ∨ c ∈ arrowMark ∧ k < i + 11 ∨ nameTest.holds c = true ∧ i + 11 ≤ k) := by
  have length : arrowMark.length = 8 := rfl
  rcases Nat.lt_or_ge k (i + 3) with inCode | afterCode
  · obtain ⟨c, at_, digit⟩ := status.digits (k - i) (by omega)
    rw [show i + (k - i) = k by omega] at at_
    exact ⟨c, at_, .inl ⟨digit, inCode⟩⟩
  · rcases Nat.lt_or_ge k (i + 11) with inArrow | afterArrow
    · have inside : k - (i + 3) < arrowMark.length := by omega
      have at_ := status.arrow.getElem? afterCode (by omega)
      rw [List.getElem?_eq_getElem inside] at at_
      exact ⟨_, at_, .inr (.inl ⟨List.getElem_mem inside, inArrow⟩)⟩
    · obtain ⟨c, at_, name⟩ := status.name k afterArrow before
      exact ⟨c, at_, .inr (.inr ⟨name, afterArrow⟩)⟩

theorem brace_foreign : isDecimal '{' = false ∧ '{' ∉ arrowMark ∧ nameTest.holds '{' = false := by decide

theorem status_followsBrace_apart (replaces : ReplacesStatus t e)
    (follows : FollowsBrace t e') : e.Apart e' := by
  obtain ⟨i, j, content, rfl, status⟩ := replaces
  obtain ⟨k, content', rfl, brace⟩ := follows
  by_contra meets
  simp only [Edit.Apart] at meets
  obtain ⟨c, at_, kind⟩ := status.consists (k := k) (by omega) (by omega)
  obtain rfl := Option.some.inj (at_.symm.trans brace)
  obtain ⟨noDigit, noArrow, noName⟩ := brace_foreign
  rcases kind with ⟨digit, -⟩ | ⟨inArrow, -⟩ | ⟨name, -⟩
  · simp [noDigit] at digit
  · exact noArrow inArrow
  · simp [noName] at name

/-- The text has no digits and begins with a word of `n` characters, which begins like no arrow. -/
def beginsWithWord (n : Nat) (w : Text) : Bool :=
  0 < n && (w.take n).all nameTest.holds && (w[n]?).any (fun c => !nameTest.holds c) &&
    w.all (fun c => !isDecimal c) && (w[0]?).any (fun c => !arrowMark.contains c)

/-- **A status meets a text exactly if its icon ends with the first word of the text.** -/
theorem apart_status_iff {n i j p : Nat} (word : beginsWithWord n w = true) (status : StatusAt t i j)
    (stands : StandsAt t w p) : (j ≤ p ∨ p + w.length ≤ i) ↔ j ≠ p + n := by
  simp only [beginsWithWord, Bool.and_eq_true, decide_eq_true_eq] at word
  obtain ⟨⟨⟨⟨positive, inWord⟩, after⟩, noDigits⟩, first⟩ := word
  obtain ⟨d, atEnd, noName⟩ := (Option.any_eq_true _ _).1 after
  have short := (List.getElem?_eq_some_iff.1 atEnd).1
  have order := status.some_
  constructor
  · rintro (before | behind) rfl <;> omega
  · intro other
    by_contra meets
    -- The status begins ahead of the text, for a digit is not in it.
    have ahead : i < p := by
      by_contra behind
      obtain ⟨c, at_, digit⟩ := status.digits 0 (by omega)
      rw [Nat.add_zero, stands.getElem? (by omega) (by omega)] at at_
      have plain := List.all_eq_true.1 noDigits c (List.mem_of_getElem? at_)
      simp [digit] at plain
    -- So the text begins in the name.
    have inName : i + 11 ≤ p := by
      obtain ⟨c, at_, kind⟩ := status.consists (k := p) (by omega) (by omega)
      rw [stands.getElem? (Nat.le_refl _) (by omega), Nat.sub_self] at at_
      obtain ⟨c', at', noArrow⟩ := (Option.any_eq_true _ _).1 first
      obtain rfl := Option.some.inj (at_.symm.trans at')
      rcases kind with ⟨digit, -⟩ | ⟨inArrow, -⟩ | ⟨-, later⟩
      · have plain := List.all_eq_true.1 noDigits c (List.mem_of_getElem? at_)
        simp [digit] at plain
      · simp [inArrow] at noArrow
      · exact later
    -- The name goes on to the end of the word and no further.
    rcases Nat.lt_trichotomy j (p + n) with early | same | late
    · have inside : j - p < (w.take n).length := by
        rw [List.length_take]
        omega
      have at_ : w[j - p]? = some (w.take n)[j - p] := by
        rw [List.getElem_take, List.getElem?_eq_getElem]
      rw [← stands.getElem? (by omega) (by omega)] at at_
      exact status.ends _ at_ (List.all_eq_true.1 inWord _ (List.getElem_mem inside))
    · exact other same
    · obtain ⟨c, at_, name⟩ := status.name (p + n) (by omega) late
      obtain rfl := Option.some.inj (at_.symm.trans (stands n d atEnd))
      simp [name] at noName

end Graft.Patch
