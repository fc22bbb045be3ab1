/-
# Graft.Proofs.FileSystem.Walk -- where a path leads

`Leads fs k here todo there` says that components lead from one place to another over `k` links.  A walk computes
just that, as far as its limit allows (`walkFrom_ok_iff`); the relation knows no limit, and so a way can be cut in
two and put together again (`leads_append`).

Without links nothing leads in circles (`walkFrom_linkless`).
-/
import Graft.FileSystem.Basic

namespace Graft.FileSystem

set_option autoImplicit false

/-- A component that names an entry of a directory. -/
structure Named (part : Text) : Prop where
  not_dot : part ≠ Path.dot
  not_dotDot : part ≠ Path.dotDot
  short : Text.byteLength part ≤ nameLimit

/-- Where the target of a link is looked up that is met in a directory. -/
def targetStart (target : Text) (here : List Text) : List Text := if Path.isAbsolute target then [] else here

/-- Where a component leads that is no link. -/
inductive Step (fs : FileSystem) (here : List Text) : Text → List Text → Prop
  | dot : Step fs here Path.dot here
  | up : Step fs here Path.dotDot here.dropLast
  | enter {part : Text} {entry : FileEntry} (named : Named part) (found : fs.entry? (here ++ [part]) = some entry)
      (real : ∀ target, entry ≠ .link target) : Step fs here part (here ++ [part])

/-- Components lead from a place to another, over a number of links. -/
inductive Leads (fs : FileSystem) : Nat → List Text → List Text → List Text → Prop
  | done (here : List Text) : Leads fs 0 here [] here
  | step {k : Nat} {here next rest there : List Text} {part : Text} (directory : fs.entry? here = some .directory)
      (moves : Step fs here part next) (later : Leads fs k next rest there) : Leads fs k here (part :: rest) there
  | link {k : Nat} {here rest there : List Text} {part target : Text} (directory : fs.entry? here = some .directory)
      (named : Named part) (found : fs.entry? (here ++ [part]) = some (.link target))
      (later : Leads fs k (targetStart target here) (steps target ++ rest) there) :
      Leads fs (k + 1) here (part :: rest) there

variable {fs : FileSystem} {here there todo : List Text} {entry : FileEntry} {n : Nat}

/-! ## What a walk computes -/

/-- What a walk gives is what is at the place. -/
theorem walkFrom_entry {follow : Bool} (walked : fs.walkFrom follow n here todo = .ok (there, entry)) :
    fs.entry? there = some entry := by
  fun_induction walkFrom fs follow n here todo with
  | case1 links here found at_ =>
      obtain ⟨rfl, rfl⟩ := Prod.mk.inj (Except.ok.inj walked)
      exact at_
  | case2 | case3 | case6 | case7 | case9 => cases walked
  | case4 links here rest directory ih | case5 links here rest directory other ih => exact ih walked
  | case8 links here part rest directory notDot notUp short target at_ last =>
      obtain ⟨rfl, rfl⟩ := Prod.mk.inj (Except.ok.inj walked)
      exact at_
  | case10 here part rest directory notDot notUp short target at_ goes links ih => exact ih walked
  | case11 links here part rest directory notDot notUp short found real at_ ih => exact ih walked

theorem leads_of_walkFrom (walked : fs.walkFrom true n here todo = .ok (there, entry)) :
    ∃ k ≤ n, Leads fs k here todo there := by
  fun_induction walkFrom fs true n here todo with
  | case1 links here found at_ =>
      obtain ⟨rfl, rfl⟩ := Prod.mk.inj (Except.ok.inj walked)
      exact ⟨0, Nat.zero_le _, .done _⟩
  | case2 | case3 | case6 | case7 | case9 => cases walked
  | case4 links here rest directory ih =>
      obtain ⟨k, upTo, leads⟩ := ih walked
      exact ⟨k, upTo, .step (Decidable.of_not_not directory) .dot leads⟩
  | case5 links here rest directory other ih =>
      obtain ⟨k, upTo, leads⟩ := ih walked
      exact ⟨k, upTo, .step (Decidable.of_not_not directory) .up leads⟩
  | case8 links here part rest directory notDot notUp short target at_ last => simp at last
  | case10 here part rest directory notDot notUp short target at_ goes links ih =>
      obtain ⟨k, upTo, leads⟩ := ih walked
      exact ⟨k + 1, Nat.succ_le_succ upTo,
        .link (Decidable.of_not_not directory) ⟨notDot, notUp, Nat.le_of_not_lt short⟩ at_ leads⟩
  | case11 links here part rest directory notDot notUp short found real at_ ih =>
      obtain ⟨k, upTo, leads⟩ := ih walked
      exact ⟨k, upTo, .step (Decidable.of_not_not directory)
        (.enter ⟨notDot, notUp, Nat.le_of_not_lt short⟩ at_ real) leads⟩

theorem walkFrom_of_leads {k : Nat} (leads : Leads fs k here todo there) (upTo : k ≤ n)
    (found : fs.entry? there = some entry) : fs.walkFrom true n here todo = .ok (there, entry) := by
  induction leads generalizing n with
  | done here => rw [walkFrom, found]
  | step directory moves later ih =>
      have goes := ih upTo found
      cases moves with
      | dot => rwa [walkFrom, if_neg (not_not_intro directory), if_pos rfl]
      | up => rwa [walkFrom, if_neg (not_not_intro directory), if_neg (by decide), if_pos rfl]
      | enter named at_ real =>
          rw [walkFrom, if_neg (not_not_intro directory), if_neg named.not_dot, if_neg named.not_dotDot,
            if_neg (Nat.not_lt.2 named.short), at_]
          split
          · contradiction
          · rename_i target same
            exact absurd (Option.some.inj same) (real target)
          · exact goes
  | @link k here rest there part target directory named at_ later ih =>
      obtain ⟨links, rfl⟩ : ∃ links, n = links + 1 := ⟨n - 1, by omega⟩
      rw [walkFrom, if_neg (not_not_intro directory), if_neg named.not_dot, if_neg named.not_dotDot,
        if_neg (Nat.not_lt.2 named.short), at_]
      simp only [Bool.not_true, Bool.and_false, Bool.false_eq_true, if_false]
      exact ih (Nat.le_of_succ_le_succ upTo) found

/-- **A walk goes where the components lead**, if it may follow that many links and something is there. -/
theorem walkFrom_ok_iff :
    fs.walkFrom true n here todo = .ok (there, entry) ↔
      (∃ k ≤ n, Leads fs k here todo there) ∧ fs.entry? there = some entry := by
  constructor
  · intro walked
    exact ⟨leads_of_walkFrom walked, walkFrom_entry walked⟩
  · rintro ⟨⟨k, upTo, leads⟩, found⟩
    exact walkFrom_of_leads leads upTo found

/-- The components that a walk of a written path goes through from the root. -/
def route (fs : FileSystem) (t : Text) : List Text := if Path.isAbsolute t then steps t else steps fs.cwd ++ steps t

/-- A written path is walked, or it cannot be asked for. -/
theorem walk_cases (fs : FileSystem) (follow : Bool) (t : Text) :
    fs.walk follow t = fs.walkFrom follow linkLimit [] (fs.route t) ∨
      ∃ fault, fault ≠ .tooManyLinks ∧ fs.walk follow t = .error fault := by
  rw [walk]
  by_cases nul : t.contains '\x00' = true
  · rw [if_pos nul]
    exact .inr ⟨.embeddedNul, by decide, rfl⟩
  by_cases empty : t.isEmpty = true
  · rw [if_neg nul, if_pos empty]
    exact .inr ⟨.missing, by decide, rfl⟩
  by_cases long : pathLimit ≤ Text.byteLength t
  · rw [if_neg nul, if_neg empty, if_pos long]
    exact .inr ⟨.nameTooLong, by decide, rfl⟩
  · rw [if_neg nul, if_neg empty, if_neg long]
    exact .inl rfl

/-- What a path leads to is what its walk ends at. -/
theorem stat_eq_ok_iff {t : Text} : fs.stat t = .ok entry ↔ ∃ place, fs.walk true t = .ok (place, entry) := by
  rw [stat]
  cases walked : fs.walk true t with
  | error fault => simp [Except.map]
  | ok found =>
      obtain ⟨place, entry'⟩ := found
      simp [Except.map]

/-! ## Ways cut in two -/

theorem Leads.append {i j : Nat} {mid xs ys : List Text} (first : Leads fs i here xs mid)
    (second : Leads fs j mid ys there) : Leads fs (i + j) here (xs ++ ys) there := by
  induction first with
  | done here =>
      rw [Nat.zero_add]
      exact second
  | step directory moves later ih => exact .step directory moves (ih second)
  | link directory named at_ later ih =>
      have later' := ih second
      rw [List.append_assoc] at later'
      rw [Nat.add_right_comm]
      exact .link directory named at_ later'

theorem Leads.cut {k : Nat} {xs ys : List Text} (leads : Leads fs k here (xs ++ ys) there) :
    ∃ i j mid, k = i + j ∧ Leads fs i here xs mid ∧ Leads fs j mid ys there := by
  generalize whole : xs ++ ys = todo at leads
  induction leads generalizing xs with
  | done here =>
      obtain ⟨rfl, rfl⟩ := List.append_eq_nil_iff.1 whole
      exact ⟨0, 0, here, rfl, .done here, .done here⟩
  | @step k here next rest there part directory moves later ih =>
      cases xs with
      | nil =>
          obtain rfl : ys = _ := whole
          exact ⟨0, k, here, (Nat.zero_add k).symm, .done here, .step directory moves later⟩
      | cons x xs =>
          obtain ⟨rfl, behind⟩ := List.cons_eq_cons.1 whole
          obtain ⟨i, j, mid, sum, first, second⟩ := ih behind
          exact ⟨i, j, mid, sum, .step directory moves first, second⟩
  | @link k here rest there part target directory named at_ later ih =>
      cases xs with
      | nil =>
          obtain rfl : ys = _ := whole
          exact ⟨0, k + 1, here, (Nat.zero_add _).symm, .done here, .link directory named at_ later⟩
      | cons x xs =>
          obtain ⟨rfl, rfl⟩ := List.cons_eq_cons.1 whole
          -- The components of the target come before the rest, so the cut is behind them.
          obtain ⟨i, j, mid, rfl, first, second⟩ := ih (List.append_assoc (steps target) xs ys)
          exact ⟨i + 1, j, mid, Nat.add_right_comm i j 1, .link directory named at_ first, second⟩

/-- **A way can be cut anywhere**, and the links on it are those of the parts. -/
theorem leads_append {k : Nat} {xs ys : List Text} :
    Leads fs k here (xs ++ ys) there ↔
      ∃ i j mid, k = i + j ∧ Leads fs i here xs mid ∧ Leads fs j mid ys there := by
  constructor
  · exact Leads.cut
  · rintro ⟨i, j, mid, rfl, first, second⟩
    exact first.append second

/-! ## File systems without links -/

/-- There are no links. -/
def Linkless (fs : FileSystem) : Prop := ∀ place target, fs.entry? place ≠ some (.link target)

/-- What cannot be searched is no circle of links. -/
theorem closedFault_ne (entry : Option FileEntry) : closedFault entry ≠ .tooManyLinks := by
  unfold closedFault
  split
  · decide
  · decide

/-- Without links no walk goes in circles. -/
theorem walkFrom_linkless (linkless : fs.Linkless) {follow : Bool} :
    fs.walkFrom follow n here todo ≠ .error .tooManyLinks := by
  intro failed
  fun_induction walkFrom fs follow n here todo with
  | case1 | case2 | case6 | case7 | case8 => cases failed
  | case3 => exact closedFault_ne _ (Except.error.inj failed)
  | case4 links here rest directory ih | case5 links here rest directory other ih => exact ih failed
  | case9 here part rest directory notDot notUp short target at_ goes => exact linkless _ _ at_
  | case10 here part rest directory notDot notUp short target at_ goes links ih => exact linkless _ _ at_
  | case11 links here part rest directory notDot notUp short found real at_ ih => exact ih failed

theorem stat_linkless (linkless : fs.Linkless) (t : Text) : fs.stat t ≠ .error .tooManyLinks := by
  intro failed
  rw [stat] at failed
  rcases walk_cases fs true t with walked | ⟨fault, other, refused⟩
  · rw [walked] at failed
    cases found : fs.walkFrom true linkLimit [] (fs.route t) with
    | ok found' =>
        rw [found] at failed
        cases failed
    | error fault =>
        rw [found] at failed
        obtain rfl := Except.error.inj failed
        exact walkFrom_linkless linkless found
  · rw [refused] at failed
    exact other (Except.error.inj failed)

/-- A path leads to a link only where there is one. -/
theorem linkTarget?_linkless (linkless : fs.Linkless) (t target : Text) : fs.linkTarget? t ≠ .ok (some target) := by
  intro isLink
  rw [linkTarget?] at isLink
  split at isLink
  · rename_i place target' walked
    rcases walk_cases fs false t with goes | ⟨fault, -, refused⟩
    · rw [goes] at walked
      exact linkless _ _ (walkFrom_entry walked)
    · rw [refused] at walked
      cases walked
  · cases isLink
  · cases isLink

end Graft.FileSystem
