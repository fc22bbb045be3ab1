/-
# Graft.Proofs.FileSystem.Normal -- normal paths and where they lead

A path is made normal without looking at any file: a double dot takes away the component before it.  A walk does not
work so.  It goes through all components, and behind a link a double dot leads up from the target, not back to the
directory in which the link stands.

A path `Returns` if each double dot leads back to where the component that it takes away was looked up.  What such a
path leads to, its normal form leads to as well, over no more links (`leads_normal`).  This is so of every path
without double dots, and of every path where there are no links (`returns_plain`, `returns_linkless`).
-/
import Graft.Proofs.FileSystem.Walk
import Graft.Proofs.Text.Parts

namespace Graft.Path

set_option autoImplicit false

/-! ## Components of texts -/

theorem partsOf_append (front back : Text) : partsOf (front ++ '/' :: back) = partsOf front ++ partsOf back := by
  rw [partsOf, Text.splitOn_append, List.filter_append]
  rfl

/-- The components of a path behind another are those of both. -/
theorem partsOf_join {base rest : Text} (relative : isAbsolute rest = false) :
    partsOf (join base rest) = partsOf base ++ partsOf rest := by
  rw [join, relative, if_neg Bool.false_ne_true]
  by_cases empty : base = []
  · subst empty
    rfl
  by_cases ended : base.getLast? = some '/'
  · obtain ⟨front, rfl⟩ := List.getLast?_eq_some_iff.1 ended
    have alone : partsOf (front ++ ['/']) = partsOf front := by
      rw [partsOf_append]
      exact List.append_nil _
    rw [if_pos (by simp [ended]), List.append_assoc, List.singleton_append, partsOf_append, alone]
  · rw [if_neg (by simp [ended, empty]), partsOf_append]

theorem leadOf_ne_zero {t : Text} (absolute : isAbsolute t = true) : leadOf t ≠ 0 := by
  cases t with
  | nil => cases absolute
  | cons c rest =>
      obtain rfl : c = '/' := by simpa [isAbsolute] using absolute
      rw [leadOf, List.takeWhile_cons_of_pos rfl]
      cases rest.takeWhile (· == '/') with
      | nil => decide
      | cons d more =>
          cases more with
          | nil => exact Nat.succ_ne_zero 1
          | cons => exact Nat.succ_ne_zero 0

/-- Components with the dots taken out, and each double dot with the component before it. -/
def normal (todo : List Text) : List Text := ((todo.filter (· != dot)).foldl (push true) []).reverse

end Graft.Path

namespace Graft.FileSystem

set_option autoImplicit false

theorem partsOf_eq_steps (t : Text) : Path.partsOf t = (steps t).filter (· != Path.dot) := by
  rw [Path.partsOf, steps, List.filter_append, List.filter_filter]
  have behind : (if t.getLast? = some '/' then [Path.dot] else []).filter (· != Path.dot) = [] := by
    split <;> rfl
  rw [behind, List.append_nil]
  congr 1
  funext part
  exact Bool.and_comm _ _

/-- **The path that a text means has the components of its route, made normal.** -/
theorem absolute_parts {fs : FileSystem} (rooted : Path.isAbsolute fs.cwd = true) (t : Text) :
    (Path.absolute fs.cwd t).parts = Path.normal (fs.route t) := by
  have some_ : fs.cwd ≠ [] := by
    intro empty
    rw [empty] at rooted
    cases rooted
  rw [Path.absolute, route]
  by_cases absolute : Path.isAbsolute t = true
  · rw [if_pos absolute, if_pos absolute, Path.ofText, Path.normal, ← partsOf_eq_steps,
      bne_iff_ne.2 (Path.leadOf_ne_zero absolute)]
  · have relative : Path.isAbsolute t = false := Bool.eq_false_iff.2 absolute
    have begins : Path.isAbsolute (Path.join fs.cwd t) = true := by
      rw [Path.join, relative, if_neg Bool.false_ne_true]
      obtain ⟨c, rest, same⟩ := List.exists_cons_of_ne_nil some_
      rw [same] at rooted ⊢
      split <;> exact rooted
    rw [if_neg absolute, if_neg absolute, Path.ofText, Path.normal, List.filter_append, ← partsOf_eq_steps,
      ← partsOf_eq_steps, Path.partsOf_join relative, bne_iff_ne.2 (Path.leadOf_ne_zero begins)]

/-! ## Paths that return -/

/-- Each double dot leads back to where the component that it takes away was looked up; `trail` are the places where
those were looked up that are left, the last one first. -/
def Returns (fs : FileSystem) : List (List Text) → List Text → List Text → Prop
  | _, _, [] => True
  | trail, here, part :: rest =>
    if part = Path.dot then Returns fs trail here rest
    else if part = Path.dotDot then
      (∀ origin, trail.head? = some origin → here.dropLast = origin) ∧ Returns fs trail.tail here.dropLast rest
    else ∀ k there, Leads fs k here [part] there → Returns fs (here :: trail) there rest

variable {fs : FileSystem} {here there todo before : List Text} {trail : List (List Text)} {part : Text} {i j : Nat}

/-- Components lead from the root to a place, each of them looked up at a place of the trail. -/
inductive Trailed (fs : FileSystem) : Nat → List Text → List (List Text) → List Text → Prop
  | root : Trailed fs 0 [] [] []
  | push {i j : Nat} {before : List Text} {trail : List (List Text)} {here there : List Text} {part : Text}
      (earlier : Trailed fs i before trail here) (not_dotDot : part ≠ Path.dotDot)
      (leads : Leads fs j here [part] there) : Trailed fs (i + j) (part :: before) (here :: trail) there

theorem Trailed.leads (trailed : Trailed fs i before trail here) : Leads fs i [] before.reverse here := by
  induction trailed with
  | root => exact .done []
  | push earlier not_dotDot leads ih =>
      rw [List.reverse_cons]
      exact ih.append leads

/-- A component that is a dot or a double dot is taken in a step. -/
theorem leads_dot {k : Nat} (leads : Leads fs k here (Path.dot :: todo) there) : Leads fs k here todo there := by
  cases leads with
  | step directory moves later =>
      generalize same : Path.dot = part at moves
      cases moves with
      | dot => exact later
      | up => exact absurd same (by decide)
      | enter named found real => exact absurd same.symm named.not_dot
  | link directory named found later => exact absurd rfl named.not_dot

theorem leads_up {k : Nat} (leads : Leads fs k here (Path.dotDot :: todo) there) :
    Leads fs k here.dropLast todo there := by
  cases leads with
  | step directory moves later =>
      generalize same : Path.dotDot = part at moves
      cases moves with
      | dot => exact absurd same (by decide)
      | up => exact later
      | enter named found real => exact absurd same.symm named.not_dotDot
  | link directory named found later => exact absurd rfl named.not_dotDot

/-- The step that carries the normal form along: what is left of the components before leads to where the walk is. -/
theorem leads_trailed (trailed : Trailed fs i before trail here) (returns : Returns fs trail here todo)
    (leads : Leads fs j here todo there) :
    ∃ k ≤ i + j, Leads fs k [] (((todo.filter (· != Path.dot)).foldl (Path.push true) before).reverse) there := by
  induction todo generalizing i j before trail here with
  | nil =>
      cases leads with
      | done => exact ⟨i, Nat.le_refl _, trailed.leads⟩
  | cons part rest ih =>
      rw [Returns] at returns
      by_cases isDot : part = Path.dot
      · subst isDot
        rw [if_pos rfl] at returns
        exact ih trailed returns (leads_dot leads)
      have kept : (part :: rest).filter (· != Path.dot) = part :: rest.filter (· != Path.dot) :=
        List.filter_cons_of_pos (bne_iff_ne.2 isDot)
      rw [if_neg isDot] at returns
      rw [kept, List.foldl_cons]
      by_cases isUp : part = Path.dotDot
      · subst isUp
        rw [if_pos rfl] at returns
        have later := leads_up leads
        obtain ⟨back, returns⟩ := returns
        cases trailed with
        | root => exact ih .root returns later
        | push earlier not_dotDot own =>
            rw [back _ rfl] at returns later
            obtain ⟨k, upTo, whole⟩ := ih earlier returns later
            refine ⟨k, by omega, ?_⟩
            simpa [Path.push, not_dotDot] using whole
      · rw [if_neg isUp] at returns
        have parted : Leads fs j here ([part] ++ rest) there := leads
        obtain ⟨first, second, mid, rfl, own, later⟩ := leads_append.1 parted
        obtain ⟨k, upTo, whole⟩ := ih (.push trailed isUp own) (returns first mid own) later
        refine ⟨k, by omega, ?_⟩
        simpa [Path.push, isUp] using whole

/-- **What a path that returns leads to, its normal form leads to.** -/
theorem leads_normal {k : Nat} (returns : Returns fs [] [] todo) (leads : Leads fs k [] todo there) :
    ∃ k' ≤ k, Leads fs k' [] (Path.normal todo) there := by
  obtain ⟨k', upTo, whole⟩ := leads_trailed .root returns leads
  rw [Nat.zero_add] at upTo
  exact ⟨k', upTo, whole⟩

/-! ## Where all paths return -/

theorem returns_plain (plain : Path.dotDot ∉ todo) : Returns fs trail here todo := by
  induction todo generalizing trail here with
  | nil => trivial
  | cons part rest ih =>
      have later : Path.dotDot ∉ rest := fun member => plain (List.mem_cons_of_mem part member)
      have isUp : part ≠ Path.dotDot := fun same => plain (same ▸ List.mem_cons_self)
      rw [Returns]
      by_cases isDot : part = Path.dot
      · rw [if_pos isDot]
        exact ih later
      · rw [if_neg isDot, if_neg isUp]
        intro k there leads
        exact ih later

/-- Without links a component leads to the entry of its name. -/
theorem leads_linkless {k : Nat} (linkless : fs.Linkless) (isDot : part ≠ Path.dot) (isUp : part ≠ Path.dotDot)
    (leads : Leads fs k here [part] there) : there = here ++ [part] := by
  cases leads with
  | step directory moves later =>
      cases moves with
      | dot => exact absurd rfl isDot
      | up => exact absurd rfl isUp
      | enter named found real =>
          cases later with
          | done => rfl
  | link directory named found later => exact absurd found (linkless _ _)

/-- The places of a trail are the places above each other. -/
inductive Above : List (List Text) → List Text → Prop
  | root : Above [] []
  | push {trail : List (List Text)} {here : List Text} (earlier : Above trail here) (part : Text) :
      Above (here :: trail) (here ++ [part])

theorem returns_linkless (linkless : fs.Linkless) (above : Above trail here) : Returns fs trail here todo := by
  induction todo generalizing trail here with
  | nil => trivial
  | cons part rest ih =>
      rw [Returns]
      by_cases isDot : part = Path.dot
      · rw [if_pos isDot]
        exact ih above
      rw [if_neg isDot]
      by_cases isUp : part = Path.dotDot
      · rw [if_pos isUp]
        cases above with
        | root =>
            refine ⟨?_, ih .root⟩
            intro origin none_
            cases none_
        | push earlier last =>
            rw [List.dropLast_concat]
            refine ⟨?_, ih earlier⟩
            intro origin same
            exact Option.some.inj same
      · rw [if_neg isUp]
        intro k there leads
        obtain rfl := leads_linkless linkless isDot isUp leads
        exact ih (.push above part)

end Graft.FileSystem
