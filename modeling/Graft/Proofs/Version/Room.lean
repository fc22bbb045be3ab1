/-
# Graft.Proofs.Version.Room -- room enough is all the same

How much room the stack of calls leaves decides whether a version can be told at all.  It does not decide which: a
search that does not run out of room goes the same way with more of it (`realFrom_grows`, and `Json.read_agree` for
the value in a manifest).  So two calls that both tell a version tell the same one (`resolve_agree`), and the gate
decides the same (`evaluate_agree`).
-/
import Graft.Proofs.Version.Resolution

namespace Graft.FileSystem

set_option autoImplicit false

/-- A search that does not go too deep goes the same way where it might go deeper. -/
theorem realFrom_grows (fs : FileSystem) (more depth : Nat) (path : Text) (todo : List Text) (seen : SeenLinks) :
    fs.realFrom depth path todo seen = .error .tooDeep ∨
      fs.realFrom (depth + more) path todo seen = fs.realFrom depth path todo seen := by
  fun_induction fs.realFrom depth path todo seen with
  | case1 depth path seen =>
      rw [realFrom]
      exact .inr rfl
  | case2 depth path seen part rest skipped ih =>
      rw [realFrom, if_pos skipped]
      exact ih
  | case3 depth path seen rest named ih =>
      rw [realFrom, if_neg named, if_pos rfl]
      exact ih
  | case4 depth path seen part rest named down next target =>
      rw [realFrom, if_neg named, if_neg down]
      simp only [next] at target
      simp only [target]
      exact .inr trivial
  | case5 depth path seen part rest named down next fault asked target ih =>
      rw [realFrom, if_neg named, if_neg down]
      simp only [next] at target ih ⊢
      simp only [target]
      cases fault with
      | embeddedNul => exact absurd rfl asked
      | _ => exact ih
  | case6 depth path seen part rest named down next target ih =>
      rw [realFrom, if_neg named, if_neg down]
      simp only [next] at target ih ⊢
      simp only [target]
      exact ih
  | case7 depth path seen part rest named down next link target known met ih =>
      rw [realFrom, if_neg named, if_neg down]
      simp only [next] at target met
      simp only [target, met]
      exact ih
  | case8 depth path seen part rest named down next link target met =>
      rw [realFrom, if_neg named, if_neg down]
      simp only [next] at target met ⊢
      simp only [target, met]
      exact .inr trivial
  | case9 => exact .inl rfl
  | case10 path seen part rest named down next link target unmet depth fault stopped ih =>
      rw [show depth.succ + more = depth + more + 1 by omega, realFrom, if_neg named, if_neg down]
      simp only [next] at target unmet stopped ih
      simp only [target, unmet]
      rcases ih with deep | same
      · rw [stopped] at deep
        exact .inl deep
      · rw [same, stopped]
        exact .inr rfl
  | case11 path seen part rest named down next link target unmet depth found stopped sound inner ih =>
      rw [show depth.succ + more = depth + more + 1 by omega, realFrom, if_neg named, if_neg down]
      simp only [next] at target unmet stopped inner ih ⊢
      simp only [target, unmet]
      rcases inner with deep | same
      · rw [stopped] at deep
        cases deep
      · rw [same, stopped]
        simp only [sound, if_true]
        rwa [show depth + more + 1 = depth + 1 + more by omega]
  | case12 path seen part rest named down next link target unmet depth found stopped unsound ih =>
      rw [show depth.succ + more = depth + more + 1 by omega, realFrom, if_neg named, if_neg down]
      simp only [next] at target unmet stopped ih
      simp only [target, unmet]
      rcases ih with deep | same
      · rw [stopped] at deep
        cases deep
      · rw [same, stopped]
        simp only [unsound]
        exact .inr rfl

/-- **However deep a search may go, if it does not go too deep it finds the same.** -/
theorem realPath_agree {fs : FileSystem} {depth depth' : Nat} {t : Text}
    (enough : fs.realPath depth t ≠ .error .tooDeep) (enough' : fs.realPath depth' t ≠ .error .tooDeep) :
    fs.realPath depth' t = fs.realPath depth t := by
  have grows : ∀ depth more, fs.realPath depth t = .error .tooDeep ∨
      fs.realPath (depth + more) t = fs.realPath depth t := by
    intro depth more
    rw [realPath_eq, realPath_eq]
    rcases fs.realFrom_grows more depth (searchStart [] t).1 (searchStart [] t).2 [] with deep | same
    · exact .inl (by rw [deep]; rfl)
    · exact .inr (by rw [same])
  rcases Nat.le_total depth depth' with le | le
  · obtain ⟨more, rfl⟩ := Nat.exists_eq_add_of_le le
    exact (grows depth more).resolve_left enough
  · obtain ⟨more, rfl⟩ := Nat.exists_eq_add_of_le le
    exact ((grows depth' more).resolve_left enough').symm

end Graft.FileSystem

namespace Graft.Version

set_option autoImplicit false

open Graft.Text

variable {room room' : Room} {fs : FileSystem} {root package : Text}

/-- A version that is declared in one room is declared in every other where one can be told at all. -/
theorem declares_agree {version version' : Text} (told' : resolve room' fs root package = .ok version')
    (declares : Declares room fs root package version) : Declares room' fs root package version := by
  have free : ∀ fault, ¬ Stuck room' fs root package fault := by
    intro fault stuck
    cases told'.symm.trans (resolve_of_stuck stuck)
  cases declares with
  | @value start bytes t _ value real straight found decoded read names =>
      have enough : realDirectory room fs root ≠ .error .tooDeep := fun deep => by cases real.symm.trans deep
      have real' := (FileSystem.realPath_agree enough fun deep => free _ (.links deep)).trans real
      have enough' : ∀ holder, Json.read room'.values (unifyBreaks t) ≠ .error (.tooDeep holder) :=
        fun holder deep => free _ (.value real' straight found decoded deep)
      have read' := (Json.read_agree (fun holder deep => by cases read.symm.trans deep) enough').trans read
      exact .value real' straight found decoded read' names

/-- **Wherever a version can be told, it is the same.** -/
theorem resolve_agree {version version' : Text} (told : resolve room fs root package = .ok version)
    (told' : resolve room' fs root package = .ok version') : version' = version := by
  rcases resolve_ok_iff.1 told with declares | ⟨unknown_, -, none_⟩
  · exact Except.ok.inj (told'.symm.trans (resolve_of_declares (declares_agree told' declares)))
  · rcases resolve_ok_iff.1 told' with declares | ⟨unknown', -, -⟩
    · exact absurd (declares_agree told declares) (none_ version')
    · rw [unknown_, unknown']

/-- **Wherever the gate decides, it decides the same.** -/
theorem evaluate_agree {threshold : Text} {gate gate' : Gate}
    (decides : (Gate.evaluate room fs root threshold package).result = .ok gate)
    (decides' : (Gate.evaluate room' fs root threshold package).result = .ok gate') : gate' = gate := by
  rw [Gate.evaluate] at decides decides'
  cases told : resolve room fs root package with
  | error fault =>
      rw [told] at decides
      cases decides
  | ok version =>
      cases told' : resolve room' fs root package with
      | error fault =>
          rw [told'] at decides'
          cases decides'
      | ok version' =>
          rw [told] at decides
          rw [told', resolve_agree told told'] at decides'
          exact Except.ok.inj (decides'.symm.trans decides)

end Graft.Version
