/-
# Graft.Proofs.Version.Resolution -- when the installed version cannot be told

Most of what can be wrong with a manifest makes the version unknown, and with an unknown version the gate stays open
(`evaluate_unknown`).  What goes too deep is different: then there is no version at all, and the gate does not
decide.  `Stuck` lists these cases, and there are no others (`resolve_outcome`):

* The links that the directory is reached by lead in circles.
* More links lead into each other than the stack of calls leaves room for.
* The value in the manifest is nested deeper than there is room for; a manifest of opening brackets alone is enough
  (`resolve_deep`).

Without links, and with a manifest of few brackets, there is always a version.  All of this is so whatever room there
is, and wherever there is enough of it the version is the same (`resolve_agree`).
-/
import Graft.Proofs.FileSystem.Walk
import Graft.Proofs.Json.Nesting
import Graft.Version.Gate
import Mathlib

namespace Graft.FileSystem

set_option autoImplicit false

/-- Without links the search for a real path does not go deep. -/
theorem realFrom_linkless {fs : FileSystem} (linkless : fs.Linkless) (depth : Nat) (path : Text) (todo : List Text)
    (seen : SeenLinks) : fs.realFrom depth path todo seen ≠ .error .tooDeep := by
  induction todo generalizing path with
  | nil =>
      rw [realFrom]
      exact fun failed => by cases failed
  | cons part rest ih =>
      rw [realFrom]
      by_cases skipped : part = [] ∨ part = Path.dot
      · rw [if_pos skipped]
        exact ih path
      rw [if_neg skipped]
      by_cases isUp : part = Path.dotDot
      · rw [if_pos isUp]
        exact ih (parentOf path)
      rw [if_neg isUp]
      simp only
      cases target : fs.linkTarget? (Path.join path part) with
      | error fault =>
          cases fault with
          | embeddedNul => exact fun failed => by cases failed
          | missing | notDirectory | denied | tooManyLinks | nameTooLong => exact ih _
      | ok link =>
          cases link with
          | none => exact ih _
          | some t => exact absurd target (linkTarget?_linkless linkless _ t)

theorem realPath_eq (fs : FileSystem) (depth : Nat) (t : Text) :
    fs.realPath depth t = (fs.realFrom depth (searchStart [] t).1 (searchStart [] t).2 []).map
      fun found => Path.absolute fs.cwd found.path := by
  rw [realPath]
  cases searchStart [] t with
  | mk start todo =>
      simp only [bind, Except.bind]
      cases fs.realFrom depth start todo [] <;> rfl

theorem realPath_linkless {fs : FileSystem} (linkless : fs.Linkless) (depth : Nat) (t : Text) :
    fs.realPath depth t ≠ .error .tooDeep := by
  have straight := realFrom_linkless linkless depth (searchStart [] t).1 (searchStart [] t).2 []
  rw [realPath_eq]
  cases searched : fs.realFrom depth (searchStart [] t).1 (searchStart [] t).2 [] with
  | ok found => exact fun failed => by cases failed
  | error fault =>
      intro failed
      obtain rfl := Except.error.inj failed
      exact straight searched

end Graft.FileSystem

namespace Graft.Version

set_option autoImplicit false

open Graft.Text

variable {room : Room} {fs : FileSystem} {root package : Text}

/-- Why there is no version, not even an unknown one. -/
inductive Stuck (room : Room) (fs : FileSystem) (root package : Text) : ResolveFault → Prop
  | loop {start : Path} (real : realDirectory room fs root = .ok start)
      (circles : fs.stat start.toText = .error .tooManyLinks) : Stuck room fs root package (.linkLoop start.toText)
  | links (deep : realDirectory room fs root = .error .tooDeep) : Stuck room fs root package .linksTooDeep
  | value {start : Path} {bytes : List UInt8} {t : Text} {holder : Json.Holder}
      (real : realDirectory room fs root = .ok start)
      (straight : fs.stat start.toText ≠ .error .tooManyLinks) (found : manifestFrom fs start package = some bytes)
      (decoded : decode bytes = .ok t) (deep : Json.read room.values (unifyBreaks t) = .error (.tooDeep holder)) :
      Stuck room fs root package (.valueTooDeep holder)

/-- The first manifest declares a version. -/
inductive Declares (room : Room) (fs : FileSystem) (root package : Text) : Text → Prop
  | value {start : Path} {bytes : List UInt8} {t version : Text} {value : Json}
      (real : realDirectory room fs root = .ok start)
      (straight : fs.stat start.toText ≠ .error .tooManyLinks) (found : manifestFrom fs start package = some bytes)
      (decoded : decode bytes = .ok t) (read : Json.read room.values (unifyBreaks t) = .ok value)
      (names : ofValue value = some version) : Declares room fs root package version

/-! ## The three outcomes -/

theorem startDirectory_ok {start : Path} (real : realDirectory room fs root = .ok start)
    (straight : fs.stat start.toText ≠ .error .tooManyLinks) : startDirectory room fs root = .ok (some start) := by
  simp only [startDirectory, real]

/-- From a directory that can be asked for, the first manifest decides. -/
theorem resolve_found {start : Path} {bytes : List UInt8} (real : realDirectory room fs root = .ok start)
    (straight : fs.stat start.toText ≠ .error .tooManyLinks) (found : manifestFrom fs start package = some bytes) :
    resolve room fs root package = ((ofManifest room bytes).mapError .valueTooDeep).map (·.getD unknown) := by
  rw [resolve, startDirectory_ok real straight]
  simp only [bind, Except.bind, found]
  cases ofManifest room bytes <;> rfl

/-- What a manifest says is what its value says. -/
theorem ofManifest_ok {bytes : List UInt8} {t : Text} {value : Json} (decoded : decode bytes = .ok t)
    (read : Json.read room.values (unifyBreaks t) = .ok value) : ofManifest room bytes = .ok (ofValue value) := by
  simp only [ofManifest, decoded, read]

theorem ofManifest_tooDeep {bytes : List UInt8} {t : Text} {holder : Json.Holder} (decoded : decode bytes = .ok t)
    (deep : Json.read room.values (unifyBreaks t) = .error (.tooDeep holder)) :
    ofManifest room bytes = .error holder := by
  simp only [ofManifest, decoded, deep]

theorem resolve_of_stuck {fault : ResolveFault} (stuck : Stuck room fs root package fault) :
    resolve room fs root package = .error fault := by
  cases stuck with
  | loop real circles =>
      rw [resolve, startDirectory, real]
      simp only [circles]
      rfl
  | links deep =>
      rw [resolve, startDirectory, deep]
      rfl
  | value real straight found decoded deep =>
      rw [resolve_found real straight found, ofManifest_tooDeep decoded deep]
      rfl

theorem resolve_of_declares {version : Text} (declares : Declares room fs root package version) :
    resolve room fs root package = .ok version := by
  cases declares with
  | value real straight found decoded read names =>
      rw [resolve_found real straight found, ofManifest_ok decoded read, names]
      rfl

/-- What is neither stuck nor declared is unknown. -/
theorem resolve_cases (room : Room) (fs : FileSystem) (root package : Text) :
    (∃ fault, Stuck room fs root package fault) ∨ (∃ version, Declares room fs root package version) ∨
      resolve room fs root package = .ok unknown := by
  cases real : realDirectory room fs root with
  | error fault =>
      cases fault with
      | tooDeep => exact .inl ⟨_, .links real⟩
      | embeddedNul =>
          rw [resolve, startDirectory, real]
          exact .inr (.inr rfl)
  | ok start =>
      by_cases circles : fs.stat start.toText = .error .tooManyLinks
      · exact .inl ⟨_, .loop real circles⟩
      cases found : manifestFrom fs start package with
      | none =>
          rw [resolve, startDirectory_ok real circles]
          simp only [bind, Except.bind, found]
          exact .inr (.inr rfl)
      | some bytes =>
          rw [resolve_found real circles found]
          cases decoded : decode bytes with
          | error fault =>
              simp only [ofManifest, decoded]
              exact .inr (.inr rfl)
          | ok t =>
              cases read : Json.read room.values (unifyBreaks t) with
              | ok value =>
                  rw [ofManifest_ok decoded read]
                  cases names : ofValue value with
                  | some version => exact .inr (.inl ⟨_, .value real circles found decoded read names⟩)
                  | none => exact .inr (.inr rfl)
              | error fault =>
                  cases fault with
                  | tooDeep holder => exact .inl ⟨_, .value real circles found decoded read⟩
                  | malformed | number =>
                      simp only [ofManifest, decoded, read]
                      exact .inr (.inr rfl)

theorem resolve_error_iff {fault : ResolveFault} :
    resolve room fs root package = .error fault ↔ Stuck room fs root package fault := by
  constructor
  · intro failed
    rcases resolve_cases room fs root package with ⟨fault', stuck⟩ | ⟨version, declares⟩ | open_
    · obtain rfl := Except.error.inj (failed.symm.trans (resolve_of_stuck stuck))
      exact stuck
    · cases failed.symm.trans (resolve_of_declares declares)
    · cases failed.symm.trans open_
  · exact resolve_of_stuck

/-- What is neither stuck nor declared is unknown, and nothing else is. -/
theorem resolve_ok_iff {version : Text} :
    resolve room fs root package = .ok version ↔ Declares room fs root package version ∨
      version = unknown ∧ (∀ fault, ¬ Stuck room fs root package fault) ∧ ∀ v, ¬ Declares room fs root package v := by
  constructor
  · intro resolved
    have free : ∀ fault, ¬ Stuck room fs root package fault := by
      intro fault stuck
      cases resolved.symm.trans (resolve_of_stuck stuck)
    by_cases declared : ∃ v, Declares room fs root package v
    · obtain ⟨v, declares⟩ := declared
      obtain rfl := Except.ok.inj (resolved.symm.trans (resolve_of_declares declares))
      exact .inl declares
    · rcases resolve_cases room fs root package with ⟨fault, stuck⟩ | some_ | open_
      · exact absurd stuck (free fault)
      · exact absurd some_ declared
      · have same := Except.ok.inj (resolved.symm.trans open_)
        exact .inr ⟨same, free, fun v declares => declared ⟨v, declares⟩⟩
  · rintro (declares | ⟨rfl, free, none_⟩)
    · exact resolve_of_declares declares
    · rcases resolve_cases room fs root package with ⟨fault, stuck⟩ | ⟨v, declares⟩ | open_
      · exact absurd stuck (free fault)
      · exact absurd declares (none_ v)
      · exact open_

/-- Where nothing is stuck there is a version. -/
theorem resolve_of_free (free : ∀ fault, ¬ Stuck room fs root package fault) :
    ∃ version, resolve room fs root package = .ok version := by
  rcases resolve_cases room fs root package with ⟨fault, stuck⟩ | ⟨v, declares⟩ | open_
  · exact absurd stuck (free fault)
  · exact ⟨v, resolve_of_declares declares⟩
  · exact ⟨unknown, open_⟩

/-! ## Manifests of opening brackets -/

theorem decodeFrom_brackets (pos n : Nat) : decodeFrom pos (List.replicate n 0x5B) = .ok (List.replicate n '[') := by
  induction n generalizing pos with
  | zero => rfl
  | succ n ih =>
      have ascii : (0x5B : UInt8) < 0x80 := by decide
      rw [List.replicate_succ, decodeFrom.eq_def]
      simp only [if_pos ascii, ih]
      rfl

theorem unifyBreaks_brackets (n : Nat) : unifyBreaks (List.replicate n '[') = List.replicate n '[' := by
  induction n with
  | zero => rfl
  | succ n ih => exact congrArg ('[' :: ·) ih

/-- **A manifest of too many opening brackets leaves no version.** -/
theorem resolve_deep {n : Nat} (deep : room.values < n) {start : Path} (real : realDirectory room fs root = .ok start)
    (straight : fs.stat start.toText ≠ .error .tooManyLinks)
    (found : manifestFrom fs start package = some (List.replicate n 0x5B)) :
    resolve room fs root package = .error (.valueTooDeep .array) := by
  have tooDeep := Json.read_deep deep []
  rw [List.append_nil] at tooDeep
  refine resolve_of_stuck (.value real straight found (decodeFrom_brackets 0 n) ?_)
  rw [unifyBreaks_brackets]
  exact tooDeep

/-- Where there is room for them they are no manifest, and the version is unknown. -/
theorem resolve_unclosed {n : Nat} (shallow : n ≤ room.values) {start : Path}
    (real : realDirectory room fs root = .ok start) (straight : fs.stat start.toText ≠ .error .tooManyLinks)
    (found : manifestFrom fs start package = some (List.replicate n 0x5B)) :
    resolve room fs root package = .ok unknown := by
  have none_ : ofManifest room (List.replicate n 0x5B) = .ok none := by
    obtain ⟨fault, fails⟩ := Json.read_unclosed room.values n
    have decoded : decode (List.replicate n 0x5B) = .ok (List.replicate n '[') := decodeFrom_brackets 0 n
    rw [ofManifest, decoded]
    simp only [unifyBreaks_brackets, fails]
    cases fault with
    | tooDeep holder =>
        exact absurd fails (Json.read_shallow (by rw [Json.openings_brackets]; exact shallow) holder)
    | _ => rfl
  rw [resolve_found real straight found, none_]
  rfl

/-! ## What always has a version -/

/-- Without links, only a manifest of many brackets leaves no version. -/
theorem not_stuck (linkless : fs.Linkless)
    (shallow : ∀ start bytes t, realDirectory room fs root = .ok start → manifestFrom fs start package = some bytes →
      decode bytes = .ok t → Json.openings (unifyBreaks t) ≤ room.values) (fault : ResolveFault) :
    ¬ Stuck room fs root package fault := by
  intro stuck
  cases stuck with
  | loop real circles => exact FileSystem.stat_linkless linkless _ circles
  | links deep =>
      exact FileSystem.realPath_linkless linkless _ _ deep
  | value real straight found decoded deep => exact Json.read_shallow (shallow _ _ _ real found decoded) _ deep

/-- An unknown version leaves the gate open, whatever the threshold is. -/
theorem evaluate_unknown (open_ : resolve room fs root package = .ok unknown) (threshold : Text) :
    Gate.evaluate room fs root threshold package = ⟨[.versionUnknown package], .ok ⟨unknown, threshold, false⟩⟩ := by
  rw [Gate.evaluate, open_]
  rfl

/-- **What comes of looking for the installed version.**  There is none exactly in the cases of `Stuck`; otherwise it
is the one that the first manifest declares, or unknown, and then the gate stays open.  Without links, and with at
most so many brackets in the manifest as there is room for, there always is one. -/
theorem resolve_outcome (room : Room) (fs : FileSystem) (root package : Text) :
    (∀ fault, resolve room fs root package = .error fault ↔ Stuck room fs root package fault) ∧
      (∀ version, resolve room fs root package = .ok version ↔ Declares room fs root package version ∨
        version = unknown ∧ (∀ fault, ¬ Stuck room fs root package fault) ∧ ∀ v, ¬ Declares room fs root package v) ∧
      (fs.Linkless → (∀ start bytes t, realDirectory room fs root = .ok start →
          manifestFrom fs start package = some bytes → decode bytes = .ok t →
            Json.openings (unifyBreaks t) ≤ room.values) →
        ∃ version, resolve room fs root package = .ok version) ∧
      (resolve room fs root package = .ok unknown → ∀ threshold,
        Gate.evaluate room fs root threshold package =
          ⟨[.versionUnknown package], .ok ⟨unknown, threshold, false⟩⟩) := by
  refine ⟨fun fault => resolve_error_iff, fun version => resolve_ok_iff, ?_, evaluate_unknown⟩
  intro linkless shallow
  exact resolve_of_free (not_stuck linkless shallow)

/-- Two links that lead to each other, beside an installed package. -/
def circularLinks : FileSystem where
  cwd := "/".toList
  entries := [(["l1".toList], .link "l2".toList), (["l2".toList], .link "l1".toList),
    (["node_modules".toList], .directory), (["node_modules".toList, "naive-ui".toList], .directory),
    (["node_modules".toList, "naive-ui".toList, "package.json".toList],
      .file (("\x7b\"version\": \"1.1.1\"\x7d".toList).map fun c => UInt8.ofNat c.toNat))]

/-- Below a link of a circle there is no version, where one beside it would be found. -/
theorem circularLinks_stuck :
    resolve ⟨990, 990⟩ circularLinks "/l1/x".toList "naive-ui".toList = .error (.linkLoop "/l1/x".toList) ∧
      resolve ⟨990, 990⟩ circularLinks "/l1//x".toList "naive-ui".toList = .error (.linkLoop "/l1/x".toList) ∧
      resolve ⟨990, 990⟩ circularLinks "/x".toList "naive-ui".toList = .ok "1.1.1".toList := by
  refine ⟨?_, ?_, ?_⟩
  · cbv
  · cbv
  · cbv

end Graft.Version
