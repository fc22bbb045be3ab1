/-
# Graft.Proofs.Version.Nearest -- the nearest manifest decides alone

A package is looked for in a directory and in those above it, innermost first.  The first manifest there that is a
file decides: what it declares is the version, and if it declares none the version is unknown, whatever stands in the
manifests further up (`resolve_nearest`).  So the gate cannot tell two file systems apart in which the search begins in
the same directory and ends at the same one, with the same bytes there.

The search passes by what is missing and what is no file; it does not pass by a place that may not be looked at or that
no name is short enough for.  That no such place lies on the way is what `Undisturbed` says.
-/
import Graft.Proofs.Version.Resolution
import Mathlib

namespace Graft.Version

set_option autoImplicit false

open Graft.Text

variable {room : Room} {fs : FileSystem} {root package : Text} {start d e : Path} {entry : FileEntry}
  {front rest : List Text}

/-! ## Directories above each other -/

/-- A directory is the one where the search begins, or lies above it. -/
structure AtOrAbove (d start : Path) : Prop where
  lead : d.lead = start.lead
  parts : d.parts <+: start.parts

/-- **A search goes through all directories above, and the deeper ones come first.** -/
theorem upwards_split (above : AtOrAbove d start) :
    ∃ inner outer, upwards start = inner ++ d :: outer ∧
      ∀ e ∈ inner, AtOrAbove e start ∧ d.parts.length < e.parts.length := by
  have shorter : d.parts.length ≤ start.parts.length := above.parts.length_le
  obtain ⟨k, levels⟩ : ∃ k, start.parts.length = k + d.parts.length := ⟨_, (Nat.sub_add_cancel shorter).symm⟩
  have here : { start with parts := start.parts.take (start.parts.length - k) } = d := by
    rw [levels, Nat.add_sub_cancel_left, ← List.prefix_iff_eq_take.1 above.parts, ← above.lead]
  rw [upwards, show start.parts.length + 1 = k + (d.parts.length + 1) by omega, List.range_add, List.map_append,
    List.range_succ_eq_map, List.map_cons, List.map_cons, Nat.add_zero, here]
  refine ⟨_, _, rfl, ?_⟩
  intro e member
  obtain ⟨j, below, rfl⟩ := List.mem_map.1 member
  rw [List.mem_range] at below
  refine ⟨⟨rfl, List.take_prefix _ _⟩, ?_⟩
  simp only [List.length_take]
  omega

theorem mem_upwards : d ∈ upwards start ↔ AtOrAbove d start := by
  constructor
  · intro member
    obtain ⟨k, -, rfl⟩ := List.mem_map.1 member
    exact ⟨rfl, List.take_prefix _ _⟩
  · intro above
    obtain ⟨inner, outer, split, -⟩ := upwards_split above
    rw [split]
    exact List.mem_append_right _ List.mem_cons_self

/-! ## The first manifest -/

/-- What is at the place of a package's manifest as seen from a directory. -/
def manifestAt (fs : FileSystem) (package : Text) (d : Path) : Except LookupFault FileEntry :=
  fs.stat (manifestPath d package).toText

/-- A file, whether it may be read or not. -/
def Regular (entry : FileEntry) : Prop := entry = .sealedFile ∨ ∃ bytes, entry = .file bytes

/-- The bytes of a file that may be read. -/
def bytes? : FileEntry → Option (List UInt8)
  | .file bytes => some bytes
  | _ => none

/-- A fault that counts as: there is no file here. -/
def Absorbed (fault : LookupFault) : Prop := fault ≠ .nameTooLong ∧ fault ≠ .denied

/-- A manifest that the search passes by. -/
structure Passed (fs : FileSystem) (path : Text) : Prop where
  not_regular : ∀ entry, fs.stat path = .ok entry → ¬ Regular entry
  absorbed : ∀ fault, fs.stat path = .error fault → Absorbed fault

theorem firstManifest_passed {path : Text} (passed : Passed fs path) :
    firstManifest fs (path :: rest) = firstManifest fs rest := by
  rw [firstManifest]
  split
  · rename_i bytes found
    exact absurd (.inr ⟨bytes, rfl⟩) (passed.not_regular _ found)
  · rename_i found
    exact absurd (.inl rfl) (passed.not_regular _ found)
  · rename_i found
    exact absurd rfl (passed.absorbed _ found).1
  · rename_i found
    exact absurd rfl (passed.absorbed _ found).2
  · rfl

theorem firstManifest_append (passed : ∀ path ∈ front, Passed fs path) :
    firstManifest fs (front ++ rest) = firstManifest fs rest := by
  induction front with
  | nil => rfl
  | cons path front ih =>
      rw [List.cons_append, firstManifest_passed (passed path List.mem_cons_self)]
      exact ih fun other member => passed other (List.mem_cons_of_mem _ member)

theorem firstManifest_regular {path : Text} (found : fs.stat path = .ok entry) (regular : Regular entry) :
    firstManifest fs (path :: rest) = bytes? entry := by
  rw [firstManifest, found]
  rcases regular with rfl | ⟨bytes, rfl⟩
  · rfl
  · rfl

/-- Where there is no file there are no bytes, however the search ends. -/
theorem firstManifest_none (none_ : ∀ path ∈ front, ∀ entry, fs.stat path = .ok entry → ¬ Regular entry) :
    firstManifest fs front = none := by
  induction front with
  | nil => rfl
  | cons path front ih =>
      have later := ih fun other member => none_ other (List.mem_cons_of_mem _ member)
      rw [firstManifest]
      split
      · rename_i bytes found
        exact absurd (.inr ⟨bytes, rfl⟩) (none_ path List.mem_cons_self _ found)
      · rfl
      · rfl
      · rfl
      · exact later

/-- The manifest of a directory is a file, and none of a deeper directory is. -/
structure Nearest (fs : FileSystem) (start : Path) (package : Text) (d : Path) (entry : FileEntry) : Prop where
  above : AtOrAbove d start
  here : manifestAt fs package d = .ok entry
  regular : Regular entry
  first : ∀ e, AtOrAbove e start → d.parts.length < e.parts.length →
    ∀ other, manifestAt fs package e = .ok other → ¬ Regular other

/-- No look-up in a directory deeper than `d` fails in a way that ends the search. -/
def Undisturbed (fs : FileSystem) (start : Path) (package : Text) (d : Path) : Prop :=
  ∀ e, AtOrAbove e start → d.parts.length < e.parts.length →
    ∀ fault, manifestAt fs package e = .error fault → Absorbed fault

/-- **The search ends at the nearest manifest.** -/
theorem manifestFrom_nearest (nearest : Nearest fs start package d entry)
    (undisturbed : Undisturbed fs start package d) : manifestFrom fs start package = bytes? entry := by
  obtain ⟨inner, outer, split, deeper⟩ := upwards_split nearest.above
  rw [manifestFrom, split, List.map_append, List.map_cons, firstManifest_append]
  · exact firstManifest_regular nearest.here nearest.regular
  · intro path member
    obtain ⟨e, inInner, rfl⟩ := List.mem_map.1 member
    obtain ⟨above, deep⟩ := deeper e inInner
    exact ⟨nearest.first e above deep, undisturbed e above deep⟩

theorem manifestFrom_none
    (none_ : ∀ d, AtOrAbove d start → ∀ entry, manifestAt fs package d = .ok entry → ¬ Regular entry) :
    manifestFrom fs start package = none := by
  apply firstManifest_none
  intro path member
  obtain ⟨d, inAll, rfl⟩ := List.mem_map.1 member
  exact none_ d (mem_upwards.1 inAll)

/-! ## What a manifest says -/

/-- The bytes write an object that has a version which is not blank; it is taken without the blanks around it. -/
inductive Names (room : Room) (bytes : List UInt8) : Text → Prop
  | version {t written : Text} {members : List (Text × Json)} (decoded : decode bytes = .ok t)
      (read : Json.read room.values (unifyBreaks t) = .ok (.object members))
      (member : (members.lookup "version".toList).bind Json.characters? = some written)
      (solid : written.trim ≠ []) : Names room bytes written.trim

/-- The value that the bytes write is not nested too deep. -/
def Shallow (room : Room) (bytes : List UInt8) : Prop :=
  ∀ t holder, decode bytes = .ok t → Json.read room.values (unifyBreaks t) ≠ .error (.tooDeep holder)

theorem ofValue_eq_some_iff {value : Json} {version : Text} :
    ofValue value = some version ↔ ∃ members written, value = .object members ∧
      (members.lookup "version".toList).bind Json.characters? = some written ∧ written.trim ≠ [] ∧
      written.trim = version := by
  constructor
  · intro names
    rw [ofValue] at names
    split at names
    · rename_i written found
      cases value with
      | object members =>
          rw [Option.ite_none_left_eq_some, List.isEmpty_iff, Option.some_inj] at names
          exact ⟨members, written, rfl, found, names⟩
      | _ => cases found
    · cases names
  · rintro ⟨members, written, rfl, found, solid, rfl⟩
    rw [ofValue, Json.member?, found]
    simp only
    rw [if_neg (mt List.isEmpty_iff.1 solid)]

/-- **The version that is read from a manifest is the one that it says.** -/
theorem ofManifest_eq_some_iff {bytes : List UInt8} {version : Text} :
    ofManifest room bytes = .ok (some version) ↔ Names room bytes version := by
  constructor
  · intro named
    cases decoded : decode bytes with
    | error fault =>
        rw [ofManifest, decoded] at named
        cases named
    | ok t =>
        cases read : Json.read room.values (unifyBreaks t) with
        | error fault =>
            rw [ofManifest, decoded] at named
            simp only [read] at named
            cases fault with
            | tooDeep holder => cases named
            | malformed | number => cases named
        | ok value =>
            rw [ofManifest_ok decoded read] at named
            obtain ⟨members, written, rfl, member, solid, rfl⟩ := ofValue_eq_some_iff.1 (Except.ok.inj named)
            exact .version decoded read member solid
  · intro names
    cases names with
    | version decoded read member solid =>
        rw [ofManifest_ok decoded read]
        exact congrArg Except.ok (ofValue_eq_some_iff.2 ⟨_, _, rfl, member, solid, rfl⟩)

/-- Only a value that is nested too deep cannot be told from one without a version. -/
theorem ofManifest_shallow {bytes : List UInt8} (shallow : Shallow room bytes) :
    ∃ version, ofManifest room bytes = .ok version := by
  cases decoded : decode bytes with
  | error fault => exact ⟨none, by rw [ofManifest, decoded]⟩
  | ok t =>
      cases read : Json.read room.values (unifyBreaks t) with
      | ok value => exact ⟨_, ofManifest_ok decoded read⟩
      | error fault =>
          cases fault with
          | tooDeep holder => exact absurd read (shallow t holder decoded)
          | malformed | number => exact ⟨none, by simp only [ofManifest, decoded, read]⟩

/-! ## The version, and what comes of it -/

theorem resolve_unknown (real : realDirectory room fs root = .ok start)
    (straight : fs.stat start.toText ≠ .error .tooManyLinks) (none_ : manifestFrom fs start package = none) :
    resolve room fs root package = .ok unknown := by
  rw [resolve, startDirectory_ok real straight]
  simp only [bind, Except.bind, none_]
  rfl

/-- The version is what the bytes say, or else unknown. -/
theorem resolve_names {bytes : List UInt8} (real : realDirectory room fs root = .ok start)
    (straight : fs.stat start.toText ≠ .error .tooManyLinks) (found : manifestFrom fs start package = some bytes)
    (shallow : Shallow room bytes) :
    (∀ version, Names room bytes version → resolve room fs root package = .ok version) ∧
      ((∀ version, ¬ Names room bytes version) → resolve room fs root package = .ok unknown) := by
  rw [resolve_found real straight found]
  constructor
  · intro version names
    rw [ofManifest_eq_some_iff.2 names]
    rfl
  · intro silent
    obtain ⟨version, read⟩ := ofManifest_shallow shallow
    cases version with
    | none =>
        rw [read]
        rfl
    | some version => exact absurd (ofManifest_eq_some_iff.1 read) (silent version)

/-- The gate decides by the version alone. -/
theorem evaluate_congr {fs' : FileSystem} {root' : Text}
    (same : resolve room fs root package = resolve room fs' root' package) (threshold : Text) :
    Gate.evaluate room fs root threshold package = Gate.evaluate room fs' root' threshold package := by
  rw [Gate.evaluate, Gate.evaluate, same]

/-- **The nearest manifest decides alone.**  From a directory whose real path is known and is no circle of links, the
version is what the nearest manifest says, or unknown if it says none, if it may not be read, or if no manifest is a
file.  Two file systems with the same bytes in the manifest of the same nearest directory give the same decision.  This
is so for a version of whole characters; half of a surrogate pair in it is told as the replacement character. -/
theorem resolve_nearest (real : realDirectory room fs root = .ok start)
    (straight : fs.stat start.toText ≠ .error .tooManyLinks) (package : Text) :
    (∀ d bytes, Nearest fs start package d (.file bytes) → Undisturbed fs start package d → Shallow room bytes →
        (∀ version, Names room bytes version → resolve room fs root package = .ok version) ∧
          ((∀ version, ¬ Names room bytes version) → resolve room fs root package = .ok unknown)) ∧
      (∀ d, Nearest fs start package d .sealedFile → Undisturbed fs start package d →
        resolve room fs root package = .ok unknown) ∧
      ((∀ d, AtOrAbove d start → ∀ entry, manifestAt fs package d = .ok entry → ¬ Regular entry) →
        resolve room fs root package = .ok unknown) ∧
      ∀ fs' root' d bytes, realDirectory room fs' root' = .ok start → fs'.stat start.toText ≠ .error .tooManyLinks →
        Nearest fs start package d (.file bytes) → Undisturbed fs start package d →
        Nearest fs' start package d (.file bytes) → Undisturbed fs' start package d →
        ∀ threshold, Gate.evaluate room fs root threshold package = Gate.evaluate room fs' root' threshold package := by
  refine ⟨?_, ?_, ?_, ?_⟩
  · intro d bytes nearest undisturbed shallow
    exact resolve_names real straight (manifestFrom_nearest nearest undisturbed) shallow
  · intro d nearest undisturbed
    exact resolve_unknown real straight (manifestFrom_nearest nearest undisturbed)
  · intro none_
    exact resolve_unknown real straight (manifestFrom_none none_)
  · intro fs' root' d bytes real' straight' nearest undisturbed nearest' undisturbed' threshold
    apply evaluate_congr
    rw [resolve_found real straight (manifestFrom_nearest nearest undisturbed),
      resolve_found real' straight' (manifestFrom_nearest nearest' undisturbed')]

/-- A manifest with a name and no version. -/
def namelessManifest : List UInt8 := ("\x7b\"name\": \"naive-ui\"\x7d".toList).map fun c => UInt8.ofNat c.toNat

/-- A directory in the place of the innermost manifest, a manifest without a version above it, and one with a version
at the root. -/
def nestedPackages : FileSystem where
  cwd := "/".toList
  entries := [(["p".toList], .directory), (["p".toList, "web".toList], .directory),
    (["p".toList, "web".toList, "node_modules".toList], .directory),
    (["p".toList, "web".toList, "node_modules".toList, "naive-ui".toList], .directory),
    (["p".toList, "web".toList, "node_modules".toList, "naive-ui".toList, "package.json".toList], .directory),
    (["p".toList, "node_modules".toList], .directory),
    (["p".toList, "node_modules".toList, "naive-ui".toList], .directory),
    (["p".toList, "node_modules".toList, "naive-ui".toList, "package.json".toList], .file namelessManifest),
    (["node_modules".toList], .directory), (["node_modules".toList, "naive-ui".toList], .directory),
    (["node_modules".toList, "naive-ui".toList, "package.json".toList],
      .file (("\x7b\"version\": \"2.41.0\"\x7d".toList).map fun c => UInt8.ofNat c.toNat))]

theorem nestedPackages_nearest :
    Nearest nestedPackages ⟨1, ["p".toList, "web".toList]⟩ "naive-ui".toList ⟨1, ["p".toList]⟩
        (.file namelessManifest) ∧
      Undisturbed nestedPackages ⟨1, ["p".toList, "web".toList]⟩ "naive-ui".toList ⟨1, ["p".toList]⟩ := by
  have levels : upwards ⟨1, ["p".toList, "web".toList]⟩ =
      [⟨1, ["p".toList, "web".toList]⟩, ⟨1, ["p".toList]⟩, ⟨1, []⟩] := by decide
  have inner : manifestAt nestedPackages "naive-ui".toList ⟨1, ["p".toList, "web".toList]⟩ = .ok .directory := by cbv
  have only : ∀ e, AtOrAbove e ⟨1, ["p".toList, "web".toList]⟩ → 1 < e.parts.length →
      manifestAt nestedPackages "naive-ui".toList e = .ok .directory := by
    intro e above deep
    have member := mem_upwards.2 above
    rw [levels] at member
    simp only [List.mem_cons, List.not_mem_nil, or_false] at member
    rcases member with rfl | rfl | rfl
    · exact inner
    · exact absurd deep (by decide)
    · exact absurd deep (by decide)
  refine ⟨⟨⟨rfl, ⟨_, rfl⟩⟩, by cbv, .inr ⟨_, rfl⟩, ?_⟩, ?_⟩
  · intro e above deep other found
    obtain rfl := Except.ok.inj ((only e above deep).symm.trans found)
    rintro (sealed_ | ⟨bytes, file⟩)
    · cases sealed_
    · cases file
  · intro e above deep fault failed
    cases (only e above deep).symm.trans failed

/-- The version at the root does not stand in for the one that is missing in between. -/
theorem resolve_nearest_nestedPackages :
    realDirectory ⟨990, 990⟩ nestedPackages "/p//web".toList = .ok ⟨1, ["p".toList, "web".toList]⟩ ∧
      nestedPackages.stat (Path.toText ⟨1, ["p".toList, "web".toList]⟩) ≠ .error .tooManyLinks ∧
      Nearest nestedPackages ⟨1, ["p".toList, "web".toList]⟩ "naive-ui".toList ⟨1, ["p".toList]⟩
        (.file namelessManifest) ∧
      Undisturbed nestedPackages ⟨1, ["p".toList, "web".toList]⟩ "naive-ui".toList ⟨1, ["p".toList]⟩ ∧
      Shallow ⟨990, 990⟩ namelessManifest ∧ (∀ version, ¬ Names ⟨990, 990⟩ namelessManifest version) ∧
      resolve ⟨990, 990⟩ nestedPackages "/p//web".toList "naive-ui".toList = .ok unknown := by
  have real : realDirectory ⟨990, 990⟩ nestedPackages "/p//web".toList = .ok ⟨1, ["p".toList, "web".toList]⟩ := by cbv
  have straight : nestedPackages.stat (Path.toText ⟨1, ["p".toList, "web".toList]⟩) ≠ .error .tooManyLinks := by
    have found : nestedPackages.stat (Path.toText ⟨1, ["p".toList, "web".toList]⟩) = .ok .directory := by cbv
    rw [found]
    exact fun failed => by cases failed
  have silent : ofManifest ⟨990, 990⟩ namelessManifest = .ok none := by cbv
  have shallow : Shallow ⟨990, 990⟩ namelessManifest := by
    intro t holder decoded deep
    cases silent.symm.trans (ofManifest_tooDeep decoded deep)
  have nameless : ∀ version, ¬ Names ⟨990, 990⟩ namelessManifest version := by
    intro version names
    cases silent.symm.trans (ofManifest_eq_some_iff.2 names)
  obtain ⟨nearest, undisturbed⟩ := nestedPackages_nearest
  exact ⟨real, straight, nearest, undisturbed, shallow, nameless,
    ((resolve_nearest real straight "naive-ui".toList).1 _ _ nearest undisturbed shallow).2 nameless⟩

end Graft.Version
