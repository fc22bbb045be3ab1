/-
# Graft.Proofs.Overlay.Serving -- what is behind a name of the overlay

A name behind the overlay's prefix becomes a path in its directory, and when that path is to be loaded it is asked
again whether it lies there.  The two agree if the directory's own path comes back from both: it is written out with
its backslashes turned to slashes, and it is compared as a path with one slash at its start.  So a directory serves
what is in it if its path is `Plain`; any other serves nothing at all (`load_resolveId`).  The directory may be given
with dots, double dots and slashes of any number but two, as a path from the working directory, or as the root.

`doubledSlash_declines` and `backslash_declines` show a directory of either kind with a file that is not served.
-/
import Graft.Proofs.FileSystem.Joined
import Graft.Proofs.Overlay
import Mathlib

namespace Graft.Overlay

set_option autoImplicit false

open Graft.Text

variable {fs : FileSystem} {o : Overlay} {name : Text}

/-- A component of a name: no dots, and no backslash in it. -/
structure NamePart (part : Text) : Prop extends Path.Ordinary part where
  clear : '\\' ∉ part

instance namePartDecidable (part : Text) : Decidable (NamePart part) :=
  decidable_of_iff (part ≠ [] ∧ part ≠ Path.dot ∧ part ≠ Path.dotDot ∧ '\\' ∉ part)
    ⟨fun ⟨some_, not_dot, not_dotDot, clear⟩ => ⟨⟨some_, not_dot, not_dotDot⟩, clear⟩,
      fun names => ⟨names.some_, names.not_dot, names.not_dotDot, names.clear⟩⟩

/-- A directory that is written with one slash at its start and without backslashes. -/
structure Plain (root : Path) : Prop where
  lead : root.lead = 1
  clear : ∀ part ∈ root.parts, '\\' ∉ part

/-! ## The path behind a name -/

theorem not_mem_name (names : ∀ part ∈ name.splitOn '/', NamePart part) : '\\' ∉ name := by
  intro member
  rw [← intercalate_splitOn '/' name] at member
  rcases mem_intercalate member with slash | ⟨part, isPart, inPart⟩
  · exact absurd slash (by decide)
  · exact (names part isPart).clear inPart

/-- A name becomes a path in the directory, with slashes for all backslashes. -/
theorem resolveId_name (names : ∀ part ∈ name.splitOn '/', NamePart part) :
    o.resolveId (o.namePrefix ++ name) = some ((Path.join o.root.toText name).replaceChar '\\' '/') := by
  obtain ⟨c, rest, rfl, notSlash⟩ := Path.name_relative fun part member => (names part member).toOrdinary
  have notBack : c ≠ '\\' := by
    rintro rfl
    exact not_mem_name names List.mem_cons_self
  have begins : ¬ (c == '/' || c == '\\') = true := by simp [notSlash, notBack]
  rw [resolveId, if_pos (List.isPrefixOf_iff_prefix.2 (List.prefix_append _ _)), List.drop_left]
  have whole : (c :: rest).dropWhile (fun c => c == '/' || c == '\\') = c :: rest := List.dropWhile_cons_of_neg begins
  simp only [whole]

theorem mem_toText {p : Path} (normal : Path.Normal p) {c : Char} (member : c ∈ p.toText) :
    c = '/' ∨ ∃ part ∈ p.parts, c ∈ part := by
  rw [normal.toText_eq] at member
  rcases List.mem_append.1 member with slashes | body
  · exact .inl (List.eq_of_mem_replicate slashes)
  · exact mem_intercalate body

/-- In a directory without backslashes the path is the directory's with the name behind it. -/
theorem replaceChar_join (normal : Path.Normal o.root) (plain : Plain o.root)
    (names : ∀ part ∈ name.splitOn '/', NamePart part) :
    (Path.join o.root.toText name).replaceChar '\\' '/' = Path.join o.root.toText name := by
  have ordinary := fun part member => (names part member).toOrdinary
  have clear : '\\' ∉ Path.join o.root.toText name := by
    rw [Path.join_toText normal ordinary]
    intro member
    rcases mem_toText (normal.append ordinary) member with slash | ⟨part, isPart, inPart⟩
    · exact absurd slash (by decide)
    · rcases List.mem_append.1 isPart with front | back
      · exact plain.clear part front inPart
      · exact (names part back).clear inPart
  exact replaceChar_of_not_mem clear

theorem isAbsolute_replaceChar {t : Text} (rooted : Path.isAbsolute t = true) :
    Path.isAbsolute (t.replaceChar '\\' '/') = true := by
  cases t with
  | nil => cases rooted
  | cons c rest =>
      obtain rfl : c = '/' := by simpa [Path.isAbsolute] using rooted
      rfl

/-! ## Whether it is served -/

theorem owns_join (normal : Path.Normal o.root) (plain : Plain o.root)
    (names : ∀ part ∈ name.splitOn '/', NamePart part) :
    o.owns fs (Path.join o.root.toText name) = true := by
  rw [owns_iff, Contains, Path.absolute_join normal fun part member => (names part member).toOrdinary]
  exact ⟨plain.lead, List.prefix_append _ _⟩

/-- A directory that is not plain owns no path without backslashes. -/
theorem plain_of_owns {file : Text} (rooted : Path.isAbsolute file = true) (clear : '\\' ∉ file)
    (owned : o.owns fs file = true) : Plain o.root := by
  obtain ⟨lead, contained⟩ := owns_iff.1 owned
  refine ⟨lead, fun part member back => clear ?_⟩
  have inside := contained.subset member
  rw [Path.absolute, if_pos rooted] at inside
  exact ((Path.of_mem_partsOf (Path.mem_ofText rooted inside).1).2.2 _ back).2

theorem load_of_stat {file t : Text} {bytes : List UInt8} (owned : o.owns fs file = true)
    (found : fs.stat file = .ok (.file bytes)) (decoded : decode bytes = .ok t) :
    o.load fs file = .quiet (.ok (some (unifyBreaks t))) := by
  rw [load, owned, Bool.not_true, if_neg Bool.false_ne_true, found]
  simp only [decoded]

/-- A file that is found by the directory as it was given is found by the directory's normal path. -/
theorem stat_of_given (rooted : Path.isAbsolute fs.cwd = true) {directory : Text}
    (names : ∀ part ∈ name.splitOn '/', NamePart part) {place : List Text} {entry : FileEntry}
    (walked : fs.walk true (Path.join directory name) = .ok (place, entry))
    (returns : fs.Returns [] [] (fs.route (Path.join directory name)))
    (clear : '\x00' ∉ Path.join (Path.absolute fs.cwd directory).toText name)
    (short : byteLength (Path.join (Path.absolute fs.cwd directory).toText name) < FileSystem.pathLimit) :
    fs.stat (Path.join (Path.absolute fs.cwd directory).toText name) = .ok entry := by
  have ordinary := fun part member => (names part member).toOrdinary
  have normal := Path.absolute_normal rooted directory
  have some_ : (Path.absolute fs.cwd directory).parts ++ name.splitOn '/' ≠ [] :=
    List.append_ne_nil_of_right_ne_nil _ (splitOn_ne_nil '/' name)
  rw [Path.join_toText normal ordinary] at clear short ⊢
  have along := named_of_walk rooted walked returns
  rw [named, Path.absolute_join_parts rooted directory ordinary] at along
  exact FileSystem.stat_eq_ok_iff.2
    ⟨place, (FileSystem.walk_toText (normal.append ordinary) some_ clear short true).trans along⟩

/-- What a name of the overlay leads to. -/
structure Serves (fs : FileSystem) (o : Overlay) (directory name file : Text) : Prop where
  /-- The file belongs to the overlay exactly if the directory is plain. -/
  owned : o.owns fs file = true ↔ Plain o.root
  path : Plain o.root → file = Path.join o.root.toText name
  /-- A text that is found by the directory's normal path and the name is served. -/
  served : Plain o.root → ∀ bytes t, fs.stat (Path.join o.root.toText name) = .ok (.file bytes) →
    decode bytes = .ok t → o.load fs file = .quiet (.ok (some (unifyBreaks t)))
  /-- So is one that is found by the directory as it was given, if that way returns. -/
  given : Plain o.root → ∀ place bytes t, fs.walk true (Path.join directory name) = .ok (place, .file bytes) →
    fs.Returns [] [] (fs.route (Path.join directory name)) → '\x00' ∉ file →
    byteLength file < FileSystem.pathLimit → decode bytes = .ok t →
    o.load fs file = .quiet (.ok (some (unifyBreaks t)))
  declined : ¬ Plain o.root → o.load fs file = .quiet (.ok none)

/-- **What a name leads to, the overlay serves, if its directory is plain.**  If not, nothing is served. -/
theorem load_resolveId (rooted : Path.isAbsolute fs.cwd = true) (namePrefix directory : Text)
    (names : ∀ part ∈ name.splitOn '/', NamePart part) :
    ∃ file, (ofDirectory fs namePrefix directory).resolveId (namePrefix ++ name) = some file ∧
      Serves fs (ofDirectory fs namePrefix directory) directory name file := by
  have normal : Path.Normal (ofDirectory fs namePrefix directory).root := Path.absolute_normal rooted directory
  have begins : Path.isAbsolute
      ((Path.join (ofDirectory fs namePrefix directory).root.toText name).replaceChar '\\' '/') = true :=
    isAbsolute_replaceChar (Path.join_isAbsolute normal.isAbsolute name)
  have backless := not_mem_replaceChar (a := '\\') (b := '/') (by decide)
    (Path.join (ofDirectory fs namePrefix directory).root.toText name)
  refine ⟨_, resolveId_name names,
    { owned := ?owned, path := ?path, served := ?served, given := ?given, declined := ?declined }⟩
  case owned =>
    constructor
    · exact plain_of_owns begins backless
    · intro plain
      rw [replaceChar_join normal plain names]
      exact owns_join normal plain names
  case path =>
    intro plain
    exact replaceChar_join normal plain names
  case served =>
    intro plain bytes t found decoded
    rw [replaceChar_join normal plain names]
    exact load_of_stat (owns_join normal plain names) found decoded
  case given =>
    intro plain place bytes t walked returns clear short decoded
    rw [replaceChar_join normal plain names] at clear short ⊢
    have found := stat_of_given rooted names walked returns clear short
    exact load_of_stat (owns_join normal plain names) found decoded
  case declined =>
    intro rough
    apply load_declines
    intro contained
    exact rough (plain_of_owns begins backless (owns_iff.2 contained))

/-- A file in a directory below the overlay's, beside two directories that are not plain. -/
def servedFiles : FileSystem where
  cwd := "/p".toList
  entries := [(["p".toList], .directory), (["o".toList], .directory), (["o".toList, "in.js".toList], .file [105]),
    (["o".toList, "sub".toList], .directory), (["o".toList, "sub".toList, "in.js".toList], .file [105, 13, 10]),
    (["a\\b".toList], .directory), (["a\\b".toList, "in.js".toList], .file [105])]

/-- A directory that is given by a path with dots. -/
theorem load_resolveId_dotted :
    Path.isAbsolute servedFiles.cwd = true ∧ (∀ part ∈ splitOn '/' "sub/in.js".toList, NamePart part) ∧
      ∃ file, (ofDirectory servedFiles "v:".toList ".././/o/".toList).resolveId "v:sub/in.js".toList = some file ∧
        (ofDirectory servedFiles "v:".toList ".././/o/".toList).load servedFiles file =
          .quiet (.ok (some ['i', '\n'])) := by
  have names : ∀ part ∈ splitOn '/' "sub/in.js".toList, NamePart part := by decide
  have plain : Plain (ofDirectory servedFiles "v:".toList ".././/o/".toList).root := ⟨by decide, by decide⟩
  have rooted : Path.isAbsolute servedFiles.cwd = true := by decide
  obtain ⟨file, resolved, serves⟩ := load_resolveId rooted "v:".toList ".././/o/".toList names
  exact ⟨rooted, names, file, resolved, serves.served plain [105, 13, 10] ['i', '\r', '\n'] (by cbv) (by cbv)⟩

/-- **A directory whose path begins with two slashes serves nothing**, although its names lead to what is in it. -/
theorem doubledSlash_declines :
    (∀ part ∈ splitOn '/' "in.js".toList, NamePart part) ∧
      (ofDirectory servedFiles "v:".toList "//o".toList).resolveId "v:in.js".toList = some "//o/in.js".toList ∧
      servedFiles.stat "//o/in.js".toList = .ok (.file [105]) ∧ decode [105] = .ok ['i'] ∧
      (ofDirectory servedFiles "v:".toList "//o".toList).owns servedFiles "//o/in.js".toList = false ∧
      (ofDirectory servedFiles "v:".toList "//o".toList).load servedFiles "//o/in.js".toList = .quiet (.ok none) := by
  refine ⟨by decide, by decide, by cbv, by cbv, by decide, ?_⟩
  cbv

/-- **A directory with a backslash in its path serves nothing**: its names lead elsewhere. -/
theorem backslash_declines :
    (∀ part ∈ splitOn '/' "in.js".toList, NamePart part) ∧
      (ofDirectory servedFiles "v:".toList "/a\\b".toList).resolveId "v:in.js".toList = some "/a/b/in.js".toList ∧
      servedFiles.stat "/a\\b/in.js".toList = .ok (.file [105]) ∧ decode [105] = .ok ['i'] ∧
      (ofDirectory servedFiles "v:".toList "/a\\b".toList).owns servedFiles "/a/b/in.js".toList = false ∧
      (ofDirectory servedFiles "v:".toList "/a\\b".toList).load servedFiles "/a/b/in.js".toList =
        .quiet (.ok none) := by
  refine ⟨by decide, by decide, by cbv, by cbv, by decide, ?_⟩
  cbv

end Graft.Overlay
