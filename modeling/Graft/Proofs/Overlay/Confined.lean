/-
# Graft.Proofs.Overlay.Confined -- nothing outside its directory is the overlay's

A path belongs to the overlay if its directory is what the two begin with, and that is asked of components, after both
have been made normal (`owns_iff_common`).  So the components of the directory begin those of every path that belongs to
it, and all others are declined whatever there is on disk (`ofDirectory_confined`): a path that goes up out of the
directory and does not come down into it again, a path into a directory beside it whose name is longer, and the path
behind any name of the overlay that leads elsewhere.
-/
import Graft.Proofs.FileSystem.Below
import Graft.Proofs.Overlay.Serving
import Mathlib

namespace Graft.Overlay

set_option autoImplicit false

variable {fs : FileSystem} {o : Overlay} {file : Text}

/-- The components of the overlay's directory begin those of the normal path of a file. -/
def Encloses (o : Overlay) (fs : FileSystem) (file : Text) : Prop :=
  Path.partsOf o.root.toText <+: Path.partsOf (Path.absolute fs.cwd file).toText

theorem encloses_iff (rooted : Path.isAbsolute fs.cwd = true) (normal : Path.Normal o.root) :
    o.Encloses fs file ↔ o.root.parts <+: (Path.absolute fs.cwd file).parts := by
  rw [Encloses, normal.partsOf_eq, (Path.absolute_normal rooted file).partsOf_eq]

/-- **A path belongs to the overlay if the directory is what both begin with.** -/
theorem owns_iff_common (rooted : Path.isAbsolute fs.cwd = true) (normal : Path.Normal o.root) :
    o.owns fs file = true ↔
      Path.common? (Path.absolute fs.cwd file).toText o.root.toText = some o.root.toText := by
  rw [owns_iff, Contains, Path.common?_eq_some_iff (Path.absolute_normal rooted file) normal]

/-- What the overlay keeps to its directory. -/
structure Confined (fs : FileSystem) (o : Overlay) : Prop where
  /-- What belongs to the overlay is what has the directory in common with it. -/
  common : ∀ file, o.owns fs file = true ↔
    Path.common? (Path.absolute fs.cwd file).toText o.root.toText = some o.root.toText
  within : ∀ file, o.owns fs file = true → o.Encloses fs file
  outside : ∀ file, ¬ o.Encloses fs file → o.load fs file = .quiet (.ok none)
  /-- A path behind the directory, however that is written, is declined if it goes up and not down the same way. -/
  upwards : ∀ directory tail, (Path.absolute fs.cwd directory).parts = o.root.parts → Path.isAbsolute tail = false →
    ¬ o.root.parts.drop (o.root.parts.length - Path.ups tail) <+: Path.goesDown tail →
    o.load fs (Path.join directory tail) = .quiet (.ok none)
  /-- A directory whose name only begins with that of the overlay's is another one. -/
  beside : ∀ front name more rest file, o.root.parts = front ++ [name] → more ≠ [] →
    (Path.absolute fs.cwd file).parts = front ++ (name ++ more) :: rest → o.load fs file = .quiet (.ok none)
  names : ∀ name, ∃ file, o.resolveId (o.namePrefix ++ name) = some file ∧
    (¬ o.Encloses fs file → o.load fs file = .quiet (.ok none))

theorem load_outside (rooted : Path.isAbsolute fs.cwd = true) (normal : Path.Normal o.root)
    (outside : ¬ o.Encloses fs file) : o.load fs file = .quiet (.ok none) :=
  load_declines fun contained => outside ((encloses_iff rooted normal).2 contained.2)

/-- A longer name in the place of the directory's is not the directory's. -/
theorem not_prefix_of_longer {front rest : List Text} {name more : Text} (some_ : more ≠ []) :
    ¬ front ++ [name] <+: front ++ (name ++ more) :: rest := by
  rw [List.prefix_append_right_inj, List.cons_prefix_cons]
  rintro ⟨same, -⟩
  exact some_ (List.append_right_eq_self.1 same.symm)

/-- **The overlay is confined to its directory**, whatever the directory and the path and whatever is on disk. -/
theorem ofDirectory_confined {base : FileSystem} (based : Path.isAbsolute base.cwd = true)
    (rooted : Path.isAbsolute fs.cwd = true) (namePrefix directory : Text) :
    Confined fs (ofDirectory base namePrefix directory) := by
  have normal : Path.Normal (ofDirectory base namePrefix directory).root := Path.absolute_normal based directory
  refine
    { common := ?common, within := ?within, outside := ?outside, upwards := ?upwards, beside := ?beside,
      names := ?names }
  case common =>
    intro file
    exact owns_iff_common rooted normal
  case within =>
    intro file owned
    exact (encloses_iff rooted normal).2 (owns_iff.1 owned).2
  case outside =>
    intro file outside
    exact load_outside rooted normal outside
  case upwards =>
    intro directory' tail same relative leaves
    have behind := Path.below_behind_iff rooted directory' relative
    rw [same] at behind
    apply load_outside rooted normal
    rw [encloses_iff rooted normal, behind]
    exact leaves
  case beside =>
    intro front name more rest file named_ some_ lies
    apply load_outside rooted normal
    rw [encloses_iff rooted normal, named_, lies]
    exact not_prefix_of_longer some_
  case names =>
    intro name
    refine ⟨_, by rw [resolveId, if_pos (List.isPrefixOf_iff_prefix.2 (List.prefix_append _ _))], ?_⟩
    intro outside
    exact load_outside rooted normal outside

/-- Files beside an overlay's directory, in one whose name is longer. -/
def neighbourFiles : FileSystem where
  cwd := "/p".toList
  entries := [(["p".toList], .directory), (["o".toList], .directory), (["old".toList], .directory),
    (["old".toList, "in.js".toList], .file [105])]

/-- The same file, reached over double dots and through a name of the overlay; it is declined, as it is when its path
is given outright. -/
theorem ofDirectory_confined_neighbour :
    Path.isAbsolute neighbourFiles.cwd = true ∧
      neighbourFiles.stat "/o/../old/in.js".toList = .ok (.file [105]) ∧
      (ofDirectory neighbourFiles "v:".toList "../o".toList).load neighbourFiles "/o/../old/in.js".toList =
        .quiet (.ok none) ∧
      (ofDirectory neighbourFiles "v:".toList "../o".toList).load neighbourFiles "/old/in.js".toList =
        .quiet (.ok none) ∧
      ∃ file, (ofDirectory neighbourFiles "v:".toList "../o".toList).resolveId "v:..\\old/in.js".toList = some file ∧
        (ofDirectory neighbourFiles "v:".toList "../o".toList).load neighbourFiles file = .quiet (.ok none) := by
  have rooted : Path.isAbsolute neighbourFiles.cwd = true := by decide
  have confined := ofDirectory_confined rooted rooted "v:".toList "../o".toList
  refine ⟨rooted, by cbv, ?_, ?_, ?_⟩
  · exact confined.upwards "/o".toList "../old/in.js".toList (by decide) (by decide) (by decide)
  · exact confined.beside [] "o".toList "ld".toList ["in.js".toList] _ (by decide) (by decide) (by decide)
  · obtain ⟨file, resolved, declines⟩ := confined.names "..\\old/in.js".toList
    refine ⟨file, resolved, declines ?_⟩
    have isFile : file = "/o/../old/in.js".toList := by
      have same : some file = some "/o/../old/in.js".toList := resolved.symm.trans (by decide)
      exact Option.some.inj same
    subst isFile
    unfold Encloses
    decide

end Graft.Overlay
