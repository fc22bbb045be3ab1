/-
# Graft.Patch.Recipe -- the descriptors that are shipped, and which file gets which

Every recipe makes a component clone its icon on each render, through a helper that the patched file
imports, so that no two instances share a node.  A built package has one module for each component; a
development server serves all of them bundled into one file, for which there is one descriptor.
-/
import Graft.Helper
import Graft.Notice
import Graft.Patch.Descriptor
import Graft.Regex.Matching

namespace Graft.Patch

set_option autoImplicit false

/-- What a patch is about. -/
inductive Category where
  | replaceable
  | exportDefault
  deriving DecidableEq, Repr

namespace Category

def name : Category → Text
  | .replaceable => "replaceable".toList
  | .exportDefault => "export-default".toList

def ofName : Text → Except NameFault Category := named "Category" [.replaceable, .exportDefault] name

end Category

/-- The components whose default export holds a shared icon. -/
inductive Component where
  | checkbox
  | backTop
  | rate
  | result
  deriving DecidableEq, Repr

namespace Component

def all : List Component := [.checkbox, .backTop, .rate, .result]

/-- The name of the component's directory. -/
def name : Component → Text
  | .checkbox => "checkbox".toList
  | .backTop => "back-top".toList
  | .rate => "rate".toList
  | .result => "result".toList

/-- The name under which the component is defined. -/
def title : Component → Text
  | .checkbox => "Checkbox".toList
  | .backTop => "BackTop".toList
  | .rate => "Rate".toList
  | .result => "Result".toList

/-- The icons that the component imports and that have to be cloned. -/
def icons : Component → List Text
  | .checkbox => ["CheckMark".toList, "LineMark".toList]
  | .backTop => ["BackTopIcon".toList]
  | .rate => ["StarIcon".toList]
  | .result => []

end Component

/-! ## Recipes -/

/-- The head of a render function. -/
def renderHead : Text := "render\\s*\\(\\)\\s*\\\x7b".toList

/-- Declares each name as a clone of what another name holds. -/
def cloneBindings (pairs : List (Text × Text)) : Text :=
  pairs.flatMap fun (name, held) =>
    "\n    const ".toList ++ name ++ " = ".toList ++ Helper.importName ++ "(".toList ++ held ++ ");".toList

/-- The wrapper that lets icons be replaced. -/
def replaceableRecipe : Descriptor where
  name := "replaceable".toList
  replacements := [
    { pattern := "function replaceable(name, icon)".toList
      replacement := "function replaceable(name, _icon_)".toList }]
  insertions := [
    { anchor := "function replaceable\\s*\\(([^,]+),\\s*icon\\)\\s*\\\x7b".toList
      innerAnchor := "setup\\s*\\(\\)\\s*\\\x7b".toList
      template := "\n  const icon = ".toList ++ Helper.importName ++ "(_icon_);".toList }]

/-- Status images, kept in a table from status codes to functions. -/
def statusIcons : Replacement where
  pattern := "(\\b\\d\x7b3\x7d): \\(\\) => ([\\w$]+)".toList
  replacement := "\\1: () => ".toList ++ Helper.importName ++ "(\\2)".toList
  regex := true
  count := 0

/-- Frees the name of an icon that a module imports. -/
def importRename (icon : Text) : Replacement where
  pattern := "import ".toList ++ icon ++ " from ([\\\"'])(\\./".toList ++ icon ++ "\\.mjs)\\1".toList
  replacement := "import _".toList ++ icon ++ "_ from \\1\\2\\1".toList
  regex := true

/-- Frees the name of an icon that a bundle declares. -/
def bundledRename (icon : Text) : Replacement where
  pattern := "\\bvar ".toList ++ icon ++ "_default\\b".toList
  replacement := "var _".toList ++ icon ++ "_default_".toList
  regex := true

/-- The descriptor of a component's own module. -/
def buildRecipe (c : Component) : Descriptor where
  name := "export-default:".toList ++ c.name
  replacements := if c = .result then [statusIcons] else []
  insertions :=
    if c.icons.isEmpty then []
    else [
      { anchor := "export default defineComponent\\(\\\x7b".toList
        innerAnchor := renderHead
        template := cloneBindings (c.icons.map fun icon => (icon, "_".toList ++ icon ++ "_".toList))
        renames := c.icons.map importRename }]

/-- The insertion for one component in the bundle. -/
def bundledInsertion (c : Component) : Insertion where
  anchor := "defineComponent\\(\\\x7b(?=\\s*name:\\s*[\\\"']".toList ++ c.title ++ "[\\\"'])".toList
  innerAnchor := renderHead
  template := cloneBindings (c.icons.map fun icon =>
    (icon ++ "_default".toList, "_".toList ++ icon ++ "_default_".toList))
  renames := c.icons.map bundledRename

/-- The descriptor of the bundle. -/
def bundleRecipe : Descriptor where
  name := "export-default:aggregate".toList
  replacements := [statusIcons]
  insertions := (Component.all.filter (!·.icons.isEmpty)).map bundledInsertion

/-! ## Selection -/

/-- The directory of a component's sources in the built package. -/
def componentDirectory : Except Regex.Fault Regex :=
  Regex.compile {} "/naive-ui/es/([\\w-]+)/src/".toList

/-- The component that a file belongs to, by the first component directory in its name. -/
def componentFor (file : Text) : Option Component := do
  let regex ← componentDirectory.toOption
  let path := file.replaceChar '\\' '/'
  let m ← Regex.search regex path
  let span ← m.group? 1
  Component.all.find? (·.name == path.slice span.start span.stop)

/-- The descriptor for a file, if there is one. -/
def selectDescriptor (mode : Mode) (category : Category) (file : Text) : Logged (Option Descriptor) :=
  match category, mode with
  | .replaceable, _ => .quiet (some replaceableRecipe)
  | .exportDefault, .serve => .quiet (some bundleRecipe)
  | .exportDefault, .build =>
    match componentFor file with
    | some c => .quiet (some (buildRecipe c))
    | none => ⟨[.noRecipe file], none⟩

end Graft.Patch
