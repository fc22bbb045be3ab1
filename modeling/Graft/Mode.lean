/-
# Graft.Mode -- build modes, phases and when to engage

The names that the host tool and the settings use: the mode of the build, the phase a hook runs in, and the
modes in which the pipeline engages.  Names are compared exactly; `Mode.parse` alone is lenient, about case,
blanks around the name and the two short names of the development server.
-/
import Graft.Text.Blank
import Graft.Text.Case
import Graft.Text.Quoted

namespace Graft

set_option autoImplicit false

/-- A text that names no member of a kind. -/
structure NameFault where
  name : Text
  kind : String
  deriving DecidableEq, Repr

def NameFault.message (f : NameFault) : String := s!"{Text.str (Text.quoted f.name)} is not a valid {f.kind}"

/-- The member of a list that has a name. -/
def named {α : Type} (kind : String) (members : List α) (nameOf : α → Text) (name : Text) :
    Except NameFault α :=
  match members.find? (nameOf · == name) with
  | some member => .ok member
  | none => .error ⟨name, kind⟩

/-- How the host tool consumes the dependency: as single modules, or bundled into one file. -/
inductive Mode where
  | build
  | serve
  deriving DecidableEq, Repr

/-- A name given for the mode that is none. -/
structure ModeFault where
  given : Option Text
  deriving DecidableEq, Repr

def ModeFault.message (f : ModeFault) : String :=
  let given := (f.given.map Text.str).getD "None"
  s!"Unknown build mode: {given}. Supported values: 'build', 'serve'"

namespace Mode

def name : Mode → Text
  | .build => "build".toList
  | .serve => "serve".toList

def all : List Mode := [.build, .serve]

/-- The mode of this very name. -/
def ofName : Text → Except NameFault Mode := named "Mode" all name

/-- The mode that a setting names, whatever its case and the blanks around it. -/
def parse (given : Option Text) : Except ModeFault Mode :=
  let name := (Text.lower (given.getD [])).trim
  if name = "dev".toList ∨ name = "development".toList then .ok .serve
  else match ofName name with
    | .ok mode => .ok mode
    | .error _ => .error ⟨given⟩

end Mode

/-- The part of the host's build that a stage runs in. -/
inductive Phase where
  | pre
  | post
  deriving DecidableEq, Repr

namespace Phase

def name : Phase → Text
  | .pre => "pre".toList
  | .post => "post".toList

def ofName : Text → Except NameFault Phase := named "Phase" [.pre, .post] name

end Phase

/-- The modes in which the pipeline engages. -/
inductive ApplyCondition where
  | always
  | build
  | serve
  deriving DecidableEq, Repr

namespace ApplyCondition

def name : ApplyCondition → Text
  | .always => "always".toList
  | .build => "build".toList
  | .serve => "serve".toList

def ofName : Text → Except NameFault ApplyCondition := named "ApplyCondition" [.always, .build, .serve] name

def allows : ApplyCondition → Mode → Bool
  | .always, _ => true
  | .build, mode => mode == .build
  | .serve, mode => mode == .serve

end ApplyCondition

end Graft
