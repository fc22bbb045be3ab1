/-
# Graft.Settings -- what the environment sets

Every setting has a variable of the environment and a default.  Lists of patterns are separated by commas;
blanks around a pattern and blank patterns do not count, and a list without patterns is the default list.
Only the number to listen on can be wrong at this point; everything else is checked where it is used.
-/
import Graft.Patch.Recipe
import Graft.Text.Integer

namespace Graft

set_option autoImplicit false

/-- The variables that are set, with their values. -/
abbrev Environment := List (Text × Text)

structure Settings where
  mode : Text
  apply : Text
  projectRoot : Text
  fixedVersion : Text
  overlayPrefix : Text
  overlayDirectory : Text
  buildReplaceable : List Text
  buildExportDefault : List Text
  serve : List Text
  exclude : List Text
  host : Text
  tcpPort : Int
  logLevel : Text
  deriving DecidableEq, Repr

namespace Settings

/-- The names of the variables that are looked at. -/
def variableNames : List String := [
  "ICONFIX_MODE", "ICONFIX_APPLY", "ICONFIX_ROOT", "ICONFIX_FIXED_VERSION", "ICONFIX_VIRTUAL_PREFIX",
  "ICONFIX_VIRTUAL_DIR", "ICONFIX_BUILD_REPLACEABLE_INCLUDE", "ICONFIX_BUILD_EXPORT_DEFAULT_INCLUDE",
  "ICONFIX_SERVE_INCLUDE", "ICONFIX_FILTER_EXCLUDE", "HOST", "PORT", "LOG_LEVEL"]

/-- The package whose icons are patched. -/
def dependencyName : Text := "naive-ui".toList

/-- The patterns of a list, or the default list if there are none. -/
def patternList (value : Option Text) (default : List Text) : List Text :=
  let items := (((value.getD []).splitOn ',').map Text.trim).filter (· != [])
  if items.isEmpty then default else items

def defaultBuildReplaceable : List Text := ["re:/naive-ui/es/_internal/icons/replaceable".toList]

def defaultBuildExportDefault : List Text := [
  "re:/naive-ui/es/checkbox/src/Checkbox\\.mjs".toList,
  "re:/naive-ui/es/back-top/src/BackTop\\.mjs".toList,
  "re:/naive-ui/es/rate/src/Rate\\.mjs".toList,
  "re:/naive-ui/es/result/src/Result\\.mjs".toList]

def defaultServe : List Text := ["re:/\\.vite/deps/naive-ui\\.js".toList]

/-- The settings of an environment, in a working directory and with the overlay that comes along. -/
def ofEnvironment (env : Environment) (cwd helperDirectory : Text) :
    Except Text.IntegerFault Settings := do
  let get (name : String) : Option Text := env.lookup name.toList
  let getText (name default : String) : Text := (get name).getD default.toList
  let tcpPort ← Text.readInteger (getText "PORT" "8890")
  return {
    mode := getText "ICONFIX_MODE" "build"
    apply := getText "ICONFIX_APPLY" "always"
    projectRoot := (get "ICONFIX_ROOT").getD cwd
    fixedVersion := getText "ICONFIX_FIXED_VERSION" "2.40.4"
    overlayPrefix := getText "ICONFIX_VIRTUAL_PREFIX" "virtual:fixNaiveuiIcon-path:"
    overlayDirectory := (get "ICONFIX_VIRTUAL_DIR").getD helperDirectory
    buildReplaceable := patternList (get "ICONFIX_BUILD_REPLACEABLE_INCLUDE") defaultBuildReplaceable
    buildExportDefault :=
      patternList (get "ICONFIX_BUILD_EXPORT_DEFAULT_INCLUDE") defaultBuildExportDefault
    serve := patternList (get "ICONFIX_SERVE_INCLUDE") defaultServe
    exclude := patternList (get "ICONFIX_FILTER_EXCLUDE") []
    host := getText "HOST" "127.0.0.1"
    tcpPort := tcpPort
    logLevel := Text.upper (getText "LOG_LEVEL" "INFO") }

/-- What a server is started with. -/
structure LaunchOptions where
  application : Text
  host : Text
  tcpPort : Int
  reload : Bool
  deriving DecidableEq, Repr

def launchOptions (s : Settings) : LaunchOptions :=
  ⟨"iconfix.main:app".toList, s.host, s.tcpPort, false⟩

/-- The options on one line. -/
def LaunchOptions.line (o : LaunchOptions) : String :=
  s!"{Text.str o.application} on {Text.str o.host}:{o.tcpPort}, reload {o.reload}"

end Settings

end Graft
