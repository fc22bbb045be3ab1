import Graft.Decimal.Shortest
import Graft.Delimiter
import Graft.Edit.Buffer
import Graft.Edit.PositionMap
import Graft.FileSystem.Basic
import Graft.FileSystem.RealPath
import Graft.Filter.Basic
import Graft.Filter.FilterSet
import Graft.Glob
import Graft.Helper
import Graft.Json.Basic
import Graft.Json.Reader
import Graft.Main
import Graft.Mode
import Graft.Notice
import Graft.Overlay
import Graft.Patch.Application
import Graft.Patch.Descriptor
import Graft.Patch.Recipe
import Graft.Path
import Graft.Proofs.Edit.Calls
import Graft.Proofs.Edit.Layout
import Graft.Regex.Fault
import Graft.Regex.Matching
import Graft.Regex.Pattern
import Graft.Regex.Reader
import Graft.Regex.Template
import Graft.Regex.Token
import Graft.Service.App
import Graft.Session
import Graft.Settings
import Graft.SourceMap.Mappings
import Graft.SourceMap.Vlq
import Graft.Text.Basic
import Graft.Text.Blank
import Graft.Text.Bounds
import Graft.Text.Case
import Graft.Text.Digit
import Graft.Text.Identifier
import Graft.Text.Integer
import Graft.Text.Letter
import Graft.Text.Lines
import Graft.Text.Printable
import Graft.Text.Quoted
import Graft.Text.Utf8
import Graft.Transform
import Graft.Version.Gate
import Graft.Version.Manifest
import Graft.Version.Order
import Graft.Proofs.Edit.Reference
import Graft.Proofs.SourceMap.Decoding
import Graft.Proofs.Edit.Segments
import Graft.Proofs.SourceMap.Faithful
import Graft.Proofs.Regex.Matches
import Graft.Proofs.Patch.Edits
import Graft.Proofs.Patch.Course
import Graft.Proofs.Regex.Literal
import Graft.Proofs.Transform.Plan
import Graft.Proofs.Patch.Targets
import Graft.Proofs.Transform.Overlap
import Graft.Proofs.Regex.Shift
import Graft.Proofs.Edit.Shift
import Graft.Proofs.Patch.Shift
import Graft.Proofs.Transform.Phases
import Graft.Proofs.Patch.Recipes
import Graft.Proofs.Edit.Acceptance
import Graft.Proofs.Edit.Cut
import Graft.Proofs.Edit.Nesting
import Graft.Proofs.Patch.Nesting
import Graft.Proofs.Patch.Order
import Graft.Proofs.Transform.Nesting
import Graft.Proofs.Transform.Wrapper
import Graft.Proofs.Edit.Found
import Graft.Proofs.Patch.Renames
import Graft.Proofs.Transform.Declarations
import Graft.Proofs.Edit.Permutation
import Graft.Proofs.Edit.Growth
import Graft.Proofs.Edit.Tiling
import Graft.Proofs.Edit.Origin
import Graft.Proofs.Patch.Growth
import Graft.Proofs.Transform.Outcome
import Graft.Proofs.Patch.Dispatch
import Graft.Proofs.FileSystem.Normal
import Graft.Proofs.Overlay
import Graft.Proofs.Json.Nesting
import Graft.Proofs.Version.Resolution
import Graft.Proofs.Service.Responses
import Graft.Proofs.Transform.Modules
import Graft.Proofs.Patch.Account
import Graft.Proofs.Transform.Exchange
import Graft.Proofs.Patch.Substitution
import Graft.Proofs.Transform.Repatching
import Graft.Proofs.Version.Order
import Graft.Proofs.Version.PreRelease
import Graft.Proofs.FileSystem.Joined
import Graft.Proofs.Overlay.Serving
import Graft.Proofs.Version.Nearest
import Graft.Proofs.FileSystem.Below
import Graft.Proofs.Overlay.Confined
import Graft.Proofs.Filter.Lists
import Graft.Proofs.Settings
import Graft.Proofs.Glob.Sets
import Graft.Proofs.Glob.Language
import Graft.Proofs.Glob.Translation
import Graft.Proofs.Glob.Written
import Graft.Proofs.Filter.Wildcard
import Graft.Proofs.Transform.Naming
import Graft.Proofs.SourceMap.Rounds
import Graft.Proofs.Text.Lookup
