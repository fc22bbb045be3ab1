/-
# Graft.SourceMap.Mappings -- source maps of edited texts

A source map says for places of the output where in the base text they came from.  An entry is written for
the start of every piece that came from the base, kept or overwritten, and for every line start inside a
kept piece; what was inserted has no entry.  Entries are grouped by the line of the output, and each
entry is written as differences: the column to the entry before it on the line, the base line and
column to the entry before it anywhere.
-/
import Graft.Edit.PositionMap
import Graft.SourceMap.Vlq
import Graft.Text.Lines

namespace Graft.SourceMap

set_option autoImplicit false

open Graft.Edit Graft.Text

/-- A place of the output and the place of the base that it came from. -/
structure Entry where
  output : Place
  base : Place
  deriving DecidableEq, Repr

/-- Pairs of an output offset and a base offset that a segment contributes. -/
def anchors (output : Text) (s : Segment) : List (Nat × Nat) :=
  if s.outputStart = s.outputStop then []
  else if s.edited then
    if s.baseStart = s.baseStop then [] else [(s.outputStart, s.baseStart)]
  else
    (s.outputStart, s.baseStart) ::
      ((breaks (output.slice s.outputStart s.outputStop)).filter
        (s.outputStart + · < s.outputStop)).map
        fun k => (s.outputStart + k, s.baseStart + k)

/-- The entries of an edited text, in the order of the output. -/
def entries (b : Buffer) : List Entry :=
  let output := b.toText
  let outputBreaks := breaks output
  let baseBreaks := breaks b.base
  (b.positionMap.segments.flatMap (anchors output)).map fun (g, o) =>
    ⟨placeAt outputBreaks g, placeAt baseBreaks o⟩

/-- The entries of each of `count` lines from `line` on. -/
def groupLines : Nat → Nat → List Entry → List (List Entry)
  | 0, _, _ => []
  | count + 1, line, es =>
    let (here, rest) := es.span (·.output.line == line)
    here :: groupLines count (line + 1) rest

/-- One entry, given the column before it on its line and the base place before it. -/
def encodeEntry (column : Nat) (last : Place) (e : Entry) : Text :=
  encodeVlq ((e.output.column : Int) - column) ++ encodeVlq 0 ++
    encodeVlq ((e.base.line : Int) - last.line) ++
    encodeVlq ((e.base.column : Int) - last.column)

/-- The entries of one line, and the base place after them. -/
def encodeLine : Nat → Place → List Entry → List Text × Place
  | _, last, [] => ([], last)
  | column, last, e :: rest =>
    let (fields, after) := encodeLine e.output.column e.base rest
    (encodeEntry column last e :: fields, after)

def encodeLines : Place → List (List Entry) → List Text
  | _, [] => []
  | last, line :: rest =>
    let (fields, after) := encodeLine 0 last line
    [','].intercalate fields :: encodeLines after rest

/-- The mappings of an edited text: lines are separated by semicolons, entries by commas. -/
def encodeMappings (b : Buffer) : Text :=
  [';'].intercalate
    (encodeLines ⟨0, 0⟩ (groupLines ((breaks b.toText).length + 1) 0 (entries b)))

end Graft.SourceMap

namespace Graft

/-- A source map of version 3 with one source, whose text it carries. -/
structure SourceMap where
  file : Text
  source : Text
  sourceContent : Text
  mappings : Text
  deriving DecidableEq, Repr

/-- The source map of a buffer; without a name for the output, the source's name stands for it. -/
def Edit.Buffer.sourceMap (b : Edit.Buffer) (source : Text) (file : Option Text) : SourceMap where
  file := match file with
    | some (c :: rest) => c :: rest
    | _ => source
  source := source
  sourceContent := b.base
  mappings := SourceMap.encodeMappings b

end Graft
