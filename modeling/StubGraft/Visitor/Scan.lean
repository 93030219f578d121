import StubGraft.Event
import StubGraft.Text.Lines
import StubGraft.Visitor.Braces
import StubGraft.Visitor.Convention
import StubGraft.Visitor.Model

/-!
# Scanning visitor files

The lines of a file are cut, from the top, into blocks and single lines.  A block starts
at a line that declares a stub and ends at its closing line below; every other line stands
alone, also a declaration that is closed on its own line or never.  The first block of
each name is a stub; the single lines with the import marker are imports, each once.
This is the function `extract`.

Main notions:

* `Segment`, `segments`: the cut of the lines;
* `Scan`, `Scan.add`: what has been found up to a segment;
* `scan`: the model of a text and what was odd about it.  Every text has a model.
-/

namespace StubGraft

/-- A piece of a visitor file. -/
inductive Segment where
  /-- A line that declares nothing. -/
  | plain (line : Text)
  /-- A declaration whose braces never balance. -/
  | unbalanced (line : Text)
  /-- A declaration that is closed on its own line. -/
  | oneLine (line : Text)
  /-- A declaration, its body and its closing line. -/
  | block (header : Text) (body : List Text) (closer : Text)
  deriving DecidableEq, Repr

/-- The lines of a segment. -/
def Segment.lines : Segment → List Text
  | .plain line => [line]
  | .unbalanced line => [line]
  | .oneLine line => [line]
  | .block header body closer => header :: body ++ [closer]

/-- Cuts lines into segments, passing over `skip` lines that belong to a block already cut. -/
def segmentsFrom (convention : Convention) (skip : Nat) : List Text → List Segment
  | [] => []
  | line :: rest =>
    match skip with
    | k + 1 => segmentsFrom convention k rest
    | 0 =>
      if convention.declares line then
        match Braces.closingOffset? (line :: rest) with
        | none => .unbalanced line :: segmentsFrom convention 0 rest
        | some 0 => .oneLine line :: segmentsFrom convention 0 rest
        | some (k + 1) =>
          .block line (rest.take k) (rest.getD k []) :: segmentsFrom convention (k + 1) rest
      else .plain line :: segmentsFrom convention 0 rest

/-- The segments of a file. -/
def segments (convention : Convention) (lines : List Text) : List Segment :=
  segmentsFrom convention 0 lines

/-- What has been found in the segments so far. -/
structure Scan where
  /-- How many lines have been passed. -/
  position : Nat
  /-- The stubs found. -/
  stubs : StubTable
  /-- Where they stand. -/
  spans : List Span
  /-- The import lines found. -/
  imports : List Text
  /-- What was odd. -/
  events : List Event

namespace Scan

/-- Nothing found yet. -/
def start : Scan := ⟨0, .empty, [], [], []⟩

/-- Passes a single line, which may be an import. -/
def addLine (convention : Convention) (scan : Scan) (line : Text) : Scan :=
  { scan with
    position := scan.position + 1
    imports :=
      if convention.isImport line then Text.addNew scan.imports line else scan.imports }

/-- Reports an event. -/
def report (scan : Scan) (event : Event) : Scan := { scan with events := scan.events ++ [event] }

/-- Passes a block, which is a stub if its name is new. -/
def addBlock (scan : Scan) (header : Text) (body : List Text) : Scan :=
  let name := stubName header
  let next := scan.position + body.length + 2
  if scan.stubs.contains name then
    { scan.report (.duplicateStub name (scan.position + 1)) with position := next }
  else
    { scan with
      position := next
      stubs := scan.stubs.insert name body
      spans := scan.spans ++ [⟨name, scan.position, scan.position + body.length + 1⟩] }

/-- Passes a segment. -/
def add (convention : Convention) (scan : Scan) : Segment → Scan
  | .plain line => scan.addLine convention line
  | .unbalanced line =>
    (scan.report (.unbalancedStub (scan.position + 1))).addLine convention line
  | .oneLine line =>
    (scan.report (.oneLineStub (stubName line) (scan.position + 1))).addLine convention line
  | .block header body _ => scan.addBlock header body

end Scan

/-- The model of some lines, and what happened on the way. -/
def scanLines (convention : Convention) (lines : List Text) : Model × List Event :=
  let found := (segments convention lines).foldl (Scan.add convention) Scan.start
  (⟨lines, found.stubs, found.imports, found.spans⟩,
    found.events ++ [.scanned found.stubs.size found.imports.length lines.length])

/-- The model of a text, and what happened on the way. -/
def scan (convention : Convention) (text : Text) : Model × List Event :=
  scanLines convention text.splitLines

end StubGraft
