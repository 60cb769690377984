import Lockstep.Scan.Machine

/-! The scan of one file. A file with a zero byte is taken for a binary one, and a file without any
marker among its bytes cannot hold an annotation; both are fingerprinted and not read line by
line. A marker that UTF-8 has no bytes for cannot be looked for, and ends the scan. -/
namespace Lockstep

def hasSlice (part : Bytes) : Bytes → Bool
  | [] => part.isEmpty
  | b :: rest => part.isPrefixOf (b :: rest) || hasSlice part rest

namespace Scan

/-- Whether any of some words stands among the bytes of a file. A word without bytes is refused,
unless one before it is found. -/
def containsAny : List Text → Bytes → Except Text Bool
  | [], _ => .ok false
  | word :: rest, content =>
    match word.encode? with
    | none => .error word
    | some bytes => if hasSlice bytes content then .ok true else containsAny rest content

def mayContainMarkers (m : Markers) (content : Bytes) : Except Text Bool :=
  containsAny m.words content

def contentOf (lines : List Bytes) (b : Block) : Bytes :=
  ((lines.take b.lastLine).drop (b.firstLine - 1)).flatten

def regionOf (path : Path) (lines : List Bytes) (index : Nat) (b : Block) : Region :=
  { file := path, index, firstLine := b.firstLine, lastLine := b.lastLine,
    targets := b.entries.map Entry.target, targetLines := b.entries.map fun e => e.line,
    content := contentOf lines b }

def blocks (events : List Event) : List Block :=
  events.filterMap fun
    | .block b => some b
    | .fault _ _ => none

def errors (events : List Event) : List AnnotationError :=
  events.filterMap fun
    | .block _ => none
    | .fault line fault => some { line, fault }

def eventsOf (convention : Convention) (content : Bytes) : List Event :=
  run convention.implicitClose <|
    (splitLines content).map fun line => Reading.ofLine convention.markers (lineText line)

def everyLine (convention : Convention) (path : Path) (content : Bytes) : FileScan :=
  let events := eventsOf convention content
  { path, digest := .ofBytes content,
    regions := (blocks events).mapIdx (regionOf path (splitLines content)),
    errors := errors events }

inductive Treatment where
  | binary
  | unmarked
  | lineByLine
deriving DecidableEq

def treatment (m : Markers) (content : Bytes) : Except Text Treatment :=
  if content.contains 0 then .ok .binary
  else (mayContainMarkers m content).map fun found => if found then .lineByLine else .unmarked

end Scan

namespace FileScan

/-- The regions and misplaced annotations of a content, none where a marker is refused. -/
def ofContent (convention : Convention) (path : Path) (content : Bytes) : FileScan :=
  match Scan.treatment convention.markers content with
  | .ok .lineByLine => Scan.everyLine convention path content
  | _ => { path, digest := .ofBytes content }

def parse (convention : Convention) (path : Path) (content : Bytes) : Except Text FileScan :=
  (Scan.treatment convention.markers content).map fun _ => ofContent convention path content

end FileScan

end Lockstep
