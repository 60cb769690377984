import Lockstep.Finding
import Lockstep.Settings.Basic
import Lockstep.Snapshot.Basic
import Lockstep.Scan.File
import Lockstep.Wildcard

/-! The check: who changes a region must change every file the region declares. A region that stayed
the same asks for nothing. A region that changed is content with a target whose fingerprint differs
between the two snapshots. -/
namespace Lockstep

def Settings.excludes (s : Settings) (path : Path) : Bool :=
  s.exclude.any fun pattern => wildcardMatch pattern path

def Settings.resolve (s : Settings) (known : List Path) (source : Path) (target : Text) :
    Option Path :=
  Path.resolve s.resolution (fun p => known.contains p) source target

/-- What the targets of a region stand for in a graph: where a target names no file of the
repository, the target as written. -/
def Settings.resolver (s : Settings) (known : List Path) : Resolver := fun r target =>
  (s.resolve known r.file target).getD target

/-- One file in two snapshots; a version is missing where the snapshot has no such file. -/
structure Versions where
  old : Option FileScan
  new : Option FileScan
  /-- Whether both versions are there and have the same bytes. -/
  same : Bool
deriving DecidableEq

abbrev Comparison := Except ReadError Versions

namespace Check

variable {σ : Type}

def scan (convention : Convention) (path : Path) (content : Bytes) : Access σ FileScan := do
  let result := FileScan.ofContent convention path content
  match Scan.treatment convention.markers content with
  | .error word => throw (.unencodable word)
  | .ok .binary => Access.note (.binarySkipped path)
  | .ok .unmarked => pure ()
  | .ok .lineByLine => Access.note (.parsed path result.regions.length result.errors.length)
  return result

/-- The versions of a file from the bytes of both. Equal bytes are scanned once. -/
def versions (convention : Convention) (path : Path) (old new : Option Bytes) :
    Access σ Versions := do
  let newScan ← new.mapM (scan convention path)
  match old with
  | none => return { old := none, new := newScan, same := false }
  | some bytes =>
    if some bytes = new then return { old := newScan, new := newScan, same := true }
    else return { old := some (← scan convention path bytes), new := newScan, same := false }

/-- Reads a file in both snapshots. The first failure stands for the whole comparison. -/
def compare (source : Source σ) (settings : Settings) (old new : Text) (path : Path) :
    Access σ Comparison := do
  match ← source.read old path with
  | .error e => Access.note (.unreadable e); return .error e
  | .ok oldBytes =>
    match ← source.read new path with
    | .error e => Access.note (.unreadable e); return .error e
    | .ok newBytes => return .ok (← versions settings.convention path oldBytes newBytes)

def fileFindings (m : Markers) (path : Path) : Comparison → List Finding
  | .error e => [{ source := path, reason := .unreadable, message := e.message }]
  | .ok v =>
    ((v.new.map FileScan.errors).getD []).map fun e =>
      { source := path, reason := .malformed, message := e.fault.message m,
        firstLine := some e.line }

/-- Misplaced annotations of an old version are only worth a note, and none if it is the new
version too. -/
def oldNotes (ref : Text) (path : Path) : Comparison → List Note
  | .error _ => []
  | .ok v =>
    match v.old with
    | some old =>
      if old.isMalformed && !v.same then [.oldMalformed path ref old.errors.length] else []
    | none => []

def regionsOf (scan : Option FileScan) : List Region := (scan.map FileScan.regions).getD []

def markedRegions (matching : Matching) (old new : List Region) : List (Region × Bool) :=
  new.zip (matching.changed (old.map Region.digest) (new.map Region.digest))

def changedRegions (matching : Matching) (v : Versions) : List Region :=
  (markedRegions matching (regionsOf v.old) (regionsOf v.new)).filterMap fun (r, changed) =>
    if changed then some r else none

def countNotes (matching : Matching) (path : Path) (v : Versions) : List Note :=
  let old := (regionsOf v.old).length
  let new := (regionsOf v.new).length
  if matching = .position ∧ old ≠ new ∧ old ≠ 0 ∧ new ≠ 0 then [.countChanged path old new] else []

structure Scene where
  known : List Path
  newFiles : List Path
  changed : List RegionKey

def edgeFinding (e : Edge) (resolved : Option Path) (reason : Reason) (message : Text) : Finding :=
  { source := e.source.file, reason, message, firstLine := some e.source.firstLine,
    lastLine := some e.source.lastLine, regionIndex := some e.source.index,
    target := some (resolved.getD e.target), targetIndex := e.targetIndex }

def judge (e : Edge) (target : Path) : Comparison → Option Finding
  | .error failure => some (edgeFinding e (some target) .unreadable failure.message)
  | .ok v =>
    if v.old.map FileScan.digest = v.new.map FileScan.digest then
      some (edgeFinding e (some target) .targetUnchanged
        ("expected change in " ++ target ++ " due to change in " ++ e.source.location))
    else none

def missing (e : Edge) (resolved : Option Path) : Finding :=
  edgeFinding e resolved .targetMissing
    ("then-change references file that does not exist: '" ++ e.target ++ "'")

/-- Whether an edge is checked: its region changed, and it does not lead back into its own file. -/
def isDue (settings : Settings) (scene : Scene) (e : Edge) : Bool :=
  scene.changed.contains e.source.key
    && settings.resolve scene.known e.source.file e.target != some e.source.file

/-- The findings of edges, one after the other. A target that was kept from being scanned is
compared when it is first needed. -/
def judgeAll (source : Source σ) (settings : Settings) (old new : Text) (scene : Scene) :
    List Edge → List (Path × Comparison) → Access σ (List Finding)
  | [], _ => return []
  | e :: rest, compared => do
    match settings.resolve scene.known e.source.file e.target with
    | none => return missing e none :: (← judgeAll source settings old new scene rest compared)
    | some target =>
      if !scene.newFiles.contains target then
        return missing e (some target) :: (← judgeAll source settings old new scene rest compared)
      else
        match compared.lookup target with
        | some comparison =>
          return (judge e target comparison).toList
            ++ (← judgeAll source settings old new scene rest compared)
        | none =>
          let comparison ← compare source settings old new target
          return (judge e target comparison).toList
            ++ (← judgeAll source settings old new scene rest ((target, comparison) :: compared))

def readable (compared : List (Path × Comparison)) : List (Path × Versions) :=
  compared.filterMap fun
    | (path, .ok v) => some (path, v)
    | (_, .error _) => none

def noteAll (notes : List Note) : Access σ Unit := notes.forM Access.note

end Check

def check {σ : Type} (source : Source σ) (settings : Settings) (old new : Text) :
    Access σ Verdict := do
  let oldFiles ← source.list old
  let newFiles ← source.list new
  let known := oldFiles ++ newFiles
  let paths := sortBy Text.le (distinct (known.filter fun p => !settings.excludes p))
  Access.note (.scanning paths.length old new)
  let compared ← paths.mapM fun p => return (p, ← Check.compare source settings old new p)
  Check.noteAll (compared.flatMap fun (p, c) => Check.oldNotes old p c)
  let versions := Check.readable compared
  let graph := Graph.ofScans (settings.resolver known) (versions.filterMap fun (_, v) => v.new)
  Check.noteAll (versions.flatMap fun (p, v) => Check.countNotes settings.matching p v)
  let changed := versions.flatMap fun (_, v) => Check.changedRegions settings.matching v
  let scene : Check.Scene := { known, newFiles, changed := changed.map Region.key }
  let due := graph.edges.filter (Check.isDue settings scene)
  let ofEdges ← Check.judgeAll source settings old new scene due compared
  let ofFiles := compared.flatMap fun (p, c) => Check.fileFindings settings.convention.markers p c
  let findings := sortBy Finding.le (ofFiles ++ ofEdges)
  Access.note (.checked graph.size changed.length due.length findings.length)
  return { findings, filesScanned := paths.length, regionsFound := graph.size,
           regionsChanged := changed.length, edgesChecked := due.length }

end Lockstep
