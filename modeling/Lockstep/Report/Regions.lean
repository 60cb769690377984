import Lockstep.Report.Json
import Lockstep.Survey

/-! The report of a survey: the regions of each file with annotations, and for each file who
declares it. The console form also answers for requested files that have no annotations of their
own. -/
namespace Lockstep.Report

structure FileEntry where
  scan : FileScan
  declaredBy : List Region

structure Regions where
  ref : Text
  files : List FileEntry
  /-- Requested files without annotations that some region declares. -/
  mentioned : List (Path × List Region)
  errors : List ReadError

/-- Picks the files to report: of those with annotations, the requested ones, or all if none is
requested. -/
def Regions.ofSurvey (settings : Settings) (ref : Text) (requested : List Path) (s : Survey) :
    Regions :=
  let graph := s.graph settings
  let shown := s.scans.filter fun scan =>
    (requested.isEmpty || requested.contains scan.path)
      && !(scan.regions.isEmpty && scan.errors.isEmpty)
  let others := (sortBy Text.le (distinct requested)).filter fun p => !shown.any (·.path = p)
  { ref, errors := s.errors
    files := shown.map fun scan => { scan, declaredBy := graph.dependentsOf scan.path }
    mentioned := (others.map fun p => (p, graph.dependentsOf p)).filter fun (_, by_) => by_ ≠ [] }

def regionJson (r : Region) : Json :=
  .object [("index", .number r.index), ("start_line", .number r.firstLine),
    ("end_line", .number r.lastLine), ("targets", .list (r.targets.map .text))]

def fileJson (m : Markers) (f : FileEntry) : Json :=
  .object [("path", .text f.scan.path), ("regions", .list (f.scan.regions.map regionJson)),
    ("errors", .list (f.scan.errors.map fun e =>
      .object [("line", .number e.line), ("message", .text (e.fault.message m))])),
    ("declared_by", .list (f.declaredBy.map fun r => .text r.location))]

def regionsJson (m : Markers) (r : Regions) : Json :=
  .object [("ref", .text r.ref), ("files", .list (r.files.map (fileJson m))),
    ("read_errors", .list (r.errors.map fun e => .text e.message))]

def declaredByLines (regions : List Region) : List Text :=
  if regions.isEmpty then []
  else ["  declared by: " ++ Text.joinWith ", " (regions.map Region.location)]

def fileLines (m : Markers) (f : FileEntry) : List Text :=
  f.scan.path :: f.scan.regions.map (fun r =>
      ("  lines " ++ Text.ofInt r.firstLine ++ "-" ++ Text.ofInt r.lastLine ++ " -> "
        ++ Text.joinWith ", " r.targets : Text))
    ++ f.scan.errors.map (fun e =>
      ("  ERROR: line " ++ Text.ofNat e.line ++ " - " ++ e.fault.message m : Text))
    ++ declaredByLines f.declaredBy

def regionsLines (m : Markers) (r : Regions) : List Text :=
  let nothing : List Text :=
    if r.files.isEmpty && r.mentioned.isEmpty then ["No annotated regions found"] else []
  r.files.flatMap (fileLines m)
    ++ r.mentioned.flatMap (fun (path, regions) => path :: declaredByLines regions)
    ++ r.errors.map (fun e => ("ERROR: " ++ e.message : Text)) ++ nothing

end Lockstep.Report
