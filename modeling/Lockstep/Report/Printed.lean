import Lockstep.Report.Check
import Lockstep.Report.Console
import Lockstep.Report.Regions

/-! The reports of the commands as they are printed: in the JSON form on the standard output, else
line by line on a console. -/
namespace Lockstep

structure Printed where
  exitCode : Nat
  out : Text := []
  err : Text := []

def Level.name : Level → String
  | .debug => "DEBUG"
  | .info => "INFO"
  | .warning => "WARNING"

namespace Report

def journal (notes : List Note) : Text :=
  Console.lines (notes.map fun n => (n.level.name ++ " " ++ n.message : Text))

def announcement (base head repository : Text) : Text :=
  Console.line ("Checking " ++ base ++ " -> " ++ head ++ " in " ++ repository ++ "...")

def summaryLines (v : Verdict) : List Text :=
  Console.table "Check Summary"
    [("Files scanned", .ofInt v.filesScanned), ("Regions", .ofInt v.regionsFound),
      ("Changed regions", .ofInt v.regionsChanged), ("Edges checked", .ofInt v.edgesChecked)]

def verdictLines (v : Verdict) : List Text :=
  Reason.all.flatMap (reasonLines v) ++ ([] :: summaryLines v) ++ [[], conclusion v]

def ofVerdict (v : Verdict) (base head : Text) (asJson : Bool) : Printed :=
  let exitCode := if v.hasFindings then 1 else 0
  if asJson then { exitCode, out := (verdictJson v base head).render 0 ++ "\n" }
  else { exitCode, err := Console.lines (verdictLines v) }

/-- What a survey prints. Its exit code tells whether an annotation is not in place or a file could
not be read. -/
def ofRegions (m : Markers) (r : Regions) (asJson : Bool) : Printed :=
  let exitCode :=
    if r.files.any (·.scan.isMalformed) || !r.errors.isEmpty then 1 else 0
  if asJson then { exitCode, out := (regionsJson m r).render 0 ++ "\n" }
  else { exitCode, err := Console.lines (regionsLines m r) }

end Report
end Lockstep
