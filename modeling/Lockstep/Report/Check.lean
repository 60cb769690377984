import Lockstep.Finding
import Lockstep.Report.Json

/-! What the report of a check says. For a reader the findings stand under their reasons; the JSON
form has the same findings in order, with all counts. -/
namespace Lockstep

def Reason.title : Reason → Text
  | .targetUnchanged => "Declared targets left unchanged"
  | .targetMissing => "Declared targets that do not exist"
  | .malformed => "Malformed annotations"
  | .unreadable => "Unreadable files"

namespace Report

def findingJson (f : Finding) : Json :=
  .object [("source_file", .text f.source), ("region_index", .ofOption .number f.regionIndex),
    ("start_line", .ofOption .number f.firstLine), ("end_line", .ofOption .number f.lastLine),
    ("target_file", .ofOption .text f.target), ("reason", .text f.reason.name),
    ("message", .text f.message)]

def verdictJson (v : Verdict) (base head : Text) : Json :=
  .object [("base", .text base), ("head", .text head),
    ("violations", .list (v.findings.map findingJson)),
    ("counts", .object (Reason.all.map fun r => ((r.name : Text), .number (v.count r)))),
    ("summary", .object [("files_scanned", .number v.filesScanned),
      ("regions_found", .number v.regionsFound), ("regions_changed", .number v.regionsChanged),
      ("edges_checked", .number v.edgesChecked), ("violations", .number v.findings.length)])]

def reasonLines (v : Verdict) (reason : Reason) : List Text :=
  let found := v.findings.filter (·.reason = reason)
  if found.isEmpty then []
  else
    let heading : Text := "✗ " ++ reason.title ++ " (" ++ Text.ofNat found.length ++ ")"
    [] :: heading :: found.map fun f => "  " ++ f.location ++ " - " ++ f.message

def conclusion (v : Verdict) : Text :=
  if v.hasFindings then "❌ " ++ Text.ofNat v.findings.length ++ " violation(s)"
  else "✅ All declared co-changes are satisfied"

end Report
end Lockstep
