import Lockstep.Graph

/-! What a check reports. A finding belongs to the file that declares, at the lines of the region or
of the directive to mend, and names the file that is expected to change. -/
namespace Lockstep

inductive Reason where
  | targetUnchanged
  | targetMissing
  | malformed
  | unreadable
deriving DecidableEq

namespace Reason

def all : List Reason := [.targetUnchanged, .targetMissing, .malformed, .unreadable]

def name : Reason → String
  | .targetUnchanged => "TargetUnchanged"
  | .targetMissing => "TargetFileMissing"
  | .malformed => "MalformedAnnotation"
  | .unreadable => "SnapshotReadError"

/-- Position among the names of all reasons, alphabetically. -/
def rank : Reason → Nat
  | .malformed => 0
  | .unreadable => 1
  | .targetMissing => 2
  | .targetUnchanged => 3

end Reason

structure Finding where
  source : Path
  reason : Reason
  message : Text
  firstLine : Option Int := none
  lastLine : Option Int := none
  /-- The region's position in its file; none for findings about a whole file. -/
  regionIndex : Option Int := none
  target : Option Text := none
  targetIndex : Int := 0
deriving DecidableEq

namespace Finding

def place (f : Finding) : List Int := [f.firstLine.getD 0, f.targetIndex, f.reason.rank]

def le (a b : Finding) : Bool :=
  a.source.lt b.source || (a.source = b.source && lexLe a.place b.place)

def location (f : Finding) : Text :=
  match f.firstLine with
  | none => f.source
  | some first => lineRange f.source first f.lastLine

def text (f : Finding) : Text :=
  f.location ++ " - [" ++ f.reason.name ++ "] " ++ f.message

end Finding

structure Verdict where
  findings : List Finding
  filesScanned : Int := 0
  regionsFound : Int := 0
  regionsChanged : Int := 0
  edgesChecked : Int := 0
deriving DecidableEq

namespace Verdict

def count (v : Verdict) (reason : Reason) : Nat := v.findings.countP (·.reason = reason)

def hasFindings (v : Verdict) : Bool := !v.findings.isEmpty

end Verdict
end Lockstep
