import Lockstep.Proofs.Outcomes
import Lockstep.Proofs.Unchanged
import Lockstep.Report.Printed

/-! That a check and a survey agree about a snapshot. A check goes over the files of two snapshots
and a survey over those of one. But a file that only the old snapshot lists has no new version, and
what a file has to report on its own account is all in its new version. -/
namespace Lockstep

abbrev Complaint := Path × Option Int × Text

def Finding.complaint (f : Finding) : Complaint := (f.source, f.firstLine, f.message)

namespace Snapshot

variable (s : Snapshot) (settings : Settings)

def surveyed : List Path :=
  (sortBy Text.le (distinct s.files)).filter fun p => !settings.excludes p

/-- The scan of a file; none where it cannot be read or has no content. -/
def scan? (convention : Convention) (path : Path) : Option FileScan :=
  match s.read path with
  | .error _ => none
  | .ok content => content.map (FileScan.ofContent convention path)

def readError? (path : Path) : Option ReadError :=
  match s.read path with
  | .error e => some e
  | .ok _ => none

def survey : Survey where
  scans := (s.surveyed settings).filterMap (s.scan? settings.convention)
  errors := (s.surveyed settings).filterMap s.readError?
  known := sortBy Text.le (distinct s.files)

def Readable : Prop := ∀ path, settings.excludes path = false → ∃ content, s.read path = .ok content

variable {s settings}

end Snapshot

section

variable {σ : Type} {source : Source σ} {inv : σ → Prop} {mayFail : Prop} {ref : Text}
  {s : Snapshot} {settings : Settings}

end

namespace Change

variable {c : Change} {settings : Settings}

theorem mem_scanned {path : Path} :
    path ∈ c.scanned settings ↔ path ∈ c.known ∧ settings.excludes path = false := by
  simp [scanned]

section

variable {path : Path} {before : Option Bytes} (readOld : c.old.read path = .ok before)

include readOld

end

section

variable (readableOld : c.old.Readable settings) (readableNew : c.new.Readable settings)
  (unlisted : ∀ path, path ∉ c.new.files → c.new.read path = .ok none)

include readableOld unlisted

include readableNew

end
end Change

namespace Archive

variable {ref : Text} {files : List (Path × Stored)} {settings : Settings}

def Readable (settings : Settings) (files : List (Path × Stored)) : Prop :=
  ∀ path, settings.excludes path = false →
    ∀ reason, files.lookup path ≠ some (.unreadable reason)

theorem Readable.snapshotOf (h : Readable settings files) :
    (snapshotOf ref files).Readable settings := by
  intro path included
  simp only [Archive.snapshotOf]
  cases found : files.lookup path with
  | none => exact ⟨none, rfl⟩
  | some stored =>
    cases stored with
    | content bytes => exact ⟨some bytes, rfl⟩
    | text t => exact ⟨some t.toUtf8, rfl⟩
    | unreadable reason => exact absurd found (h path included reason)
    | empty => exact ⟨none, rfl⟩

end Archive

end Lockstep
