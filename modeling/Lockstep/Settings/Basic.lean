import Lockstep.Alignment
import Lockstep.Path
import Lockstep.Value

/-! Settings of a check, and what can be wrong with values given for them. The modes are types of
their own and the count of workers is positive by its proof, so that settings, once made, are
valid. -/
namespace Lockstep

structure Settings where
  convention : Convention := {}
  resolution : Resolution := .auto
  matching : Matching := .position
  /-- How many files may be scanned at once. The findings do not depend on it. -/
  workers : Nat := 1
  /-- Patterns of files that are not scanned for annotations. -/
  exclude : List Text := []
  workers_pos : 0 < workers := by exact Nat.one_pos
deriving DecidableEq

instance : Inhabited Settings := ⟨{}⟩

inductive SettingsError where
  | markers (e : MarkersError)
  | unknownResolution (given : Text)
  | unknownMatching (given : Text)
  | workersNotPositive (given : Int)
  | notBoolean (key : Text) (given : Value)
  | notText (key : Text) (given : Value)
  | notInteger (key : Text) (given : Value)
  | notPatterns (given : Value)
  | fileMissing (path : Text)
  | invalidDocument (path : Text)

def Resolution.names : List (Text × Resolution) :=
  [("auto", .auto), ("root", .root), ("file", .file)]

def Matching.names : List (Text × Matching) := [("position", .position), ("sequence", .sequence)]

def Resolution.ofName? (name : Text) : Option Resolution := names.lookup name

def Matching.ofName? (name : Text) : Option Matching := names.lookup name

def Resolution.name : Resolution → Text
  | .auto => "auto"
  | .root => "root"
  | .file => "file"

def Matching.name : Matching → Text
  | .position => "position"
  | .sequence => "sequence"

def nameList {α : Type} (names : List (Text × α)) : Text :=
  Text.joinWith ", " (names.map Prod.fst)

def SettingsError.message : SettingsError → Text
  | .markers e => e.message
  | .unknownResolution given =>
    "resolve must be one of " ++ nameList Resolution.names ++ ", got " ++ given.quoted
  | .unknownMatching given =>
    "matching must be one of " ++ nameList Matching.names ++ ", got " ++ given.quoted
  | .workersNotPositive given => "workers must be a positive integer, got " ++ Text.ofInt given
  | .notBoolean key given => key ++ " must be a boolean, got " ++ given.shown
  | .notText key given => key ++ " must be a non-empty string, got " ++ given.shown
  | .notInteger key given => key ++ " must be an integer, got " ++ given.shown
  | .notPatterns given => "exclude must be a list of glob strings, got " ++ given.shown
  | .fileMissing path => "config file not found: " ++ path
  | .invalidDocument path => path ++ ": invalid TOML"

namespace Settings

/-- Settings before the modes are looked up and the count is checked. -/
structure Draft where
  convention : Convention := {}
  resolution : Text := "auto"
  matching : Text := "position"
  workers : Int := 1
  exclude : List Text := []

def draft (s : Settings) : Draft :=
  { convention := s.convention, resolution := s.resolution.name, matching := s.matching.name,
    workers := s.workers, exclude := s.exclude }

/-- Makes settings of a draft. Of several mistakes the first in the order of the fields counts. -/
def ofDraft (d : Draft) : Except SettingsError Settings :=
  match Resolution.ofName? d.resolution with
  | none => .error (.unknownResolution d.resolution)
  | some resolution =>
    match Matching.ofName? d.matching with
    | none => .error (.unknownMatching d.matching)
    | some matching =>
      if positive : 0 < d.workers.toNat then
        .ok { convention := d.convention, resolution, matching, workers := d.workers.toNat,
              exclude := d.exclude, workers_pos := positive }
      else .error (.workersNotPositive d.workers)

theorem ofDraft_draft (s : Settings) : ofDraft s.draft = .ok s := by
  have resolution (r : Resolution) : Resolution.ofName? r.name = some r := by
    cases r <;> decide
  have matching (m : Matching) : Matching.ofName? m.name = some m := by
    cases m <;> decide
  simp [ofDraft, draft, resolution, matching, s.workers_pos]

end Settings
end Lockstep
