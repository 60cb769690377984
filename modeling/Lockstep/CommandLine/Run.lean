import Lockstep.CommandLine.Request
import Lockstep.Report.Printed
import Lockstep.Settings.Sources

/-! What the commands do, once it is understood what they are asked for. -/
namespace Lockstep

structure Surroundings where
  files : FileTree
  git : List Text → CommandOutcome
  room : Room

inductive Failure where
  | usage
  /-- Nothing can be found out about the repository. -/
  | fatal (message : Text)
  /-- The path of the repository or of the settings has a null character. -/
  | nullCharacter
  /-- Settings cannot be loaded, for a reason other than a bad value. -/
  | loading (fault : SettingsFault)
  /-- A snapshot is neither usable nor plainly unavailable. -/
  | snapshot (fault : Fault)

/-- Failures that are foreseen leave the exit code two, and the others one. -/
def Failure.exitCode : Failure → Nat
  | .usage | .fatal _ => 2
  | .nullCharacter | .loading _ | .snapshot _ => 1

def Failure.message : Failure → Text
  | .usage => "Usage: cochange [OPTIONS] COMMAND [ARGS]...\n"
  | .fatal message => "Error: " ++ message ++ "\n"
  | .nullCharacter => "Error: a path has a null character\n"
  | .loading (.invalid e) => "Error: " ++ e.message ++ "\n"
  | .loading .integerTooLong => "Error: an integer has too many digits\n"
  | .loading .tooDeep => "Error: values are nested too deep\n"
  | .loading .undecodable | .snapshot .undecodable => "Error: not UTF-8\n"
  | .loading (.nameTooLong path) | .snapshot (.nameTooLong path) =>
    "Error: " ++ nameTooLongMessage path ++ "\n"
  | .snapshot .malformedListing => "Error: a listing is malformed\n"
  | .snapshot (.unencodable t) => "Error: " ++ unencodableMessage t ++ "\n"
  | .snapshot (.unavailable cause) => "Error: " ++ cause.message ++ "\n"

structure Progress where
  session : Session Recollection := { memory := {} }
  out : Text := []
  err : Text := []

abbrev Running := ExceptT Failure (StateM Progress)

namespace Running

variable {α : Type}

def print (out err : Text) : Running Unit :=
  modify fun p => { p with out := p.out ++ out, err := p.err ++ err }

def onSnapshots (advice : Text) (work : Access Recollection α) : Running α := do
  let p ← get
  let (outcome, session) := work.perform p.session
  set { p with session }
  match outcome with
  | .ok a => return a
  | .error (.unavailable cause) => throw (.fatal (cause.message ++ advice))
  | .error fault => throw (.snapshot fault)

def onSettings (work : Loading Settings) : Running Settings := do
  let (outcome, notes) := work.run.run []
  modify fun p => { p with session.journal := p.session.journal ++ notes }
  match outcome with
  | .ok s => return s
  | .error (.invalid e) => throw (.fatal ("Invalid configuration: " ++ e.message))
  | .error fault => throw (.loading fault)

end Running

namespace CommandLine
open Running

def findRoot (around : Surroundings) (repository : Option Text) : Running Location := do
  match repository with
  | some path => return around.files.resolved (.ofText path)
  | none =>
    let start : Location := { anchor := .root, names := around.files.start }
    let top ← onSnapshots ". Pass --repo /path/to/repo or run from inside a git work tree."
      (Repository.findTop around.git defaultLimit start)
    if FileTree.hasNull top.text then throw .nullCharacter
    return around.files.resolved top

def prepare (around : Surroundings) (root : Location) (named : Option Location) (values : Table) :
    Running (Repository × Settings) := do
  let settings ← onSettings (Settings.load around.room around.files (some root) named values)
  return ({ git := around.git, files := around.files, location := root }, settings)

def runCheck (around : Surroundings) (root : Location) (named : Option Location) (values : Table)
    (request : CheckRequest) : Running Nat := do
  let (repository, settings) ← prepare around root named values
  print [] (Report.announcement request.base request.head root.text)
  let verdict ← onSnapshots [] (check repository.source settings request.base request.head)
  let report := Report.ofVerdict verdict request.base request.head request.json
  print report.out report.err
  return report.exitCode

def runRegions (around : Surroundings) (root : Location) (named : Option Location) (values : Table)
    (request : RegionsRequest) : Running Nat := do
  let (repository, settings) ← prepare around root named values
  let found ← onSnapshots [] (survey repository.source settings request.ref)
  let report := Report.ofRegions settings.convention.markers
    (.ofSurvey settings request.ref request.paths found) request.json
  print report.out report.err
  return report.exitCode

end CommandLine
end Lockstep
