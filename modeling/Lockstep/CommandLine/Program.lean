import Lockstep.CommandLine.Options
import Lockstep.CommandLine.Run

/-! A run of the command line. Arguments are understood before anything is read, except that the
repository is looked up between the options before a command's name and those behind it. -/
namespace Lockstep

structure Ending where
  printed : Printed
  journal : List Note
  failure : Option Failure

namespace CommandLine
open Running

def versionLine : Text := "cochange, version 0.1.0\n"

def orUsage {α : Type} : Option α → Running α
  | some a => return a
  | none => throw .usage

def dispatch (around : Surroundings) (g : GlobalOptions) (arguments : List Text) :
    Running Nat := do
  if g.version then
    print versionLine []
    return 0
  match g.fault? around.files with
  | some .unsuitable => throw .usage
  | some .nullCharacter => throw .nullCharacter
  | none => pure ()
  let named := g.config.map Location.ofText
  match arguments with
  | [] => throw .usage
  | name :: rest =>
    if name = "check" then
      let root ← findRoot around g.repository
      let (request, values) ← orUsage (CheckOptions.parse rest)
      runCheck around root named values request
    else if name = "regions" then
      let root ← findRoot around g.repository
      let (request, values) ← orUsage (RegionsOptions.parse rest)
      runRegions around root named values request
    else throw .usage

def run (around : Surroundings) (arguments : List Text) : Ending :=
  match GlobalOptions.table.parse arguments with
  | none => { printed := { exitCode := 2 }, journal := [], failure := some .usage }
  | some (options, rest) =>
    let g := options.foldl GlobalOptions.add {}
    let (outcome, p) := (dispatch around g rest).run.run {}
    let ended (exitCode : Nat) (failure : Option Failure) : Ending :=
      { printed := { exitCode, out := p.out, err := p.err }, failure
        journal := p.session.journal.filter fun n => g.level.weight ≤ n.level.weight }
    match outcome with
    | .ok exitCode => ended exitCode none
    | .error failure => ended failure.exitCode (some failure)

end CommandLine
end Lockstep
