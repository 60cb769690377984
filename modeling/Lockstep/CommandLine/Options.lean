import Lockstep.CommandLine.Arguments
import Lockstep.CommandLine.Request
import Lockstep.FileTree
import Lockstep.Settings.Basic
import Lockstep.Text.Numeral

/-! The options of the command line, and what a list of them asks for. Of an option that is given
more than once the last value counts, unless its values add up. -/
namespace Lockstep

inductive GlobalOption where
  | version
  | verbose
  | repository (path : Text)
  | config (path : Text)

structure GlobalOptions where
  version : Bool := false
  verbosity : Nat := 0
  repository : Option Text := none
  config : Option Text := none
  /-- Whether the settings file is named before any repository is. -/
  configFirst : Bool := false

inductive PathFault where
  | unsuitable
  | nullCharacter
deriving DecidableEq

namespace GlobalOptions

def table : OptionTable GlobalOption where
  flags := [("--version", .version), ("--verbose", .verbose), ("-v", .verbose)]
  valued := [("--repo", .repository), ("-r", .repository), ("--config", .config)]
  interspersed := false

def add (g : GlobalOptions) : GlobalOption → GlobalOptions
  | .version => { g with version := true }
  | .verbose => { g with verbosity := g.verbosity + 1 }
  | .repository path => { g with repository := some path }
  | .config path =>
    { g with config := some path, configFirst := g.configFirst || g.repository.isNone }

def pathFault? (files : FileTree) (suits : Node → Bool) (path : Text) : Option PathFault :=
  if FileTree.hasNull path then some .nullCharacter
  else
    match files.destination true path with
    | .found _ node => if suits node then none else some .unsuitable
    | _ => some .unsuitable

/-- What is wrong with the first path that is wrong. The repository has to be there and be no file,
and the settings file has to be there and be no directory. -/
def fault? (files : FileTree) (g : GlobalOptions) : Option PathFault :=
  let repository := g.repository.bind <| pathFault? files fun
    | .file _ => false
    | _ => true
  let config := g.config.bind <| pathFault? files fun node => node ≠ .directory
  if g.configFirst then config <|> repository else repository <|> config

def level (g : GlobalOptions) : Level :=
  match g.verbosity with
  | 0 => .warning
  | 1 => .info
  | _ => .debug

end GlobalOptions

inductive CheckOption where
  | base (ref : Text)
  | head (ref : Text)
  | json
  | implicitClose (on : Bool)
  | matching (name : Text)
  | resolution (name : Text)
  | workers (count : Text)
  | exclude (pattern : Text)

structure CheckOptions where
  request : CheckRequest := {}
  implicitClose : Option Bool := none
  matching : Option Text := none
  resolution : Option Text := none
  workers : Option Text := none
  exclude : List Text := []

namespace CheckOptions

def table : OptionTable CheckOption where
  flags := [("--json", .json), ("--implicit-close", .implicitClose true),
    ("--strict-close", .implicitClose false)]
  valued := [("--base", .base), ("--head", .head), ("--matching", .matching),
    ("--resolve", .resolution), ("--workers", .workers), ("--exclude", .exclude)]
  interspersed := true

def add (o : CheckOptions) : CheckOption → CheckOptions
  | .base ref => { o with request.base := ref }
  | .head ref => { o with request.head := ref }
  | .json => { o with request.json := true }
  | .implicitClose on => { o with implicitClose := some on }
  | .matching name => { o with matching := some name }
  | .resolution name => { o with resolution := some name }
  | .workers count => { o with workers := some count }
  | .exclude pattern => { o with exclude := o.exclude ++ [pattern] }

def workers? (count : Text) : Option Int := count.integer?.filter (1 ≤ ·)

def values? (o : CheckOptions) : Option Table := do
  guard (o.matching.all fun name => (Matching.ofName? name).isSome)
  guard (o.resolution.all fun name => (Resolution.ofName? name).isSome)
  let workers ← o.workers.mapM workers?
  return [("implicit_close", .ofOption .bool o.implicitClose),
    ("matching", .ofOption .text o.matching), ("resolve", .ofOption .text o.resolution),
    ("workers", .ofOption .integer workers),
    ("exclude", if o.exclude = [] then .absent else .list (o.exclude.map .text))]

def parse (arguments : List Text) : Option (CheckRequest × Table) :=
  match table.parse arguments with
  | some (options, []) =>
    let o := options.foldl add {}
    o.values?.map fun values => (o.request, values)
  | _ => none

end CheckOptions

inductive RegionsOption where
  | ref (ref : Text)
  | json
  | implicitClose (on : Bool)

structure RegionsOptions where
  request : RegionsRequest
  implicitClose : Option Bool := none

namespace RegionsOptions

def table : OptionTable RegionsOption where
  flags := [("--json", .json), ("--implicit-close", .implicitClose true),
    ("--strict-close", .implicitClose false)]
  valued := [("--ref", .ref)]
  interspersed := true

def add (o : RegionsOptions) : RegionsOption → RegionsOptions
  | .ref ref => { o with request.ref := ref }
  | .json => { o with request.json := true }
  | .implicitClose on => { o with implicitClose := some on }

def parse (arguments : List Text) : Option (RegionsRequest × Table) :=
  (table.parse arguments).map fun (options, paths) =>
    let o := options.foldl add { request := { paths } }
    (o.request, [("implicit_close", .ofOption .bool o.implicitClose)])

end RegionsOptions
end Lockstep
