import Lockstep.CommandLine.Run

/-! Surroundings written down as a document: the directory that a run starts in, the files below it,
what git answered, and how deep calls could be nested. A run on a recording can be repeated
anywhere. -/
namespace Lockstep

namespace Value

def textOr (default : Text) : Option Value → Text
  | some (.text t) => t
  | _ => default

def itemsOr : Option Value → List Value
  | some (.list items) => items
  | _ => []

def integerOr (default : Int) : Option Value → Int
  | some (.integer n) => n
  | _ => default

end Value

namespace Surroundings

structure Recorded where
  arguments : List Text
  outcome : CommandOutcome

def Recorded.ofTable (t : Table) : Recorded :=
  let arguments := (Value.itemsOr (t.get? "args")).map fun v => Value.textOr [] (some v)
  let outcome : CommandOutcome :=
    match t.get? "fails" with
    | none => .finished
        { code := Value.integerOr 0 (t.get? "code")
          out := (Value.textOr [] (t.get? "out")).toUtf8
          err := (Value.textOr [] (t.get? "err")).toUtf8 }
    | some (.text reason) => if reason = "missing" then .programMissing else .timedOut
    | some _ => .timedOut
  { arguments, outcome }

def answer (recorded : List Recorded) (arguments : List Text) : CommandOutcome :=
  match recorded.find? (·.arguments = arguments) with
  | some r => r.outcome
  | none => .finished { code := 128, out := [], err := Text.toUtf8 "fatal: not recorded\n" }

def filesOf (start : List Text) (files links : Table) : FileTree :=
  let empty : FileTree := ({ start } : FileTree).insert start .directory
  let withFiles := files.foldl (fun (t : FileTree) (path, v) =>
    t.insert (start ++ Path.components path) (.file (Value.textOr [] (some v)).toUtf8)) empty
  links.foldl (fun (t : FileTree) (path, v) =>
    t.insert (start ++ Path.components path) (.link (Value.textOr [] (some v)))) withFiles

def ofTable (t : Table) : Surroundings :=
  let start := Path.components (Value.textOr [] (t.get? "directory"))
  let recorded := (Value.itemsOr (t.get? "git")).map fun v => Recorded.ofTable v.asTable
  { files := filesOf start (Settings.subtable t "files") (Settings.subtable t "links")
    git := answer recorded
    room :=
      { reading := (Value.integerOr 900 (t.get? "reading")).toNat
        showing := (Value.integerOr 900 (t.get? "showing")).toNat } }

end Surroundings
end Lockstep
