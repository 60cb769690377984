import Lockstep.Check

/-! The survey of one snapshot: its annotated regions, and for each file the regions that name
it. -/
namespace Lockstep

structure Survey where
  scans : List FileScan
  errors : List ReadError
  known : List Path

namespace Survey

variable {σ : Type}

/-- Scans one file after the other. A listed file without content is left out. -/
def scanAll (source : Source σ) (convention : Convention) (ref : Text) :
    List Path → Access σ (List FileScan × List ReadError)
  | [] => return ([], [])
  | path :: rest => do
    match ← source.read ref path with
    | .error e =>
      let (scans, errors) ← scanAll source convention ref rest
      return (scans, e :: errors)
    | .ok none => scanAll source convention ref rest
    | .ok (some content) =>
      let found ← Check.scan convention path content
      let (scans, errors) ← scanAll source convention ref rest
      return (found :: scans, errors)

def graph (settings : Settings) (s : Survey) : Graph :=
  Graph.ofScans (settings.resolver s.known) s.scans

end Survey

def survey {σ : Type} (source : Source σ) (settings : Settings) (ref : Text) : Access σ Survey := do
  let known := sortBy Text.le (distinct (← source.list ref))
  let (scans, errors) ← Survey.scanAll source settings.convention ref
    (known.filter fun p => !settings.excludes p)
  return { scans, errors, known }

end Lockstep
