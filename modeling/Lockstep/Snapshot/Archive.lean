import Lockstep.Snapshot.Basic

/-! Snapshots held in memory. The content of a file is given as bytes or as a text. A listed file
may be one that cannot be read, or one without content. -/
namespace Lockstep

inductive Stored where
  | content (bytes : Bytes)
  | text (t : Text)
  | unreadable (reason : Text)
  | empty
deriving DecidableEq

structure Archive where
  snapshots : List (Text × List (Path × Stored)) := []

namespace Archive

def add (a : Archive) (ref : Text) (files : List (Path × Stored)) : Archive :=
  { snapshots := (ref, files) :: a.snapshots.filter (·.1 ≠ ref) }

def snapshot? (a : Archive) (ref : Text) : Option (List (Path × Stored)) := a.snapshots.lookup ref

/-- What reading a file gives. A text without bytes is refused. -/
def read? (ref : Text) (path : Path) : Stored → Except Fault (Except ReadError (Option Bytes))
  | .content bytes => .ok (.ok (some bytes))
  | .text t =>
    match t.encode? with
    | some bytes => .ok (.ok (some bytes))
    | none => .error (.unencodable t)
  | .unreadable reason => .ok (.error { ref, path, reason })
  | .empty => .ok (.ok none)

variable {σ : Type}

def find (a : Archive) (ref : Text) : Access σ (List (Path × Stored)) :=
  match a.snapshot? ref with
  | some files => pure files
  | none => throw (.unavailable (.unknownSnapshot ref))

def source (a : Archive) : Source Unit where
  list ref := return (← a.find ref).map Prod.fst
  read ref path := do
    match (← a.find ref).lookup path with
    | none => return .ok none
    | some stored => read? ref path stored

end Archive
end Lockstep
