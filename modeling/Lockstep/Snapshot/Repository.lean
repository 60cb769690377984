import Lockstep.FileTree
import Lockstep.Snapshot.Basic
import Lockstep.Text.Class

/-! Snapshots of a git repository. Commits are read through git's own commands, and the work tree
from the file system. Which commit a reference means is asked once, and so is the listing of a
commit, so that a repository appears as it was at its first use. -/
namespace Lockstep

/-- The reference that stands for the files on disk. -/
def workTree : Text := "WORKTREE"

structure CommandResult where
  code : Int
  out : Bytes
  err : Bytes
deriving DecidableEq

def CommandResult.complaint (r : CommandResult) : Text := (Text.ofUtf8Lossy r.err).strip

inductive CommandOutcome where
  | finished (result : CommandResult)
  | timedOut
  | programMissing
deriving DecidableEq

def defaultLimit : Binary64 := .ofDecimal false 60 0

structure Repository where
  /-- What git does with its arguments. -/
  git : List Text → CommandOutcome
  files : FileTree
  location : Location
  program : Text := "git"
  /-- How many seconds a command may take. -/
  limit : Binary64 := defaultLimit

structure Recollection where
  /-- The commits of references. -/
  commits : List (Text × Text) := []
  /-- The listings of commits. -/
  trees : List (Text × List Path) := []
  /-- The commands that were run, each behind the program's name. -/
  calls : List (List Text) := []

namespace Repository

def run (git : List Text → CommandOutcome) (program : Text) (limit : Binary64)
    (arguments : List Text) : Access Recollection CommandResult := do
  modify fun s => { s with memory.calls := s.memory.calls ++ [program :: arguments] }
  match git arguments with
  | .finished result => return result
  | .timedOut => throw (.unavailable (.timedOut arguments limit))
  | .programMissing => throw (.unavailable (.programMissing program))

def runGit (r : Repository) (arguments : List Text) : Access Recollection CommandResult :=
  run r.git r.program r.limit arguments

def decoded (bytes : Bytes) : Access Recollection Text :=
  match Text.ofUtf8? bytes with
  | some cs => return (Text.ofChars cs).strip
  | none => throw .undecodable

/-- The commit that a reference means. The work tree is not a commit and stands for itself. -/
def resolve (r : Repository) (ref : Text) : Access Recollection Text := do
  if ref = workTree then return ref
  match (← get).memory.commits.lookup ref with
  | some commit => return commit
  | none =>
    let result ← r.runGit ["rev-parse", "--verify", "--quiet", ref ++ "^\x7bcommit\x7d"]
    if result.code ≠ 0 then throw (.unavailable (.unknownRevision ref))
    let commit ← decoded result.out
    modify fun s => { s with memory.commits := (ref, commit) :: s.memory.commits }
    Access.note (.resolved ref commit)
    return commit

/-- The path of one entry of a listing, unless the entry is not a file. An entry is a mode, a type
and an identifier, then a tab, then the path. -/
def entryPath? (entry : Bytes) : Except Fault (Option Path) :=
  match Text.ofUtf8? (entry.takeWhile (· ≠ 9)) with
  | none => .error .undecodable
  | some description =>
    match (Text.ofChars description).words with
    | [_, kind, _] =>
      .ok (if kind = "blob" then some (Text.ofUtf8 ((entry.dropWhile (· ≠ 9)).drop 1)) else none)
    | _ => .error .malformedListing

def nullSeparated (bytes : Bytes) : List Bytes := (bytes.splitOn 0).filter (· ≠ [])

def listedPaths (listing : Bytes) : Except Fault (List Path) :=
  return ((← (nullSeparated listing).mapM entryPath?).filterMap id)

def tree (r : Repository) (ref : Text) : Access Recollection (List Path) := do
  let commit ← r.resolve ref
  match (← get).memory.trees.lookup commit with
  | some paths => return paths
  | none =>
    let result ← r.runGit ["ls-tree", "-r", "-z", "--full-tree", commit]
    if result.code ≠ 0 then throw (.unavailable (.unlistedTree ref result.complaint))
    let paths ← listedPaths result.out
    modify fun s => { s with memory.trees := (commit, paths) :: s.memory.trees }
    return paths

def locate (r : Repository) (path : Path) : Location := r.location.join (.ofText path)

def isOnDisk (r : Repository) (path : Path) : Except Fault Bool :=
  let l := r.locate path
  match r.files.at? true l with
  | none => .error (.nameTooLong l.text)
  | some (some (.file _)) => .ok true
  | some _ =>
    match r.files.at? false l with
    | none => .error (.nameTooLong l.text)
    | some (some (.link _)) => .ok true
    | some _ => .ok false

/-- The files of the work tree: those that git knows or would add, as far as they are on disk. -/
def listWorkTree (r : Repository) : Access Recollection (List Path) := do
  let result ← r.runGit ["ls-files", "-z", "--cached", "--others", "--exclude-standard"]
  if result.code ≠ 0 then throw (.unavailable (.unlistedWorkTree result.complaint))
  ((nullSeparated result.out).map Text.ofUtf8).filterM fun path => r.isOnDisk path

/-- The bytes of a file on disk. A link reads as the path that it holds. -/
def readWorkTree (r : Repository) (path : Path) : Except ReadError (Option Bytes) :=
  let l := r.locate path
  let tooLong : ReadError := { ref := workTree, path, reason := nameTooLongMessage l.text }
  match r.files.at? false l with
  | none => .error tooLong
  | some (some (.link target)) => .ok (some target.toUtf8)
  | some _ =>
    match r.files.at? true l with
    | none => .error tooLong
    | some (some (.file content)) => .ok (some content)
    | some _ => .ok none

def list (r : Repository) (ref : Text) : Access Recollection (List Path) :=
  if ref = workTree then r.listWorkTree else r.tree ref

/-- The bytes of a file. Those of a commit pass through the filters of a checkout, so that they can
be compared with the work tree. -/
def read (r : Repository) (ref : Text) (path : Path) :
    Access Recollection (Except ReadError (Option Bytes)) := do
  if ref = workTree then return r.readWorkTree path
  if !(← r.tree ref).contains path then return .ok none
  let commit ← r.resolve ref
  let result ← r.runGit ["cat-file", "--filters", commit ++ ":" ++ path]
  if result.code ≠ 0 then return .error { ref, path, reason := result.complaint }
  return .ok (some result.out)

def source (r : Repository) : Source Recollection where
  list := r.list
  read := r.read

def findTop (git : List Text → CommandOutcome) (limit : Binary64) (start : Location) :
    Access Recollection Location := do
  let result ← run git "git" limit ["rev-parse", "--show-toplevel"]
  if result.code ≠ 0 then
    throw (.unavailable (.noRepository start.text result.complaint))
  return .ofText (← decoded result.out)

end Repository
end Lockstep
