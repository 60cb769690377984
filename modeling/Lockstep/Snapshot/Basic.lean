import Lockstep.Number.Shortest
import Lockstep.Text.Quoted
import Lockstep.Region

/-! Snapshots: states of a repository, each named by a reference. Two questions can be asked of
one, which files it has and what bytes a file holds, and a source answers them. An answer may change
what the source remembers, and everybody who works on snapshots may take notes. -/
namespace Lockstep

inductive Unavailable where
  | unknownSnapshot (ref : Text)
  | unknownRevision (ref : Text)
  | unlistedTree (ref reason : Text)
  | unlistedWorkTree (reason : Text)
  | timedOut (arguments : List Text) (limit : Binary64)
  | programMissing (program : Text)
  | noRepository (start reason : Text)
deriving DecidableEq

def Unavailable.message : Unavailable → Text
  | .unknownSnapshot ref => "unknown snapshot ref: " ++ ref.quoted
  | .unknownRevision ref => "unknown git revision: " ++ ref.quoted
  | .unlistedTree ref reason => "cannot list tree of " ++ ref ++ ": " ++ reason
  | .unlistedWorkTree reason => "cannot list working tree: " ++ reason
  | .timedOut arguments limit =>
    "git " ++ Text.joinWith " " arguments ++ " timed out after " ++ limit.text ++ "s"
  | .programMissing program => "git executable not found: " ++ program
  | .noRepository start reason => "not a git repository: " ++ start ++ " (" ++ reason ++ ")"

inductive Fault where
  | unavailable (cause : Unavailable)
  /-- Bytes that have to be UTF-8 are not. -/
  | undecodable
  /-- A listing has an entry that is not of the agreed form. -/
  | malformedListing
  /-- A file name, as the file system was given it, is longer than the system allows. -/
  | nameTooLong (path : Text)
  /-- A text that has to be written in UTF-8 has bytes that are no character. -/
  | unencodable (t : Text)
deriving DecidableEq

def nameTooLongMessage (path : Text) : Text := "[Errno 36] File name too long: " ++ path.quoted

def Glyph.isStray : Glyph → Bool
  | .char _ => false
  | .byte _ => true

def unencodableMessage (t : Text) : Text :=
  let first := (t.takeWhile fun g => !g.isStray).length
  let stray := (t.drop first).takeWhile Glyph.isStray
  let place : Text :=
    match stray with
    | [g] => "character " ++ Text.quoted [g] ++ " in position " ++ Text.ofNat first
    | _ => "characters in position " ++ Text.ofNat first ++ "-"
      ++ Text.ofNat (first + stray.length - 1)
  "'utf-8' codec can't encode " ++ place ++ ": surrogates not allowed"

structure ReadError where
  ref : Text
  path : Path
  reason : Text
deriving DecidableEq

def ReadError.message (e : ReadError) : Text :=
  "cannot read " ++ e.path ++ " at " ++ e.ref ++ ": " ++ e.reason

inductive Level where
  | debug
  | info
  | warning
deriving DecidableEq

/-- How much a level weighs: a journal read at one level shows this and all heavier ones. -/
def Level.weight : Level → Nat
  | .debug => 0
  | .info => 1
  | .warning => 2

inductive Note where
  | tableLoaded (path : Text)
  | fileLoaded (path : Text)
  | resolved (ref commit : Text)
  | binarySkipped (path : Path)
  | parsed (path : Path) (regions errors : Nat)
  | unreadable (e : ReadError)
  | scanning (files : Nat) (old new : Text)
  | oldMalformed (path : Path) (ref : Text) (errors : Nat)
  | countChanged (path : Path) (old new : Nat)
  | checked (regions changed edges findings : Nat)
deriving DecidableEq

namespace Note

def level : Note → Level
  | .unreadable _ => .warning
  | .scanning .. | .oldMalformed .. | .checked .. => .info
  | _ => .debug

def message : Note → Text
  | .tableLoaded path => "Loading [tool.cochange] from " ++ path
  | .fileLoaded path => "Loading " ++ path
  | .resolved ref commit => "Resolved " ++ ref ++ " to " ++ commit
  | .binarySkipped path => "Skipping binary file " ++ path
  | .parsed path regions errors =>
    "Parsed " ++ path ++ ": " ++ Text.ofNat regions ++ " region(s), " ++ Text.ofNat errors
      ++ " error(s)"
  | .unreadable e => e.message
  | .scanning files old new =>
    "Scanning " ++ Text.ofNat files ++ " file(s) between " ++ old ++ " and " ++ new
  | .oldMalformed path ref errors =>
    path ++ " is malformed in " ++ ref ++ " (" ++ Text.ofNat errors ++ " error(s))"
  | .countChanged path old new =>
    "Region count changed in " ++ path ++ " (" ++ Text.ofNat old ++ " -> " ++ Text.ofNat new
      ++ "); treating all regions as changed"
  | .checked regions changed edges findings =>
    Text.ofNat regions ++ " region(s), " ++ Text.ofNat changed ++ " changed, " ++ Text.ofNat edges
      ++ " edge(s) checked, " ++ Text.ofNat findings ++ " violation(s)"

end Note

structure Session (σ : Type) where
  memory : σ
  journal : List Note := []

/-- Work on snapshots. What is remembered and noted stays, also when the work ends in a fault. -/
abbrev Access (σ : Type) := ExceptT Fault (StateM (Session σ))

namespace Access

variable {σ α : Type}

def note (n : Note) : Access σ Unit := modify fun s => { s with journal := s.journal ++ [n] }

def perform (work : Access σ α) (s : Session σ) : Except Fault α × Session σ := work.run.run s

end Access

structure Source (σ : Type) where
  /-- The files of a snapshot; order and repetitions have no meaning. -/
  list : Text → Access σ (List Path)
  /-- The bytes of a file, or none if the snapshot has no such file. -/
  read : Text → Path → Access σ (Except ReadError (Option Bytes))

end Lockstep
