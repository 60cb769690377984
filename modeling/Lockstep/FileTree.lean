import Lockstep.Location
import Lockstep.Text.Utf8

/-! File trees: files, directories and symbolic links, and how a path leads through them. A path is
followed name by name from a directory; a link on the way is replaced by the path it holds. -/
namespace Lockstep

inductive Node where
  | file (content : Bytes)
  | directory
  | link (target : Text)
deriving DecidableEq

structure FileTree where
  /-- The nodes below the root, each at its place: the names that lead there without links. -/
  nodes : List (List Text × Node) := []
  /-- The place at which relative paths start. -/
  start : List Text := []

inductive Destination where
  | found (place : List Text) (node : Node)
  | missing
  | nameTooLong
deriving DecidableEq

namespace FileTree

def node? (t : FileTree) (place : List Text) : Option Node :=
  if place = [] then some .directory else t.nodes.lookup place

def insertNew (t : FileTree) (place : List Text) (node : Node) : FileTree :=
  if (t.node? place).isSome then t else { t with nodes := t.nodes ++ [(place, node)] }

def insert (t : FileTree) (place : List Text) (node : Node) : FileTree :=
  let above := (List.range place.length).map fun length => place.take length
  (above.foldl (fun t p => t.insertNew p .directory) t).insertNew place node

def maxLinks : Nat := 40

def maxNameLength : Nat := 255

def maxPathLength : Nat := 4095

/-- The names of a path. A slash at its end asks for a directory, as a dot behind it would. -/
def steps (path : Text) : List Text :=
  (path.splitOn Path.slash).filter (· ≠ [])
    ++ if path.getLast? = some Path.slash then [Path.here] else []

def startOf (place : List Text) (path : Text) : List Text :=
  if Path.isAbsolute path then [] else place

/-- Follows steps from a place, through at most so many links. A link at the very end is followed
only on request. -/
def walk (t : FileTree) (followLast : Bool) (links : Nat) (place : List Text) :
    List Text → Destination
  | [] =>
    match t.node? place with
    | some node => .found place node
    | none => .missing
  | step :: rest =>
    if t.node? place ≠ some .directory then .missing
    else if step = Path.here then walk t followLast links place rest
    else if step = Path.parent then walk t followLast links place.dropLast rest
    else if maxNameLength < (Text.toUtf8 step).length then .nameTooLong
    else
      match t.node? (place ++ [step]) with
      | some (.link target) =>
        if rest = [] ∧ !followLast then .found (place ++ [step]) (.link target)
        else
          match links with
          | 0 => .missing
          | links + 1 => walk t followLast links (startOf place target) (steps target ++ rest)
      | some _ => walk t followLast links (place ++ [step]) rest
      | none => .missing
termination_by path => (links, path.length)

/-- Whether a path has a null character, at which the system would end it. -/
def hasNull (path : Text) : Bool := path.contains (.char '\x00')

def destination (t : FileTree) (followLast : Bool) (path : Text) : Destination :=
  if path = [] || hasNull path then .missing
  else if maxPathLength < (Text.toUtf8 path).length then .nameTooLong
  else t.walk followLast maxLinks (startOf t.start path) (steps path)

/-- Follows all links of a path. Behind a name that is not there, the path is taken as written. -/
def settle (t : FileTree) (links : Nat) (place : List Text) : List Text → List Text
  | [] => place
  | step :: rest =>
    if step = Path.here then settle t links place rest
    else if step = Path.parent then settle t links place.dropLast rest
    else
      match t.node? (place ++ [step]) with
      | some (.link target) =>
        match links with
        | 0 => settle t 0 (place ++ [step]) rest
        | links + 1 => settle t links (startOf place target) (steps target ++ rest)
      | _ => settle t links (place ++ [step]) rest
termination_by path => (links, path.length)

def resolved (t : FileTree) (l : Location) : Location :=
  { anchor := .root
    names := t.settle maxLinks (startOf t.start l.text) l.names }

def at? (t : FileTree) (followLast : Bool) (l : Location) : Option (Option Node) :=
  match t.destination followLast l.text with
  | .found _ node => some (some node)
  | .missing => some none
  | .nameTooLong => none

end FileTree
end Lockstep
