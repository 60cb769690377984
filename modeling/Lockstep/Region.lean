import Lockstep.Digest.Sha256
import Lockstep.Line

/-! What a scan finds in one file: regions, each with the targets it declares, and annotations that
are not in place. Lines count from one, and ranges of lines include both ends. Positions and lines
are integers, because a region that was not scanned here bears whatever numbers it was given. -/
namespace Lockstep

abbrev Path := Text

abbrev RegionKey := Path × Int

structure Region where
  file : Path
  index : Int
  firstLine : Int
  lastLine : Int
  targets : List Text
  /-- The line of each target. -/
  targetLines : List Int
  content : Bytes
deriving DecidableEq

namespace Region

def key (r : Region) : RegionKey := (r.file, r.index)

def digest (r : Region) : Digest := .ofBytes r.content

end Region

/-- A range of lines in a file; the last line is left out where it is the first. -/
def lineRange (file : Path) (first : Int) (last : Option Int) : Text :=
  file ++ ":" ++ Text.ofInt first ++
    match last with
    | none => []
    | some last => if last = first then [] else "-" ++ Text.ofInt last

def Region.location (r : Region) : Text := lineRange r.file r.firstLine (some r.lastLine)

inductive AnnotationFault where
  | declaredOutside
  | closedOutside
  | openedInside
  | closedBeforeDeclared
  | neverDeclared
  | emptyList
  | unclosedList
deriving DecidableEq

def AnnotationFault.message (m : Markers) : AnnotationFault → Text
  | .declaredOutside => m.declares ++ " must follow an " ++ m.opens
  | .closedOutside => m.closes ++ " must follow an " ++ m.opens ++ " and " ++ m.declares
  | .openedInside => m.opens ++ " nesting is not allowed"
  | .closedBeforeDeclared => m.closes ++ " must follow a " ++ m.declares
  | .neverDeclared => m.opens ++ " is never followed by " ++ m.declares
  | .emptyList => m.declares ++ " block declares no targets"
  | .unclosedList => m.declares ++ " block is not closed by " ++ m.closes

structure AnnotationError where
  line : Nat
  fault : AnnotationFault
deriving DecidableEq

structure FileScan where
  path : Path
  digest : Digest
  regions : List Region := []
  errors : List AnnotationError := []
deriving DecidableEq

def FileScan.isMalformed (s : FileScan) : Bool := !s.errors.isEmpty

end Lockstep
