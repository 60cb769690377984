import Lockstep.Region

/-! Paths as targets name them, and what they name in the repository. A target may start at the
repository's root or at the directory of the file that declares it, and may climb with `..` as long
as it stays inside the repository. -/
namespace Lockstep

/-- Where a target starts. With `auto` the root comes first, and the declaring file's directory is
tried where the root gives no known file. -/
inductive Resolution where
  | auto
  | root
  | file
deriving DecidableEq, Inhabited

namespace Path

abbrev slash : Glyph := .char '/'

def here : Text := "."

def parent : Text := ".."

def isAbsolute (p : Path) : Bool := p.head? = some slash

def components (p : Path) : List Text := (p.splitOn slash).filter fun c => c ≠ [] && c ≠ here

/-- Adds a component below the last one, which stands first. Climbing takes away the last name;
where there is none to take, it is remembered. -/
def descend (above : List Text) (c : Text) : List Text :=
  if c = parent then
    match above with
    | [] => [c]
    | top :: rest => if top = parent then c :: above else rest
  else c :: above

def collapse (cs : List Text) : List Text := (cs.foldl descend []).reverse

def normalize? (p : Path) : Option Path :=
  let p := p.strip
  if p.isEmpty || isAbsolute p then none
  else match collapse (components p) with
    | [] => none
    | first :: rest => if first = parent then none else some (Text.joinWith [slash] (first :: rest))

/-- What stands before the last name. Slashes at its end are dropped unless it has nothing else. -/
def directory (p : Path) : Path :=
  let head := (p.reverse.dropWhile (· ≠ slash)).reverse
  if head.all (· = slash) then head else Text.trimEnd (· = slash) head

def join (base p : Path) : Path :=
  if isAbsolute p then p
  else if base.isEmpty || base.getLast? = some slash then base ++ p
  else base ++ [slash] ++ p

def resolve (mode : Resolution) (known : Path → Bool) (source : Path) (target : Text) :
    Option Path :=
  let fromRoot := normalize? target
  let fromFile := normalize? (join (directory source) target)
  match mode with
  | .root => fromRoot
  | .file => fromFile
  | .auto =>
    if fromRoot.any known then fromRoot
    else if fromFile.any known then fromFile
    else fromRoot.or fromFile

end Path
end Lockstep
