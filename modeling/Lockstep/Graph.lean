import Lockstep.Path
import Lockstep.Sorting

/-! Who has to change with whom. Regions are the nodes and their declared targets the edges. Files
may name each other and themselves, and nothing here asks whether a target exists. Beside the
regions the graph keeps, for each path, the regions that have declared it. -/
namespace Lockstep

def Text.lt (a b : Text) : Bool := !b.le a

def RegionKey.le (a b : RegionKey) : Bool :=
  a.1.lt b.1 || (a.1 = b.1 && a.2 ≤ b.2)

structure Edge where
  source : Region
  target : Text
  targetIndex : Nat
  line : Int
deriving DecidableEq

abbrev Resolver := Region → Text → Path

structure Graph where
  /-- The stored regions, one for each key, in the order of their first arrival. -/
  regions : List Region := []
  /-- Each path with the keys that have declared it. -/
  declared : List (Path × RegionKey) := []

namespace Graph

def region? (g : Graph) (key : RegionKey) : Option Region := g.regions.find? (·.key = key)

def size (g : Graph) : Nat := g.regions.length

def store (regions : List Region) (r : Region) : List Region :=
  match regions with
  | [] => [r]
  | s :: rest => if s.key = r.key then r :: rest else s :: store rest r

/-- Adds a region and what its targets stand for. Earlier declarations under its key stay. -/
def addRegion (g : Graph) (resolver : Resolver) (r : Region) : Graph :=
  { regions := store g.regions r,
    declared := r.targets.foldl (fun declared target =>
      let entry := (resolver r target, r.key)
      if entry ∈ declared then declared else declared ++ [entry]) g.declared }

def ofScans (resolver : Resolver) (scans : List FileScan) : Graph :=
  (sortBy (fun a b => a.path.le b.path) scans).foldl
    (fun g scan => scan.regions.foldl (addRegion · resolver) g) {}

def targetsOf (g : Graph) (key : RegionKey) : List Text :=
  ((g.region? key).map Region.targets).getD []

def dependentsOf (g : Graph) (path : Path) : List Region :=
  let keys := (g.declared.filter (·.1 = path)).map Prod.snd
  (sortBy RegionKey.le keys).filterMap g.region?

def sortedRegions (g : Graph) : List Region :=
  sortBy (fun a b => RegionKey.le a.key b.key) g.regions

def regionsIn (g : Graph) (path : Path) : List Region :=
  g.sortedRegions.filter (·.file = path)

/-- The edges of one region. A target without a line of its own counts to the region's last. -/
def edgesOf (r : Region) : List Edge :=
  r.targets.mapIdx fun i target =>
    { source := r, target, targetIndex := i, line := r.targetLines.getD i r.lastLine }

def edges (g : Graph) : List Edge := g.sortedRegions.flatMap edgesOf

def reverse (g : Graph) : List (Path × List RegionKey) :=
  (distinct (g.declared.map Prod.fst)).map fun path =>
    (path, sortBy RegionKey.le ((g.declared.filter (·.1 = path)).map Prod.snd))

end Graph
end Lockstep
