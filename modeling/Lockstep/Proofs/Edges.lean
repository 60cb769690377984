import Lockstep.Proofs.Dependents

/-! The edges of the graph of some scans. They come in the order of files, of regions in a file, and
of targets in a region, so that no two of them take one place. What order the scans are given in is
forgotten, as long as no two are of one file. -/
namespace Lockstep

theorem RegionKey.Precedes.ne {a b : RegionKey} (h : a.Precedes b) : a ≠ b := by
  rintro rfl
  rcases h with file | ⟨-, index⟩
  · exact Text.lt_iff.mp file (Text.le_of_lt file)
  · exact Int.lt_irrefl _ index

theorem FileScan.AreOfContents.wellPlaced {scans : List FileScan} (read : AreOfContents scans)
    {scan : FileScan} (mem : scan ∈ scans) {index : Nat} {r : Region}
    (located : scan.regions[index]? = some r) : ∃ lines, r.WellPlaced scan.path lines index := by
  obtain ⟨convention, content, same⟩ := read scan mem
  refine ⟨_, (regions_wellPlaced convention scan.path content).1 index r ?_⟩
  rw [← same]
  exact located

namespace Edge

def place (e : Edge) : RegionKey × Nat := (e.source.key, e.targetIndex)

def Precedes (a b : Edge) : Prop :=
  a.source.key.Precedes b.source.key ∨ a.source.key = b.source.key ∧ a.targetIndex < b.targetIndex

theorem Precedes.place_ne {a b : Edge} (h : a.Precedes b) : a.place ≠ b.place := by
  intro same
  obtain ⟨key, index⟩ := Prod.mk.inj same
  rcases h with before | ⟨-, before⟩
  · exact before.ne key
  · exact Nat.ne_of_lt before index

end Edge

namespace Graph

section Region

variable {r : Region} {e : Edge}

theorem targetIndex_lt_of_mem_edgesOf (h : e ∈ edgesOf r) : e.targetIndex < r.targets.length := by
  unfold edgesOf at h
  obtain ⟨place, inside, rfl⟩ := List.mem_mapIdx.mp h
  exact inside

theorem mem_edgesOf_of_getElem? {place : Nat} {target : Text} {line : Int}
    (named : r.targets[place]? = some target) (stands : r.targetLines[place]? = some line) :
    { source := r, target, targetIndex := place, line } ∈ edgesOf r := by
  apply List.mem_of_getElem? (i := place)
  rw [edgesOf, List.getElem?_mapIdx, named, Option.map_some, List.getD_eq_getElem?_getD, stands,
    Option.getD_some]

theorem pairwise_edgesOf (r : Region) : (edgesOf r).Pairwise Edge.Precedes := by
  rw [edgesOf, List.pairwise_iff_getElem]
  intro i j hi hj less
  rw [List.getElem_mapIdx, List.getElem_mapIdx]
  exact .inr ⟨rfl, less⟩

end Region

section Order

variable {g : Graph} (nodup : (g.regions.map Region.key).Nodup)

include nodup

theorem pairwise_edges : g.edges.Pairwise Edge.Precedes := by
  refine List.pairwise_flatMap.mpr ⟨fun r _ => pairwise_edgesOf r, ?_⟩
  refine (RegionKey.pairwise_precedes_sortBy Region.key nodup).imp ?_
  intro r s before a ofR b ofS
  left
  rw [source_of_mem_edgesOf ofR, source_of_mem_edgesOf ofS]
  exact before

theorem filter_place_eq {e : Edge} (mem : e ∈ g.edges) :
    g.edges.filter (fun d => d.place = e.place) = [e] := by
  have places : (g.edges.map Edge.place).Nodup := by
    rw [List.nodup_iff_pairwise_ne, List.pairwise_map]
    exact (pairwise_edges nodup).imp fun before => before.place_ne
  simpa using filter_key_mem (List.singleton_sublist.mpr mem) places

end Order

variable {resolver : Resolver} {scans other : List FileScan}

theorem ofScans_of_perm (apart : (scans.map FileScan.path).Nodup) (perm : other.Perm scans) :
    ofScans resolver other = ofScans resolver scans := by
  let le (a b : FileScan) : Bool := a.path.le b.path
  have ordered (files : List FileScan) : (sortBy le files).Pairwise fun a b => le a b = true :=
    @pairwise_sortBy FileScan le (fun _ _ => Text.le_total _ _) (fun _ _ _ => Text.le_trans) files
  have sorted : sortBy le other = sortBy le scans := by
    have arranged := (perm_sortBy le other).trans (perm.trans (perm_sortBy le scans).symm)
    refine arranged.eq_of_pairwise ?_ (ordered other) (ordered scans)
    intro a b ha hb forth back
    exact List.inj_on_of_nodup_map apart (perm.subset (mem_sortBy.mp ha)) (mem_sortBy.mp hb)
      (Text.le_antisymm forth back)
  exact congrArg (List.foldl _ _) sorted

section

variable (nodup : ((scans.flatMap FileScan.regions).map Region.key).Nodup)

include nodup

theorem mem_edges_ofScans {e : Edge} :
    e ∈ (ofScans resolver scans).edges ↔
      ∃ scan ∈ scans, e.source ∈ scan.regions ∧ e ∈ edgesOf e.source := by
  rw [(edges_ofScans nodup).mem_iff, List.mem_flatMap]
  constructor
  · rintro ⟨r, stored, own⟩
    obtain rfl := source_of_mem_edgesOf own
    obtain ⟨scan, among, ofScan⟩ := List.mem_flatMap.mp stored
    exact ⟨scan, among, ofScan, own⟩
  · rintro ⟨scan, among, ofScan, own⟩
    exact ⟨e.source, List.mem_flatMap.mpr ⟨scan, among, ofScan⟩, own⟩

theorem size_ofScans :
    (ofScans resolver scans).size = (scans.flatMap FileScan.regions).length :=
  (regions_ofScans nodup).length_eq

end

/-- The graph of the scans of different files has the declarations of their regions for edges, in
strictly ascending order. Each position of a target in a region of a file has one edge, which bears
the region, the target as it is written, and the line that the region has for it, and there are no
others. The graph has all regions, and any order of the scans gives the same answers. -/
theorem edges_ofScans_in_order (resolver : Resolver) (scans : List FileScan)
    (read : FileScan.AreOfContents scans) (apart : (scans.map FileScan.path).Nodup) :
    let g := ofScans resolver scans
    g.edges.Pairwise Edge.Precedes ∧
      (∀ e ∈ g.edges, ∃ scan ∈ scans, e.source ∈ scan.regions ∧
        e.targetIndex < e.source.targets.length) ∧
      (∀ scan ∈ scans, ∀ (index : Nat) r, scan.regions[index]? = some r →
        ∀ place target, r.targets[place]? = some target →
          ∃ line, r.targetLines[place]? = some line ∧
            g.edges.filter (fun e => e.place = ((scan.path, (index : Int)), place)) =
              [{ source := r, target, targetIndex := place, line }]) ∧
      g.size = (scans.flatMap FileScan.regions).length ∧
      ∀ other, other.Perm scans →
        let h := ofScans resolver other
        h.edges = g.edges ∧ (∀ key, h.targetsOf key = g.targetsOf key) ∧
          ∀ path, h.dependentsOf path = g.dependentsOf path ∧
            h.regionsIn path = g.regionsIn path := by
  intro g
  have nodup := read.nodup_keys apart
  have stored : (g.regions.map Region.key).Nodup :=
    ((regions_ofScans nodup).map Region.key).nodup_iff.mpr nodup
  refine ⟨pairwise_edges stored, ?_, ?_, size_ofScans nodup, ?_⟩
  · intro e mem
    obtain ⟨scan, among, ofScan, own⟩ := (mem_edges_ofScans nodup).mp mem
    exact ⟨scan, among, ofScan, targetIndex_lt_of_mem_edgesOf own⟩
  · intro scan among index r located place target named
    obtain ⟨lines, placed⟩ := read.wellPlaced among located
    have inside : place < r.targetLines.length := by
      rw [placed.length_targetLines]
      exact (List.getElem?_eq_some_iff.mp named).1
    have stands := List.getElem?_eq_getElem inside
    refine ⟨_, stands, ?_⟩
    rw [← placed.file, ← placed.index]
    exact filter_place_eq stored ((mem_edges_ofScans nodup).mpr
      ⟨scan, among, List.mem_of_getElem? located, mem_edgesOf_of_getElem? named stands⟩)
  · intro other perm h
    have same : h = g := ofScans_of_perm apart perm
    rw [same]
    exact ⟨rfl, fun _ => rfl, fun _ => ⟨rfl, rfl⟩⟩

theorem edges_in_order_of_three_files :
    let list := "# if-change\ny\n# then-change\n# b\n# b\n\n# if-change\nz\n# then-change a\n"
    let scans :=
      [FileScan.ofContent {} "b" (Text.toUtf8 "# if-change\nx\n# then-change a\n"),
        FileScan.ofContent { implicitClose := true } "a" (Text.toUtf8 list),
        FileScan.ofContent {} "c" (Text.toUtf8 "# end-change\n")]
    let resolver : Resolver := fun _ target => target
    let edge (file : Path) (index : Int) (place : Nat) (target : Text) (line : Int) :=
      (((file, index), place), target, line)
    let g := ofScans resolver scans
    g.edges.Pairwise Edge.Precedes ∧ g.size = 3 ∧
      g.edges.map (fun e => (e.place, e.target, e.line)) =
        [edge "a" 0 0 "b" 4, edge "a" 0 1 "b" 5, edge "a" 1 0 "a" 9, edge "b" 0 0 "a" 3] ∧
      (ofScans resolver scans.reverse).edges = g.edges := by
  intro list scans resolver edge g
  have read : FileScan.AreOfContents scans := by
    intro scan mem
    simp only [scans, List.mem_cons, List.not_mem_nil, or_false] at mem
    rcases mem with rfl | rfl | rfl
    all_goals exact ⟨_, _, by rw [FileScan.path_ofContent]⟩
  obtain ⟨strict, -, -, size, same⟩ := edges_ofScans_in_order resolver scans read
    (by decide +kernel)
  refine ⟨strict, ?_, by decide +kernel, (same scans.reverse (List.reverse_perm scans)).1⟩
  rw [size]
  decide +kernel

end Graph
end Lockstep
