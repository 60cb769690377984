import Mathlib.Data.List.Nodup
import Lockstep.Proofs.Regions
import Lockstep.Graph

/-! What a graph keeps of the scans it is made of. No two regions of scans of different files share
a key, so all of them are stored, and the edges are their declarations, each once. -/
namespace Lockstep

theorem filter_key_mem {α κ : Type} [BEq κ] [LawfulBEq κ] {key : α → κ} {xs part : List α}
    (h : part.Sublist xs) (nodup : (xs.map key).Nodup) :
    xs.filter (fun x => (part.map key).contains (key x)) = part := by
  induction h with
  | slnil => rfl
  | @cons part rest x sub ih =>
    rw [List.map_cons, List.nodup_cons] at nodup
    have absent : key x ∉ part.map key := fun member => nodup.1 ((sub.map key).subset member)
    rw [List.filter_cons_of_neg (by simpa using absent)]
    exact ih nodup.2
  | @cons_cons part rest x sub ih =>
    rw [List.map_cons, List.nodup_cons] at nodup
    rw [List.filter_cons_of_pos (by simp)]
    congr 1
    refine (List.filter_congr ?_).trans (ih nodup.2)
    intro y hy
    have other : key y ≠ key x := by
      intro same
      exact nodup.1 (same ▸ List.mem_map_of_mem hy)
    simp [other]

theorem nodup_map_flatMap {α β κ ι : Type} {f : α → List β} {key : β → κ} {label : α → ι}
    {xs : List α} (owner : κ → ι) (labels : (xs.map label).Nodup)
    (own : ∀ x ∈ xs, ∀ b ∈ f x, owner (key b) = label x)
    (each : ∀ x ∈ xs, ((f x).map key).Nodup) : ((xs.flatMap f).map key).Nodup := by
  rw [List.nodup_iff_pairwise_ne, List.pairwise_map] at labels
  rw [List.map_flatMap, List.nodup_iff_pairwise_ne, List.pairwise_flatMap]
  refine ⟨each, labels.imp_of_mem ?_⟩
  intro x y hx hy apart j hj k hk same
  obtain ⟨b, hb, rfl⟩ := List.mem_map.mp hj
  obtain ⟨c, hc, rfl⟩ := List.mem_map.mp hk
  apply apart
  rw [← own x hx b hb, ← own y hy c hc, same]

namespace FileScan

theorem path_ofContent (convention : Convention) (path : Path) (content : Bytes) :
    (ofContent convention path content).path = path := by
  unfold ofContent
  split
  · rfl
  · rfl

theorem nodup_keys (convention : Convention) (path : Path) (content : Bytes) :
    ((ofContent convention path content).regions.map Region.key).Nodup := by
  rw [List.nodup_iff_pairwise_ne, List.pairwise_map, List.pairwise_iff_getElem]
  intro i j hi hj less same
  obtain ⟨a, -, ha⟩ := exists_block_of_getElem convention path content (List.getElem?_eq_getElem hi)
  obtain ⟨b, -, hb⟩ := exists_block_of_getElem convention path content (List.getElem?_eq_getElem hj)
  rw [ha, hb] at same
  simp only [Scan.regionOf, Region.key, Prod.mk.injEq] at same
  omega

theorem file_of_mem {convention : Convention} {path : Path} {content : Bytes} {r : Region}
    (h : r ∈ (ofContent convention path content).regions) : r.file = path := by
  obtain ⟨place, hplace⟩ := List.mem_iff_getElem?.mp h
  obtain ⟨b, -, rfl⟩ := exists_block_of_getElem convention path content hplace
  rfl

/-- Whether each scan is that of some content. Each may follow a convention of its own. -/
def AreOfContents (scans : List FileScan) : Prop :=
  ∀ scan ∈ scans, ∃ convention content, scan = ofContent convention scan.path content

theorem AreOfContents.nodup_keys {scans : List FileScan} (read : AreOfContents scans)
    (apart : (scans.map path).Nodup) :
    ((scans.flatMap FileScan.regions).map Region.key).Nodup := by
  refine nodup_map_flatMap Prod.fst apart ?_ ?_
  · intro scan mem r ofScan
    obtain ⟨convention, content, same⟩ := read scan mem
    rw [same] at ofScan
    exact file_of_mem ofScan
  · intro scan mem
    obtain ⟨convention, content, same⟩ := read scan mem
    rw [same]
    exact FileScan.nodup_keys convention scan.path content

end FileScan

namespace Graph

theorem store_fresh {stored : List Region} {r : Region} (h : r.key ∉ stored.map Region.key) :
    store stored r = stored ++ [r] := by
  induction stored with
  | nil => rfl
  | cons s rest ih =>
    rw [List.map_cons, List.mem_cons, not_or] at h
    unfold store
    rw [if_neg (Ne.symm h.1), ih h.2]
    rfl

theorem foldl_store {stored arriving : List Region}
    (nodup : ((stored ++ arriving).map Region.key).Nodup) :
    arriving.foldl store stored = stored ++ arriving := by
  induction arriving generalizing stored with
  | nil => simp
  | cons r rest ih =>
    have fresh : r.key ∉ stored.map Region.key := by
      rw [List.map_append, List.map_cons, List.nodup_append] at nodup
      intro member
      exact nodup.2.2 _ member _ (by simp) rfl
    rw [List.foldl_cons, store_fresh fresh, ih (by simpa using nodup)]
    simp

theorem regions_addAll (resolver : Resolver) (arriving : List Region) (g : Graph) :
    (arriving.foldl (addRegion · resolver) g).regions = arriving.foldl store g.regions := by
  induction arriving generalizing g with
  | nil => rfl
  | cons r rest ih => exact ih (g.addRegion resolver r)

theorem ofScans_eq (resolver : Resolver) (scans : List FileScan) :
    ofScans resolver scans =
      ((sortBy (fun a b => a.path.le b.path) scans).flatMap FileScan.regions).foldl
        (addRegion · resolver) {} := by
  rw [ofScans, List.foldl_flatMap]

section

variable {resolver : Resolver} {scans : List FileScan}
  (nodup : ((scans.flatMap FileScan.regions).map Region.key).Nodup)

include nodup

theorem regions_ofScans :
    (ofScans resolver scans).regions.Perm (scans.flatMap FileScan.regions) := by
  have perm := (perm_sortBy (fun a b : FileScan => a.path.le b.path) scans).flatMap_right
    FileScan.regions
  rw [ofScans_eq, regions_addAll, foldl_store]
  · simpa using perm
  · simpa using (perm.map Region.key).nodup_iff.mpr nodup

theorem edges_ofScans :
    (ofScans resolver scans).edges.Perm ((scans.flatMap FileScan.regions).flatMap edgesOf) := by
  unfold edges sortedRegions
  apply List.Perm.flatMap_right
  exact (perm_sortBy _ _).trans (regions_ofScans nodup)

end

theorem source_of_mem_edgesOf {r : Region} {e : Edge} (h : e ∈ edgesOf r) : e.source = r := by
  unfold edgesOf at h
  obtain ⟨place, _, rfl⟩ := List.mem_mapIdx.mp h
  rfl

theorem filter_edgesOf (select : Region → Bool) (regions : List Region) :
    (regions.flatMap edgesOf).filter (fun e => select e.source) =
      (regions.filter select).flatMap edgesOf := by
  induction regions with
  | nil => rfl
  | cons r rest ih =>
    have own : (edgesOf r).filter (fun e => select e.source) =
        (edgesOf r).filter fun _ => select r := by
      apply List.filter_congr
      intro e he
      rw [source_of_mem_edgesOf he]
    rw [List.flatMap_cons, List.filter_append, own, ih]
    by_cases h : select r = true
    · simp [h]
    · simp [h]

end Graph
end Lockstep
