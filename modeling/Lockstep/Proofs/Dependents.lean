import Mathlib.Data.List.Nodup
import Mathlib.Data.List.Induction
import Lockstep.Proofs.Nodes
import Lockstep.Proofs.Order

/-! Who depends on a path, after any history of regions that were added to a graph. Of each key the
graph keeps the last region, but of the declarations it keeps all: a region answers for whatever was
declared under its key before. -/
namespace Lockstep

namespace RegionKey

def Precedes (a b : RegionKey) : Prop := a.1.lt b.1 = true ∨ a.1 = b.1 ∧ a.2 < b.2

theorem le_total (a b : RegionKey) : le a b = true ∨ le b a = true :=
  @byFile_total RegionKey Prod.fst (fun a b => decide (a.2 ≤ b.2))
    (fun a b => by simpa using Int.le_total a.2 b.2) a b

theorem le_trans (a b c : RegionKey) : le a b = true → le b c = true → le a c = true :=
  @byFile_trans RegionKey Prod.fst (fun a b => decide (a.2 ≤ b.2))
    (fun a b c h₁ h₂ => by simp only [decide_eq_true_eq] at *; omega) a b c

theorem precedes_of_le {a b : RegionKey} (h : le a b = true) (apart : a ≠ b) : a.Precedes b := by
  simp only [le, Bool.or_eq_true, Bool.and_eq_true, decide_eq_true_eq] at h
  refine h.imp id fun ⟨file, index⟩ => ⟨file, ?_⟩
  have other : a.2 ≠ b.2 := fun same => apart (Prod.ext file same)
  omega

theorem pairwise_precedes_sortBy {α : Type} (key : α → RegionKey) {xs : List α}
    (nodup : (xs.map key).Nodup) :
    (sortBy (fun a b => le (key a) (key b)) xs).Pairwise fun a b => (key a).Precedes (key b) := by
  have sorted := pairwise_sortBy (fun a b : α => le_total (key a) (key b))
    (fun a b c => le_trans (key a) (key b) (key c)) xs
  have apart := ((perm_sortBy (fun a b => le (key a) (key b)) xs).map key).nodup_iff.mpr nodup
  rw [List.nodup_iff_pairwise_ne, List.pairwise_map] at apart
  exact sorted.imp₂ (fun _ _ => precedes_of_le) apart

end RegionKey

namespace Graph

def Declares (resolver : Resolver) (path : Path) (r : Region) : Prop :=
  ∃ target ∈ r.targets, resolver r target = path

/-- The graph after some regions were added to the empty one, each in place of an earlier one with
its key. -/
def ofHistory (resolver : Resolver) (history : List Region) : Graph :=
  history.foldl (addRegion · resolver) {}

theorem find?_store (stored : List Region) (r : Region) (key : RegionKey) :
    (store stored r).find? (·.key = key) =
      if r.key = key then some r else stored.find? (·.key = key) := by
  induction stored with
  | nil =>
    by_cases asked : r.key = key
    · simp [store, asked]
    · simp [store, asked]
  | cons s rest ih =>
    unfold store
    by_cases same : s.key = r.key
    · rw [if_pos same]
      by_cases asked : r.key = key
      · simp [asked]
      · simp [asked, same]
    · rw [if_neg same]
      by_cases found : s.key = key
      · have other : r.key ≠ key := fun asked => same (found.trans asked.symm)
        simp [found, other]
      · simp [found, ih]

section History

variable {resolver : Resolver} {history : List Region} {path : Path} {g : Graph} {r : Region}
  {key : RegionKey}

theorem ofHistory_concat (resolver : Resolver) (history : List Region) (r : Region) :
    ofHistory resolver (history ++ [r]) = (ofHistory resolver history).addRegion resolver r := by
  rw [ofHistory, List.foldl_append]
  rfl

theorem region?_ofHistory (resolver : Resolver) (history : List Region) (key : RegionKey) :
    (ofHistory resolver history).region? key = history.reverse.find? (·.key = key) := by
  induction history using List.reverseRecOn with
  | nil => rfl
  | append_singleton history r ih =>
    -- The last region is stored in place of any other one of its key, and is found first.
    rw [region?] at ih ⊢
    rw [ofHistory_concat, addRegion, find?_store, ih, List.reverse_append, List.reverse_singleton,
      List.singleton_append, List.find?_cons]
    by_cases asked : r.key = key
    · simp [asked]
    · simp [asked]

theorem key_of_region? (h : g.region? key = some r) : r.key = key := by
  simpa using List.find?_some h

theorem exists_region?_of_mem (mem : r ∈ history) :
    ∃ s, (ofHistory resolver history).region? r.key = some s := by
  rw [region?_ofHistory, ← Option.isSome_iff_exists, List.find?_isSome]
  exact ⟨r, List.mem_reverse.mpr mem, by simp⟩

theorem mem_of_region? (h : (ofHistory resolver history).region? key = some r) : r ∈ history := by
  rw [region?_ofHistory] at h
  exact List.mem_reverse.mp (List.mem_of_find?_eq_some h)

theorem mem_declared_addRegion :
    (path, key) ∈ (g.addRegion resolver r).declared ↔
      (path, key) ∈ g.declared ∨ r.key = key ∧ Declares resolver path r := by
  have fold (targets : List Text) (declared : List (Path × RegionKey)) :
      (path, key) ∈ targets.foldl (fun declared target =>
          let entry := (resolver r target, r.key)
          if entry ∈ declared then declared else declared ++ [entry]) declared ↔
        (path, key) ∈ declared ∨ r.key = key ∧ ∃ target ∈ targets, resolver r target = path := by
    induction targets generalizing declared with
    | nil => simp
    | cons target rest ih =>
      rw [List.foldl_cons, ih, List.exists_mem_cons_iff, and_or_left, ← or_assoc]
      refine or_congr_left ?_
      have named : (path, key) = (resolver r target, r.key) ↔
          r.key = key ∧ resolver r target = path := by
        rw [Prod.mk.injEq, and_comm, eq_comm, @eq_comm _ path]
      dsimp only
      split
      next known =>
        refine (or_iff_left_of_imp fun same => ?_).symm
        rw [named.mpr same]
        exact known
      next => rw [List.mem_append, List.mem_singleton, named]
  exact fold r.targets g.declared

theorem mem_declared_ofHistory :
    (path, key) ∈ (ofHistory resolver history).declared ↔
      ∃ s ∈ history, s.key = key ∧ Declares resolver path s := by
  induction history using List.reverseRecOn with
  | nil => simp [ofHistory]
  | append_singleton history r ih =>
    rw [ofHistory_concat, mem_declared_addRegion, ih]
    simp [or_and_right, exists_or]

theorem nodup_declared_addRegion (nodup : g.declared.Nodup) :
    (g.addRegion resolver r).declared.Nodup := by
  have fold (targets : List Text) (declared : List (Path × RegionKey)) (nodup : declared.Nodup) :
      (targets.foldl (fun declared target =>
        let entry := (resolver r target, r.key)
        if entry ∈ declared then declared else declared ++ [entry]) declared).Nodup := by
    induction targets generalizing declared with
    | nil => exact nodup
    | cons target rest ih =>
      rw [List.foldl_cons]
      apply ih
      dsimp only
      split
      next => exact nodup
      next new =>
        refine List.nodup_append.mpr ⟨nodup, List.nodup_singleton _, ?_⟩
        intro entry old added isNew same
        exact new (List.mem_singleton.mp isNew ▸ same ▸ old)
  exact fold r.targets g.declared nodup

theorem nodup_declared_ofHistory : (ofHistory resolver history).declared.Nodup := by
  induction history using List.reverseRecOn with
  | nil => exact List.nodup_nil
  | append_singleton history r ih =>
    rw [ofHistory_concat]
    exact nodup_declared_addRegion ih

theorem map_key_filterMap {keys : List RegionKey}
    (stored : ∀ key ∈ keys, ∃ r, g.region? key = some r) :
    (keys.filterMap g.region?).map Region.key = keys := by
  induction keys with
  | nil => rfl
  | cons key rest ih =>
    obtain ⟨r, found⟩ := stored key (by simp)
    rw [List.filterMap_cons_some found, List.map_cons, key_of_region? found,
      ih fun key mem => stored key (by simp [mem])]

theorem pairwise_dependentsOf (nodup : g.declared.Nodup)
    (stored : ∀ key, (path, key) ∈ g.declared → ∃ r, g.region? key = some r) :
    ((g.dependentsOf path).map Region.key).Pairwise RegionKey.Precedes := by
  rw [dependentsOf]
  generalize named : (g.declared.filter (·.1 = path)).map Prod.snd = keys
  have mem (key : RegionKey) (among : key ∈ keys) : (path, key) ∈ g.declared := by
    rw [← named] at among
    simpa using among
  have apart : keys.Nodup := by
    rw [← named]
    apply List.Nodup.map_on _ (nodup.filter _)
    intro a ha b hb same
    simp only [List.mem_filter, decide_eq_true_eq] at ha hb
    exact Prod.ext (ha.2.trans hb.2.symm) same
  rw [map_key_filterMap fun key among => stored key (mem key (mem_sortBy.mp among))]
  exact RegionKey.pairwise_precedes_sortBy id (by rwa [List.map_id])

theorem mem_dependentsOf :
    r ∈ g.dependentsOf path ↔ ∃ key, (path, key) ∈ g.declared ∧ g.region? key = some r := by
  simp [dependentsOf]

theorem mem_dependentsOf_ofHistory :
    r ∈ (ofHistory resolver history).dependentsOf path ↔
      (ofHistory resolver history).region? r.key = some r ∧
        ∃ s ∈ history, s.key = r.key ∧ Declares resolver path s := by
  rw [mem_dependentsOf]
  constructor
  · rintro ⟨key, declared, found⟩
    obtain rfl := key_of_region? found
    exact ⟨found, mem_declared_ofHistory.mp declared⟩
  · rintro ⟨found, declares⟩
    exact ⟨r.key, mem_declared_ofHistory.mpr declares, found⟩

theorem region?_of_mem (nodup : (g.regions.map Region.key).Nodup) (mem : r ∈ g.regions) :
    g.region? r.key = some r := by
  cases found : g.region? r.key with
  | none => exact absurd (List.find?_eq_none.mp found r mem) (by simp)
  | some s =>
    rw [List.inj_on_of_nodup_map nodup (List.mem_of_find?_eq_some found) mem (key_of_region? found)]

theorem mem_dependentsOf_ofScans {scans : List FileScan}
    (nodup : ((scans.flatMap FileScan.regions).map Region.key).Nodup) :
    r ∈ (ofScans resolver scans).dependentsOf path ↔
      r ∈ scans.flatMap FileScan.regions ∧ Declares resolver path r := by
  have stored := @regions_ofScans resolver scans nodup
  have named {s : Region} (mem : s ∈ scans.flatMap FileScan.regions) :
      (ofScans resolver scans).region? s.key = some s :=
    region?_of_mem ((stored.map _).nodup_iff.mpr nodup) (stored.mem_iff.mpr mem)
  have sorted := perm_sortBy (fun a b : FileScan => a.path.le b.path) scans
  have history : ofScans resolver scans = ofHistory resolver
      ((sortBy (fun a b : FileScan => a.path.le b.path) scans).flatMap FileScan.regions) :=
    ofScans_eq resolver scans
  rw [history] at named ⊢
  rw [mem_dependentsOf_ofHistory]
  simp only [(sorted.flatMap_right FileScan.regions).mem_iff]
  constructor
  · rintro ⟨found, s, mem, same, declares⟩
    cases (same ▸ named mem).symm.trans found
    exact ⟨mem, declares⟩
  · rintro ⟨mem, declares⟩
    exact ⟨named mem, r, mem, rfl, declares⟩

end History

/-- After any history of regions that were added, that which was added last under each key is
stored. The regions that depend on a path come in the order of their keys, each once, and every key
that is kept for the path is stored. They are the stored regions under whose key a region was ever
added that declares the path. So they are those that declare the path themselves just if no such
region was replaced by one that does not. -/
theorem dependentsOf_ofHistory (resolver : Resolver) (history : List Region) (path : Path) :
    let g := ofHistory resolver history
    (∀ key, g.region? key = history.reverse.find? (·.key = key)) ∧
      ((g.dependentsOf path).map Region.key).Pairwise RegionKey.Precedes ∧
      (∀ key, (path, key) ∈ g.declared → ∃ r, g.region? key = some r) ∧
      (∀ r, r ∈ g.dependentsOf path ↔
        g.region? r.key = some r ∧ ∃ s ∈ history, s.key = r.key ∧ Declares resolver path s) ∧
      ((∀ r, r ∈ g.dependentsOf path ↔ g.region? r.key = some r ∧ Declares resolver path r) ↔
        ∀ s ∈ history, Declares resolver path s →
          ∃ r, g.region? s.key = some r ∧ Declares resolver path r) := by
  intro g
  have stored (key : RegionKey) (declared : (path, key) ∈ g.declared) :
      ∃ r, g.region? key = some r := by
    obtain ⟨s, mem, rfl, -⟩ := mem_declared_ofHistory.mp declared
    exact exists_region?_of_mem mem
  refine ⟨region?_ofHistory resolver history,
    pairwise_dependentsOf nodup_declared_ofHistory stored, stored,
    fun r => mem_dependentsOf_ofHistory, ?_⟩
  constructor
  -- A region that declares the path makes that of its key depend on it, replaced or not.
  · intro own s mem declares
    obtain ⟨r, found⟩ : ∃ r, g.region? s.key = some r := exists_region?_of_mem mem
    have same := key_of_region? found
    have depends : r ∈ g.dependentsOf path :=
      mem_dependentsOf_ofHistory.mpr ⟨same ▸ found, s, mem, same.symm, declares⟩
    exact ⟨r, found, ((own r).mp depends).2⟩
  · intro replaced r
    rw [mem_dependentsOf_ofHistory]
    constructor
    · rintro ⟨found, s, mem, same, declares⟩
      obtain ⟨t, other, declaresToo⟩ := replaced s mem declares
      rw [same] at other
      cases found.symm.trans other
      exact ⟨found, declaresToo⟩
    · rintro ⟨found, declares⟩
      exact ⟨found, r, mem_of_region? found, rfl, declares⟩

/-- A region is replaced by one of the same key that declares another path. It still depends on the
path that only the first one has declared. -/
theorem dependentsOf_replaced :
    let first : Region :=
      { file := "a", index := 0, firstLine := 1, lastLine := 1, targets := ["b"],
        targetLines := [1], content := [] }
    let second : Region := { first with targets := ["c"] }
    let g := ofHistory (fun _ target => target) [first, second]
    g.region? ("a", 0) = some second ∧ g.targetsOf ("a", 0) = ["c"] ∧
      g.dependentsOf "b" = [second] ∧ ¬ Declares (fun _ target => target) "b" second := by
  intro first second g
  refine ⟨by decide, by decide, by decide, ?_⟩
  rintro ⟨target, mem, rfl⟩
  exact absurd mem (by decide)

end Graph
end Lockstep
