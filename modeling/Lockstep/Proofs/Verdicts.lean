import Mathlib.Data.List.Perm.Basic
import Lockstep.Proofs.Findings
import Lockstep.Proofs.Obligations
import Lockstep.Proofs.Order

/-! The verdict of a check is what the change calls for. The edges that are due are the declarations
of the regions that changed, less those that lead back; each is judged by itself, because what was
compared before is what would be compared now. -/
namespace Lockstep

namespace Check

variable {c : Change} {settings : Settings}

def judgement (c : Change) (settings : Settings) (e : Edge) : Option Finding :=
  match settings.resolve c.known e.source.file e.target with
  | none => some (missing e none)
  | some file =>
    if c.new.files.contains file then judge e file (c.comparison settings.convention file)
    else some (missing e (some file))

theorem eq_edgeFinding_of_mem_judgement {e : Edge} {f : Finding} (h : f ∈ judgement c settings e) :
    ∃ resolved reason message, f = edgeFinding e resolved reason message := by
  unfold judgement judge at h
  split at h
  · cases h
    exact ⟨_, _, _, rfl⟩
  · split at h
    · split at h
      · cases h
        exact ⟨_, _, _, rfl⟩
      · split at h
        · cases h
          exact ⟨_, _, _, rfl⟩
        · cases h
    · cases h
      exact ⟨_, _, _, rfl⟩

theorem source_of_mem_judgement {e : Edge} {f : Finding} (h : f ∈ judgement c settings e) :
    f.source = e.source.file := by
  obtain ⟨_, _, _, rfl⟩ := eq_edgeFinding_of_mem_judgement h
  rfl

def leadsOut (c : Change) (settings : Settings) (e : Edge) : Bool :=
  settings.resolve c.known e.source.file e.target != some e.source.file

theorem judge_of_contents {convention : Convention} {file : Path} {old new : Option Bytes}
    (contents : c.contents file = .ok (old, new)) (e : Edge) :
    judge e file (c.comparison convention file) =
      if old.map Digest.ofBytes = new.map Digest.ofBytes then
        some (edgeFinding e (some file) .targetUnchanged
          ("expected change in " ++ file ++ " due to change in " ++ e.source.location))
      else none := by
  have digests (content : Option Bytes) :
      (content.map (FileScan.ofContent convention file)).map FileScan.digest =
        content.map Digest.ofBytes := by
    rw [Option.map_map]
    congr 1
    funext bytes
    exact FileScan.digest_ofContent convention file bytes
  simp only [judge, Change.comparison, contents, Except.map, digests]

/-- The edges that are due are those of the regions that changed, if they lead out. -/
theorem due_perm (c : Change) (settings : Settings) (resolver : Resolver) {paths : List Path}
    {scans : List FileScan} (distinct : paths.Nodup)
    (scanned : scans.flatMap FileScan.regions = paths.flatMap (c.newRegions settings)) :
    let changed := paths.flatMap (c.changedRegions settings)
    let scene : Scene :=
      { known := c.known, newFiles := c.new.files, changed := changed.map Region.key }
    ((Graph.ofScans resolver scans).edges.filter (isDue settings scene)).Perm
      ((changed.flatMap Graph.edgesOf).filter (leadsOut c settings)) := by
  intro changed scene
  have nodup := @Change.nodup_newRegions c settings paths distinct
  have edges := @Graph.edges_ofScans resolver scans (scanned ▸ nodup)
  have split : isDue settings scene = fun e =>
      leadsOut c settings e && scene.changed.contains e.source.key := by
    funext e
    exact Bool.and_comm _ _
  have picked : (paths.flatMap (c.newRegions settings)).filter
      (fun r => scene.changed.contains r.key) = changed :=
    filter_key_mem (Change.flatMap_changedRegions_sublist paths) nodup
  -- The graph has the edges of all regions in another order; a key picks the regions that changed.
  refine (edges.filter _).trans ?_
  rw [split, ← List.filter_filter,
    Graph.filter_edgesOf fun r => scene.changed.contains r.key, scanned, picked]

variable {σ : Type} {source : Source σ} {old new : Text} {inv : σ → Prop} {mayFail : Prop}

def Current (c : Change) (settings : Settings) (compared : List (Path × Comparison)) : Prop :=
  ∀ path comparison, compared.lookup path = some comparison →
    comparison = c.comparison settings.convention path

theorem Current.cons {compared : List (Path × Comparison)} (h : Current c settings compared)
    (file : Path) :
    Current c settings ((file, c.comparison settings.convention file) :: compared) := by
  intro path comparison found
  by_cases same : path = file
  · subst same
    rw [List.lookup_cons_self, Option.some.injEq] at found
    exact found.symm
  · rw [List.lookup_cons, beq_false_of_ne same] at found
    exact h path comparison found

theorem current_map (paths : List Path) :
    Current c settings (paths.map fun p => (p, c.comparison settings.convention p)) := by
  induction paths with
  | nil =>
    intro path comparison found
    cases found
  | cons path rest ih => exact ih.cons path

theorem judgeAll_yields (unrefused : settings.convention.markers.Encodable ∨ mayFail)
    (showsOld : source.Shows inv mayFail old c.old)
    (showsNew : source.Shows inv mayFail new c.new) (changed : List RegionKey)
    (edges : List Edge) (compared : List (Path × Comparison)) (current : Current c settings compared) :
    (judgeAll source settings old new ⟨c.known, c.new.files, changed⟩ edges compared).Yields
      inv mayFail (edges.filterMap (judgement c settings)) := by
  induction edges generalizing compared with
  | nil => exact Access.yields_pure []
  | cons e rest ih =>
    have judged : (e :: rest).filterMap (judgement c settings) =
        (judgement c settings e).toList ++ rest.filterMap (judgement c settings) := by
      cases h : judgement c settings e with
      | none => simp [h]
      | some finding => simp [h]
    rw [judged]
    unfold judgeAll
    cases resolved : settings.resolve c.known e.source.file e.target with
    | none =>
      rw [judgement, resolved]
      exact Access.yields_bind (ih compared current) (Access.yields_pure _)
    | some file =>
      by_cases listed : file ∈ c.new.files
      · have own : judgement c settings e =
            judge e file (c.comparison settings.convention file) := by
          simp [judgement, resolved, listed]
        simp only [List.contains_iff_mem.mpr listed, Bool.not_true, own]
        rw [if_neg Bool.false_ne_true]
        cases h : compared.lookup file with
        | some comparison =>
          rw [current file comparison h]
          exact Access.yields_bind (ih compared current) (Access.yields_pure _)
        | none =>
          -- A target that was not scanned is compared now and remembered.
          apply Access.yields_bind (compare_yields unrefused showsOld showsNew file)
          exact Access.yields_bind (ih _ (current.cons file)) (Access.yields_pure _)
      · have own : judgement c settings e = some (missing e (some file)) := by
          simp [judgement, resolved, listed]
        have unlisted : c.new.files.contains file = false := by simpa using listed
        simp only [unlisted, Bool.not_false, if_true, own]
        exact Access.yields_bind (ih compared current) (Access.yields_pure _)

end Check

namespace Change

variable (c : Change) (settings : Settings)

def verdict : Verdict :=
  let paths := sortBy Text.le (c.scanned settings)
  let compared := paths.map fun p => (p, c.comparison settings.convention p)
  let versions := Check.readable compared
  let graph := Graph.ofScans (settings.resolver c.known) (versions.filterMap fun (_, v) => v.new)
  let changed := versions.flatMap fun (_, v) => Check.changedRegions settings.matching v
  let scene : Check.Scene :=
    { known := c.known, newFiles := c.new.files, changed := changed.map Region.key }
  let due := graph.edges.filter (Check.isDue settings scene)
  let ofFiles := compared.flatMap fun (p, k) =>
    Check.fileFindings settings.convention.markers p k
  { findings := sortBy Finding.le (ofFiles ++ due.filterMap (Check.judgement c settings))
    filesScanned := paths.length, regionsFound := graph.size,
    regionsChanged := changed.length, edgesChecked := due.length }

/-- All that a file has to report: on its own account, and about the targets of its regions that
changed. -/
def reports (path : Path) : List Finding :=
  c.ownFindings settings path
    ++ (c.changedRegions settings path).flatMap fun r =>
      ((Graph.edgesOf r).filter (Check.leadsOut c settings)).filterMap (Check.judgement c settings)

theorem pairwise_verdict :
    (c.verdict settings).findings.Pairwise fun a b => a.le b = true :=
  Finding.pairwise_sorted _

variable {c settings}

theorem perm_reports :
    (c.verdict settings).findings.Perm ((c.scanned settings).flatMap (c.reports settings)) := by
  let paths := sortBy Text.le (c.scanned settings)
  have perm : paths.Perm (c.scanned settings) := perm_sortBy _ _
  have distinct : paths.Nodup := perm.nodup_iff.mpr (nodup_distinct _)
  have ofFiles : (paths.map fun p => (p, c.comparison settings.convention p)).flatMap
      (fun (p, k) => Check.fileFindings settings.convention.markers p k) =
        paths.flatMap (c.ownFindings settings) := by
    rw [List.flatMap_map]
    congr 1
    funext path
    exact Check.fileFindings_comparison path
  have due := (Check.due_perm c settings (settings.resolver c.known) distinct
    (Check.flatMap_newRegions paths)).filterMap (Check.judgement c settings)
  rw [List.filter_flatMap, List.filterMap_flatMap, List.flatMap_assoc] at due
  refine (perm_sortBy _ _).trans ?_
  have ofEdges := due.append_left (paths.flatMap (c.ownFindings settings))
  rw [ofFiles, Check.flatMap_changedRegions]
  refine ofEdges.trans ?_
  refine (List.flatMap_append_perm _ _ _).trans ?_
  exact perm.flatMap_right _

theorem source_of_mem_reports {path : Path} {f : Finding} (h : f ∈ c.reports settings path) :
    f.source = path := by
  rcases List.mem_append.mp h with own | ofEdge
  · rw [← Check.fileFindings_comparison] at own
    exact Check.source_of_mem_fileFindings own
  · obtain ⟨r, hr, due⟩ := List.mem_flatMap.mp ofEdge
    obtain ⟨e, he, judged⟩ := List.mem_filterMap.mp due
    have file := file_of_mem_newRegions ((changedRegions_sublist path).subset hr)
    rw [Check.source_of_mem_judgement judged,
      Graph.source_of_mem_edgesOf (List.mem_of_mem_filter he), file]

theorem regionsChanged_verdict :
    (c.verdict settings).regionsChanged =
      ((c.scanned settings).flatMap (c.changedRegions settings)).length := by
  have perm : (sortBy Text.le (c.scanned settings)).Perm (c.scanned settings) := perm_sortBy _ _
  simp only [verdict, Check.flatMap_changedRegions, (perm.flatMap_right _).length_eq]

theorem filesScanned_verdict :
    (c.verdict settings).filesScanned = (c.scanned settings).length := by
  simp only [verdict, (perm_sortBy Text.le (c.scanned settings)).length_eq]

theorem regionsFound_verdict :
    (c.verdict settings).regionsFound =
      ((c.scanned settings).flatMap (c.newRegions settings)).length := by
  have perm : (sortBy Text.le (c.scanned settings)).Perm (c.scanned settings) := perm_sortBy _ _
  have scanned := @Check.flatMap_newRegions c settings (sortBy Text.le (c.scanned settings))
  have nodup := @nodup_newRegions c settings _ (perm.nodup_iff.mpr (nodup_distinct _))
  have stored := @Graph.regions_ofScans (settings.resolver c.known) _ (scanned ▸ nodup)
  rw [scanned] at stored
  simp only [verdict, Graph.size, (stored.trans (perm.flatMap_right _)).length_eq]

theorem edgesChecked_verdict :
    (c.verdict settings).edgesChecked =
      ((((c.scanned settings).flatMap (c.changedRegions settings)).flatMap Graph.edgesOf).filter
        (Check.leadsOut c settings)).length := by
  have perm : (sortBy Text.le (c.scanned settings)).Perm (c.scanned settings) := perm_sortBy _ _
  have due := Check.due_perm c settings (settings.resolver c.known)
    (perm.nodup_iff.mpr (nodup_distinct _)) (Check.flatMap_newRegions _)
  have unsorted := ((perm.flatMap_right (c.changedRegions settings)).flatMap_right
    Graph.edgesOf).filter (Check.leadsOut c settings)
  simp only [verdict, Check.flatMap_changedRegions, (due.trans unsorted).length_eq]

end Change

section

variable {σ : Type} {source : Source σ} {settings : Settings} {old new : Text} {c : Change}

theorem check_yields {inv : σ → Prop} {mayFail : Prop}
    (unrefused : settings.convention.markers.Encodable ∨ mayFail)
    (showsOld : source.Shows inv mayFail old c.old)
    (showsNew : source.Shows inv mayFail new c.new) :
    (check source settings old new).Yields inv mayFail (c.verdict settings) := by
  have compared (path : Path) :
      (do return (path, ← Check.compare source settings old new path) : Access σ _).Yields
        inv mayFail (path, c.comparison settings.convention path) :=
    Access.yields_bind (Check.compare_yields unrefused showsOld showsNew path)
      (Access.yields_pure _)
  unfold check
  apply Access.yields_bind showsOld.list
  apply Access.yields_bind showsNew.list
  apply Access.yields_bind (Access.yields_note _)
  apply Access.yields_bind (Access.yields_mapM compared _)
  apply Access.yields_bind (Access.yields_forM Access.yields_note _)
  apply Access.yields_bind (Access.yields_forM Access.yields_note _)
  apply Access.yields_bind
    (Check.judgeAll_yields unrefused showsOld showsNew _ _ _ (Check.current_map _))
  apply Access.yields_bind (Access.yields_note _)
  exact Access.yields_pure _

theorem check_returns (encodable : settings.convention.markers.Encodable)
    (holdsOld : source.Holds old c.old) (holdsNew : source.Holds new c.new) :
    (check source settings old new).Returns (c.verdict settings) :=
  Access.returns_iff.mpr (check_yields (.inl encodable) holdsOld.shows holdsNew.shows)

end

end Lockstep
