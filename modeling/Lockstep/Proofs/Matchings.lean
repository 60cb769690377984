import Lockstep.Proofs.PairedRuns
import Lockstep.Proofs.Unchanged

/-! That pairing regions by sequence asks for nothing that pairing them by position does not ask
for, with one exception. A region that stands where an equal one stood is unchanged by position; the
alignment leaves it over where it pairs a run that has moved across this place. -/
namespace Lockstep

/-- Whether two lists are equally long and have the same element at a place, and their alignment
pairs a run across it. -/
def Alignment.LeavesOver {α : Type} [DecidableEq α] (old new : List α) (place : Nat) : Prop :=
  old.length = new.length ∧ place < new.length ∧ old[place]? = new[place]? ∧
    ∃ run ∈ runs old new, run.Crosses place place

theorem Matching.changed_of_sequence {old new : List Digest} {place : Nat}
    (flagged : (Matching.sequence.changed old new)[place]? = some true) :
    (Matching.position.changed old new)[place]? = some true ∨
      Alignment.LeavesOver old new place := by
  have dropped : (Alignment.kept old new)[place]? = some false := by
    simpa [changed] using flagged
  have inside : place < new.length := by
    have := (List.getElem?_eq_some_iff.mp dropped).1
    rwa [Alignment.length_kept] at this
  -- By position only an equal element in the same place of an equally long list is kept.
  by_cases long : old.length = new.length
  · have inOld : place < old.length := long ▸ inside
    by_cases same : old[place] = new[place]
    · right
      refine ⟨long, inside, by simp [inOld, inside, same], ?_⟩
      obtain ⟨run, paired, covers | crosses⟩ := Alignment.covered_or_crossed old new
        (List.getElem?_eq_getElem inOld) ((List.getElem?_eq_getElem inside).trans (by rw [same]))
      · have kept := (Alignment.kept_iff old new place).mpr ⟨run, paired, covers⟩
        rw [kept] at dropped
        cases dropped
      · exact ⟨run, paired, crosses⟩
    · left
      simp [changed, long, inside, same]
  · left
    simp [changed, long, inside]

def Settings.pairing (settings : Settings) (matching : Matching) : Settings :=
  { settings with matching }

def Finding.IsOfTarget (f : Finding) : Prop :=
  f.reason = .targetUnchanged ∨ f.reason = .targetMissing ∨
    f.reason = .unreadable ∧ f.regionIndex ≠ none

namespace Change

/-- Whether a region of a new version has the fingerprint of the old region in its place, in a file
with as many regions as before, and the alignment of the regions pairs a run across this place. -/
def LeavesOver (c : Change) (convention : Convention) (r : Region) : Prop :=
  ∃ before after, c.contents r.file = .ok (before, after) ∧
    ∃ place : Nat, (regionsIn convention r.file after)[place]? = some r ∧
      Alignment.LeavesOver ((regionsIn convention r.file before).map Region.digest)
        ((regionsIn convention r.file after).map Region.digest) place

variable {c : Change} {settings : Settings}

theorem mem_flagged {α : Type} {xs : List α} {flags : List Bool} {x : α} :
    x ∈ ((xs.zip flags).filter Prod.snd).map Prod.fst ↔
      ∃ place : Nat, xs[place]? = some x ∧ flags[place]? = some true := by
  constructor
  · intro mem
    obtain ⟨⟨y, flag⟩, pair, rfl⟩ := List.mem_map.mp mem
    obtain ⟨zipped, rfl : flag = true⟩ := List.mem_filter.mp pair
    obtain ⟨place, found⟩ := List.mem_iff_getElem?.mp zipped
    exact ⟨place, List.getElem?_zip_eq_some.mp found⟩
  · rintro ⟨place, found⟩
    have zipped : (x, true) ∈ xs.zip flags :=
      List.mem_iff_getElem?.mpr ⟨place, List.getElem?_zip_eq_some.mpr found⟩
    exact List.mem_map.mpr ⟨(x, true), List.mem_filter.mpr ⟨zipped, rfl⟩, rfl⟩

theorem changedRegions_of_sequence {path : Path} {r : Region}
    (changed : r ∈ c.changedRegions (settings.pairing .sequence) path) :
    r ∈ c.changedRegions (settings.pairing .position) path ∨
      c.LeavesOver settings.convention r := by
  have file := file_of_mem_newRegions ((changedRegions_sublist path).subset changed)
  unfold changedRegions at changed ⊢
  cases contents : c.contents path with
  | error e =>
    rw [contents] at changed
    cases changed
  | ok versions =>
    obtain ⟨before, after⟩ := versions
    rw [contents] at changed
    obtain ⟨place, found, flagged⟩ := mem_flagged.mp changed
    rcases Matching.changed_of_sequence flagged with same | left
    · exact .inl (mem_flagged.mpr ⟨place, found, same⟩)
    · subst file
      exact .inr ⟨before, after, contents, place, found, left⟩

theorem mem_findings_of_sequence {f : Finding}
    (found : f ∈ (c.verdict (settings.pairing .sequence)).findings) (ofTarget : f.IsOfTarget) :
    f ∈ (c.verdict (settings.pairing .position)).findings ∨
      ∃ r : Region, f.source = r.file ∧ f.regionIndex = some r.index ∧
        c.LeavesOver settings.convention r := by
  obtain ⟨path, scanned, reported⟩ := List.mem_flatMap.mp (perm_reports.mem_iff.mp found)
  rcases List.mem_append.mp reported with own | ofEdge
  · unfold Finding.IsOfTarget at ofTarget
    rcases reason_of_mem_ownFindings own with reason | ⟨reason, whole⟩
    · simp [reason] at ofTarget
    · simp [reason, whole] at ofTarget
  · obtain ⟨r, changed, due⟩ := List.mem_flatMap.mp ofEdge
    rcases changedRegions_of_sequence changed with same | left
    · have still : f ∈ c.reports (settings.pairing .position) path :=
        List.mem_append_right _ (List.mem_flatMap.mpr ⟨r, same, due⟩)
      exact .inl (perm_reports.mem_iff.mpr (List.mem_flatMap.mpr ⟨path, scanned, still⟩))
    · obtain ⟨e, out, judged⟩ := List.mem_filterMap.mp due
      obtain rfl := Graph.source_of_mem_edgesOf (List.mem_of_mem_filter out)
      obtain ⟨_, _, _, rfl⟩ := Check.eq_edgeFinding_of_mem_judgement judged
      exact .inr ⟨e.source, rfl, rfl, left⟩

end Change

/-- If UTF-8 has bytes for the markers and for the stored texts, a check gives a verdict however it
pairs regions. Whatever it finds about targets by sequence, it finds by position as well, unless the
region is left over: it has the fingerprint of the old region in its place, in a file with as many
regions as before, and the alignment pairs a run of regions that moved across this place. -/
theorem findings_of_sequence (a : Archive) (settings : Settings) (old new : Text)
    (oldFiles newFiles : List (Path × Stored))
    (holdsOld : a.snapshot? old = some oldFiles) (holdsNew : a.snapshot? new = some newFiles)
    (encodable : settings.convention.markers.Encodable)
    (storedOld : ∀ file ∈ oldFiles, file.2.Encodable)
    (storedNew : ∀ file ∈ newFiles, file.2.Encodable) (s t : Session Unit) :
    let c : Change :=
      { old := Archive.snapshotOf old oldFiles, new := Archive.snapshotOf new newFiles }
    ∃ v w ended ended',
      (check a.source (settings.pairing .sequence) old new).perform s = (.ok v, ended) ∧
        (check a.source (settings.pairing .position) old new).perform t = (.ok w, ended') ∧
        ∀ f ∈ v.findings, f.IsOfTarget →
          f ∈ w.findings ∨ ∃ r : Region, f.source = r.file ∧ f.regionIndex = some r.index ∧
            c.LeavesOver settings.convention r := by
  intro c
  have returns (matching : Matching) (s : Session Unit) :
      ∃ ended, (check a.source (settings.pairing matching) old new).perform s =
        (.ok (c.verdict (settings.pairing matching)), ended) :=
    @check_returns Unit a.source (settings.pairing matching) old new c encodable
      (Archive.holds holdsOld storedOld) (Archive.holds holdsNew storedNew) s
  obtain ⟨ended, run⟩ := returns .sequence s
  obtain ⟨ended', run'⟩ := returns .position t
  refine ⟨_, _, ended, ended', run, run', ?_⟩
  intro f found ofTarget
  exact Change.mem_findings_of_sequence found ofTarget

theorem findings_of_sequence_around_middle :
    let region (body target : Text) : Text :=
      "# if-change\n" ++ body ++ "\n# then-change " ++ target ++ "\n"
    let first : Text := region "p" "a"
    let middle : Text := region "x" "b"
    let last : Text := region "r" "c"
    let oldFiles : List (Path × Stored) :=
      [("a", .content (first ++ middle ++ last).toUtf8), ("b", .content [1]), ("c", .content [2])]
    let newFiles : List (Path × Stored) :=
      [("a", .content (last ++ middle ++ first).toUtf8), ("b", .content [1]), ("c", .content [2])]
    let a : Archive := { snapshots := [("1", oldFiles), ("2", newFiles)] }
    let settings : Settings := {}
    let c : Change :=
      { old := Archive.snapshotOf "1" oldFiles, new := Archive.snapshotOf "2" newFiles }
    let demand : Reason × Text :=
      (.targetUnchanged, "expected change in c due to change in a:2-3")
    let surplus : Reason × Text :=
      (.targetUnchanged, "expected change in b due to change in a:5-6")
    ∃ v w ended ended',
      (check a.source (settings.pairing .sequence) "1" "2").perform { memory := () } =
          (.ok v, ended) ∧
        (check a.source (settings.pairing .position) "1" "2").perform { memory := () } =
          (.ok w, ended') ∧
        v.findings.map (fun f => (f.reason, f.message)) = [demand, surplus] ∧
        w.findings.map (fun f => (f.reason, f.message)) = [demand] ∧
        ∀ f ∈ v.findings, f ∈ w.findings ∨ ∃ r : Region, f.source = r.file ∧
          f.regionIndex = some r.index ∧ c.LeavesOver settings.convention r := by
  intro region first middle last oldFiles newFiles a settings c demand surplus
  let shown (v : Verdict) : List (Reason × Text) := v.findings.map fun f => (f.reason, f.message)
  have bySequence : ((check a.source (settings.pairing .sequence) "1" "2").perform
      { memory := () }).1.toOption.map shown = some [demand, surplus] := by
    decide +kernel
  have byPosition : ((check a.source (settings.pairing .position) "1" "2").perform
      { memory := () }).1.toOption.map shown = some [demand] := by
    decide +kernel
  obtain ⟨v, w, ended, ended', run, run', refined⟩ := findings_of_sequence a settings "1" "2"
    oldFiles newFiles rfl rfl (by decide) (by decide) (by decide) { memory := () } { memory := () }
  have reported : shown v = [demand, surplus] := Access.eq_of_map_toOption run bySequence
  have demanded : shown w = [demand] := Access.eq_of_map_toOption run' byPosition
  refine ⟨v, w, ended, ended', run, run', reported, demanded, ?_⟩
  intro f found
  apply refined f found
  have reason : (f.reason, f.message) ∈ [demand, surplus] := reported ▸ List.mem_map_of_mem found
  rcases List.mem_pair.mp reason with same | same
  · exact .inl (Prod.mk.inj same).1
  · exact .inl (Prod.mk.inj same).1

/-- Where only the region in the middle names another file, a check by position finds nothing, and a
check by sequence does. -/
theorem findings_of_sequence_only :
    let region (body target : Text) : Text :=
      "# if-change\n" ++ body ++ "\n# then-change " ++ target ++ "\n"
    let pair : Text := region "p" "a" ++ region "q" "a"
    let middle : Text := region "x" "b"
    let other : Text := region "r" "a" ++ region "s" "a"
    let a : Archive :=
      { snapshots := [
          ("1", [("a", .content (pair ++ middle ++ other).toUtf8), ("b", .content [1])]),
          ("2", [("a", .content (other ++ middle ++ pair).toUtf8), ("b", .content [1])])] }
    let settings : Settings := {}
    ∃ v w ended ended',
      (check a.source (settings.pairing .sequence) "1" "2").perform { memory := () } =
          (.ok v, ended) ∧
        (check a.source (settings.pairing .position) "1" "2").perform { memory := () } =
          (.ok w, ended') ∧
        w.findings = [] ∧ ∃ f ∈ v.findings, f.IsOfTarget := by
  intro region pair middle other a settings
  have bySequence : ((check a.source (settings.pairing .sequence) "1" "2").perform
      { memory := () }).1.toOption.map (fun v => v.findings.map Finding.reason) =
        some [Reason.targetUnchanged] := by
    decide +kernel
  have byPosition : ((check a.source (settings.pairing .position) "1" "2").perform
      { memory := () }).1.toOption.map Verdict.findings = some [] := by
    decide +kernel
  obtain ⟨v, ended, run, reasons⟩ := Access.exists_of_map_toOption bySequence
  obtain ⟨w, ended', run', none⟩ := Access.exists_of_map_toOption byPosition
  have reason : Reason.targetUnchanged ∈ v.findings.map Finding.reason := by
    rw [reasons]
    exact List.mem_singleton_self _
  obtain ⟨f, found, unchanged⟩ := List.mem_map.mp reason
  exact ⟨v, w, ended, ended', run, run', none, f, found, .inl unchanged⟩

end Lockstep
