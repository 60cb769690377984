import Lockstep.Proofs.Repositories
import Lockstep.Proofs.SharedRuns
import Lockstep.Proofs.Verdicts

/-! That edits outside of all regions ask for nothing. A file whose regions have the same contents
in the same order, wherever they stand and whatever stands around them, has no region that counts as
changed, and so nothing to report about targets. -/
namespace Lockstep

namespace Change

variable {c : Change} {settings : Settings}

theorem changedRegions_eq_nil {path : Path} {before after : Option Bytes}
    (contents : c.contents path = .ok (before, after))
    (same : (regionsIn settings.convention path before).map Region.content =
      (regionsIn settings.convention path after).map Region.content) :
    c.changedRegions settings path = [] := by
  have digests := congrArg (List.map Digest.ofBytes) same
  rw [List.map_map, List.map_map] at digests
  change List.map Region.digest _ = List.map Region.digest _ at digests
  simp only [changedRegions, contents, digests, Matching.changed_self, List.map_eq_nil_iff,
    List.filter_eq_nil_iff]
  intro pair mem
  simp [List.eq_of_mem_replicate (List.of_mem_zip mem).2]

theorem changedRegions_of_same (same : c.old = c.new) (path : Path) :
    c.changedRegions settings path = [] := by
  cases contents : c.contents path with
  | error e => simp [changedRegions, contents]
  | ok versions =>
    obtain ⟨before, after⟩ := versions
    obtain ⟨readOld, readNew⟩ := contents_eq_ok.mp contents
    rw [same, readNew] at readOld
    cases readOld
    exact changedRegions_eq_nil contents rfl

theorem reports_of_changedRegions {path : Path} (none : c.changedRegions settings path = []) :
    c.reports settings path = c.ownFindings settings path := by
  simp [reports, none]

theorem malformed_of_mem_ownFindings {path : Path} {versions : Option Bytes × Option Bytes}
    (contents : c.contents path = .ok versions) {f : Finding}
    (h : f ∈ c.ownFindings settings path) : f.reason = .malformed := by
  obtain ⟨before, after⟩ := versions
  rw [ownFindings, contents] at h
  cases after with
  | none => cases h
  | some bytes =>
    obtain ⟨e, -, rfl⟩ := List.mem_map.mp h
    rfl

theorem reason_of_mem_ownFindings {path : Path} {f : Finding}
    (h : f ∈ c.ownFindings settings path) :
    f.reason = .malformed ∨ f.reason = .unreadable ∧ f.regionIndex = none := by
  cases contents : c.contents path with
  | error e =>
    rw [ownFindings, contents] at h
    cases List.mem_singleton.mp h
    exact .inr ⟨rfl, rfl⟩
  | ok versions => exact .inl (malformed_of_mem_ownFindings contents h)

theorem mem_reports_of_mem_verdict {f : Finding} (h : f ∈ (c.verdict settings).findings) :
    f ∈ c.reports settings f.source := by
  obtain ⟨path, -, reported⟩ := List.mem_flatMap.mp (perm_reports.mem_iff.mp h)
  rwa [source_of_mem_reports reported]

end Change

/-- A check of two snapshots counts as changed the regions that are flagged, file by file. In a file
whose versions both can be read, and have regions with the same contents in the same order, it
flags none, and the file reports at most annotations that are out of place. Where the snapshots are
the same, no region is changed, and nothing is reported but such annotations and files that cannot
be read. -/
theorem check_of_same_regions {σ : Type} (source : Source σ) (settings : Settings) (old new : Text)
    (c : Change) (inv : σ → Prop) (showsOld : source.Shows inv True old c.old)
    (showsNew : source.Shows inv True new c.new) (s after : Session σ) (begins : inv s.memory)
    (v : Verdict) (run : (check source settings old new).perform s = (.ok v, after)) :
    v.regionsChanged = ((c.scanned settings).flatMap (c.changedRegions settings)).length ∧
      (∀ path before after, c.old.read path = .ok before → c.new.read path = .ok after →
        (regionsIn settings.convention path before).map Region.content =
            (regionsIn settings.convention path after).map Region.content →
          c.changedRegions settings path = [] ∧
            ∀ f ∈ v.findings, f.source = path → f.reason = .malformed) ∧
      (c.old = c.new → v.regionsChanged = 0 ∧ ∀ f ∈ v.findings,
        f.reason = .malformed ∨ f.reason = .unreadable ∧ f.regionIndex = none) := by
  obtain ⟨rfl, -⟩ := (check_yields (.inr trivial) showsOld showsNew).eq_of_perform begins run
  refine ⟨Change.regionsChanged_verdict, ?_, ?_⟩
  · intro path before after readOld readNew same
    have contents := Change.contents_eq_ok.mpr ⟨readOld, readNew⟩
    have none := Change.changedRegions_eq_nil contents same
    refine ⟨none, ?_⟩
    rintro f found rfl
    have reported := Change.mem_reports_of_mem_verdict found
    rw [Change.reports_of_changedRegions none] at reported
    exact Change.malformed_of_mem_ownFindings contents reported
  · intro same
    constructor
    · have none : (c.scanned settings).flatMap (c.changedRegions settings) = [] :=
        List.flatMap_eq_nil_iff.mpr fun path _ => Change.changedRegions_of_same same path
      rw [Change.regionsChanged_verdict, none]
      rfl
    · intro f found
      have reported := Change.mem_reports_of_mem_verdict found
      rw [Change.reports_of_changedRegions (Change.changedRegions_of_same same _)] at reported
      exact Change.reason_of_mem_ownFindings reported

theorem check_of_moved_regions :
    let region : Text := "# if-change\nx\n# then-change\n# b\n# end-change\n"
    let edited : Text := "y\n" ++ region ++ "# end-change\n" ++ region
    let answers : List (List Text × Text) :=
      [(["rev-parse", "--verify", "--quiet", "1^\x7bcommit\x7d"], "c1\n"),
        (["rev-parse", "--verify", "--quiet", "2^\x7bcommit\x7d"], "c2\n"),
        (["ls-tree", "-r", "-z", "--full-tree", "c1"], "1 blob 0\ta\x00"),
        (["ls-tree", "-r", "-z", "--full-tree", "c2"], "1 blob 0\ta\x00"),
        (["cat-file", "--filters", "c1:a"], region ++ region),
        (["cat-file", "--filters", "c2:a"], edited)]
    let git (arguments : List Text) : CommandOutcome :=
      match answers.lookup arguments with
      | none => .finished { code := 1, out := [], err := [] }
      | some out => .finished { code := 0, out := out.toUtf8, err := [] }
    let r : Repository := { git, files := {}, location := .ofText "/" }
    let settings : Settings := { matching := .sequence }
    ∃ v after, (check r.source settings "1" "2").perform { memory := {} } = (.ok v, after) ∧
      (regionsIn settings.convention "a" (some edited.toUtf8)).map Region.firstLine = [3, 9] ∧
      v.findings.map Finding.text =
        ["a:7 - [MalformedAnnotation] end-change must follow an if-change and then-change"] ∧
      ∀ f ∈ v.findings, f.source = "a" → f.reason = .malformed := by
  intro region edited answers git r settings
  let c : Change := { old := r.snapshotOf "1", new := r.snapshotOf "2" }
  have found : ((check r.source settings "1" "2").perform { memory := {} }).1.toOption.map
      (fun v => v.findings.map Finding.text) =
        some [("a:7 - [MalformedAnnotation] end-change must follow an if-change and then-change" :
          Text)] := by
    decide +kernel
  rcases run : (check r.source settings "1" "2").perform { memory := {} } with ⟨fault | v, after⟩
  · rw [run] at found
    cases found
  rw [run] at found
  obtain ⟨-, kept, -⟩ := check_of_same_regions r.source settings "1" "2" c r.Faithful (r.shows "1")
    (r.shows "2") { memory := {} } after r.faithful_empty v run
  have readOld : c.old.read "a" = .ok (some (region ++ region).toUtf8) := by decide +kernel
  have readNew : c.new.read "a" = .ok (some edited.toUtf8) := by decide +kernel
  obtain ⟨-, reasons⟩ := kept "a" _ _ readOld readNew (by decide +kernel)
  exact ⟨v, after, rfl, by decide +kernel, Option.some.inj found, reasons⟩

end Lockstep
