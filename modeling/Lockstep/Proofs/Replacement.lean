import Lockstep.Proofs.Obligations
import Lockstep.Proofs.SortKeys
import Lockstep.Proofs.Unchanged

/-! That a change of a target takes back what was asked of it, and nothing else. A file with no
region and no directive of its own takes part in a check only as a target. When new content takes
the place of its new version, each other file is compared as before, and so all that can differ is
what comes of the edges that lead to it. -/
namespace Lockstep

def Finding.asksFor (file : Path) (f : Finding) : Bool :=
  f.reason = .targetUnchanged && f.target = some file

theorem Digest.Separates.map_ne {before : Option Bytes} {content : Bytes}
    (separated : Digest.Separates (before.toList ++ [content])) (differs : before ≠ some content) :
    before.map Digest.ofBytes ≠ (some content).map Digest.ofBytes := by
  intro same
  cases before with
  | none => cases same
  | some bytes =>
    have equal := separated bytes (by simp) content (by simp) (Option.some.inj same)
    exact differs (congrArg some equal)

theorem filter_of_not_asked {file : Path} {found : Option Finding}
    (h : ∀ f ∈ found, f.asksFor file = false) :
    found.filter (fun f => !f.asksFor file) = found := by
  cases found with
  | none => rfl
  | some f => simp [h f rfl]

namespace Check

theorem asksFor_unchanged (file : Path) (e : Edge) (message : Text) :
    (edgeFinding e (some file) .targetUnchanged message).asksFor file = true := by
  simp [Finding.asksFor, edgeFinding]

theorem asksFor_of_mem_judge {file target : Path} {e : Edge} {k : Comparison} {f : Finding}
    (other : target ≠ file) (h : f ∈ judge e target k) : f.asksFor file = false := by
  have named : f.target = some target := by
    unfold judge at h
    split at h
    · cases h
      rfl
    · split at h
      · cases h
        rfl
      · cases h
  simp [Finding.asksFor, named, other]

end Check

structure Snapshot.AgreeBut (file : Path) (s t : Snapshot) : Prop where
  files : t.files = s.files
  read : ∀ path, path ≠ file → t.read path = s.read path

theorem Snapshot.AgreeBut.refl (file : Path) (s : Snapshot) : s.AgreeBut file s :=
  ⟨rfl, fun _ _ => rfl⟩

namespace Change

structure AgreeBut (file : Path) (c d : Change) : Prop where
  old : c.old.AgreeBut file d.old
  new : c.new.AgreeBut file d.new

/-- Whether a file has neither regions nor anything to report on its own account. -/
structure IsQuiet (c : Change) (settings : Settings) (file : Path) : Prop where
  ownFindings : c.ownFindings settings file = []
  newRegions : c.newRegions settings file = []

variable {c d : Change} {settings : Settings} {file : Path}

theorem isQuiet_of_contents {before after : Option Bytes}
    (contents : c.contents file = .ok (before, after))
    (empty : ∀ bytes ∈ after, (FileScan.ofContent settings.convention file bytes).regions = [] ∧
      (FileScan.ofContent settings.convention file bytes).errors = []) :
    c.IsQuiet settings file := by
  cases after with
  | none =>
    constructor
    · simp [Change.ownFindings, contents]
    · simp [Change.newRegions, contents, regionsIn]
  | some bytes =>
    obtain ⟨regions, errors⟩ := empty bytes rfl
    constructor
    · simp [Change.ownFindings, contents, errors]
    · simp [Change.newRegions, contents, regionsIn, regions]

theorem IsQuiet.changedRegions (h : c.IsQuiet settings file) :
    c.changedRegions settings file = [] :=
  List.sublist_nil.mp (h.newRegions ▸ changedRegions_sublist file)

theorem asksFor_of_mem_ownFindings {path : Path} {f : Finding}
    (h : f ∈ c.ownFindings settings path) : f.asksFor file = false := by
  rcases reason_of_mem_ownFindings h with reason | ⟨reason, -⟩
  · simp [Finding.asksFor, reason]
  · simp [Finding.asksFor, reason]

namespace AgreeBut

variable (agree : AgreeBut file c d)

include agree

theorem known : d.known = c.known := by
  simp only [Change.known, agree.old.files, agree.new.files]

theorem contents {path : Path} (other : path ≠ file) : d.contents path = c.contents path := by
  simp only [Change.contents, agree.old.read path other, agree.new.read path other]

theorem scanned : d.scanned settings = c.scanned settings := by
  simp only [Change.scanned, agree.known]

theorem newRegions (quietBefore : c.IsQuiet settings file) (quietAfter : d.IsQuiet settings file) :
    d.newRegions settings = c.newRegions settings := by
  funext path
  by_cases same : path = file
  · rw [same, quietBefore.newRegions, quietAfter.newRegions]
  · simp only [Change.newRegions, agree.contents same]

theorem changedRegions (quietBefore : c.IsQuiet settings file)
    (quietAfter : d.IsQuiet settings file) :
    d.changedRegions settings = c.changedRegions settings := by
  funext path
  by_cases same : path = file
  · rw [same, quietBefore.changedRegions, quietAfter.changedRegions]
  · simp only [Change.changedRegions, agree.contents same]

theorem ownFindings (quietBefore : c.IsQuiet settings file) (quietAfter : d.IsQuiet settings file) :
    d.ownFindings settings = c.ownFindings settings := by
  funext path
  by_cases same : path = file
  · rw [same, quietBefore.ownFindings, quietAfter.ownFindings]
  · simp only [Change.ownFindings, agree.contents same]

theorem leadsOut : Check.leadsOut d settings = Check.leadsOut c settings := by
  funext e
  simp only [Check.leadsOut, agree.known]

theorem judgement {before after : Option Bytes} {content : Bytes}
    (contentsBefore : c.contents file = .ok (before, after))
    (contentsAfter : d.contents file = .ok (before, some content))
    (apart : before.map Digest.ofBytes ≠ (some content).map Digest.ofBytes) (e : Edge) :
    Check.judgement d settings e =
      (Check.judgement c settings e).filter fun f => !f.asksFor file := by
  unfold Check.judgement
  rw [agree.known, agree.new.files]
  cases settings.resolve c.known e.source.file e.target with
  | none => rfl
  | some target =>
    by_cases listed : c.new.files.contains target = true
    · simp only [listed, if_true]
      by_cases same : target = file
      · subst same
        rw [Check.judge_of_contents contentsBefore, Check.judge_of_contents contentsAfter,
          if_neg apart]
        split
        · rw [Option.filter_some, Check.asksFor_unchanged]
          rfl
        · rfl
      · rw [comparison, agree.contents same, ← comparison]
        exact (filter_of_not_asked fun f found => Check.asksFor_of_mem_judge same found).symm
    · simp only [listed]
      rfl

section

variable (quietBefore : c.IsQuiet settings file) (quietAfter : d.IsQuiet settings file)
  (judged : ∀ path, ∀ r ∈ c.changedRegions settings path, ∀ e ∈ Graph.edgesOf r,
    Check.judgement d settings e =
      (Check.judgement c settings e).filter fun f => !f.asksFor file)

include quietBefore quietAfter judged

theorem reports (path : Path) :
    d.reports settings path = (c.reports settings path).filter fun f => !f.asksFor file := by
  have own : (c.ownFindings settings path).filter (fun f => !f.asksFor file) =
      c.ownFindings settings path := by
    apply List.filter_eq_self.mpr
    intro f found
    simp [asksFor_of_mem_ownFindings found]
  simp only [Change.reports, agree.ownFindings quietBefore quietAfter,
    agree.changedRegions quietBefore quietAfter, agree.leadsOut, List.filter_append, own,
    List.filter_flatMap]
  congr 1
  apply List.flatMap_congr
  intro r changed
  rw [List.filter_filterMap]
  apply List.filterMap_congr
  intro e due
  exact judged path r changed e (List.mem_of_mem_filter due)

theorem perm_findings :
    ((c.verdict settings).findings.filter fun f => !f.asksFor file).Perm
      (d.verdict settings).findings := by
  have before := (@perm_reports c settings).filter fun f => !f.asksFor file
  have after := @perm_reports d settings
  have reports := funext (agree.reports quietBefore quietAfter judged)
  rw [List.filter_flatMap] at before
  rw [agree.scanned, reports] at after
  exact before.trans after.symm

theorem verdict :
    d.verdict settings =
      { c.verdict settings with
        findings := (c.verdict settings).findings.filter fun f => !f.asksFor file } := by
  have findings := findings_eq_of_perm (agree.perm_findings quietBefore quietAfter judged)
    ((c.pairwise_verdict settings).filter _)
  have regions := agree.newRegions quietBefore quietAfter
  have changed := agree.changedRegions quietBefore quietAfter
  rw [findings]
  have counts (v w : Verdict) (files : v.filesScanned = w.filesScanned)
      (found : v.regionsFound = w.regionsFound) (changed : v.regionsChanged = w.regionsChanged)
      (edges : v.edgesChecked = w.edgesChecked) : v = { w with findings := v.findings } := by
    cases v
    cases w
    simp_all
  apply counts
  · rw [filesScanned_verdict, filesScanned_verdict, agree.scanned]
  · rw [regionsFound_verdict, regionsFound_verdict, agree.scanned, regions]
  · rw [regionsChanged_verdict, regionsChanged_verdict, agree.scanned, changed]
  · rw [edgesChecked_verdict, edgesChecked_verdict, agree.scanned, changed, agree.leadsOut]

end

end AgreeBut
end Change

namespace Archive

def replace (files : List (Path × Stored)) (file : Path) (content : Bytes) :
    List (Path × Stored) :=
  files.map fun (path, stored) => (path, if path = file then .content content else stored)

variable {a : Archive} {files : List (Path × Stored)} {file : Path} {content : Bytes}

theorem lookup_filter_of_ne {α : Type} {ref name : Text} (other : name ≠ ref)
    (entries : List (Text × α)) :
    (entries.filter (·.1 ≠ ref)).lookup name = entries.lookup name := by
  induction entries with
  | nil => rfl
  | cons entry rest ih =>
    by_cases gone : entry.1 = ref
    · rw [List.filter_cons_of_neg (by simp [gone]), ih, List.lookup_cons,
        beq_false_of_ne (gone ▸ other)]
    · rw [List.filter_cons_of_pos (by simp [gone]), List.lookup_cons, List.lookup_cons, ih]

theorem snapshot?_add (a : Archive) (ref name : Text) (files : List (Path × Stored)) :
    (a.add ref files).snapshot? name = if name = ref then some files else a.snapshot? name := by
  unfold add snapshot?
  by_cases same : name = ref
  · rw [if_pos same, same, List.lookup_cons_self]
  · rw [if_neg same, List.lookup_cons, beq_false_of_ne same]
    exact lookup_filter_of_ne same a.snapshots

theorem lookup_replace (path : Path) :
    (replace files file content).lookup path =
      if path = file then (files.lookup path).map fun _ => .content content
      else files.lookup path := by
  unfold replace
  induction files with
  | nil => simp
  | cons entry rest ih =>
    rw [List.map_cons, List.lookup_cons, List.lookup_cons, ih]
    by_cases here : path = entry.1
    · by_cases same : entry.1 = file <;> simp [here, same]
    · simp [beq_false_of_ne here]

theorem encodable_replace (stored : ∀ file ∈ files, file.2.Encodable) :
    ∀ held ∈ replace files file content, held.2.Encodable := by
  intro held mem
  obtain ⟨⟨path, own⟩, kept, rfl⟩ := List.mem_map.mp mem
  dsimp only
  split
  · trivial
  · exact stored (path, own) kept

theorem read_replace (ref : Text) (listed : file ∈ (snapshotOf ref files).files) :
    (snapshotOf ref (replace files file content)).read file = .ok (some content) := by
  simp only [snapshotOf, lookup_replace, if_true]
  cases found : files.lookup file with
  | some stored => rfl
  | none =>
    obtain ⟨entry, mem, rfl⟩ := List.mem_map.mp listed
    exact absurd (List.lookup_eq_none_iff.mp found entry mem) (by simp)

theorem agreeBut_replace (ref : Text) :
    (snapshotOf ref files).AgreeBut file (snapshotOf ref (replace files file content)) := by
  constructor
  · simp [snapshotOf, replace, Function.comp_def]
  · intro path other
    simp only [snapshotOf, lookup_replace, if_neg other]

end Archive

/-- New content for a target, where it has neither regions nor directives of its own before and
after and differs from the old version after, discharges what was asked for, if UTF-8 has bytes for
the markers and for the stored texts: a check finds what it found before, in the same order, less
the findings that ask for a change of this target, and counts the same. -/
theorem check_of_replaced_target (a : Archive) (settings : Settings) (old new : Text)
    (oldFiles newFiles : List (Path × Stored))
    (holdsOld : a.snapshot? old = some oldFiles) (holdsNew : a.snapshot? new = some newFiles)
    (encodable : settings.convention.markers.Encodable)
    (storedOld : ∀ file ∈ oldFiles, file.2.Encodable)
    (storedNew : ∀ file ∈ newFiles, file.2.Encodable)
    (file : Path) (listed : file ∈ newFiles.map Prod.fst) (before after : Option Bytes)
    (content : Bytes) (readOld : (Archive.snapshotOf old oldFiles).read file = .ok before)
    (readNew : (Archive.snapshotOf new newFiles).read file = .ok after)
    (differs : before ≠ some content)
    (separated : Digest.Separates (before.toList ++ [content]))
    (quiet : ∀ bytes ∈ after.toList ++ [content],
      (FileScan.ofContent settings.convention file bytes).regions = [] ∧
        (FileScan.ofContent settings.convention file bytes).errors = []) (s t : Session Unit) :
    let b := a.add new (Archive.replace newFiles file content)
    ∃ v w ended ended',
      (check a.source settings old new).perform s = (.ok v, ended) ∧
        (check b.source settings old new).perform t = (.ok w, ended') ∧
        w = { v with findings := v.findings.filter fun f =>
                !(f.reason = .targetUnchanged && f.target = some file) } := by
  intro b
  let replaced := Archive.replace newFiles file content
  let c : Change :=
    { old := Archive.snapshotOf old oldFiles, new := Archive.snapshotOf new newFiles }
  have contents : c.contents file = .ok (before, after) :=
    Change.contents_eq_ok.mpr ⟨readOld, readNew⟩
  have quietBefore : c.IsQuiet settings file := Change.isQuiet_of_contents contents
    fun bytes mem => quiet bytes (List.mem_append_left _ (Option.mem_toList.mpr mem))
  have quietContent : ∀ bytes ∈ some content,
      (FileScan.ofContent settings.convention file bytes).regions = [] ∧
        (FileScan.ofContent settings.convention file bytes).errors = [] := by
    rintro bytes ⟨⟩
    exact quiet content (by simp)
  have readReplaced : (Archive.snapshotOf new replaced).read file = .ok (some content) :=
    Archive.read_replace new listed
  have holdsReplaced : b.snapshot? new = some replaced := by
    rw [Archive.snapshot?_add, if_pos rfl]
  have storedReplaced : ∀ file ∈ replaced, file.2.Encodable := Archive.encodable_replace storedNew
  obtain ⟨ended, run⟩ := @check_returns Unit a.source settings old new c encodable
    (Archive.holds holdsOld storedOld) (Archive.holds holdsNew storedNew) s
  by_cases same : old = new
  · -- The content is replaced in both snapshots, between which no region changed.
    subst same
    cases holdsOld.symm.trans holdsNew
    let d : Change :=
      { old := Archive.snapshotOf old replaced, new := Archive.snapshotOf old replaced }
    have agree : Change.AgreeBut file c d :=
      ⟨Archive.agreeBut_replace old, Archive.agreeBut_replace old⟩
    have quietAfter : d.IsQuiet settings file := Change.isQuiet_of_contents
      (Change.contents_eq_ok.mpr ⟨readReplaced, readReplaced⟩) quietContent
    obtain ⟨ended', run'⟩ := @check_returns Unit b.source settings old old d encodable
      (Archive.holds holdsReplaced storedReplaced) (Archive.holds holdsReplaced storedReplaced) t
    refine ⟨_, _, ended, ended', run, run', agree.verdict quietBefore quietAfter ?_⟩
    intro path r changed
    rw [Change.changedRegions_of_same rfl] at changed
    cases changed
  · let d : Change :=
      { old := Archive.snapshotOf old oldFiles, new := Archive.snapshotOf new replaced }
    have agree : Change.AgreeBut file c d := ⟨.refl file _, Archive.agreeBut_replace new⟩
    have contents' : d.contents file = .ok (before, some content) :=
      Change.contents_eq_ok.mpr ⟨readOld, readReplaced⟩
    have quietAfter : d.IsQuiet settings file :=
      Change.isQuiet_of_contents contents' quietContent
    have holdsKept : b.snapshot? old = some oldFiles := by
      rw [Archive.snapshot?_add, if_neg same, holdsOld]
    obtain ⟨ended', run'⟩ := @check_returns Unit b.source settings old new d encodable
      (Archive.holds holdsKept storedOld) (Archive.holds holdsReplaced storedReplaced) t
    refine ⟨_, _, ended, ended', run, run', agree.verdict quietBefore quietAfter ?_⟩
    intro path r _ e _
    exact agree.judgement contents contents' (separated.map_ne differs) e

theorem check_of_replaced_target_of_three :
    let region (body : Text) : Stored := .text ("# if-change\n" ++ body ++
      "\n# then-change\n# d/b\n# ./b\n# c\n# e\n# ../d//b\n# end-change\n")
    let oldFiles : List (Path × Stored) :=
      [("d/a", region "x"), ("d/b", .content [1]), ("c", .content [2])]
    let newFiles : List (Path × Stored) :=
      [("d/a", region "y"), ("d/b", .content [1]), ("c", .content [2])]
    let a : Archive := { snapshots := [("1", oldFiles), ("2", newFiles)] }
    let b := a.add "2" (Archive.replace newFiles "d/b" [3])
    let settings : Settings := { exclude := ["*b"] }
    let shown (v : Verdict) : List (Reason × Option Text) :=
      v.findings.map fun f => (f.reason, f.target)
    let unchanged (file : Path) : Reason × Option Text := (.targetUnchanged, some file)
    let missing (file : Path) : Reason × Option Text := (.targetMissing, some file)
    ∃ v w ended ended',
      (check a.source settings "1" "2").perform { memory := () } = (.ok v, ended) ∧
        (check b.source settings "1" "2").perform { memory := () } = (.ok w, ended') ∧
        shown v = [unchanged "d/b", unchanged "d/b", unchanged "c", missing "e", unchanged "d/b"] ∧
        shown w = [unchanged "c", missing "e"] ∧ w.edgesChecked = v.edgesChecked := by
  intro region oldFiles newFiles a b settings shown unchanged missing
  have found : ((check a.source settings "1" "2").perform { memory := () }).1.toOption.map shown =
      some [unchanged "d/b", unchanged "d/b", unchanged "c", missing "e", unchanged "d/b"] := by
    decide +kernel
  have separated : Digest.Separates [[1], [3]] := by
    unfold Digest.Separates
    decide +kernel
  obtain ⟨v, w, ended, ended', run, run', same⟩ := check_of_replaced_target a settings "1" "2"
    oldFiles newFiles rfl rfl (by decide) (by decide) (by decide) "d/b" (by decide) (some [1])
    (some [1]) [3] (by decide +kernel) (by decide +kernel) (by decide) separated
    (by decide +kernel) { memory := () } { memory := () }
  have before := Access.eq_of_map_toOption run found
  have after : shown w = (shown v).filter fun (reason, target) =>
      !(reason = .targetUnchanged && target = some "d/b") := by
    simp only [shown, same, List.filter_map]
    rfl
  exact ⟨v, w, ended, ended', run, run', before, by rw [after, before]; decide, by rw [same]⟩

end Lockstep
