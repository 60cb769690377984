import Mathlib.Logic.Function.Basic
import Lockstep.Proofs.Aborts
import Lockstep.Proofs.Exclusion
import Lockstep.Proofs.Listings
import Lockstep.Proofs.Surveys

/-! That one file that cannot be read is one finding, and no reason to give up. The file reports it,
and so do the regions that ask for the file. All other files report what they would report if the
file could be read. -/
namespace Lockstep

namespace Change

structure AgreeOn (here : Path → Prop) (c d : Change) : Prop where
  old : d.old.files = c.old.files
  new : d.new.files = c.new.files
  contents : ∀ path, here path → d.contents path = c.contents path

/-- Whether a file has a region, in its new version, with a target that names another file. -/
def Targets (c : Change) (settings : Settings) (file target : Path) : Prop :=
  ∃ r ∈ c.newRegions settings file, ∃ written ∈ r.targets,
    settings.resolve c.known file written = some target

variable {c d : Change} {settings : Settings} {here : Path → Prop} {file : Path}

theorem target_of_mem_edgesOf {r : Region} {e : Edge} (h : e ∈ Graph.edgesOf r) :
    e.target ∈ r.targets := by
  unfold Graph.edgesOf at h
  obtain ⟨place, less, rfl⟩ := List.mem_mapIdx.mp h
  exact List.getElem_mem less

namespace AgreeOn

variable (agree : AgreeOn here c d)

include agree

theorem known : d.known = c.known := by
  rw [Change.known, Change.known, agree.old, agree.new]

theorem scanned : d.scanned settings = c.scanned settings := by
  rw [Change.scanned, Change.scanned, agree.known]

theorem judgement {e : Edge}
    (same : ∀ target, settings.resolve c.known e.source.file e.target = some target →
      here target) :
    Check.judgement d settings e = Check.judgement c settings e := by
  unfold Check.judgement
  rw [agree.known, agree.new]
  cases resolved : settings.resolve c.known e.source.file e.target with
  | none => rfl
  | some target =>
    dsimp only
    rw [comparison, agree.contents target (same target resolved), ← comparison]

theorem reports (own : here file)
    (others : ∀ target, c.Targets settings file target → here target) :
    d.reports settings file = c.reports settings file := by
  have contents := agree.contents file own
  have findings : d.ownFindings settings file = c.ownFindings settings file := by
    simp only [ownFindings, contents]
  have changed : d.changedRegions settings file = c.changedRegions settings file := by
    simp only [changedRegions, contents]
  have leadsOut : Check.leadsOut d settings = Check.leadsOut c settings := by
    funext e
    simp only [Check.leadsOut, agree.known]
  rw [Change.reports, Change.reports, findings, changed, leadsOut]
  congr 1
  apply List.flatMap_congr
  intro r mem
  apply List.filterMap_congr
  intro e due
  apply agree.judgement
  intro target resolved
  have found := (changedRegions_sublist file).subset mem
  have edge := List.mem_of_mem_filter due
  rw [Graph.source_of_mem_edgesOf edge, file_of_mem_newRegions found] at resolved
  exact others target ⟨r, found, e.target, target_of_mem_edgesOf edge, resolved⟩

end AgreeOn

theorem perm_filter_source (c : Change) (settings : Settings) (file : Path) :
    ((c.verdict settings).findings.filter (·.source = file)).Perm
      (((c.scanned settings).filter (· = file)).flatMap (c.reports settings)) := by
  have perm := (@perm_reports c settings).filter (·.source = file)
  rwa [filter_flatMap_of_const (q := (· = file)) fun path f found => by
    rw [source_of_mem_reports found]] at perm

theorem AgreeOn.filter_findings (agree : AgreeOn here c d) (own : here file)
    (others : ∀ target, c.Targets settings file target → here target) :
    (c.verdict settings).findings.filter (·.source = file) =
      (d.verdict settings).findings.filter (·.source = file) := by
  have reports : ((d.scanned settings).filter (· = file)).flatMap (d.reports settings) =
      ((c.scanned settings).filter (· = file)).flatMap (c.reports settings) := by
    rw [agree.scanned]
    apply List.flatMap_congr
    intro path mem
    obtain rfl : path = file := by simpa using (List.mem_filter.mp mem).2
    exact agree.reports own others
  have perm := (c.perm_filter_source settings file).trans
    (reports ▸ (d.perm_filter_source settings file).symm)
  obtain ⟨compared, ofEdges, gathered⟩ := @gathered d settings
  exact gathered.eq_of_perm_sublist List.filter_sublist perm
    ((c.pairwise_verdict settings).sublist List.filter_sublist)

theorem mem_findings_of_mem_reports {f : Finding} (scanned : file ∈ c.scanned settings)
    (h : f ∈ c.reports settings file) : f ∈ (c.verdict settings).findings :=
  perm_reports.mem_iff.mpr (List.mem_flatMap.mpr ⟨file, scanned, h⟩)

/-- Whether a verdict reports that a file cannot be read: on the file's own account, unless it is
excluded, and for each target of a changed region that names it. -/
structure Tells (c : Change) (settings : Settings) (v : Verdict) (failure : ReadError) : Prop where
  own : settings.excludes failure.path = false →
    { source := failure.path, reason := .unreadable, message := failure.message } ∈ v.findings
  targets : ∀ file ∈ c.scanned settings, ∀ r ∈ c.changedRegions settings file,
    ∀ e ∈ Graph.edgesOf r, settings.resolve c.known file e.target = some failure.path →
      failure.path ≠ file → failure.path ∈ c.new.files →
        Check.edgeFinding e (some failure.path) .unreadable failure.message ∈ v.findings

theorem tells_of_failed {failure : ReadError}
    (failed : c.contents failure.path = .error failure) (known : failure.path ∈ c.known) :
    c.Tells settings (c.verdict settings) failure := by
  constructor
  · intro included
    apply mem_findings_of_mem_reports (mem_scanned.mpr ⟨known, included⟩)
    apply List.mem_append_left
    rw [ownFindings, failed]
    exact List.mem_singleton_self _
  · intro file scanned r changed e edge resolved other listed
    have source : e.source.file = file := by
      rw [Graph.source_of_mem_edgesOf edge]
      exact file_of_mem_newRegions ((changedRegions_sublist file).subset changed)
    apply mem_findings_of_mem_reports scanned
    apply List.mem_append_right
    apply List.mem_flatMap.mpr
    refine ⟨r, changed, List.mem_filterMap.mpr ⟨e, List.mem_filter.mpr ⟨edge, ?_⟩, ?_⟩⟩
    · simp [Check.leadsOut, source, resolved, other]
    · simp only [Check.judgement, source, resolved, List.contains_iff_mem.mpr listed, if_true]
      rw [comparison, failed]
      rfl

end Change

namespace Repository

def Reads (r : Repository) (ref : Text) (path : Path) (arguments : List Text) : Prop :=
  ref ≠ workTree ∧ ∃ commit files, r.commitOf ref = .ok commit ∧
    r.filesAt ref commit = .ok files ∧ path ∈ files ∧ arguments = contentCommand commit path

/-- Whether a command that reads a file of a snapshot ends in a fault, because it does not come to
an end or git is not there. -/
def Breaks (r : Repository) (ref : Text) (fault : Fault) : Prop :=
  ∃ path arguments, r.Reads ref path arguments ∧ r.answer arguments = .error fault

/-- Whether a check gives a verdict, unless a command that reads a file ends in a fault, or a marker
is refused. -/
def Concludes (r : Repository) (settings : Settings) (old new : Text) (s : Session Recollection) :
    Prop :=
  (∃ v, ((check r.source settings old new).perform s).1 = .ok v) ∨
    ∃ fault, ((check r.source settings old new).perform s).1 = .error fault ∧
      (r.Breaks old fault ∨ r.Breaks new fault ∨ settings.convention.markers.Refuses fault)

/-- Whether a command reads a file in one of two snapshots, or a file that it targets. -/
def Concerns (r : Repository) (settings : Settings) (old new : Text) (arguments : List Text)
    (file : Path) : Prop :=
  ∃ path, (path = file ∨ (r.change old new).Targets settings file path) ∧
    (r.Reads old path arguments ∨ r.Reads new path arguments)

def withAnswer (r : Repository) (arguments : List Text) (given : CommandResult) : Repository :=
  { r with git := Function.update r.git arguments (.finished given) }

variable {r : Repository} {ref : Text} {path : Path} {arguments : List Text}

theorem origin_of_readWorkTree {e : ReadError} (h : r.readWorkTree path = .error e) :
    e.ref = workTree ∧ e.path = path := by
  unfold readWorkTree at h
  dsimp only at h
  split at h
  · cases h
    exact ⟨rfl, rfl⟩
  · cases h
  · split at h
    · cases h
      exact ⟨rfl, rfl⟩
    · cases h
    · cases h

theorem origin_of_heldBy {result : CommandResult} {e : ReadError}
    (h : heldBy ref path result = .error e) : e.ref = ref ∧ e.path = path := by
  unfold heldBy at h
  split at h
  · cases h
    exact ⟨rfl, rfl⟩
  · cases h

namespace Reads

variable (reads : r.Reads ref path arguments)

include reads

theorem eq_contentCommand : ∃ commit, arguments = contentCommand commit path := by
  obtain ⟨-, commit, -, -, -, -, command⟩ := reads
  exact ⟨commit, command⟩

theorem mem_listed : ∃ files, r.listed ref = .ok files ∧ path ∈ files := by
  obtain ⟨other, commit, files, named, filesAt, mem, -⟩ := reads
  exact ⟨files, listed_of_filesAt other named filesAt, mem⟩

theorem content : r.content ref path = (r.answer arguments).map (heldBy ref path) := by
  obtain ⟨other, commit, files, named, filesAt, mem, rfl⟩ := reads
  exact content_of_listed other (listed_of_filesAt other named filesAt) named mem

end Reads

section

variable {files : List Path} (listed : r.listed ref = .ok files)

include listed

theorem files_of_listed : (r.snapshotOf ref).files = files := by
  rw [snapshotOf, listed]
  rfl

theorem content_cases (path : Path) :
    ref = workTree ∧ r.content ref path = .ok (r.readWorkTree path) ∨
      r.content ref path = .ok (.ok none) ∨ ∃ arguments, r.Reads ref path arguments ∧
        r.content ref path = (r.answer arguments).map (heldBy ref path) := by
  by_cases onDisk : ref = workTree
  · left
    rw [content, if_pos onDisk]
    exact ⟨onDisk, rfl⟩
  by_cases mem : path ∈ files
  · obtain ⟨commit, named, filesAt⟩ := exists_commit_of_listed onDisk listed
    have reads : r.Reads ref path (contentCommand commit path) :=
      ⟨onDisk, commit, files, named, filesAt, mem, rfl⟩
    right
    right
    exact ⟨_, reads, reads.content⟩
  · right
    left
    exact content_of_unlisted onDisk listed mem

theorem origin_of_content {e : ReadError} (h : r.content ref path = .ok (.error e)) :
    e.ref = ref ∧ e.path = path := by
  rcases content_cases listed path with ⟨rfl, disk⟩ | absent | ⟨arguments, -, read⟩
  · exact origin_of_readWorkTree (Except.ok.inj (disk.symm.trans h))
  · cases absent.symm.trans h
  · rw [read] at h
    cases said : r.answer arguments with
    | error fault =>
      rw [said] at h
      cases h
    | ok result =>
      rw [said] at h
      exact origin_of_heldBy (Except.ok.inj h)

theorem breaks_of_content {fault : Fault} (h : r.content ref path = .error fault) :
    r.Breaks ref fault := by
  rcases content_cases listed path with ⟨-, disk⟩ | absent | ⟨arguments, reads, read⟩
  · cases disk.symm.trans h
  · cases absent.symm.trans h
  · refine ⟨path, arguments, reads, ?_⟩
    rw [read] at h
    cases said : r.answer arguments with
    | error other =>
      rw [said] at h
      exact congrArg _ (Except.error.inj h)
    | ok result =>
      rw [said] at h
      cases h

end

/-! Another answer to a command that reads a file makes a difference to the files that the command
reads, and to nothing else. -/
section

variable {commit : Text} {held : Path} (command : arguments = contentCommand commit held)
  (given : CommandResult)

theorem answer_withAnswer {others : List Text} (apart : others ≠ arguments) :
    (r.withAnswer arguments given).answer others = r.answer others := by
  simp only [answer, withAnswer, Function.update_of_ne apart]

include command

theorem commitOf_withAnswer : (r.withAnswer arguments given).commitOf = r.commitOf := by
  funext ref
  have apart : commitCommand ref ≠ arguments :=
    command ▸ (contentCommand_ne_commitCommand commit held ref).symm
  have same := @answer_withAnswer r _ given _ apart
  rw [commitCommand] at same
  simp only [commitOf, same]

theorem filesAt_withAnswer : (r.withAnswer arguments given).filesAt = r.filesAt := by
  funext ref other
  have apart : treeCommand other ≠ arguments :=
    command ▸ (contentCommand_ne_treeCommand commit held other).symm
  have same := @answer_withAnswer r _ given _ apart
  rw [treeCommand] at same
  simp only [filesAt, same]

theorem listed_withAnswer : (r.withAnswer arguments given).listed = r.listed := by
  funext ref
  have apart : workTreeCommand ≠ arguments :=
    command ▸ (contentCommand_ne_workTreeCommand commit held).symm
  have same := @answer_withAnswer r _ given _ apart
  rw [workTreeCommand] at same
  simp only [listed, filesOf, commitOf_withAnswer command, filesAt_withAnswer command, filesOnDisk,
    same]
  rfl

theorem faithful_withAnswer {m : Recollection} (faithful : r.Faithful m) :
    (r.withAnswer arguments given).Faithful m := by
  constructor
  · rw [commitOf_withAnswer command]
    exact faithful.commits
  · rw [filesAt_withAnswer command]
    exact faithful.trees

theorem content_withAnswer {files : List Path} (listed : r.listed ref = .ok files)
    (unread : ¬ r.Reads ref path arguments) :
    (r.withAnswer arguments given).content ref path = r.content ref path := by
  have again : (r.withAnswer arguments given).listed ref = .ok files := by
    rw [listed_withAnswer command, listed]
  by_cases onDisk : ref = workTree
  · rw [content, content, if_pos onDisk, if_pos onDisk]
    rfl
  by_cases mem : path ∈ files
  · obtain ⟨commit, named, filesAt⟩ := exists_commit_of_listed onDisk listed
    have apart : contentCommand commit path ≠ arguments := fun same =>
      unread ⟨onDisk, commit, files, named, filesAt, mem, same.symm⟩
    have named' : (r.withAnswer arguments given).commitOf ref = .ok commit := by
      rw [commitOf_withAnswer command, named]
    rw [content_of_listed onDisk listed named mem, content_of_listed onDisk again named' mem,
      answer_withAnswer given apart]
  · rw [content_of_unlisted onDisk listed mem, content_of_unlisted onDisk again mem]

end

theorem read_eq_error {e : ReadError} :
    (r.snapshotOf ref).read path = .error e ↔ r.content ref path = .ok (.error e) := by
  simp only [snapshotOf]
  cases r.content ref path with
  | error fault => simp [Except.toOption]
  | ok held => simp [Except.toOption]

section

variable {settings : Settings} {old new : Text} {oldFiles newFiles : List Path}
  (listsOld : r.listed old = .ok oldFiles) (listsNew : r.listed new = .ok newFiles)

include listsOld listsNew

theorem exists_failure (either : ref ∈ [old, new]) {e : ReadError}
    (failed : r.content ref path = .ok (.error e)) :
    ∃ failure : ReadError, (failure.ref ∈ [old, new] ∧ failure.path = path) ∧
      (r.change old new).contents path = .error failure := by
  unfold change Change.contents
  cases readOld : (r.snapshotOf old).read path with
  | error failure =>
    obtain ⟨rfl, own⟩ := origin_of_content listsOld (read_eq_error.mp readOld)
    exact ⟨failure, ⟨by simp, own⟩, rfl⟩
  | ok before =>
    have later : ref = new := by
      rcases List.mem_pair.mp either with rfl | same
      · cases readOld.symm.trans (read_eq_error.mpr failed)
      · exact same
    subst later
    dsimp only
    rw [read_eq_error.mpr failed]
    obtain ⟨rfl, own⟩ := origin_of_content listsNew failed
    exact ⟨e, ⟨by simp, own⟩, rfl⟩

theorem agreeOn_withAnswer {commit : Text} {held : Path}
    (command : arguments = contentCommand commit held) (given : CommandResult) :
    Change.AgreeOn (fun path => ¬ (r.Reads old path arguments ∨ r.Reads new path arguments))
      (r.change old new) ((r.withAnswer arguments given).change old new) := by
  constructor
  · simp only [change, snapshotOf, listed_withAnswer command]
  · simp only [change, snapshotOf, listed_withAnswer command]
  · intro path unread
    obtain ⟨unreadOld, unreadNew⟩ := not_or.mp unread
    simp only [change, Change.contents, snapshotOf,
      content_withAnswer command given listsOld unreadOld,
      content_withAnswer command given listsNew unreadNew]

theorem mem_known_of_reads (either : ref ∈ [old, new]) (reads : r.Reads ref path arguments) :
    path ∈ (r.change old new).known := by
  obtain ⟨files, listed, mem⟩ := reads.mem_listed
  have here : path ∈ (r.snapshotOf ref).files := (files_of_listed listed).symm ▸ mem
  rcases List.mem_pair.mp either with rfl | rfl
  · exact List.mem_append_left _ here
  · exact List.mem_append_right _ here

theorem concludes_of_listed {s : Session Recollection} (faithful : r.Faithful s.memory) :
    r.Concludes settings old new s := by
  let cause (fault : Fault) : Prop :=
    r.Breaks old fault ∨ r.Breaks new fault ∨ settings.convention.markers.Refuses fault
  have lists {ref : Text} {files : List Path} (listed : r.listed ref = .ok files) :
      (r.list ref).FailsOnly r.Faithful cause := by
    apply (list_answers ref).failsOnly
    intro fault failed
    cases listed.symm.trans failed
  have readsOld (path : Path) : (r.read old path).FailsOnly r.Faithful cause :=
    (read_answers old path).failsOnly fun _ failed => .inl (breaks_of_content listsOld failed)
  have readsNew (path : Path) : (r.read new path).FailsOnly r.Faithful cause :=
    (read_answers new path).failsOnly fun _ failed =>
      .inr (.inl (breaks_of_content listsNew failed))
  have fails := @check_failsOnly _ r.source settings old new _ cause
    (fun _ refused => .inr (.inr refused)) (lists listsOld) (lists listsNew) readsOld readsNew
  unfold Concludes
  cases run : ((check r.source settings old new).perform s).1 with
  | ok v => exact .inl ⟨v, rfl⟩
  | error fault => exact .inr ⟨fault, rfl, (fails s faithful).2 fault run⟩

end

/-- Two snapshots that can be listed are checked, unless a command that reads a file does not come
to an end or UTF-8 has no bytes for a marker. Where one of these fails, the file reports that it
cannot be read, and so do the regions that ask for it. Whatever git answers to this command instead,
the findings of the files that it does not concern are the same. -/
theorem check_of_failed_reads (r : Repository) (settings : Settings) (old new : Text)
    (s : Session Recollection) (faithful : r.Faithful s.memory) (oldFiles newFiles : List Path)
    (listsOld : ((r.list old).perform s).1 = .ok oldFiles)
    (listsNew : ((r.list new).perform s).1 = .ok newFiles) :
    let outcome (r : Repository) := ((check r.source settings old new).perform s).1
    r.Concludes settings old new s ∧
      ∀ v, outcome r = .ok v → ∀ ref ∈ [old, new], ∀ path arguments failed,
        r.Reads ref path arguments → r.git arguments = .finished failed → failed.code ≠ 0 →
          (∃ failure : ReadError, (failure.ref ∈ [old, new] ∧ failure.path = path) ∧
            (r.change old new).Tells settings v failure) ∧
          ∀ given, (r.withAnswer arguments given).Concludes settings old new s ∧
            ∀ w, outcome (r.withAnswer arguments given) = .ok w →
              ∀ file, ¬ r.Concerns settings old new arguments file →
                v.findings.filter (·.source = file) = w.findings.filter (·.source = file) := by
  intro outcome
  rw [(list_answers old).fst_perform faithful] at listsOld
  rw [(list_answers new).fst_perform faithful] at listsNew
  have returns (r : Repository) (faithful : r.Faithful s.memory) (v : Verdict)
      (run : outcome r = .ok v) : v = (r.change old new).verdict settings :=
    (@check_yields _ r.source settings old new (r.change old new) _ _ (.inr trivial)
      (r.shows old) (r.shows new)).eq_of_fst faithful run
  refine ⟨concludes_of_listed listsOld listsNew faithful, ?_⟩
  intro v run ref either path arguments failed reads said code
  obtain rfl := returns r faithful v run
  have known := mem_known_of_reads listsOld listsNew either reads
  constructor
  · have content : r.content ref path =
        .ok (.error { ref, path, reason := failed.complaint }) := by
      rw [reads.content, answer, said]
      simp only [Except.map, heldBy, if_pos code]
    obtain ⟨failure, ⟨named, rfl⟩, contents⟩ := exists_failure listsOld listsNew either content
    exact ⟨failure, ⟨named, rfl⟩, Change.tells_of_failed contents known⟩
  · intro given
    obtain ⟨commit, command⟩ := reads.eq_contentCommand
    have still := faithful_withAnswer command given faithful
    have same := listed_withAnswer (r := r) command given
    refine ⟨concludes_of_listed (same ▸ listsOld) (same ▸ listsNew) still, ?_⟩
    intro w again file apart
    obtain rfl := returns (r.withAnswer arguments given) still w again
    have agree := agreeOn_withAnswer listsOld listsNew command given
    apply agree.filter_findings
    · exact fun reads => apart ⟨file, .inl rfl, reads⟩
    · exact fun target names reads => apart ⟨target, .inr names, reads⟩

theorem check_of_failed_reads_of_three :
    let region (body : Text) : Text := "# if-change\n" ++ body ++ "\n# then-change a\n"
    let listing : Text := "1 blob 0\ta\x001 blob 0\tb\x001 blob 0\te\x00"
    let answers : List (List Text × Text) :=
      [(commitCommand "1", "c\n"), (commitCommand "2", "d\n"), (treeCommand "c", listing),
        (treeCommand "d", listing), (contentCommand "c" "a", "x"),
        (contentCommand "c" "b", region "x"), (contentCommand "d" "b", region "y"),
        (contentCommand "c" "e", "# end-change"), (contentCommand "d" "e", "# end-change")]
    let failed : CommandResult := { code := 1, out := [], err := Text.toUtf8 "lost" }
    let r : Repository := answering answers (.finished failed)
    let fixed := r.withAnswer (contentCommand "d" "a")
      { code := 0, out := Text.toUtf8 "y", err := [] }
    let outcome (r : Repository) := ((check r.source {} "1" "2").perform { memory := {} }).1
    let texts (v : Verdict) : List Text := v.findings.map Finding.text
    let ofLast (v : Verdict) : List Finding := v.findings.filter (·.source = Text.ofString "e")
    let lost (place : Text) : Text := place ++ " - [SnapshotReadError] cannot read a at 2: lost"
    let last : Text :=
      "e:1 - [MalformedAnnotation] end-change must follow an if-change and then-change"
    ∃ v w, outcome r = .ok v ∧ outcome fixed = .ok w ∧
      texts v = [lost "a", lost "b:2-3", last] ∧ texts w = [last] ∧ ofLast v = ofLast w := by
  intro region listing answers failed r fixed outcome texts ofLast lost last
  have found : (outcome r).toOption.map texts = some [lost "a", lost "b:2-3", last] := by
    decide +kernel
  have foundThen : (outcome fixed).toOption.map texts = some [last] := by decide +kernel
  obtain ⟨v, run, shown⟩ := Access.exists_ok_of_map_toOption found
  obtain ⟨w, again, shownThen⟩ := Access.exists_ok_of_map_toOption foundThen
  have first : r.commitOf "1" = .ok "c" := by decide +kernel
  have second : r.commitOf "2" = .ok "d" := by decide +kernel
  have files : r.filesAt "2" "d" = .ok ["a", "b", "e"] := by decide +kernel
  have reads : r.Reads "2" "a" (contentCommand "d" "a") :=
    ⟨by decide, "d", ["a", "b", "e"], second, files, by decide, rfl⟩
  have apart : ¬ r.Concerns {} "1" "2" (contentCommand "d" "a") "e" := by
    have none : (r.change "1" "2").newRegions {} "e" = [] := by decide +kernel
    rintro ⟨path, rfl | ⟨region, mem, -⟩, ⟨-, commit, _, named, -, -, command⟩ |
      ⟨-, commit, _, named, -, -, command⟩⟩
    · cases first.symm.trans named
      exact absurd command (by decide)
    · cases second.symm.trans named
      exact absurd command (by decide)
    · rw [none] at mem
      cases mem
    · rw [none] at mem
      cases mem
  obtain ⟨-, failures⟩ := check_of_failed_reads r {} "1" "2" { memory := {} } r.faithful_empty
    ["a", "b", "e"] ["a", "b", "e"] (by decide +kernel) (by decide +kernel)
  obtain ⟨-, others⟩ :=
    failures v run "2" (by simp) "a" _ failed reads (by decide +kernel) (by decide)
  obtain ⟨-, same⟩ := others { code := 0, out := Text.toUtf8 "y", err := [] }
  exact ⟨v, w, run, again, shown, shownThen, same w again "e" apart⟩

/-- A command that reads a file does not come to an end. Both snapshots can be listed, but the check
gives no verdict. -/
theorem check_of_timed_out_read :
    let answers : List (List Text × Text) :=
      [(commitCommand "1", "c\n"), (treeCommand "c", "1 blob 0\ta\x00")]
    let r : Repository := answering answers .timedOut
    ((r.list "1").perform { memory := {} }).1 = .ok ["a"] ∧
      ((check r.source {} "1" "1").perform { memory := {} }).1 =
        .error (.unavailable (.timedOut (contentCommand "c" "a") r.limit)) := by
  decide +kernel

end Repository
end Lockstep
