import Lockstep.Proofs.Questions
import Lockstep.Proofs.Unchanged

/-! What a repository lists of a snapshot, and what it reads of the same snapshot. A commit is read
through its listing. The work tree is listed by git but read from disk, so that there a file can be
read that is not listed. -/
namespace Lockstep

theorem filterM_eq_ok {ε α : Type} {test : α → Except ε Bool} {xs kept : List α}
    (h : xs.filterM test = .ok kept) :
    ∃ keep : α → Bool, (∀ x ∈ xs, test x = .ok (keep x)) ∧ kept = xs.filter keep := by
  let keep (x : α) : Bool := (test x).toOption.getD false
  have held (xs before after : List α) (h : xs.filterAuxM test before = .ok after) :
      (∀ x ∈ xs, test x = .ok (keep x)) ∧ after = (xs.filter keep).reverse ++ before := by
    induction xs generalizing before with
    | nil =>
      cases h
      simp
    | cons x rest ih =>
      rw [List.filterAuxM] at h
      cases tested : test x with
      | error e =>
        rw [tested] at h
        cases h
      | ok kept =>
        have own : test x = .ok (keep x) := by simp [keep, tested, Except.toOption]
        rw [own] at h
        obtain ⟨others, after⟩ := ih _ h
        refine ⟨List.forall_mem_cons.mpr ⟨own, others⟩, ?_⟩
        cases kept : keep x with
        | true => simp [after, kept]
        | false => simp [after, kept]
  rw [List.filterM] at h
  cases run : xs.filterAuxM test [] with
  | error e =>
    rw [run] at h
    cases h
  | ok after =>
    rw [run] at h
    cases h
    obtain ⟨each, rfl⟩ := held xs [] after run
    exact ⟨keep, each, by simp⟩

namespace Change

/-! A file that the new snapshot does not have has no new version, and reports at most that it
cannot be read in the old snapshot. -/
section

variable {c : Change} {settings : Settings} {path : Path} (absent : c.new.read path = .ok none)

include absent

theorem contents_of_absent :
    (∃ e, c.contents path = .error e) ∨ ∃ before, c.contents path = .ok (before, none) := by
  cases contents : c.contents path with
  | error e => exact .inl ⟨e, rfl⟩
  | ok versions =>
    obtain ⟨before, after⟩ := versions
    obtain ⟨-, read⟩ := contents_eq_ok.mp contents
    cases read.symm.trans absent
    exact .inr ⟨before, rfl⟩

theorem comparison_of_absent {convention : Convention} {v : Versions}
    (compared : c.comparison convention path = .ok v) : v.new = none := by
  rw [comparison] at compared
  rcases contents_of_absent absent with ⟨e, contents⟩ | ⟨before, contents⟩
  · rw [contents] at compared
    cases compared
  · rw [contents] at compared
    cases compared
    rfl

theorem changedRegions_of_absent : c.changedRegions settings path = [] := by
  have none : c.newRegions settings path = [] := by
    rcases contents_of_absent absent with ⟨e, contents⟩ | ⟨before, contents⟩
    · rw [newRegions, contents]
    · rw [newRegions, contents]
      rfl
  exact List.sublist_nil.mp (none ▸ changedRegions_sublist path)

theorem reports_of_absent {f : Finding} (h : f ∈ c.reports settings path) :
    f.reason = .unreadable ∧ f.regionIndex = none := by
  rw [reports_of_changedRegions (changedRegions_of_absent absent), ownFindings] at h
  rcases contents_of_absent absent with ⟨e, contents⟩ | ⟨before, contents⟩
  · rw [contents] at h
    cases List.mem_singleton.mp h
    exact ⟨rfl, rfl⟩
  · rw [contents] at h
    cases h

end
end Change

theorem FileTree.at?_of_name {t : FileTree} {l : Location} {name : Text} {node : Option Node}
    (reached : ¬ (l.text = [] || hasNull l.text) = true ∧
      ¬ maxPathLength < (Text.toUtf8 l.text).length ∧ steps l.text = [name] ∧
      name ≠ Path.here ∧ name ≠ Path.parent ∧ ¬ maxNameLength < (Text.toUtf8 name).length ∧
      t.node? (startOf t.start l.text) = some .directory ∧
      t.node? (startOf t.start l.text ++ [name]) = node)
    (noLink : ∀ target, node ≠ some (.link target)) (follow : Bool) :
    t.at? follow l = some node := by
  obtain ⟨usable, short, named, notHere, notParent, fits, below, rfl⟩ := reached
  rw [at?, destination, if_neg usable, if_neg short, named, walk, below,
    if_neg (fun other => other rfl), if_neg notHere, if_neg notParent, if_neg fits]
  cases held : t.node? (startOf t.start l.text ++ [name]) with
  | none => rfl
  | some node =>
    cases node with
    | file content => simp only [walk, held]
    | directory => simp only [walk, held]
    | link target => exact absurd held (noLink target)

namespace Repository

variable {r : Repository} {ref : Text} {files : List Path} {path : Path}

/-- Whether git names a path among the files of the work tree. -/
def Names (r : Repository) (path : Path) : Prop :=
  ∃ result, r.git workTreeCommand = .finished result ∧
    path ∈ (nullSeparated result.out).map Text.ofUtf8

theorem mem_filesOnDisk (h : r.filesOnDisk = .ok files) :
    (path ∈ files ↔ r.Names path ∧ r.isOnDisk path = .ok true) ∧
      (r.Names path → path ∉ files → r.isOnDisk path = .ok false) := by
  unfold filesOnDisk answer at h
  rw [← workTreeCommand] at h
  unfold Names
  cases said : r.git workTreeCommand with
  | timedOut =>
    rw [said] at h
    cases h
  | programMissing =>
    rw [said] at h
    cases h
  | finished result =>
    rw [said] at h
    by_cases failed : result.code ≠ 0
    · simp [bind, Except.bind, failed, throw, throwThe, MonadExceptOf.throw] at h
    simp only [bind, Except.bind, if_neg failed] at h
    obtain ⟨keep, each, rfl⟩ := filterM_eq_ok h
    simp only [CommandOutcome.finished.injEq, exists_eq_left', List.mem_filter]
    constructor
    · constructor
      · rintro ⟨named, kept⟩
        exact ⟨named, kept ▸ each path named⟩
      · rintro ⟨named, there⟩
        exact ⟨named, Except.ok.inj ((each path named).symm.trans there)⟩
    · intro named absent
      rw [each path named]
      simpa [named] using absent

theorem readWorkTree_eq_none_iff :
    r.readWorkTree path = .ok none ↔ r.isOnDisk path = .ok false := by
  unfold readWorkTree isOnDisk
  dsimp only
  cases r.files.at? true (r.locate path) with
  | none =>
    rcases r.files.at? false (r.locate path) with _ | _ | _ | _ | _ <;> simp
  | some behind =>
    rcases behind with _ | _ | _ | _ <;>
      rcases r.files.at? false (r.locate path) with _ | _ | _ | _ | _ <;> simp

def heldBy (ref : Text) (path : Path) (result : CommandResult) :
    Except ReadError (Option Bytes) :=
  if result.code ≠ 0 then .error { ref, path, reason := result.complaint }
  else .ok (some result.out)

theorem heldBy_ne_none (ref : Text) (path : Path) (result : CommandResult) :
    heldBy ref path result ≠ .ok none := by
  unfold heldBy
  split
  · simp
  · simp

section

variable (other : ref ≠ workTree)

include other

theorem listed_eq_filesOf : r.listed ref = r.filesOf ref := by
  rw [listed, if_neg other]

theorem exists_commit_of_listed (listed : r.listed ref = .ok files) :
    ∃ commit, r.commitOf ref = .ok commit ∧ r.filesAt ref commit = .ok files := by
  rw [listed_eq_filesOf other, filesOf] at listed
  cases named : r.commitOf ref with
  | error fault =>
    rw [named] at listed
    cases listed
  | ok commit =>
    rw [named] at listed
    exact ⟨commit, rfl, listed⟩

theorem listed_of_filesAt {commit : Text} (named : r.commitOf ref = .ok commit)
    (filesAt : r.filesAt ref commit = .ok files) : r.listed ref = .ok files := by
  rw [listed_eq_filesOf other, filesOf, named]
  exact filesAt

variable (listed : r.listed ref = .ok files)

include listed

theorem content_of_unlisted (absent : path ∉ files) : r.content ref path = .ok (.ok none) := by
  rw [listed_eq_filesOf other] at listed
  rw [content, if_neg other, listed]
  simp only [bind, Except.bind, if_pos (show (!files.contains path) = true by simpa using absent)]
  rfl

theorem content_of_listed {commit : Text} (named : r.commitOf ref = .ok commit)
    (mem : path ∈ files) :
    r.content ref path = (r.answer (contentCommand commit path)).map (heldBy ref path) := by
  rw [listed_eq_filesOf other] at listed
  rw [content, if_neg other, listed, named, contentCommand]
  simp only [bind, Except.bind, if_neg (show ¬ (!files.contains path) = true by simpa using mem)]
  cases r.answer ["cat-file", "--filters", commit ++ ":" ++ path] with
  | error fault => rfl
  | ok result =>
    by_cases failed : result.code ≠ 0
    · simp only [if_pos failed, Except.map, heldBy]
      rfl
    · simp only [if_neg failed, Except.map, heldBy]
      rfl

end

theorem content_ne_none (listed : r.listed ref = .ok files) (mem : path ∈ files) :
    r.content ref path ≠ .ok (.ok none) := by
  by_cases onDisk : ref = workTree
  · subst onDisk
    rw [Repository.listed, if_pos rfl] at listed
    have there : r.isOnDisk path = .ok true := ((mem_filesOnDisk listed).1.mp mem).2
    rw [content, if_pos rfl]
    intro absent
    cases there.symm.trans (readWorkTree_eq_none_iff.mp (Except.ok.inj absent))
  · obtain ⟨commit, named, -⟩ := exists_commit_of_listed onDisk listed
    rw [content_of_listed onDisk listed named mem]
    cases r.answer (contentCommand commit path) with
    | error fault => exact nofun
    | ok result => exact fun absent => heldBy_ne_none ref path result (Except.ok.inj absent)

/-- A file that is listed is read, or it cannot be. What is not listed of a commit does not exist
there. What is not listed of the work tree is read if it is on disk, and then git has not named it.
Where nothing is read in the new snapshot, a check does not scan a new version, and reports at most
that the old one cannot be read. -/
theorem reading_of_listed (r : Repository) (ref : Text) (files : List Path)
    (s t : Session Recollection) (faithful : r.Faithful s.memory) (still : r.Faithful t.memory)
    (listed : ((r.list ref).perform s).1 = .ok files) (path : Path) :
    let read := ((r.read ref path).perform t).1
    (path ∈ files → read ≠ .ok (.ok none)) ∧
      (path ∉ files → ref ≠ workTree → read = .ok (.ok none)) ∧
      (path ∉ files → ref = workTree →
        (read = .ok (.ok none) ↔ r.isOnDisk path = .ok false) ∧
          (r.Names path → read = .ok (.ok none))) ∧
      (read = .ok (.ok none) → ∀ settings old,
        (∀ v, ((Check.compare r.source settings old ref path).perform t).1 = .ok (.ok v) →
          v.new = none) ∧
        ∀ v, ((check r.source settings old ref).perform t).1 = .ok v →
          ∀ f ∈ v.findings, f.source = path → f.reason = .unreadable ∧ f.regionIndex = none) := by
  intro read
  have reads : read = r.content ref path := (read_answers ref path).fst_perform still
  rw [(list_answers ref).fst_perform faithful] at listed
  rw [reads]
  refine ⟨content_ne_none listed, fun absent other => content_of_unlisted other listed absent,
    ?_, ?_⟩
  · rintro absent rfl
    rw [Repository.listed, if_pos rfl] at listed
    have onDisk : r.content workTree path = .ok (.ok none) ↔ r.isOnDisk path = .ok false := by
      rw [content, if_pos rfl, ← readWorkTree_eq_none_iff]
      exact ⟨Except.ok.inj, congrArg _⟩
    exact ⟨onDisk, fun named => onDisk.mpr ((mem_filesOnDisk listed).2 named absent)⟩
  · intro nothing settings old
    have absent : (r.change old ref).new.read path = .ok none := by
      simp only [change, snapshotOf, nothing]
      rfl
    constructor
    · intro v given
      have yields := @Check.compare_yields _ r.source settings old ref (r.change old ref) _ _
        (.inr trivial) (r.shows old) (r.shows ref) path
      exact Change.comparison_of_absent absent (yields.eq_of_fst still given).symm
    · rintro v given f found rfl
      have yields := @check_yields _ r.source settings old ref (r.change old ref) _ _
        (.inr trivial) (r.shows old) (r.shows ref)
      obtain rfl := yields.eq_of_fst still given
      exact Change.reports_of_absent absent (Change.mem_reports_of_mem_verdict found)

theorem reading_of_listed_of_deleted :
    let answers : List (List Text × Text) :=
      [(workTreeCommand, "a\x00b\x00"), (commitCommand "1", "c\n"),
        (treeCommand "c", "1 blob 0\ta\x00"), (contentCommand "c" "a", "x")]
    let unknown : CommandOutcome := .finished { code := 1, out := [], err := [] }
    let files : FileTree := { nodes := [(["a"], .file (Text.toUtf8 "x"))] }
    let r : Repository := { answering answers unknown with files }
    let read (ref : Text) (path : Path) := ((r.read ref path).perform { memory := {} }).1
    ((r.list workTree).perform { memory := {} }).1 = .ok ["a"] ∧
      ((r.list "1").perform { memory := {} }).1 = .ok ["a"] ∧
      read workTree "a" ≠ .ok (.ok none) ∧ read workTree "b" = .ok (.ok none) ∧
      read "1" "a" ≠ .ok (.ok none) ∧ read "1" "b" = .ok (.ok none) := by
  intro answers unknown files r read
  have there : r.isOnDisk "a" = .ok true := by
    have held := @FileTree.at?_of_name files (r.locate "a") "a" (some (.file (Text.toUtf8 "x")))
      (by decide +kernel) (by simp)
    simp only [isOnDisk, r, held]
  have gone : r.isOnDisk "b" = .ok false := by
    have held := @FileTree.at?_of_name files (r.locate "b") "b" none (by decide +kernel)
      (by simp)
    simp only [isOnDisk, r, held]
  have onDisk : ((r.list workTree).perform { memory := {} }).1 = .ok ["a"] := by
    have pieces : (nullSeparated (Text.toUtf8 "a\x00b\x00")).map Text.ofUtf8 =
        (["a", "b"] : List Path) := by
      decide +kernel
    rw [(list_answers workTree).fst_perform r.faithful_empty]
    change ((nullSeparated (Text.toUtf8 "a\x00b\x00")).map Text.ofUtf8).filterM r.isOnDisk = _
    rw [pieces]
    simp only [List.filterM, List.filterAuxM, there, gone]
    rfl
  have committed : ((r.list "1").perform { memory := {} }).1 = .ok ["a"] := by decide +kernel
  have named : r.Names "b" :=
    ⟨{ code := 0, out := Text.toUtf8 "a\x00b\x00", err := [] }, by decide +kernel,
      by decide +kernel⟩
  have tree := reading_of_listed r workTree ["a"] _ { memory := {} } r.faithful_empty
    r.faithful_empty onDisk
  have commit := reading_of_listed r "1" ["a"] _ { memory := {} } r.faithful_empty
    r.faithful_empty committed
  obtain ⟨here, -⟩ := tree "a"
  obtain ⟨-, -, gone, -⟩ := tree "b"
  obtain ⟨held, -⟩ := commit "a"
  obtain ⟨-, absent, -⟩ := commit "b"
  exact ⟨onDisk, committed, here (by decide), (gone (by decide) rfl).2 named, held (by decide),
    absent (by decide) (by decide)⟩

/-- A file on disk that git does not name, because it is no longer tracked and excluded. It is not
listed, but it is read, and a check finds an annotation in it that is out of place. -/
theorem reading_of_unlisted_on_disk :
    let answers : List (List Text × Text) :=
      [(workTreeCommand, ""), (commitCommand "1", "c\n"), (treeCommand "c", "1 blob 0\ta\x00"),
        (contentCommand "c" "a", "x")]
    let unknown : CommandOutcome := .finished { code := 1, out := [], err := [] }
    let edited : Bytes := Text.toUtf8 "# end-change"
    let files : FileTree := { nodes := [(["a"], .file edited)] }
    let r : Repository := { answering answers unknown with files }
    let found (v : Verdict) : List Text := v.findings.map Finding.text
    ((r.list workTree).perform { memory := {} }).1 = .ok [] ∧
      ((r.read workTree "a").perform { memory := {} }).1 = .ok (.ok (some edited)) ∧
      ((check r.source {} "1" workTree).perform { memory := {} }).1.toOption.map found =
        some [("a:1 - [MalformedAnnotation] end-change must follow an if-change and then-change" :
          Text)] := by
  intro answers unknown edited files r found
  have held := @FileTree.at?_of_name files (r.locate "a") "a" (some (.file edited))
    (by decide +kernel) (by simp)
  have reads : r.readWorkTree "a" = .ok (some edited) := by
    simp only [readWorkTree, r, held]
  let source : Source Recollection :=
    { r.source with read := fun ref path =>
        if ref = workTree ∧ path = "a" then pure (.ok (some edited)) else r.read ref path }
  have same : r.source = source := by
    apply congrArg (Source.mk r.list)
    funext ref path
    by_cases here : ref = workTree ∧ path = "a"
    · rw [if_pos here, here.1, here.2, read, if_pos rfl, reads]
    · rw [if_neg here]
  rw [same]
  refine ⟨by decide +kernel, ?_, by decide +kernel⟩
  rw [read, if_pos rfl, reads]
  rfl

end Repository
end Lockstep
