import Lockstep.Proofs.Snapshots
import Lockstep.Snapshot.Repository

/-! That what is remembered of a repository makes no difference to its answers, as long as git gives
one answer to each question. So a repository shows one snapshot under each reference. -/
namespace Lockstep

namespace Access

variable {σ α β : Type}

/-- Whether some work that begins with a memory of some kind leaves one of this kind, and always has
the same outcome. -/
def Answers (inv : σ → Prop) (work : Access σ α) (outcome : Except Fault α) : Prop :=
  ∀ s, inv s.memory → ∃ after, work.perform s = (outcome, after) ∧ inv after.memory

variable {inv : σ → Prop}

theorem answers_pure (value : α) : (pure value : Access σ α).Answers inv (.ok value) := by
  intro s begins
  exact ⟨s, rfl, begins⟩

theorem answers_throw (fault : Fault) : (throw fault : Access σ α).Answers inv (.error fault) := by
  intro s begins
  exact ⟨s, rfl, begins⟩

theorem answers_lift (outcome : Except Fault α) :
    (liftM outcome : Access σ α).Answers inv outcome := by
  intro s begins
  refine ⟨s, ?_, begins⟩
  cases outcome with
  | error fault => rfl
  | ok value => rfl

theorem answers_seq {work : Access σ α} {next : α → Access σ β} {first : Except Fault α}
    {outcome : Except Fault β} (here : work.Answers inv first)
    (fails : ∀ fault, first = .error fault → outcome = .error fault)
    (later : ∀ x, first = .ok x → (next x).Answers inv outcome) :
    (work >>= next).Answers inv outcome := by
  intro s begins
  obtain ⟨between, run, holds⟩ := here s begins
  rw [perform_bind, run]
  cases first with
  | error fault =>
    rw [fails fault rfl]
    exact ⟨between, rfl, holds⟩
  | ok x => exact later x rfl between holds

theorem answers_bind {work : Access σ α} {next : α → Access σ β} {first : Except Fault α}
    {rest : α → Except Fault β} (here : work.Answers inv first)
    (later : ∀ x, first = .ok x → (next x).Answers inv (rest x)) :
    (work >>= next).Answers inv (first >>= rest) := by
  apply answers_seq here
  · rintro fault rfl
    rfl
  · rintro x rfl
    exact later x rfl

theorem answers_then {work : Access σ α} {next : α → Access σ β} {x : α} {outcome : Except Fault β}
    (here : work.Answers inv (.ok x)) (later : (next x).Answers inv outcome) :
    (work >>= next).Answers inv outcome := by
  apply answers_seq here
  · intro fault failed
    cases failed
  · rintro _ ⟨⟩
    exact later

theorem answers_get {next : Session σ → Access σ β} {outcome : Except Fault β}
    (later : ∀ s, inv s.memory → (next s).Answers inv outcome) :
    (get >>= next).Answers inv outcome := by
  intro s begins
  exact later s begins s begins

theorem answers_modify {f : Session σ → Session σ}
    (keeps : ∀ s, inv s.memory → inv (f s).memory) :
    (modify f : Access σ Unit).Answers inv (.ok ()) := by
  intro s begins
  exact ⟨f s, rfl, keeps s begins⟩

theorem answers_filterM {test : α → Access σ Bool} {outcome : α → Except Fault Bool}
    (each : ∀ x, (test x).Answers inv (outcome x)) (xs : List α) :
    (xs.filterM test).Answers inv (xs.filterM outcome) := by
  have held (xs kept : List α) :
      (xs.filterAuxM test kept).Answers inv (xs.filterAuxM outcome kept) := by
    induction xs generalizing kept with
    | nil => exact answers_pure kept
    | cons x rest ih => exact answers_bind (each x) fun _ _ => ih _
  exact answers_bind (held xs []) fun kept _ => answers_pure kept.reverse

theorem Answers.fst_perform {work : Access σ α} {outcome : Except Fault α} {s : Session σ}
    (h : work.Answers inv outcome) (begins : inv s.memory) : (work.perform s).1 = outcome := by
  obtain ⟨after, run, -⟩ := h s begins
  rw [run]

theorem Answers.yields {work : Access σ α} {outcome : Except Fault α} {value : α}
    (h : work.Answers inv outcome) (succeeds : ∀ given, outcome = .ok given → given = value) :
    work.Yields inv True value := by
  intro s begins
  obtain ⟨after, run, holds⟩ := h s begins
  cases outcome with
  | error fault => exact .inr ⟨trivial, fault, after, run⟩
  | ok given =>
    rw [succeeds given rfl] at run
    exact .inl ⟨after, run, holds⟩

end Access

namespace Repository

open Access

variable (r : Repository)

def answer (arguments : List Text) : Except Fault CommandResult :=
  match r.git arguments with
  | .finished result => .ok result
  | .timedOut => .error (.unavailable (.timedOut arguments r.limit))
  | .programMissing => .error (.unavailable (.programMissing r.program))

def commitOf (ref : Text) : Except Fault Text :=
  if ref = workTree then return ref
  else do
    let result ← r.answer ["rev-parse", "--verify", "--quiet", ref ++ "^\x7bcommit\x7d"]
    if result.code ≠ 0 then throw (.unavailable (.unknownRevision ref))
    match Text.ofUtf8? result.out with
    | some cs => return (Text.ofChars cs).strip
    | none => throw .undecodable

def filesAt (ref commit : Text) : Except Fault (List Path) := do
  let result ← r.answer ["ls-tree", "-r", "-z", "--full-tree", commit]
  if result.code ≠ 0 then throw (.unavailable (.unlistedTree ref result.complaint))
  listedPaths result.out

def filesOf (ref : Text) : Except Fault (List Path) := do r.filesAt ref (← r.commitOf ref)

def filesOnDisk : Except Fault (List Path) := do
  let result ← r.answer ["ls-files", "-z", "--cached", "--others", "--exclude-standard"]
  if result.code ≠ 0 then throw (.unavailable (.unlistedWorkTree result.complaint))
  ((nullSeparated result.out).map Text.ofUtf8).filterM r.isOnDisk

def listed (ref : Text) : Except Fault (List Path) :=
  if ref = workTree then r.filesOnDisk else r.filesOf ref

def content (ref : Text) (path : Path) : Except Fault (Except ReadError (Option Bytes)) :=
  if ref = workTree then return r.readWorkTree path
  else do
    if !(← r.filesOf ref).contains path then return .ok none
    let result ← r.answer ["cat-file", "--filters", (← r.commitOf ref) ++ ":" ++ path]
    if result.code ≠ 0 then return .error { ref, path, reason := result.complaint }
    return .ok (some result.out)

/-- Whether what is remembered is what git says. -/
structure Faithful (memory : Recollection) : Prop where
  commits : ∀ ref commit, memory.commits.lookup ref = some commit → r.commitOf ref = .ok commit
  trees : ∀ commit paths, memory.trees.lookup commit = some paths →
    ∀ ref, r.filesAt ref commit = .ok paths

variable {r}

theorem Faithful.withCommit {m : Recollection} (h : r.Faithful m) {ref commit : Text}
    (told : r.commitOf ref = .ok commit) :
    r.Faithful { m with commits := (ref, commit) :: m.commits } := by
  refine ⟨?_, h.trees⟩
  intro other known found
  rw [List.lookup_cons] at found
  cases same : other == ref with
  | true =>
    rw [same] at found
    cases found
    rwa [eq_of_beq same]
  | false =>
    rw [same] at found
    exact h.commits other known found

theorem Faithful.withTree {m : Recollection} (h : r.Faithful m) {commit : Text} {paths : List Path}
    (told : ∀ ref, r.filesAt ref commit = .ok paths) :
    r.Faithful { m with trees := (commit, paths) :: m.trees } := by
  refine ⟨h.commits, ?_⟩
  intro other known found
  rw [List.lookup_cons] at found
  cases same : other == commit with
  | true =>
    rw [same] at found
    cases found
    rwa [eq_of_beq same]
  | false =>
    rw [same] at found
    exact h.trees other known found

theorem runGit_answers (arguments : List Text) :
    (r.runGit arguments).Answers r.Faithful (r.answer arguments) := by
  unfold runGit run answer
  apply answers_then
  · apply answers_modify
    exact fun s h => ⟨h.commits, h.trees⟩
  cases r.git arguments with
  | finished result => exact answers_pure result
  | timedOut => exact answers_throw _
  | programMissing => exact answers_throw _

theorem resolve_answers (ref : Text) :
    (r.resolve ref).Answers r.Faithful (r.commitOf ref) := by
  by_cases onDisk : ref = workTree
  · rw [resolve, commitOf, if_pos onDisk, if_pos onDisk]
    exact answers_pure ref
  rw [resolve, if_neg onDisk]
  apply answers_get
  intro s faithful
  cases known : s.memory.commits.lookup ref with
  | some commit =>
    rw [faithful.commits ref commit known]
    exact answers_pure commit
  | none =>
    rw [commitOf, if_neg onDisk]
    apply answers_bind (runGit_answers _)
    intro result said
    by_cases failed : result.code ≠ 0
    · rw [if_pos failed, if_pos failed]
      exact answers_throw _
    rw [if_neg failed, if_neg failed, decoded]
    cases text : Text.ofUtf8? result.out with
    | none => exact answers_throw _
    | some cs =>
      have told : r.commitOf ref = .ok (Text.ofChars cs).strip := by
        simp only [commitOf, if_neg onDisk, said, bind, Except.bind, if_neg failed, text]
        rfl
      apply answers_then (answers_pure _)
      apply answers_then
      · apply answers_modify
        exact fun s h => h.withCommit told
      apply answers_then
      · exact answers_modify fun s h => h
      exact answers_pure _

theorem tree_answers (ref : Text) : (r.tree ref).Answers r.Faithful (r.filesOf ref) := by
  apply answers_bind (resolve_answers ref)
  intro commit _
  apply answers_get
  intro s faithful
  cases known : s.memory.trees.lookup commit with
  | some paths =>
    rw [faithful.trees commit paths known ref]
    exact answers_pure paths
  | none =>
    unfold filesAt
    apply answers_bind (runGit_answers _)
    intro result said
    by_cases failed : result.code ≠ 0
    · rw [if_pos failed, if_pos failed]
      exact answers_throw _
    rw [if_neg failed, if_neg failed]
    apply answers_seq (answers_lift (listedPaths result.out)) fun _ => id
    intro paths listed
    -- A listing is remembered by its commit and serves all references that mean this commit.
    have told (ref : Text) : r.filesAt ref commit = .ok paths := by
      simp only [filesAt, said, bind, Except.bind, if_neg failed, listed]
    apply answers_then
    · apply answers_modify
      exact fun s h => h.withTree told
    rw [listed]
    exact answers_pure paths

theorem listWorkTree_answers : r.listWorkTree.Answers r.Faithful r.filesOnDisk := by
  apply answers_bind (runGit_answers _)
  intro result _
  by_cases failed : result.code ≠ 0
  · rw [if_pos failed, if_pos failed]
    exact answers_throw _
  rw [if_neg failed, if_neg failed]
  apply answers_filterM
  exact fun path => answers_lift _

theorem list_answers (ref : Text) : (r.list ref).Answers r.Faithful (r.listed ref) := by
  unfold list listed
  by_cases onDisk : ref = workTree
  · rw [if_pos onDisk, if_pos onDisk]
    exact listWorkTree_answers
  · rw [if_neg onDisk, if_neg onDisk]
    exact tree_answers ref

theorem read_answers (ref : Text) (path : Path) :
    (r.read ref path).Answers r.Faithful (r.content ref path) := by
  unfold read content
  by_cases onDisk : ref = workTree
  · rw [if_pos onDisk, if_pos onDisk]
    exact answers_pure _
  rw [if_neg onDisk, if_neg onDisk]
  apply answers_bind (tree_answers ref)
  intro paths _
  by_cases absent : (!paths.contains path) = true
  · rw [if_pos absent, if_pos absent]
    exact answers_pure _
  rw [if_neg absent, if_neg absent]
  apply answers_bind (resolve_answers ref)
  intro commit _
  apply answers_bind (runGit_answers _)
  intro result _
  by_cases failed : result.code ≠ 0
  · rw [if_pos failed, if_pos failed]
    exact answers_pure _
  · rw [if_neg failed, if_neg failed]
    exact answers_pure _

def snapshotOf (r : Repository) (ref : Text) : Snapshot where
  files := (r.listed ref).toOption.getD []
  read path := (r.content ref path).toOption.getD (.ok none)

def change (r : Repository) (old new : Text) : Change :=
  { old := r.snapshotOf old, new := r.snapshotOf new }

theorem shows (r : Repository) (ref : Text) :
    r.source.Shows r.Faithful True ref (r.snapshotOf ref) := by
  constructor
  · apply (list_answers ref).yields
    intro files listed
    rw [snapshotOf, listed]
    rfl
  · intro path
    apply (read_answers ref path).yields
    intro content held
    simp only [snapshotOf, held]
    rfl

theorem faithful_empty (r : Repository) : r.Faithful {} := by
  constructor
  · intro ref commit found
    cases found
  · intro commit paths found
    cases found

/-- A repository without files on disk, where git has an answer to some commands. -/
def answering (answers : List (List Text × Text)) (others : CommandOutcome) : Repository where
  git arguments :=
    match answers.lookup arguments with
    | some out => .finished { code := 0, out := out.toUtf8, err := [] }
    | none => others
  files := {}
  location := .ofText "/"

end Repository
end Lockstep
