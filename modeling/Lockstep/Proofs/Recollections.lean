import Lockstep.Proofs.Repositories

/-! What questions leave in the memory of a repository, one command after the other. A command is
run only while its answer is not remembered; what is remembered stays; and an answer that can be
used is remembered. All that is known of longer runs follows from this. -/
namespace Lockstep

namespace Access

variable {σ α β : Type}

theorem perform_get (next : Session σ → Access σ β) (s : Session σ) :
    (get >>= next).perform s = (next s).perform s := rfl

theorem perform_bind_ok {work : Access σ α} {next : α → Access σ β} {x : α} {s between : Session σ}
    (first : work.perform s = (.ok x, between)) :
    (work >>= next).perform s = (next x).perform between := by
  rw [perform_bind, first]

theorem perform_bind_error {work : Access σ α} {next : α → Access σ β} {fault : Fault}
    {s after : Session σ} (first : work.perform s = (.error fault, after)) :
    (work >>= next).perform s = (.error fault, after) := by
  rw [perform_bind, first]

end Access

def commitCommand (ref : Text) : List Text :=
  ["rev-parse", "--verify", "--quiet", ref ++ "^\x7bcommit\x7d"]

def treeCommand (commit : Text) : List Text := ["ls-tree", "-r", "-z", "--full-tree", commit]

def contentCommand (commit : Text) (path : Path) : List Text :=
  ["cat-file", "--filters", commit ++ ":" ++ path]

def workTreeCommand : List Text := ["ls-files", "-z", "--cached", "--others", "--exclude-standard"]

theorem commitCommand_injective {ref other : Text} (h : commitCommand ref = commitCommand other) :
    ref = other := by
  simpa [commitCommand] using h

theorem treeCommand_injective {commit other : Text} (h : treeCommand commit = treeCommand other) :
    commit = other := by
  simpa [treeCommand] using h

theorem commitCommand_ne_treeCommand (ref commit : Text) :
    commitCommand ref ≠ treeCommand commit := by
  simp [commitCommand, treeCommand, Text.ofString, Text.ofChars]

theorem contentCommand_ne_commitCommand (commit : Text) (path : Path) (ref : Text) :
    contentCommand commit path ≠ commitCommand ref := by
  simp [contentCommand, commitCommand, Text.ofString, Text.ofChars]

theorem contentCommand_ne_treeCommand (commit : Text) (path : Path) (other : Text) :
    contentCommand commit path ≠ treeCommand other := by
  simp [contentCommand, treeCommand, Text.ofString, Text.ofChars]

theorem contentCommand_ne_workTreeCommand (commit : Text) (path : Path) :
    contentCommand commit path ≠ workTreeCommand := by
  simp [contentCommand, workTreeCommand, Text.ofString, Text.ofChars]

namespace Recollection

inductive Knows (m : Recollection) : List Text → Prop
  | commit {ref commit : Text} (h : m.commits.lookup ref = some commit) :
      m.Knows (commitCommand ref)
  | tree {commit : Text} {paths : List Path} (h : m.trees.lookup commit = some paths) :
      m.Knows (treeCommand commit)

structure Kept (m n : Recollection) : Prop where
  commits : ∀ ref commit, m.commits.lookup ref = some commit → n.commits.lookup ref = some commit
  trees : ∀ commit paths, m.trees.lookup commit = some paths → n.trees.lookup commit = some paths

/-- Whether a command is one that serves a reference: it asks which commit this is, or names the
commit that is remembered. -/
def Serves (m : Recollection) (ref : Text) (arguments : List Text) : Prop :=
  arguments = commitCommand ref ∨ ∃ commit, m.commits.lookup ref = some commit ∧
    (arguments = treeCommand commit ∨ ∃ path, arguments = contentCommand commit path)

variable {m n o : Recollection}

theorem Kept.refl (m : Recollection) : m.Kept m := ⟨fun _ _ h => h, fun _ _ h => h⟩

theorem Kept.trans (first : m.Kept n) (second : n.Kept o) : m.Kept o := by
  constructor
  · intro ref commit known
    exact second.commits ref commit (first.commits ref commit known)
  · intro commit paths known
    exact second.trees commit paths (first.trees commit paths known)

theorem Kept.knows (kept : m.Kept n) {arguments : List Text} (known : m.Knows arguments) :
    n.Knows arguments := by
  cases known with
  | commit h => exact .commit (kept.commits _ _ h)
  | tree h => exact .tree (kept.trees _ _ h)

theorem Kept.serves (kept : m.Kept n) {ref : Text} {arguments : List Text}
    (serves : m.Serves ref arguments) : n.Serves ref arguments := by
  rcases serves with asks | ⟨commit, known, named⟩
  · exact .inl asks
  · exact .inr ⟨commit, kept.commits ref commit known, named⟩

theorem lookup_of_knows_commit {ref : Text} (h : m.Knows (commitCommand ref)) :
    ∃ commit, m.commits.lookup ref = some commit := by
  generalize same : commitCommand ref = arguments at h
  cases h with
  | commit known => exact ⟨_, commitCommand_injective same ▸ known⟩
  | tree known => exact absurd same (commitCommand_ne_treeCommand _ _)

theorem lookup_of_knows_tree {commit : Text} (h : m.Knows (treeCommand commit)) :
    ∃ paths, m.trees.lookup commit = some paths := by
  generalize same : treeCommand commit = arguments at h
  cases h with
  | commit known => exact absurd same.symm (commitCommand_ne_treeCommand _ _)
  | tree known => exact ⟨_, treeCommand_injective same ▸ known⟩

theorem lookup_added {α β : Type} [BEq α] [LawfulBEq α] {entries : List (α × β)} {key other : α}
    {value : β} (new : entries.lookup key = none) (found : entries.lookup other = some value)
    (added : Option β) : (added.toList.map (key, ·) ++ entries).lookup other = some value := by
  cases added with
  | none => exact found
  | some x =>
    have apart : other ≠ key := by
      rintro rfl
      cases new.symm.trans found
    simpa [List.lookup_cons, beq_false_of_ne apart] using found

end Recollection

namespace Repository

open Access

inductive Accepts (r : Repository) : List Text → Prop
  | commit {ref commit : Text} (other : ref ≠ workTree) (h : r.commitOf ref = .ok commit) :
      r.Accepts (commitCommand ref)
  | tree {ref commit : Text} {paths : List Path} (h : r.filesAt ref commit = .ok paths) :
      r.Accepts (treeCommand commit)

structure Runs (r : Repository) (ref : Text) (arguments : List Text) (m n : Recollection) :
    Prop where
  unknown : ¬ m.Knows arguments
  calls : n.calls = m.calls ++ [r.program :: arguments]
  kept : m.Kept n
  learns : r.Accepts arguments → n.Knows arguments
  serves : ref ≠ workTree → n.Serves ref arguments

/-- The commands that are run for a reference, one after the other, lead from one memory to another.
-/
inductive Trail (r : Repository) (ref : Text) : Recollection → Recollection → Prop
  | nil (m : Recollection) : Trail r ref m m
  | cons {m n o : Recollection} (arguments : List Text) (first : r.Runs ref arguments m n)
      (rest : Trail r ref n o) : Trail r ref m o

variable {r : Repository} {ref : Text} {m n o : Recollection} {s : Session Recollection}

theorem commitOf_of_accepts (h : r.Accepts (commitCommand ref)) :
    ∃ commit, r.commitOf ref = .ok commit := by
  generalize same : commitCommand ref = arguments at h
  cases h with
  | commit _ named => exact ⟨_, commitCommand_injective same ▸ named⟩
  | tree listed => exact absurd same (commitCommand_ne_treeCommand _ _)

theorem filesAt_congr {commit : Text} {paths : List Path} (h : r.filesAt ref commit = .ok paths)
    (other : Text) : r.filesAt other commit = .ok paths := by
  unfold filesAt at h ⊢
  cases said : r.answer ["ls-tree", "-r", "-z", "--full-tree", commit] with
  | error fault => simp [said, bind, Except.bind] at h
  | ok result =>
    by_cases failed : result.code ≠ 0
    · simp [said, bind, Except.bind, failed, throw, throwThe, MonadExceptOf.throw] at h
    · simpa only [said, bind, Except.bind, if_neg failed] using h

theorem filesAt_of_accepts {commit : Text} (h : r.Accepts (treeCommand commit)) :
    ∃ paths, ∀ ref, r.filesAt ref commit = .ok paths := by
  generalize same : treeCommand commit = arguments at h
  cases h with
  | commit _ named => exact absurd same.symm (commitCommand_ne_treeCommand _ _)
  | tree listed =>
    obtain rfl := treeCommand_injective same
    exact ⟨_, filesAt_congr listed⟩

theorem Runs.trail {arguments : List Text} (h : r.Runs ref arguments m n) : r.Trail ref m n :=
  .cons arguments h (.nil n)

theorem Trail.trans (first : r.Trail ref m n) (rest : r.Trail ref n o) : r.Trail ref m o := by
  induction first with
  | nil => exact rest
  | cons arguments run _ ih => exact .cons arguments run (ih rest)

theorem Trail.kept (h : r.Trail ref m n) : m.Kept n := by
  induction h with
  | nil m => exact .refl m
  | cons _ run _ ih => exact run.kept.trans ih

theorem trail_bind {α β : Type} {work : Access Recollection α} {next : α → Access Recollection β}
    (first : r.Trail ref s.memory (work.perform s).2.memory)
    (rest : ∀ x t, work.perform s = (.ok x, t) →
      r.Trail ref t.memory ((next x).perform t).2.memory) :
    r.Trail ref s.memory ((work >>= next).perform s).2.memory := by
  rcases run : work.perform s with ⟨fault | x, t⟩
  · rw [perform_bind_error run]
    rwa [run] at first
  · rw [perform_bind_ok run]
    rw [run] at first
    exact first.trans (rest x t run)

theorem perform_runGit (arguments : List Text) (s : Session Recollection) :
    (r.runGit arguments).perform s =
      (r.answer arguments,
        { s with memory.calls := s.memory.calls ++ [r.program :: arguments] }) := by
  unfold runGit run answer
  cases r.git arguments with
  | finished result => rfl
  | timedOut => rfl
  | programMissing => rfl

theorem runGit_trail {arguments : List Text} (commit : ∀ ref, arguments ≠ commitCommand ref)
    (tree : ∀ commit, arguments ≠ treeCommand commit)
    (serves : ref ≠ workTree → s.memory.Serves ref arguments) :
    r.Trail ref s.memory ((r.runGit arguments).perform s).2.memory := by
  let after := { s.memory with calls := s.memory.calls ++ [r.program :: arguments] }
  have kept : s.memory.Kept after := ⟨fun _ _ h => h, fun _ _ h => h⟩
  suffices run : r.Runs ref arguments s.memory after by
    rw [perform_runGit]
    exact run.trail
  refine ⟨?_, rfl, kept, ?_, fun other => kept.serves (serves other)⟩
  · rintro (_ | _)
    · exact commit _ rfl
    · exact tree _ rfl
  · rintro (_ | _)
    · exact absurd rfl (commit _)
    · exact absurd rfl (tree _)

/-! A reference whose commit is remembered is answered from memory, and another one by git. -/

theorem resolve_known {commit : Text} (other : ref ≠ workTree)
    (known : s.memory.commits.lookup ref = some commit) :
    (r.resolve ref).perform s = (.ok commit, s) := by
  rw [resolve, if_neg other, perform_get, known]
  rfl

theorem resolve_unknown (other : ref ≠ workTree) (unknown : s.memory.commits.lookup ref = none) :
    ∃ t, (r.resolve ref).perform s = (r.commitOf ref, t) ∧
      t.memory = { s.memory with
        calls := s.memory.calls ++ [r.program :: commitCommand ref]
        commits := (r.commitOf ref).toOption.toList.map (ref, ·) ++ s.memory.commits } := by
  rw [resolve, if_neg other, perform_get, unknown]
  dsimp only
  rw [perform_bind, perform_runGit, commitOf, if_neg other, commitCommand]
  cases r.answer ["rev-parse", "--verify", "--quiet", ref ++ "^\x7bcommit\x7d"] with
  | error fault => exact ⟨_, rfl, rfl⟩
  | ok result =>
    dsimp only [bind, Except.bind]
    by_cases failed : result.code ≠ 0
    · rw [if_pos failed, if_pos failed]
      exact ⟨_, rfl, rfl⟩
    rw [if_neg failed, if_neg failed, decoded]
    cases Text.ofUtf8? result.out with
    | none => exact ⟨_, rfl, rfl⟩
    | some cs => exact ⟨_, rfl, rfl⟩

theorem tree_known {commit : Text} {paths : List Path} {t : Session Recollection}
    (resolved : (r.resolve ref).perform s = (.ok commit, t))
    (known : t.memory.trees.lookup commit = some paths) :
    (r.tree ref).perform s = (.ok paths, t) := by
  rw [tree, perform_bind_ok resolved, perform_get, known]
  rfl

theorem tree_unknown {commit : Text} {t : Session Recollection}
    (resolved : (r.resolve ref).perform s = (.ok commit, t))
    (unknown : t.memory.trees.lookup commit = none) :
    ∃ u, (r.tree ref).perform s = (r.filesAt ref commit, u) ∧
      u.memory = { t.memory with
        calls := t.memory.calls ++ [r.program :: treeCommand commit]
        trees := (r.filesAt ref commit).toOption.toList.map (commit, ·) ++ t.memory.trees } := by
  rw [tree, perform_bind_ok resolved, perform_get, unknown]
  dsimp only
  rw [perform_bind, perform_runGit, filesAt, treeCommand]
  cases r.answer ["ls-tree", "-r", "-z", "--full-tree", commit] with
  | error fault => exact ⟨_, rfl, rfl⟩
  | ok result =>
    dsimp only [bind, Except.bind]
    by_cases failed : result.code ≠ 0
    · rw [if_pos failed, if_pos failed]
      exact ⟨_, rfl, rfl⟩
    rw [if_neg failed, if_neg failed]
    cases listed : listedPaths result.out with
    | error fault => exact ⟨_, rfl, rfl⟩
    | ok paths => exact ⟨_, rfl, rfl⟩

theorem runs_commit (unknown : m.commits.lookup ref = none) :
    r.Runs ref (commitCommand ref) m
      { m with
        calls := m.calls ++ [r.program :: commitCommand ref]
        commits := (r.commitOf ref).toOption.toList.map (ref, ·) ++ m.commits } := by
  refine ⟨?_, rfl, ⟨?_, fun _ _ h => h⟩, ?_, fun _ => .inl rfl⟩
  · intro known
    obtain ⟨commit, found⟩ := Recollection.lookup_of_knows_commit known
    cases unknown.symm.trans found
  · intro other commit found
    exact Recollection.lookup_added unknown found _
  · intro accepts
    obtain ⟨commit, named⟩ := commitOf_of_accepts accepts
    exact .commit (show _ = some commit by simp [named, Except.toOption])

theorem runs_tree {commit : Text} (unknown : m.trees.lookup commit = none)
    (resolved : ref ≠ workTree → m.commits.lookup ref = some commit) :
    r.Runs ref (treeCommand commit) m
      { m with
        calls := m.calls ++ [r.program :: treeCommand commit]
        trees := (r.filesAt ref commit).toOption.toList.map (commit, ·) ++ m.trees } := by
  refine ⟨?_, rfl, ⟨fun _ _ h => h, ?_⟩, ?_, ?_⟩
  · intro known
    obtain ⟨paths, found⟩ := Recollection.lookup_of_knows_tree known
    cases unknown.symm.trans found
  · intro other paths found
    exact Recollection.lookup_added unknown found _
  · intro accepts
    obtain ⟨paths, listed⟩ := filesAt_of_accepts accepts
    exact .tree (show _ = some paths by simp [listed ref, Except.toOption])
  · intro other
    exact .inr ⟨commit, resolved other, .inl rfl⟩

theorem resolve_trail (r : Repository) (ref : Text) (s : Session Recollection) :
    r.Trail ref s.memory ((r.resolve ref).perform s).2.memory := by
  by_cases onDisk : ref = workTree
  · rw [resolve, if_pos onDisk]
    exact .nil _
  cases known : s.memory.commits.lookup ref with
  | some commit =>
    rw [resolve_known onDisk known]
    exact .nil _
  | none =>
    obtain ⟨t, run, after⟩ := resolve_unknown (r := r) onDisk known
    rw [run, after]
    exact (runs_commit known).trail

theorem resolve_learns {commit : Text} {t : Session Recollection} (other : ref ≠ workTree)
    (run : (r.resolve ref).perform s = (.ok commit, t)) :
    t.memory.commits.lookup ref = some commit := by
  cases known : s.memory.commits.lookup ref with
  | some found =>
    rw [resolve_known other known] at run
    cases run
    exact known
  | none =>
    obtain ⟨u, found, after⟩ := resolve_unknown (r := r) other known
    obtain ⟨named, rfl⟩ := Prod.mk.inj (found.symm.trans run)
    simp [after, named, Except.toOption]

theorem tree_trail (r : Repository) (ref : Text) (s : Session Recollection) :
    r.Trail ref s.memory ((r.tree ref).perform s).2.memory := by
  have first := resolve_trail r ref s
  rcases resolved : (r.resolve ref).perform s with ⟨fault | commit, t⟩
  · rw [tree, perform_bind_error resolved]
    rwa [resolved] at first
  rw [resolved] at first
  cases known : t.memory.trees.lookup commit with
  | some paths =>
    rw [tree_known resolved known]
    exact first
  | none =>
    obtain ⟨u, run, after⟩ := tree_unknown resolved known
    rw [run, after]
    exact first.trans (runs_tree known fun other => resolve_learns other resolved).trail

theorem tree_learns {paths : List Path} {t : Session Recollection} (other : ref ≠ workTree)
    (run : (r.tree ref).perform s = (.ok paths, t)) :
    ∃ commit, t.memory.commits.lookup ref = some commit ∧
      t.memory.trees.lookup commit = some paths := by
  rcases resolved : (r.resolve ref).perform s with ⟨fault | commit, u⟩
  · rw [tree, perform_bind_error resolved] at run
    cases run
  have named := resolve_learns other resolved
  refine ⟨commit, ?_⟩
  cases known : u.memory.trees.lookup commit with
  | some found =>
    rw [tree_known resolved known] at run
    cases run
    exact ⟨named, known⟩
  | none =>
    obtain ⟨v, found, after⟩ := tree_unknown resolved known
    obtain ⟨listed, rfl⟩ := Prod.mk.inj (found.symm.trans run)
    simp [after, listed, named, Except.toOption]

theorem list_trail (r : Repository) (ref : Text) (s : Session Recollection) :
    r.Trail ref s.memory ((r.list ref).perform s).2.memory := by
  unfold list
  by_cases onDisk : ref = workTree
  · rw [if_pos onDisk, listWorkTree]
    apply trail_bind
    · exact runGit_trail (by simp [commitCommand, Text.ofString, Text.ofChars])
        (by simp [treeCommand, Text.ofString, Text.ofChars]) fun other => absurd onDisk other
    intro result t _
    by_cases failed : result.code ≠ 0
    · rw [if_pos failed]
      exact .nil _
    rw [if_neg failed]
    have looks (path : Path) : (liftM (r.isOnDisk path) : Access Recollection Bool).Answers
        (· = t.memory) (r.isOnDisk path) := answers_lift _
    obtain ⟨u, run, same⟩ :=
      answers_filterM looks ((nullSeparated result.out).map Text.ofUtf8) t rfl
    rw [run, same]
    exact .nil _
  · rw [if_neg onDisk]
    exact tree_trail r ref s

theorem read_trail (r : Repository) (ref : Text) (path : Path) (s : Session Recollection) :
    r.Trail ref s.memory ((r.read ref path).perform s).2.memory := by
  unfold read
  by_cases onDisk : ref = workTree
  · rw [if_pos onDisk]
    exact .nil _
  rw [if_neg onDisk]
  apply trail_bind (tree_trail r ref s)
  intro paths t _
  by_cases absent : (!paths.contains path) = true
  · rw [if_pos absent]
    exact .nil _
  rw [if_neg absent]
  apply trail_bind (resolve_trail r ref t)
  intro commit u resolved
  apply trail_bind
  · apply @runGit_trail r ref u (contentCommand commit path)
    · exact contentCommand_ne_commitCommand commit path
    · exact contentCommand_ne_treeCommand commit path
    · intro other
      exact .inr ⟨commit, resolve_learns other resolved, .inr ⟨path, rfl⟩⟩
  intro result v _
  by_cases failed : result.code ≠ 0
  · rw [if_pos failed]
    exact .nil _
  · rw [if_neg failed]
    exact .nil _

/-! Once the files of a reference are remembered, git is not asked for them, nor about other files.
-/

section

variable {commit : Text} {paths : List Path} (other : ref ≠ workTree)
  (resolved : s.memory.commits.lookup ref = some commit)
  (listed : s.memory.trees.lookup commit = some paths)

include other resolved listed

end

end Repository
end Lockstep
