import Mathlib.Data.List.Basic
import Lockstep.Proofs.Recollections

/-! Questions about the snapshots of a repository, one after the other. As long as git gives one
answer to each command, what is remembered makes no difference to the replies. Where git may change
its mind between two questions, a reference keeps the commit that it was first found to mean. -/
namespace Lockstep

inductive Question where
  | commit (ref : Text)
  | files (ref : Text)
  | content (ref : Text) (path : Path)

def Question.ref : Question → Text
  | .commit ref => ref
  | .files ref => ref
  | .content ref _ => ref

inductive Reply where
  | commit (commit : Text)
  | files (paths : List Path)
  | content (held : Except ReadError (Option Bytes))
deriving DecidableEq

namespace Repository

open Access

def ask (r : Repository) : Question → Access Recollection Reply
  | .commit ref => return .commit (← r.resolve ref)
  | .files ref => return .files (← r.list ref)
  | .content ref path => return .content (← r.read ref path)

/-- The replies to some questions, each asked of a repository as it is at that time. What ends in a
fault is a reply too, and the next question follows. -/
def askAll : List (Repository × Question) → Session Recollection →
    List (Except Fault Reply) × Session Recollection
  | [], s => ([], s)
  | (r, q) :: rest, s =>
    let (reply, between) := (r.ask q).perform s
    let (replies, after) := askAll rest between
    (reply :: replies, after)

def reply (r : Repository) : Question → Except Fault Reply
  | .commit ref => return .commit (← r.commitOf ref)
  | .files ref => return .files (← r.listed ref)
  | .content ref path => return .content (← r.content ref path)

variable {r : Repository} {ref : Text} {m n : Recollection} {s : Session Recollection}

theorem ask_answers (q : Question) : (r.ask q).Answers r.Faithful (r.reply q) := by
  cases q with
  | commit ref => exact answers_bind (resolve_answers ref) fun _ _ => answers_pure _
  | files ref => exact answers_bind (list_answers ref) fun _ _ => answers_pure _
  | content ref path => exact answers_bind (read_answers ref path) fun _ _ => answers_pure _

theorem ask_trail (r : Repository) (q : Question) (s : Session Recollection) :
    r.Trail q.ref s.memory ((r.ask q).perform s).2.memory := by
  cases q with
  | commit ref => exact trail_bind (resolve_trail r ref s) fun _ _ _ => .nil _
  | files ref => exact trail_bind (list_trail r ref s) fun _ _ _ => .nil _
  | content ref path => exact trail_bind (read_trail r ref path s) fun _ _ _ => .nil _

/-- Whether no command was run again whose answer is one to remember, and each such answer that was
given is remembered. -/
structure Frugal (r : Repository) (m : Recollection) : Prop where
  once : ∀ arguments, r.Accepts arguments → m.calls.count (r.program :: arguments) ≤ 1
  knows : ∀ arguments, r.Accepts arguments → r.program :: arguments ∈ m.calls → m.Knows arguments

theorem Runs.frugal {arguments : List Text} (h : r.Runs ref arguments m n) (before : r.Frugal m) :
    r.Frugal n := by
  constructor
  · intro other accepts
    rw [h.calls, List.count_append]
    by_cases same : other = arguments
    · subst same
      have first : r.program :: other ∉ m.calls := fun run =>
        h.unknown (before.knows other accepts run)
      simp [List.count_eq_zero_of_not_mem first]
    · have apart : r.program :: arguments ≠ r.program :: other := by simpa using Ne.symm same
      simpa [List.count_singleton, apart] using before.once other accepts
  · intro other accepts run
    rw [h.calls, List.mem_append, List.mem_singleton] at run
    rcases run with earlier | now
    · exact h.kept.knows (before.knows other accepts earlier)
    · obtain rfl := (List.cons.inj now).2
      exact h.learns accepts

theorem Trail.frugal (h : r.Trail ref m n) (before : r.Frugal m) : r.Frugal n := by
  induction h with
  | nil => exact before
  | cons _ run _ ih => exact ih (run.frugal before)

theorem askAll_same (questions : List Question) (faithful : r.Faithful s.memory)
    (frugal : r.Frugal s.memory) :
    ∃ after, askAll (questions.map (r, ·)) s = (questions.map r.reply, after) ∧
      r.Frugal after.memory := by
  induction questions generalizing s with
  | nil => exact ⟨s, rfl, frugal⟩
  | cons q rest ih =>
    obtain ⟨between, run, still⟩ := ask_answers q s faithful
    have trail := ask_trail r q s
    rw [run] at trail
    obtain ⟨after, others, ends⟩ := ih still (trail.frugal frugal)
    refine ⟨after, ?_, ends⟩
    simp only [List.map_cons, askAll, run, others]

/-- As long as git gives one answer to each command and the work tree stays as it is, every question
gets the reply that it would get if it were the first one, whatever was asked before it and however
that ended. And a command whose answer is one to remember, the commit of a reference or the files of
a commit, is run once at most. -/
theorem replies_eq_first (r : Repository) (questions : List Question) :
    let asked := askAll (questions.map (r, ·)) { memory := {} }
    asked.1 = questions.map (fun q => ((r.ask q).perform { memory := {} }).1) ∧
      ∀ arguments, r.Accepts arguments →
        asked.2.memory.calls.count (r.program :: arguments) ≤ 1 := by
  intro asked
  have frugal : r.Frugal {} := by
    constructor
    · intro arguments _
      exact Nat.zero_le 1
    · intro arguments _ run
      cases run
  obtain ⟨after, run, ends⟩ :=
    askAll_same (s := { memory := {} }) questions r.faithful_empty frugal
  simp only [asked, run]
  refine ⟨?_, ends.once⟩
  apply List.map_congr_left
  intro q _
  obtain ⟨_, first, _⟩ := ask_answers q { memory := {} } r.faithful_empty
  rw [first]

theorem replies_eq_first_of_two_names :
    let answers : List (List Text × Text) :=
      [(commitCommand "1", "c\n"), (commitCommand "2", "c\n"),
        (treeCommand "c", "1 blob 0\ta\x00"), (contentCommand "c" "a", "x")]
    let r : Repository := answering answers (.finished { code := 1, out := [], err := [] })
    let questions : List Question :=
      [.commit "3", .files "1", .content "2" "a", .commit "3", .files "2", .content "1" "b"]
    let asked := askAll (questions.map (r, ·)) { memory := {} }
    asked.1 =
      [.error (.unavailable (.unknownRevision "3")), .ok (.files ["a"]),
        .ok (.content (.ok (some (Text.toUtf8 "x")))),
        .error (.unavailable (.unknownRevision "3")), .ok (.files ["a"]),
        .ok (.content (.ok none))] ∧
      r.Accepts (treeCommand "c") ∧
      asked.2.memory.calls.count (r.program :: treeCommand "c") = 1 ∧
      asked.2.memory.calls.count (r.program :: commitCommand "3") = 2 := by
  intro answers r questions asked
  have listed : r.filesAt "1" "c" = .ok ["a"] := by decide +kernel
  have accepts : r.Accepts (treeCommand "c") := .tree listed
  obtain ⟨replies, once⟩ := r.replies_eq_first questions
  have run : r.program :: treeCommand "c" ∈ asked.2.memory.calls := by decide +kernel
  refine ⟨replies.trans (by decide +kernel), accepts, ?_, by decide +kernel⟩
  exact Nat.le_antisymm (once _ accepts) (List.count_pos_iff.mpr run)

end Repository
end Lockstep
