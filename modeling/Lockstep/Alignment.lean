import Lockstep.Digest.Sha256

/-! Which elements of a new list carry on an old one. By position, the lists are compared place by
place; by sequence, they are aligned on shared runs. The longest shared run is taken first, of
equally long ones the first in the old list and then the first in the new, and what lies before
and behind it is aligned in the same way. -/
namespace Lockstep

inductive Matching where
  | position
  | sequence
deriving DecidableEq, Inhabited

namespace Alignment

variable {α : Type _} [DecidableEq α]

structure Run where
  oldStart : Nat
  newStart : Nat
  size : Nat
deriving DecidableEq

def sharedLength : List α → List α → Nat
  | a :: as, b :: bs => if a = b then sharedLength as bs + 1 else 0
  | _, _ => 0

def Run.longer (best other : Run) : Run := if best.size < other.size then other else best

def longestAt (i : Nat) (old : List α) (j : Nat) (new : List α) (best : Run) : Run :=
  match new with
  | [] => best
  | b :: rest => longestAt i old (j + 1) rest (best.longer ⟨i, j, sharedLength old (b :: rest)⟩)

def longestFrom (i : Nat) (old new : List α) (best : Run) : Run :=
  match old with
  | [] => best
  | a :: rest => longestFrom (i + 1) rest new (longestAt i (a :: rest) 0 new best)

def longest (old new : List α) : Run := longestFrom 0 old new ⟨0, 0, 0⟩

theorem sharedLength_le_left (as bs : List α) : sharedLength as bs ≤ as.length := by
  fun_induction sharedLength as bs <;> simp_all

theorem sharedLength_le_right (as bs : List α) : sharedLength as bs ≤ bs.length := by
  fun_induction sharedLength as bs <;> simp_all

theorem longestAt_induction {P : Run → Prop} {i j : Nat} {old new : List α} {best : Run}
    (start : P best)
    (each : ∀ k, k ≤ new.length → P ⟨i, j + k, sharedLength old (new.drop k)⟩) :
    P (longestAt i old j new best) := by
  induction new generalizing j best with
  | nil => exact start
  | cons b rest ih =>
    unfold longestAt
    apply ih
    · unfold Run.longer
      split
      · exact each 0 (Nat.zero_le _)
      · exact start
    · intro k hk
      have := each (k + 1) (by simpa using hk)
      rwa [List.drop_succ_cons, show j + (k + 1) = j + 1 + k by omega] at this

theorem longestFrom_induction {P : Run → Prop} {i : Nat} {old new : List α} {best : Run}
    (start : P best)
    (each : ∀ m k, m ≤ old.length → k ≤ new.length →
      P ⟨i + m, k, sharedLength (old.drop m) (new.drop k)⟩) :
    P (longestFrom i old new best) := by
  induction old generalizing i best with
  | nil => exact start
  | cons a rest ih =>
    unfold longestFrom
    apply ih
    · apply longestAt_induction start
      intro k hk
      simpa using each 0 k (Nat.zero_le _) hk
    · intro m k hm hk
      have := each (m + 1) k (by simpa using hm) hk
      rwa [List.drop_succ_cons, show i + (m + 1) = i + 1 + m by omega] at this

/-- The longest run is a shared run: it is as long as the lists agree from where it starts. -/
theorem longest_induction {P : Run → Prop} {old new : List α} (start : P ⟨0, 0, 0⟩)
    (each : ∀ m k, m ≤ old.length → k ≤ new.length →
      P ⟨m, k, sharedLength (old.drop m) (new.drop k)⟩) : P (longest old new) :=
  longestFrom_induction start fun m k hm hk => by simpa using each m k hm hk

theorem longest_within_old (old new : List α) :
    (longest old new).oldStart + (longest old new).size ≤ old.length := by
  apply longest_induction (P := fun r => r.oldStart + r.size ≤ old.length) (by simp)
  intro m k hm _
  have := sharedLength_le_left (old.drop m) (new.drop k)
  rw [List.length_drop] at this
  dsimp only
  omega

/-- For each place of the new list, whether the alignment pairs it with one of the old list. -/
def kept (old new : List α) : List Bool :=
  let run := longest old new
  if run.size = 0 then new.map fun _ => false
  else
    kept (old.take run.oldStart) (new.take run.newStart)
      ++ List.replicate run.size true
      ++ kept (old.drop (run.oldStart + run.size)) (new.drop (run.newStart + run.size))
termination_by old.length
decreasing_by
  all_goals
    have := longest_within_old old new
    have : (longest old new).size ≠ 0 := ‹_›
    simp only [List.length_take, List.length_drop]
    omega

end Alignment

/-- For each fingerprint of the new list, whether it counts as changed. By position, lists of
different length give no pairs to trust, and everything counts as changed. -/
def Matching.changed (matching : Matching) (old new : List Digest) : List Bool :=
  match matching with
  | .sequence => (Alignment.kept old new).map (!·)
  | .position =>
    if old.length = new.length then old.zipWith (fun a b => a != b) new
    else new.map fun _ => true

end Lockstep
