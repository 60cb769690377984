import Lockstep.Alignment

/-! That the alignment takes a longest shared run, and so keeps as a whole a list that stands in the
old one without a gap, also where elements repeat. -/
namespace Lockstep

namespace Alignment

variable {α : Type _} [DecidableEq α]

theorem Run.size_le_longer (best other : Run) :
    best.size ≤ (best.longer other).size ∧ other.size ≤ (best.longer other).size := by
  unfold longer
  split
  · omega
  · omega

theorem size_le_longestAt (i j : Nat) (old new : List α) (best : Run) :
    best.size ≤ (longestAt i old j new best).size ∧
      ∀ k, sharedLength old (new.drop k) ≤ (longestAt i old j new best).size := by
  induction new generalizing j best with
  | nil => simp [longestAt, sharedLength]
  | cons b rest ih =>
    unfold longestAt
    have ⟨kept, later⟩ := ih (j + 1) (best.longer ⟨i, j, sharedLength old (b :: rest)⟩)
    have ⟨first, here⟩ := best.size_le_longer ⟨i, j, sharedLength old (b :: rest)⟩
    refine ⟨Nat.le_trans first kept, ?_⟩
    intro k
    cases k with
    | zero => exact Nat.le_trans here kept
    | succ k => exact later k

theorem size_le_longestFrom (i : Nat) (old new : List α) (best : Run) :
    best.size ≤ (longestFrom i old new best).size ∧
      ∀ m k, sharedLength (old.drop m) (new.drop k) ≤ (longestFrom i old new best).size := by
  induction old generalizing i best with
  | nil => simp [longestFrom, sharedLength]
  | cons a rest ih =>
    unfold longestFrom
    have ⟨kept, later⟩ := ih (i + 1) (longestAt i (a :: rest) 0 new best)
    have ⟨first, here⟩ := size_le_longestAt i 0 (a :: rest) new best
    refine ⟨Nat.le_trans first kept, ?_⟩
    intro m k
    cases m with
    | zero => exact Nat.le_trans (here k) kept
    | succ m => exact later m k

theorem sharedLength_le_longest (old new : List α) (m k : Nat) :
    sharedLength (old.drop m) (new.drop k) ≤ (longest old new).size :=
  (size_le_longestFrom 0 old new ⟨0, 0, 0⟩).2 m k

theorem longest_within_new (old new : List α) :
    (longest old new).newStart + (longest old new).size ≤ new.length := by
  apply longest_induction (P := fun r => r.newStart + r.size ≤ new.length) (by simp)
  intro m k _ hk
  have := sharedLength_le_right (old.drop m) (new.drop k)
  rw [List.length_drop] at this
  dsimp only
  omega

theorem sharedLength_append (xs rest : List α) : sharedLength (xs ++ rest) xs = xs.length := by
  induction xs with
  | nil => simp [sharedLength]
  | cons x xs ih => simp [sharedLength, ih]

theorem longest_of_slice {old new : List α} (within : new <:+: old) :
    (longest old new).newStart = 0 ∧ (longest old new).size = new.length := by
  obtain ⟨before, after, rfl⟩ := within
  have long := sharedLength_le_longest (before ++ new ++ after) new before.length 0
  have bound := longest_within_new (before ++ new ++ after) new
  rw [List.append_assoc, List.drop_left, List.drop_zero, sharedLength_append] at long
  rw [List.append_assoc] at bound ⊢
  omega

theorem kept_nil (old : List α) : kept old [] = [] := by
  rw [kept]
  exact if_pos (longest_of_slice List.nil_infix).2

theorem kept_of_slice {old new : List α} (within : new <:+: old) :
    kept old new = List.replicate new.length true := by
  cases new with
  | nil => exact kept_nil old
  | cons x rest =>
    obtain ⟨start, size⟩ := longest_of_slice within
    rw [kept, start, size]
    simp [kept_nil]

end Alignment

theorem Matching.changed_self (matching : Matching) (digests : List Digest) :
    matching.changed digests digests = List.replicate digests.length false := by
  cases matching with
  | sequence => simp [changed, Alignment.kept_of_slice List.infix_rfl]
  | position => simp [changed, List.zipWith_self, List.map_const']

end Lockstep
