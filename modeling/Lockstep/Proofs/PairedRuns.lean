import Mathlib.Logic.Basic
import Lockstep.Proofs.SharedRuns

/-! The runs that an alignment pairs. They tell which places of the new list are kept, and they
leave nothing over that could still be paired: of two equal elements, the one in the new list is
kept, or a paired run lies across them. -/
namespace Lockstep.Alignment

variable {α : Type _} [DecidableEq α]

def Run.shift (oldBefore newBefore : Nat) (run : Run) : Run :=
  ⟨oldBefore + run.oldStart, newBefore + run.newStart, run.size⟩

def runs (old new : List α) : List Run :=
  let run := longest old new
  if run.size = 0 then []
  else
    runs (old.take run.oldStart) (new.take run.newStart)
      ++ run :: (runs (old.drop (run.oldStart + run.size))
          (new.drop (run.newStart + run.size))).map
        (Run.shift (run.oldStart + run.size) (run.newStart + run.size))
termination_by old.length
decreasing_by
  all_goals
    have := longest_within_old old new
    have : (longest old new).size ≠ 0 := ‹_›
    simp only [List.length_take, List.length_drop]
    omega

namespace Run

def Covers (run : Run) (place : Nat) : Prop :=
  run.newStart ≤ place ∧ place < run.newStart + run.size

/-- Whether a run lies across a place of the old list and one of the new list, so that these cannot
be paired beside it. -/
def Crosses (run : Run) (oldPlace newPlace : Nat) : Prop :=
  run.oldStart ≤ oldPlace ∧ newPlace < run.newStart ∨
    run.newStart + run.size ≤ newPlace ∧ oldPlace < run.oldStart + run.size

theorem covers_shift (oldBefore newBefore : Nat) (run : Run) (place : Nat) :
    (run.shift oldBefore newBefore).Covers place ↔
      newBefore ≤ place ∧ run.Covers (place - newBefore) := by
  simp only [Covers, shift]
  omega

theorem Crosses.shift {run : Run} {oldPlace newPlace : Nat} (h : run.Crosses oldPlace newPlace)
    (oldBefore newBefore : Nat) :
    (run.shift oldBefore newBefore).Crosses (oldBefore + oldPlace) (newBefore + newPlace) := by
  simp only [Crosses, Run.shift] at h ⊢
  omega

end Run

/-- What holds of lists that share nothing, and of lists that are divided by a longest shared run if
it holds of the parts before and behind the run, holds of all lists. -/
theorem run_induction {P : List α → List α → Prop}
    (apart : ∀ old new, (longest old new).size = 0 → P old new)
    (divided : ∀ old new run, longest old new = run → run.size ≠ 0 →
      P (old.take run.oldStart) (new.take run.newStart) →
      P (old.drop (run.oldStart + run.size)) (new.drop (run.newStart + run.size)) → P old new)
    (old new : List α) : P old new := by
  induction old, new using runs.induct with
  | case1 old new run none => exact apart old new none
  | case2 old new run some before behind => exact divided old new run rfl some before behind

section

variable {old new : List α}

theorem runs_of_apart (apart : (longest old new).size = 0) : runs old new = [] := by
  rw [runs]
  exact if_pos apart

theorem kept_of_apart (apart : (longest old new).size = 0) :
    kept old new = new.map fun _ => false := by
  rw [kept]
  exact if_pos apart

variable {run : Run} (longest : longest old new = run) (some : run.size ≠ 0)

include longest some

theorem runs_of_longest :
    runs old new = runs (old.take run.oldStart) (new.take run.newStart)
      ++ run :: (runs (old.drop (run.oldStart + run.size))
          (new.drop (run.newStart + run.size))).map
        (Run.shift (run.oldStart + run.size) (run.newStart + run.size)) := by
  subst longest
  rw [runs]
  exact if_neg some

theorem kept_of_longest :
    kept old new = kept (old.take run.oldStart) (new.take run.newStart)
      ++ List.replicate run.size true
      ++ kept (old.drop (run.oldStart + run.size)) (new.drop (run.newStart + run.size)) := by
  subst longest
  rw [kept]
  exact if_neg some

end

@[simp] theorem length_kept (old new : List α) : (kept old new).length = new.length := by
  induction old, new using run_induction with
  | apart old new apart => simp [kept_of_apart apart]
  | divided old new run longest some before behind =>
    have within := longest_within_new old new
    rw [longest] at within
    rw [kept_of_longest longest some, List.length_append, List.length_append, before, behind,
      List.length_take, List.length_replicate, List.length_drop]
    omega

theorem kept_place_iff {old new : List α} {run : Run} (longest : longest old new = run)
    (some : run.size ≠ 0) (place : Nat) :
    (kept old new)[place]? = .some true ↔
      (kept (old.take run.oldStart) (new.take run.newStart))[place]? = .some true ∨
        run.Covers place ∨ run.newStart + run.size ≤ place ∧
          (kept (old.drop (run.oldStart + run.size)) (new.drop (run.newStart + run.size)))[
            place - (run.newStart + run.size)]? = .some true := by
  have within := longest_within_new old new
  rw [longest] at within
  have front : (kept (old.take run.oldStart) (new.take run.newStart)).length = run.newStart := by
    rw [length_kept, List.length_take]
    omega
  have frontRun : (kept (old.take run.oldStart) (new.take run.newStart)
      ++ List.replicate run.size true).length = run.newStart + run.size := by
    rw [List.length_append, front, List.length_replicate]
  rw [kept_of_longest longest some]
  unfold Run.Covers
  rcases Nat.lt_or_ge place (run.newStart + run.size) with before | behind
  · rw [List.getElem?_append_left (by omega), and_iff_left before]
    simp only [Nat.not_le.mpr before, false_and, or_false]
    rcases Nat.lt_or_ge place run.newStart with inFront | inRun
    · rw [List.getElem?_append_left (by omega)]
      simp [Nat.not_le.mpr inFront]
    · rw [List.getElem?_append_right (by omega), List.getElem?_replicate, if_pos (by omega)]
      simp [inRun]
  · have notFront : (kept (old.take run.oldStart) (new.take run.newStart))[place]? = none :=
      List.getElem?_eq_none (by omega)
    rw [List.getElem?_append_right (by omega), frontRun, notFront]
    simp [behind, Nat.not_lt.mpr behind]

theorem kept_iff (old new : List α) (place : Nat) :
    (kept old new)[place]? = some true ↔ ∃ run ∈ runs old new, run.Covers place := by
  induction old, new using run_induction generalizing place with
  | apart old new apart =>
    constructor
    · intro kept
      rw [kept_of_apart apart, List.getElem?_map] at kept
      obtain ⟨_, -, none⟩ := Option.map_eq_some_iff.mp kept
      cases none
    · rintro ⟨run, paired, -⟩
      rw [runs_of_apart apart] at paired
      cases paired
  | divided old new run longest some before behind =>
    rw [kept_place_iff longest some, before, behind, runs_of_longest longest some]
    simp only [List.mem_append, List.mem_cons, List.mem_map, or_and_right, exists_or,
      exists_eq_left, exists_exists_and_eq_and, Run.covers_shift, and_left_comm, exists_and_left]

theorem sharedLength_pos {old new : List α} {oldPlace newPlace : Nat} {x : α}
    (atOld : old[oldPlace]? = some x) (atNew : new[newPlace]? = some x) :
    0 < sharedLength (old.drop oldPlace) (new.drop newPlace) := by
  obtain ⟨inOld, rfl⟩ := List.getElem?_eq_some_iff.mp atOld
  obtain ⟨inNew, same⟩ := List.getElem?_eq_some_iff.mp atNew
  rw [List.drop_eq_getElem_cons inOld, List.drop_eq_getElem_cons inNew, sharedLength,
    if_pos same.symm]
  omega

/-- Of equal elements the one in the new list is kept, or a paired run lies across them. -/
theorem covered_or_crossed (old new : List α) {oldPlace newPlace : Nat} {x : α}
    (atOld : old[oldPlace]? = some x) (atNew : new[newPlace]? = some x) :
    ∃ run ∈ runs old new, run.Covers newPlace ∨ run.Crosses oldPlace newPlace := by
  induction old, new using run_induction generalizing oldPlace newPlace with
  | apart old new apart =>
    have shared := sharedLength_pos atOld atNew
    have bound := sharedLength_le_longest old new oldPlace newPlace
    omega
  | divided old new run longest some before behind =>
    rw [runs_of_longest longest some]
    -- Elements on the same side of the longest run meet in that part. It lies across all others.
    rcases Nat.lt_or_ge newPlace run.newStart with newFront | newRun
    · rcases Nat.lt_or_ge oldPlace run.oldStart with oldFront | crossed
      · rw [← List.getElem?_take_of_lt oldFront] at atOld
        rw [← List.getElem?_take_of_lt newFront] at atNew
        obtain ⟨r, paired, h⟩ := before atOld atNew
        exact ⟨r, List.mem_append_left _ paired, h⟩
      · exact ⟨run, by simp, .inr (.inl ⟨crossed, newFront⟩)⟩
    · rcases Nat.lt_or_ge newPlace (run.newStart + run.size) with covered | newBehind
      · exact ⟨run, by simp, .inl ⟨newRun, covered⟩⟩
      · rcases Nat.lt_or_ge oldPlace (run.oldStart + run.size) with crossed | oldBehind
        · exact ⟨run, by simp, .inr (.inr ⟨newBehind, crossed⟩)⟩
        · obtain ⟨oldPlace, rfl⟩ := Nat.exists_eq_add_of_le oldBehind
          obtain ⟨newPlace, rfl⟩ := Nat.exists_eq_add_of_le newBehind
          rw [← List.getElem?_drop] at atOld atNew
          obtain ⟨r, paired, h⟩ := behind atOld atNew
          refine ⟨r.shift _ _, List.mem_append_right _ (List.mem_cons_of_mem _
            (List.mem_map_of_mem paired)), h.imp (fun covers => ?_) fun crosses => ?_⟩
          · rw [Run.covers_shift, Nat.add_sub_cancel_left]
            exact ⟨Nat.le_add_right _ _, covers⟩
          · exact crosses.shift _ _

end Lockstep.Alignment
