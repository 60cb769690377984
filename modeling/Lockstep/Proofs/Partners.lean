import Mathlib.Data.Nat.Basic
import Mathlib.Order.Monotone.Defs
import Mathlib.Tactic.Choose
import Lockstep.Check
import Lockstep.Proofs.Obligations
import Lockstep.Proofs.PairedRuns

/-! The partners that an alignment finds. Each kept place of the new list has a place of the old
list with the same element, and partners come in the same order, so that none is used twice. Where
the lists repeat nothing and share elements in the same order, every shared element is kept. -/
namespace Lockstep

namespace Alignment

variable {α : Type _}

theorem shared_of_lt [DecidableEq α] {as bs : List α} {k : Nat} (inside : k < sharedLength as bs) :
    ∃ x, as[k]? = some x ∧ bs[k]? = some x := by
  induction as generalizing bs k with
  | nil => simp [sharedLength] at inside
  | cons a as ih =>
    cases bs with
    | nil => simp [sharedLength] at inside
    | cons b bs =>
      unfold sharedLength at inside
      split at inside
      case isFalse => cases inside
      case isTrue same =>
        cases k with
        | zero => exact ⟨a, rfl, congrArg some same.symm⟩
        | succ k => exact ih (Nat.lt_of_succ_lt_succ inside)

theorem pair_sublist_of_lt {xs : List α} {m n : Nat} {x y : α} (first : xs[m]? = some x)
    (second : xs[n]? = some y) (less : m < n) : [x, y].Sublist xs := by
  induction xs generalizing m n with
  | nil => cases first
  | cons a rest ih =>
    cases n with
    | zero => cases less
    | succ n =>
      rw [List.getElem?_cons_succ] at second
      cases m with
      | zero =>
        cases first
        exact (List.singleton_sublist.mpr (List.mem_of_getElem? second)).cons_cons x
      | succ m => exact (ih first second (Nat.lt_of_succ_lt_succ less)).cons a

theorem not_pair_sublist {xs : List α} {x y : α} (distinct : xs.Nodup)
    (order : [x, y].Sublist xs) : ¬ [y, x].Sublist xs := by
  intro reverse
  induction xs with
  | nil => cases order
  | cons a rest ih =>
    obtain ⟨fresh, distinct⟩ := List.nodup_cons.mp distinct
    cases order with
    | cons _ later =>
      cases reverse with
      | cons _ alsoLater => exact ih distinct later alsoLater
      | cons_cons _ _ => exact fresh (later.subset (by simp))
    | cons_cons _ later =>
      have other : y ∈ rest := List.singleton_sublist.mp later
      cases reverse with
      | cons _ alsoLater => exact fresh (alsoLater.subset (by simp))
      | cons_cons _ _ => exact fresh other

namespace Run

def Shares (run : Run) (old new : List α) : Prop :=
  ∀ k < run.size, ∃ x, old[run.oldStart + k]? = some x ∧ new[run.newStart + k]? = some x

def Before (run other : Run) : Prop :=
  run.oldStart + run.size ≤ other.oldStart ∧ run.newStart + run.size ≤ other.newStart

variable {run : Run} {old new : List α}

theorem Shares.of_take {m n : Nat} (shares : run.Shares (old.take m) (new.take n)) :
    run.Shares old new := by
  intro k inside
  obtain ⟨x, atOld, atNew⟩ := shares k inside
  rw [List.getElem?_take, Option.ite_none_right_eq_some] at atOld atNew
  exact ⟨x, atOld.2, atNew.2⟩

theorem Shares.of_drop {m n : Nat} (shares : run.Shares (old.drop m) (new.drop n)) :
    (run.shift m n).Shares old new := by
  intro k inside
  obtain ⟨x, atOld, atNew⟩ := shares k inside
  rw [List.getElem?_drop, ← Nat.add_assoc] at atOld atNew
  exact ⟨x, atOld, atNew⟩

theorem Shares.within (shares : run.Shares old new) (some : 0 < run.size) :
    run.oldStart + run.size ≤ old.length ∧ run.newStart + run.size ≤ new.length := by
  obtain ⟨x, atOld, atNew⟩ := shares (run.size - 1) (Nat.sub_lt some Nat.one_pos)
  have inOld := (List.getElem?_eq_some_iff.mp atOld).1
  have inNew := (List.getElem?_eq_some_iff.mp atNew).1
  omega

end Run

variable [DecidableEq α]

theorem longest_shares (old new : List α) : (longest old new).Shares old new := by
  apply longest_induction (P := fun run => run.Shares old new)
  · intro k none
    cases none
  · intro m n _ _ k inside
    obtain ⟨x, atOld, atNew⟩ := shared_of_lt inside
    rw [List.getElem?_drop] at atOld atNew
    exact ⟨x, atOld, atNew⟩

theorem shares_of_mem_runs {old new : List α} {run : Run} (paired : run ∈ runs old new) :
    0 < run.size ∧ run.Shares old new := by
  induction old, new using run_induction generalizing run with
  | apart old new apart =>
    rw [runs_of_apart apart] at paired
    cases paired
  | divided old new longest isLongest some before behind =>
    rw [runs_of_longest isLongest some] at paired
    rcases List.mem_append.mp paired with front | rest
    · obtain ⟨size, shares⟩ := before front
      exact ⟨size, shares.of_take⟩
    rcases List.mem_cons.mp rest with rfl | back
    · exact ⟨Nat.pos_of_ne_zero some, isLongest ▸ longest_shares old new⟩
    · obtain ⟨run, pairedBehind, rfl⟩ := List.mem_map.mp back
      obtain ⟨size, shares⟩ := behind pairedBehind
      exact ⟨size, shares.of_drop⟩

theorem pairwise_runs (old new : List α) : (runs old new).Pairwise Run.Before := by
  induction old, new using run_induction with
  | apart old new apart =>
    rw [runs_of_apart apart]
    exact .nil
  | divided old new longest isLongest some before behind =>
    -- What is paired in front of the longest run stays there, and what is paired behind it too.
    have front (run : Run)
        (paired : run ∈ runs (old.take longest.oldStart) (new.take longest.newStart)) :
        run.Before longest := by
      obtain ⟨size, shares⟩ := shares_of_mem_runs paired
      have within := shares.within size
      rw [List.length_take, List.length_take] at within
      unfold Run.Before
      omega
    have back (run : Run) : longest.Before
        (run.shift (longest.oldStart + longest.size) (longest.newStart + longest.size)) := by
      simp [Run.Before, Run.shift]
    rw [runs_of_longest isLongest some, List.pairwise_append, List.pairwise_cons, List.pairwise_map]
    refine ⟨before, ⟨?_, behind.imp ?_⟩, ?_⟩
    · intro run paired
      obtain ⟨run, -, rfl⟩ := List.mem_map.mp paired
      exact back run
    · intro run other order
      simp only [Run.Before, Run.shift] at order ⊢
      omega
    · intro run paired other rest
      rcases List.mem_cons.mp rest with rfl | behind
      · exact front run paired
      · obtain ⟨other, -, rfl⟩ := List.mem_map.mp behind
        have first := front run paired
        have second := back other
        unfold Run.Before at first second ⊢
        omega

theorem before_or_before {old new : List α} {run other : Run} (paired : run ∈ runs old new)
    (otherPaired : other ∈ runs old new) (differ : run ≠ other) :
    run.Before other ∨ other.Before run := by
  have ordered := List.pairwise_iff_getElem.mp (pairwise_runs old new)
  obtain ⟨m, inside, rfl⟩ := List.mem_iff_getElem.mp paired
  obtain ⟨n, otherInside, rfl⟩ := List.mem_iff_getElem.mp otherPaired
  rcases Nat.lt_trichotomy m n with less | same | greater
  · exact .inl (ordered m n inside otherInside less)
  · subst same
    exact absurd rfl differ
  · exact .inr (ordered n m otherInside inside greater)

theorem exists_partners (old new : List α) :
    ∃ partner : Nat → Nat,
      StrictMonoOn partner {place | (kept old new)[place]? = some true} ∧
        ∀ place, (kept old new)[place]? = some true →
          ∃ x, old[partner place]? = some x ∧ new[place]? = some x := by
  have covered (place : Nat) (isKept : (kept old new)[place]? = some true) :
      ∃ run, run ∈ runs old new ∧ run.Covers place :=
    (kept_iff old new place).mp isKept
  have : Nonempty Run := ⟨⟨0, 0, 0⟩⟩
  choose! run paired covers using covered
  refine ⟨fun place => (run place).oldStart + (place - (run place).newStart), ?_, ?_⟩
  · intro place isKept later laterKept less
    have here := covers place isKept
    have there := covers later laterKept
    unfold Run.Covers at here there
    dsimp only
    by_cases same : run place = run later
    · rw [same] at here ⊢
      omega
    · rcases before_or_before (paired place isKept) (paired later laterKept) same with h | h
      · unfold Run.Before at h
        omega
      · unfold Run.Before at h
        omega
  · intro place isKept
    have ⟨starts, ends⟩ := covers place isKept
    obtain ⟨x, atOld, atNew⟩ := (shares_of_mem_runs (paired place isKept)).2
      (place - (run place).newStart) (by omega)
    rw [Nat.add_sub_cancel' starts] at atNew
    exact ⟨x, atOld, atNew⟩

theorem exists_kept {old new : List α} {x : α} (inOld : x ∈ old) (inNew : x ∈ new) :
    ∃ place : Nat, (kept old new)[place]? = some true := by
  obtain ⟨oldPlace, atOld⟩ := List.mem_iff_getElem?.mp inOld
  obtain ⟨newPlace, atNew⟩ := List.mem_iff_getElem?.mp inNew
  obtain ⟨run, paired, -⟩ := covered_or_crossed old new atOld atNew
  obtain ⟨size, -⟩ := shares_of_mem_runs paired
  refine ⟨run.newStart, (kept_iff old new _).mpr ⟨run, paired, ?_⟩⟩
  unfold Run.Covers
  omega

section

variable {old new : List α} (distinct : new.Nodup)
  (sameOrder : old.filter (· ∈ new) = new.filter (· ∈ old))

include distinct sameOrder

theorem oldPlace_lt_of_newPlace_lt {oldPlace oldLater newPlace newLater : Nat} {x y : α}
    (atOld : old[oldPlace]? = some x) (laterOld : old[oldLater]? = some y)
    (atNew : new[newPlace]? = some x) (laterNew : new[newLater]? = some y)
    (less : newPlace < newLater) : oldPlace < oldLater := by
  have inOrder := pair_sublist_of_lt atNew laterNew less
  rcases Nat.lt_trichotomy oldPlace oldLater with before | same | behind
  · exact before
  · subst same
    cases atOld.symm.trans laterOld
    exact absurd inOrder (not_pair_sublist distinct inOrder)
  · have shared : [x, y].filter (· ∈ old) = [x, y] ∧ [y, x].filter (· ∈ new) = [y, x] := by
      simp [List.mem_of_getElem? atOld, List.mem_of_getElem? laterOld, List.mem_of_getElem? atNew,
        List.mem_of_getElem? laterNew]
    have forth := inOrder.filter (· ∈ old)
    have back := (pair_sublist_of_lt laterOld atOld behind).filter (· ∈ new)
    rw [shared.1] at forth
    rw [shared.2, sameOrder] at back
    exact absurd back (not_pair_sublist (distinct.sublist List.filter_sublist) forth)

theorem kept_of_sameOrder : kept old new = new.map fun x => decide (x ∈ old) := by
  apply List.ext_getElem?
  intro place
  rcases Nat.lt_or_ge place new.length with inside | outside
  · have atNew : new[place]? = some new[place] := List.getElem?_eq_getElem inside
    rw [List.getElem?_map, atNew, Option.map_some]
    by_cases inOld : new[place] ∈ old
    · obtain ⟨oldPlace, atOld⟩ := List.mem_iff_getElem?.mp inOld
      obtain ⟨run, paired, covers | crosses⟩ := covered_or_crossed old new atOld atNew
      · rw [(kept_iff old new place).mpr ⟨run, paired, covers⟩, decide_eq_true inOld]
      -- An end of a run that lies across would be a shared element in the other order.
      obtain ⟨size, shares⟩ := shares_of_mem_runs paired
      rcases crosses with ⟨oldBehind, newBefore⟩ | ⟨newBehind, oldBefore⟩
      · obtain ⟨x, firstOld, firstNew⟩ := shares 0 size
        have := oldPlace_lt_of_newPlace_lt distinct sameOrder atOld firstOld atNew
          firstNew newBefore
        omega
      · obtain ⟨x, lastOld, lastNew⟩ := shares (run.size - 1) (Nat.sub_lt size Nat.one_pos)
        have := oldPlace_lt_of_newPlace_lt distinct sameOrder lastOld atOld lastNew
          atNew (by omega)
        omega
    · obtain ⟨_, -, partners⟩ := exists_partners old new
      have notKept : (kept old new)[place]? ≠ some true := by
        intro isKept
        obtain ⟨x, atOld, atPlace⟩ := partners place isKept
        cases atNew.symm.trans atPlace
        exact inOld (List.mem_of_getElem? atOld)
      have held : place < (kept old new).length := by rwa [length_kept]
      rw [List.getElem?_eq_getElem held] at notKept ⊢
      simpa [inOld] using notKept
  · simp [outside]

end
end Alignment

namespace Check

variable {old new : List Region}

theorem markedRegions_sequence (old new : List Region) :
    markedRegions .sequence old new =
      new.zip ((Alignment.kept (old.map Region.digest) (new.map Region.digest)).map (!·)) :=
  rfl

theorem marked_iff {place : Nat} {r : Region} {changed : Bool} :
    (markedRegions .sequence old new)[place]? = some (r, changed) ↔
      new[place]? = some r ∧
        (Alignment.kept (old.map Region.digest) (new.map Region.digest))[place]? =
          some (!changed) := by
  rw [markedRegions_sequence, List.getElem?_zip_eq_some, List.getElem?_map, Option.map_eq_some_iff]
  simp [Bool.not_eq_eq_eq_not]

theorem map_fst_markedRegions : (markedRegions .sequence old new).map Prod.fst = new := by
  rw [markedRegions_sequence, List.map_fst_zip]
  simp

end Check

/-- Pairing by sequence is sound. It marks the new regions in their order. Those that it takes for
unchanged have partners among the old regions, with the same fingerprint and in the same order, so
a region without an equal one is changed; and if all are changed, there are no equal ones. -/
theorem unchanged_regions_have_partners (old new : List Region) :
    let marked := Check.markedRegions .sequence old new
    marked.map Prod.fst = new ∧
      (∃ partner : Nat → Nat,
        StrictMonoOn partner {place | ∃ r, marked[place]? = some (r, false)} ∧
          ∀ place r, marked[place]? = some (r, false) →
            ∃ before, old[partner place]? = some before ∧ before.digest = r.digest) ∧
      (∀ r changed, (r, changed) ∈ marked →
        (∀ before ∈ old, before.digest ≠ r.digest) → changed = true) ∧
      (Digest.Separates ((old ++ new).map Region.content) → ∀ r changed, (r, changed) ∈ marked →
        (∀ before ∈ old, before.content ≠ r.content) → changed = true) ∧
      ((∀ r changed, (r, changed) ∈ marked → changed = true) →
        ∀ r ∈ new, ∀ before ∈ old, before.digest ≠ r.digest) := by
  intro marked
  obtain ⟨partner, increasing, partners⟩ :=
    Alignment.exists_partners (old.map Region.digest) (new.map Region.digest)
  have pairs (place : Nat) (r : Region) (unchanged : marked[place]? = some (r, false)) :
      ∃ before, old[partner place]? = some before ∧ before.digest = r.digest := by
    obtain ⟨held, isKept⟩ := Check.marked_iff.mp unchanged
    obtain ⟨x, atOld, atNew⟩ := partners place isKept
    rw [List.getElem?_map] at atOld atNew
    rw [held] at atNew
    obtain ⟨before, found, rfl⟩ := Option.map_eq_some_iff.mp atOld
    exact ⟨before, found, (Option.some.inj atNew).symm⟩
  have equals (r : Region) (changed : Bool) (mem : (r, changed) ∈ marked)
      (alone : ∀ before ∈ old, before.digest ≠ r.digest) : changed = true := by
    obtain ⟨place, held⟩ := List.mem_iff_getElem?.mp mem
    cases changed with
    | true => rfl
    | false =>
      obtain ⟨before, found, same⟩ := pairs place r held
      exact absurd same (alone before (List.mem_of_getElem? found))
  refine ⟨Check.map_fst_markedRegions, ⟨partner, ?_, pairs⟩, equals, ?_, ?_⟩
  · rintro place ⟨r, held⟩ later ⟨r', laterHeld⟩ less
    exact increasing (Check.marked_iff.mp held).2 (Check.marked_iff.mp laterHeld).2 less
  · intro separated r changed mem alone
    have isNew : r ∈ marked.map Prod.fst := List.mem_map_of_mem mem
    rw [Check.map_fst_markedRegions] at isNew
    apply equals r changed mem
    intro before isOld same
    apply alone before isOld
    exact separated before.content (List.mem_map_of_mem (List.mem_append_left new isOld))
      r.content (List.mem_map_of_mem (List.mem_append_right old isNew)) same
  · intro all r isNew before isOld same
    have oldDigest : r.digest ∈ old.map Region.digest := same ▸ List.mem_map_of_mem isOld
    obtain ⟨place, isKept⟩ := Alignment.exists_kept oldDigest (List.mem_map_of_mem isNew)
    have inside := (List.getElem?_eq_some_iff.mp isKept).1
    rw [Alignment.length_kept, List.length_map] at inside
    have unchanged : marked[place]? = some (new[place], false) :=
      Check.marked_iff.mpr ⟨List.getElem?_eq_getElem inside, isKept⟩
    cases all _ _ (List.mem_of_getElem? unchanged)

/-- Where no new region repeats another one, and the regions that both versions have come in the
same order, pairing by sequence takes exactly these for unchanged. -/
theorem changed_regions_of_same_order {old new : List Region}
    (distinct : (new.map Region.digest).Nodup)
    (sameOrder : (old.map Region.digest).filter (· ∈ new.map Region.digest) =
      (new.map Region.digest).filter (· ∈ old.map Region.digest)) :
    Check.markedRegions .sequence old new =
      new.map fun r => (r, decide (∀ before ∈ old, before.digest ≠ r.digest)) := by
  have flags : (Alignment.kept (old.map Region.digest) (new.map Region.digest)).map (!·) =
      new.map fun r => decide (∀ before ∈ old, before.digest ≠ r.digest) := by
    rw [Alignment.kept_of_sameOrder distinct sameOrder, List.map_map, List.map_map]
    apply List.map_congr_left
    intro r _
    simp [← decide_not]
  rw [Check.markedRegions_sequence, flags, ← List.map_prod_left_eq_zip]

theorem changed_regions_of_same_order_of_three :
    let region (content : Bytes) : Region :=
      { file := "a", index := 0, firstLine := 1, lastLine := 2, targets := [], targetLines := [],
        content }
    let old : List Region := [region [1], region [2], region [3]]
    let new : List Region := [region [2], region [4], region [3]]
    (new.map Region.digest).Nodup ∧
      (old.map Region.digest).filter (· ∈ new.map Region.digest) =
        (new.map Region.digest).filter (· ∈ old.map Region.digest) ∧
      Check.markedRegions .sequence old new =
        [(region [2], false), (region [4], true), (region [3], false)] := by
  intro region old new
  have distinct : (new.map Region.digest).Nodup := by decide +kernel
  have sameOrder : (old.map Region.digest).filter (· ∈ new.map Region.digest) =
      (new.map Region.digest).filter (· ∈ old.map Region.digest) := by
    decide +kernel
  refine ⟨distinct, sameOrder, ?_⟩
  rw [changed_regions_of_same_order distinct sameOrder]
  decide +kernel

end Lockstep
