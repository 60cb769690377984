import Mathlib.Data.List.NodupEquivFin
import Lockstep.Proofs.Partners

/-! What pairing by sequence makes of regions when others are deleted. An alignment that took the
longest common part of the lists would keep them all. This one takes a longest run first, and where
regions repeat, the run may lie at a copy: a region that stayed then counts as changed. That is the
only way to lose one. -/
namespace Lockstep

namespace Alignment

variable {α : Type _} {old new : List α}

/-- Whether the elements of the new list are elements of the old one in the same order, each of them
from its place of origin. -/
def IsOrigin (origin : Nat ↪o Nat) (old new : List α) : Prop :=
  ∀ place, new[place]? = old[origin place]?

/-- Whether an element on one side of a place of the new list has a copy in the old list that does
not lie on this side of the place's origin. -/
def BesideCopy (origin : Nat ↪o Nat) (old new : List α) (place : Nat) : Prop :=
  ∃ other copy x, new[other]? = some x ∧ old[copy]? = some x ∧
    (place < other ∧ copy ≤ origin place ∨ other < place ∧ origin place ≤ copy)

theorem BesideCopy.exists_duplicate {origin : Nat ↪o Nat} {place : Nat}
    (isOrigin : IsOrigin origin old new) (beside : BesideCopy origin old new place) :
    ∃ x ∈ new, List.Duplicate x old := by
  obtain ⟨other, copy, x, atNew, atCopy, sides⟩ := beside
  have atOrigin := (isOrigin other).symm.trans atNew
  refine ⟨x, List.mem_of_getElem? atNew, List.duplicate_iff_sublist.mpr ?_⟩
  rcases sides with ⟨behind, before⟩ | ⟨before, behind⟩
  · exact pair_sublist_of_lt atCopy atOrigin
      (Nat.lt_of_le_of_lt before (origin.strictMono behind))
  · exact pair_sublist_of_lt atOrigin atCopy
      (Nat.lt_of_lt_of_le (origin.strictMono before) behind)

variable [DecidableEq α]

theorem besideCopy_of_dropped {origin : Nat ↪o Nat} (isOrigin : IsOrigin origin old new)
    {place : Nat} (dropped : (kept old new)[place]? = some false) :
    BesideCopy origin old new place := by
  have inside := (List.getElem?_eq_some_iff.mp dropped).1
  rw [length_kept] at inside
  have atNew := List.getElem?_eq_getElem inside
  have atOld := (isOrigin place).symm.trans atNew
  obtain ⟨run, paired, covers | crosses⟩ := covered_or_crossed old new atOld atNew
  · rw [(kept_iff old new place).mpr ⟨run, paired, covers⟩] at dropped
    cases dropped
  obtain ⟨size, shares⟩ := shares_of_mem_runs paired
  -- The end of the run that is nearer to the place is paired across it.
  rcases crosses with ⟨oldBefore, newBehind⟩ | ⟨newBefore, oldBehind⟩
  · obtain ⟨x, firstOld, firstNew⟩ := shares 0 size
    exact ⟨run.newStart, run.oldStart, x, firstNew, firstOld, .inl ⟨newBehind, oldBefore⟩⟩
  · obtain ⟨x, lastOld, lastNew⟩ := shares (run.size - 1) (Nat.sub_lt size Nat.one_pos)
    exact ⟨_, _, x, lastNew, lastOld, .inr (by omega)⟩

theorem kept_of_not_duplicate (remains : new.Sublist old)
    (single : ∀ x ∈ new, ¬ List.Duplicate x old) :
    kept old new = List.replicate new.length true := by
  obtain ⟨origin, isOrigin⟩ := List.sublist_iff_exists_orderEmbedding_getElem?_eq.mp remains
  rw [List.eq_replicate_iff]
  refine ⟨length_kept old new, fun flag mem => ?_⟩
  obtain ⟨place, held⟩ := List.mem_iff_getElem?.mp mem
  cases flag with
  | true => rfl
  | false =>
    obtain ⟨x, isNew, twice⟩ := (besideCopy_of_dropped isOrigin held).exists_duplicate isOrigin
    exact absurd twice (single x isNew)

end Alignment

theorem Check.markedRegions_of_kept {old new : List Region}
    (all : Alignment.kept (old.map Region.digest) (new.map Region.digest) =
      List.replicate new.length true) :
    markedRegions .sequence old new = new.map fun r => (r, false) := by
  rw [markedRegions_sequence, all, List.map_replicate, List.map_prod_left_eq_zip, List.map_const']
  rfl

/-- Where the fingerprints of the new regions are what is left of the old ones, wherever these came
from, pairing by sequence takes a region for changed only if another one on the one side of it has a
copy among the old regions on the other side, so that a fingerprint that stays stands twice in
the old list. It takes none for changed if none of those that stay stands twice, or if they stood
together. -/
theorem changed_regions_of_deletion (old new : List Region)
    (remains : (new.map Region.digest).Sublist (old.map Region.digest)) :
    let before := old.map Region.digest
    let after := new.map Region.digest
    let marked := Check.markedRegions .sequence old new
    (∃ origin, Alignment.IsOrigin origin before after) ∧
      (∀ origin, Alignment.IsOrigin origin before after →
        ∀ place r, marked[place]? = some (r, true) →
          Alignment.BesideCopy origin before after place ∧
            ∃ x ∈ after, List.Duplicate x before) ∧
      ((∀ x ∈ after, ¬ List.Duplicate x before) → marked = new.map fun r => (r, false)) ∧
      (after <:+: before → marked = new.map fun r => (r, false)) := by
  intro before after marked
  refine ⟨List.sublist_iff_exists_orderEmbedding_getElem?_eq.mp remains, ?_, ?_, ?_⟩
  · intro origin isOrigin place r flagged
    have dropped := (Check.marked_iff.mp flagged).2
    have beside := Alignment.besideCopy_of_dropped isOrigin dropped
    exact ⟨beside, beside.exists_duplicate isOrigin⟩
  · intro single
    have all := Alignment.kept_of_not_duplicate remains single
    rw [List.length_map] at all
    exact Check.markedRegions_of_kept all
  · intro within
    have all := Alignment.kept_of_slice within
    rw [List.length_map] at all
    exact Check.markedRegions_of_kept all

theorem changed_regions_of_deletion_at_ends :
    let region (content : Bytes) : Region :=
      { file := "a", index := 0, firstLine := 1, lastLine := 2, targets := [], targetLines := [],
        content }
    let old : List Region := [region [1], region [2], region [1], region [2], region [3]]
    let new : List Region := [region [2], region [1], region [2]]
    (new.map Region.digest).Sublist (old.map Region.digest) ∧
      Check.markedRegions .sequence old new = new.map fun r => (r, false) := by
  intro region old new
  have remains : (new.map Region.digest).Sublist (old.map Region.digest) := by decide +kernel
  have within : new.map Region.digest <:+: old.map Region.digest := by decide +kernel
  exact ⟨remains, (changed_regions_of_deletion old new remains).2.2.2 within⟩

/-- One region is deleted between others that are the same. The alignment takes the two behind it
for the first two of those that stay, and nothing is left for the third. -/
theorem remaining_region_is_changed :
    let region (content : Bytes) : Region :=
      { file := "a", index := 0, firstLine := 1, lastLine := 2, targets := [], targetLines := [],
        content }
    let old : List Region := [region [1], region [2], region [1], region [1]]
    let new : List Region := [region [1], region [1], region [1]]
    (new.map Region.digest).Sublist (old.map Region.digest) ∧
      Check.markedRegions .sequence old new =
        [(region [1], false), (region [1], false), (region [1], true)] := by
  decide +kernel

end Lockstep
