/-! Stable sorting by insertion. It computes by structural recursion, so that sorted reports of
small repositories can be evaluated in proofs, and it is linear where the input is sorted already,
as listings mostly are. -/
namespace Lockstep

variable {α : Type _}

def insertSorted (le : α → α → Bool) (x : α) : List α → List α
  | [] => [x]
  | y :: rest => if le x y then x :: y :: rest else y :: insertSorted le x rest

def sortBy (le : α → α → Bool) (xs : List α) : List α := xs.foldr (insertSorted le) []

theorem perm_insertSorted (le : α → α → Bool) (x : α) (xs : List α) :
    (insertSorted le x xs).Perm (x :: xs) := by
  induction xs with
  | nil => exact .refl _
  | cons y rest ih =>
    unfold insertSorted
    split
    · exact .refl _
    · exact (ih.cons y).trans (.swap x y rest)

theorem perm_sortBy (le : α → α → Bool) (xs : List α) : (sortBy le xs).Perm xs := by
  induction xs with
  | nil => exact .refl _
  | cons x rest ih => exact (perm_insertSorted le x _).trans (ih.cons x)

@[simp] theorem mem_sortBy {le : α → α → Bool} {x : α} {xs : List α} :
    x ∈ sortBy le xs ↔ x ∈ xs :=
  (perm_sortBy le xs).mem_iff

theorem pairwise_insertSorted {le : α → α → Bool}
    (total : ∀ a b, le a b = true ∨ le b a = true)
    (trans : ∀ a b c, le a b = true → le b c = true → le a c = true)
    (x : α) {xs : List α} (sorted : xs.Pairwise fun a b => le a b = true) :
    (insertSorted le x xs).Pairwise fun a b => le a b = true := by
  induction xs with
  | nil => simp [insertSorted]
  | cons y rest ih =>
    have ⟨head, tail⟩ := List.pairwise_cons.mp sorted
    unfold insertSorted
    split
    next h =>
      refine List.pairwise_cons.mpr ⟨fun z hz => ?_, sorted⟩
      rcases List.mem_cons.mp hz with rfl | hz
      · exact h
      · exact trans _ _ _ h (head z hz)
    next h =>
      refine List.pairwise_cons.mpr ⟨fun z hz => ?_, ih tail⟩
      rcases List.mem_cons.mp ((perm_insertSorted le x rest).mem_iff.mp hz) with rfl | hz
      · exact (total z y).resolve_left h
      · exact head z hz

theorem pairwise_sortBy {le : α → α → Bool}
    (total : ∀ a b, le a b = true ∨ le b a = true)
    (trans : ∀ a b c, le a b = true → le b c = true → le a c = true) (xs : List α) :
    (sortBy le xs).Pairwise fun a b => le a b = true := by
  induction xs with
  | nil => exact .nil
  | cons x rest ih => exact pairwise_insertSorted total trans x ih

def lexLe [LT α] [DecidableLT α] [DecidableEq α] : List α → List α → Bool
  | [], _ => true
  | _ :: _, [] => false
  | a :: as, b :: bs => a < b || (a = b && lexLe as bs)

section

variable [LT α] [DecidableLT α] [DecidableEq α]

theorem lexLe_total [Std.Trichotomous (@LT.lt α _)] (as bs : List α) :
    lexLe as bs = true ∨ lexLe bs as = true := by
  fun_induction lexLe as bs with
  | case1 => exact .inl rfl
  | case2 => exact .inr rfl
  | case3 a as b bs ih =>
    simp only [lexLe, Bool.or_eq_true, Bool.and_eq_true, decide_eq_true_eq]
    rcases Std.lt_trichotomy a b with h | rfl | h
    · exact .inl (.inl h)
    · exact ih.imp (fun h => .inr ⟨rfl, h⟩) fun h => .inr ⟨rfl, h⟩
    · exact .inr (.inl h)

theorem lexLe_trans [Trans (@LT.lt α _) (@LT.lt α _) (@LT.lt α _)] {as bs cs : List α}
    (h₁ : lexLe as bs = true) (h₂ : lexLe bs cs = true) : lexLe as cs = true := by
  induction as generalizing bs cs with
  | nil => rfl
  | cons a as ih =>
    cases bs with
    | nil => cases h₁
    | cons b bs =>
      cases cs with
      | nil => cases h₂
      | cons c cs =>
        simp only [lexLe, Bool.or_eq_true, Bool.and_eq_true, decide_eq_true_eq] at h₁ h₂ ⊢
        rcases h₁ with h₁ | ⟨rfl, h₁⟩
        · rcases h₂ with h₂ | ⟨rfl, -⟩
          · exact .inl (Trans.trans h₁ h₂)
          · exact .inl h₁
        · rcases h₂ with h₂ | ⟨rfl, h₂⟩
          · exact .inl h₂
          · exact .inr ⟨rfl, ih h₁ h₂⟩

theorem lexLe_antisymm [Std.Asymm (@LT.lt α _)] {as bs : List α}
    (h₁ : lexLe as bs = true) (h₂ : lexLe bs as = true) : as = bs := by
  induction as generalizing bs with
  | nil =>
    cases bs with
    | nil => rfl
    | cons b bs => cases h₂
  | cons a as ih =>
    cases bs with
    | nil => cases h₁
    | cons b bs =>
      simp only [lexLe, Bool.or_eq_true, Bool.and_eq_true, decide_eq_true_eq] at h₁ h₂
      rcases h₁ with h₁ | ⟨rfl, h₁⟩
      · rcases h₂ with h₂ | ⟨rfl, -⟩
        · exact absurd h₂ (Std.Asymm.asymm _ _ h₁)
        · exact absurd h₁ (Std.Asymm.asymm _ _ h₁)
      · rcases h₂ with h₂ | ⟨-, h₂⟩
        · exact absurd h₂ (Std.Asymm.asymm _ _ h₂)
        · rw [ih h₁ h₂]

end

def distinct [DecidableEq α] : List α → List α
  | [] => []
  | x :: rest => x :: (distinct rest).filter (· ≠ x)

@[simp] theorem mem_distinct [DecidableEq α] {x : α} {xs : List α} :
    x ∈ distinct xs ↔ x ∈ xs := by
  induction xs with
  | nil => simp [distinct]
  | cons y rest ih => by_cases h : x = y <;> simp [distinct, h, ih]

theorem nodup_distinct [DecidableEq α] (xs : List α) : (distinct xs).Nodup := by
  induction xs with
  | nil => exact .nil
  | cons x rest ih =>
    refine List.nodup_cons.mpr ⟨by simp, ?_⟩
    exact List.Pairwise.filter _ ih

end Lockstep
