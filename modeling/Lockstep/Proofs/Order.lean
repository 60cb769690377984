import Lockstep.Finding

/-! Reports are sorted by file first. Whatever order breaks the ties, the whole is one that a sort
can follow: any two elements compare, and comparisons chain. -/
namespace Lockstep

namespace Text

theorem le_total (a b : Text) : a.le b = true ∨ b.le a = true := lexLe_total _ _

theorem le_trans {a b c : Text} (h₁ : a.le b = true) (h₂ : b.le c = true) : a.le c = true :=
  lexLe_trans h₁ h₂

theorem le_antisymm {a b : Text} (h₁ : a.le b = true) (h₂ : b.le a = true) : a = b := by
  have ranks : a.map Glyph.rank = b.map Glyph.rank := lexLe_antisymm h₁ h₂
  exact List.map_inj_right (fun _ _ => Glyph.rank_injective) |>.mp ranks

theorem lt_iff {a b : Text} : a.lt b = true ↔ ¬b.le a = true := by
  unfold lt
  simp

theorem le_of_lt {a b : Text} (h : a.lt b = true) : a.le b = true :=
  (le_total a b).resolve_right (lt_iff.mp h)

theorem lt_trans {a b c : Text} (h₁ : a.lt b = true) (h₂ : b.lt c = true) : a.lt c = true := by
  rw [lt_iff] at h₂ ⊢
  intro back
  exact h₂ (le_trans back (le_of_lt h₁))

end Text

section

variable {α : Type} {file : α → Path} {inner : α → α → Bool}

theorem byFile_total (total : ∀ a b, inner a b = true ∨ inner b a = true) (a b : α) :
    ((file a).lt (file b) || (file a = file b && inner a b)) = true ∨
      ((file b).lt (file a) || (file b = file a && inner b a)) = true := by
  simp only [Bool.or_eq_true, Bool.and_eq_true, decide_eq_true_eq]
  by_cases forth : (file a).lt (file b) = true
  · exact .inl (.inl forth)
  · by_cases back : (file b).lt (file a) = true
    · exact .inr (.inl back)
    · rw [Text.lt_iff, Decidable.not_not] at forth back
      have same := Text.le_antisymm back forth
      exact (total a b).imp (fun h => .inr ⟨same, h⟩) fun h => .inr ⟨same.symm, h⟩

theorem byFile_trans
    (trans : ∀ a b c, inner a b = true → inner b c = true → inner a c = true) (a b c : α)
    (h₁ : ((file a).lt (file b) || (file a = file b && inner a b)) = true)
    (h₂ : ((file b).lt (file c) || (file b = file c && inner b c)) = true) :
    ((file a).lt (file c) || (file a = file c && inner a c)) = true := by
  simp only [Bool.or_eq_true, Bool.and_eq_true, decide_eq_true_eq] at h₁ h₂ ⊢
  rcases h₁ with h₁ | ⟨same₁, h₁⟩
  · rcases h₂ with h₂ | ⟨same₂, -⟩
    · exact .inl (Text.lt_trans h₁ h₂)
    · exact .inl (same₂ ▸ h₁)
  · rcases h₂ with h₂ | ⟨same₂, h₂⟩
    · exact .inl (same₁ ▸ h₂)
    · exact .inr ⟨same₁.trans same₂, trans a b c h₁ h₂⟩

end

namespace Finding

theorem le_total (a b : Finding) : a.le b = true ∨ b.le a = true :=
  @byFile_total Finding source (fun a b => lexLe a.place b.place)
    (fun a b => lexLe_total a.place b.place) a b

theorem le_trans (a b c : Finding) : a.le b = true → b.le c = true → a.le c = true :=
  @byFile_trans Finding source (fun a b => lexLe a.place b.place)
    (fun _ _ _ h₁ h₂ => lexLe_trans h₁ h₂) a b c

theorem pairwise_sorted (findings : List Finding) :
    (sortBy le findings).Pairwise fun a b => a.le b = true :=
  pairwise_sortBy le_total le_trans findings

end Finding
end Lockstep
