import Lockstep.Line

/-! Where a content is cut into lines, and that the cut can be found again: lines that stand
together somewhere in a file are the lines of the bytes that they make up. -/
namespace Lockstep

def lineEndings : List Bytes := [[10], [13, 10], [13]]

/-- Whether bytes are one line, given the byte behind them. Only the last line of a content may lack
an ending, and a carriage return is not parted from a line feed. -/
def IsLine (line : Bytes) (next : Option UInt8) : Prop :=
  ∃ text ending, line = text ++ ending ∧ line ≠ [] ∧ (∀ b ∈ text, b ≠ 10 ∧ b ≠ 13) ∧
    (ending ∈ lineEndings ∧ (ending = [13] → next ≠ some 10) ∨ ending = [] ∧ next = none)

def AreLines : List Bytes → Prop
  | [] => True
  | line :: rest => IsLine line rest.flatten.head? ∧ AreLines rest

namespace IsLine

variable {line : Bytes} {next : Option UInt8}

theorem at_end (h : IsLine line next) : IsLine line none := by
  obtain ⟨text, ending, rfl, nonempty, plain, last⟩ := h
  refine ⟨text, ending, rfl, nonempty, plain, ?_⟩
  rcases last with ⟨ends, _⟩ | ⟨ends, _⟩
  · exact .inl ⟨ends, by simp⟩
  · exact .inr ⟨ends, rfl⟩

theorem cons {b : UInt8} (plain : b ≠ 10 ∧ b ≠ 13) (h : IsLine line next) :
    IsLine (b :: line) next := by
  obtain ⟨text, ending, rfl, _, others, last⟩ := h
  refine ⟨b :: text, ending, rfl, by simp, ?_, last⟩
  intro c hc
  rcases List.mem_cons.mp hc with rfl | hc
  · exact plain
  · exact others c hc

end IsLine

theorem splitLines_cons_of_plain {b : UInt8} (plain : b ≠ 10 ∧ b ≠ 13) (rest : Bytes) :
    splitLines (b :: rest) =
      match splitLines rest with
      | [] => [[b]]
      | line :: lines => (b :: line) :: lines := by
  have alone : ∀ tail, b = 13 → rest = 10 :: tail → False := fun _ h _ => plain.2 h
  have step := splitLines.eq_3 b rest alone
  rw [if_neg (by simpa using plain)] at step
  exact step

theorem splitLines_append {line : Bytes} (rest : Bytes) (h : IsLine line rest.head?) :
    splitLines (line ++ rest) = line :: splitLines rest := by
  obtain ⟨text, ending, rfl, nonempty, plain, last⟩ := h
  induction text with
  | nil =>
    rcases last with ⟨ends, alone⟩ | ⟨rfl, _⟩
    · simp only [lineEndings, List.mem_cons, List.not_mem_nil, or_false] at ends
      rcases ends with rfl | rfl | rfl
      · simp [splitLines]
      · simp [splitLines]
      · rw [List.nil_append, List.singleton_append, splitLines]
        · simp
        · intro more _ hrest
          simp [hrest] at alone
    · exact absurd rfl nonempty
  | cons b text ih =>
    have head := plain b (by simp)
    have tail : ∀ c ∈ text, c ≠ 10 ∧ c ≠ 13 := fun c hc => plain c (by simp [hc])
    rw [List.cons_append, List.cons_append, splitLines_cons_of_plain head]
    by_cases only : text ++ ending = []
    · rw [only]
      rcases last with ⟨ends, _⟩ | ⟨_, ended⟩
      · simp_all [lineEndings]
      · simp [List.head?_eq_none_iff.mp ended, splitLines]
    · rw [ih only tail]

theorem areLines_splitLines (content : Bytes) : AreLines (splitLines content) := by
  fun_induction splitLines content with
  | case1 => trivial
  | case2 rest ih =>
    exact ⟨⟨[], [13, 10], by simp [lineEndings]⟩, ih⟩
  | case3 b rest apart ends ih =>
    refine ⟨⟨[], [b], rfl, by simp, by simp, .inl ⟨?_, ?_⟩⟩, ih⟩
    · rcases ends with rfl | rfl <;> simp [lineEndings]
    · intro hb
      rw [flatten_splitLines]
      intro hnext
      obtain ⟨tail, htail⟩ := List.head?_eq_some_iff.mp hnext
      exact apart tail (by simpa using hb) htail
  | case4 b rest apart plain empty ih =>
    refine ⟨⟨[b], [], rfl, by simp, ?_, .inr ⟨rfl, rfl⟩⟩, trivial⟩
    simpa using plain
  | case5 b rest apart plain line lines split ih =>
    rw [split] at ih
    exact ⟨ih.1.cons (by simpa using plain), ih.2⟩

theorem splitLines_flatten {lines : List Bytes} (h : AreLines lines) :
    splitLines lines.flatten = lines := by
  induction lines with
  | nil => rfl
  | cons line rest ih => rw [List.flatten_cons, splitLines_append _ h.1, ih h.2]

namespace AreLines

variable {lines : List Bytes}

theorem drop (h : AreLines lines) (count : Nat) : AreLines (lines.drop count) := by
  induction count generalizing lines with
  | zero => exact h
  | succ count ih =>
    cases lines with
    | nil => trivial
    | cons line rest => exact ih h.2

theorem take (h : AreLines lines) (count : Nat) : AreLines (lines.take count) := by
  induction count generalizing lines with
  | zero => trivial
  | succ count ih =>
    cases lines with
    | nil => trivial
    | cons line rest =>
      refine ⟨?_, ih h.2⟩
      cases hmore : (rest.take count).flatten with
      | nil => exact h.1.at_end
      | cons b more =>
        have : rest.flatten.head? = some b := by
          rw [← List.take_append_drop count rest, List.flatten_append, hmore]
          rfl
        have first := h.1
        rwa [this] at first

end AreLines

theorem splitLines_range (content : Bytes) (first last : Nat) :
    splitLines (((splitLines content).take last).drop first).flatten =
      ((splitLines content).take last).drop first :=
  splitLines_flatten (((areLines_splitLines content).take last).drop first)

end Lockstep
