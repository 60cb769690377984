import Lockstep.Toml.Calendar
import Lockstep.Toml.Key

/-! Values of a document. Lists may run over several lines and hold comments; tables between braces
stand on one line. -/
namespace Lockstep.Toml

structure InlineTable where
  entries : Table := []
  /-- The paths of its lists and tables, to which nothing can be added. -/
  sealed : List (List Text) := []

/-- Whether a path leads to one of the `sealed` ones or below. -/
def isSealed (sealed : List (List Text)) (path : List Text) : Bool :=
  sealed.any fun p => p.isPrefixOf path

def isCompound : Value → Bool
  | .list _ | .table _ => true
  | _ => false

def InlineTable.insert? (t : InlineTable) (k : Key) (v : Value) : Option InlineTable :=
  if isSealed t.sealed k.path then none
  else return {
    entries := ← t.entries.update? false (Table.insertNew? k.name v) k.above
    sealed := if isCompound v then k.path :: t.sealed else t.sealed }

namespace Reader

def commentRest : Reader Unit := do
  let words ← run (· ≠ '\n')
  check (!words.any isControl)

def gap : Reader Unit
  | [] => .ok ⟨(), [], Nat.le_refl _⟩
  | c :: rest =>
    if isSpaceOrNewline c then (gap rest).within (Nat.le_succ _)
    else if c = '#' then
      ((commentRest rest).andThen fun _ after shorter => (gap after).within shorter).within
        (Nat.le_succ _)
    else .ok ⟨(), c :: rest, Nat.le_refl _⟩
termination_by input => input.length

def scalar : Reader Value :=
  (do return .text (← quotedLines))
    <|> (do return .text (← quotedLine))
    <|> truthValue
    <|> moment
    <|> number
    <|> specialNumber

/-- What is left to do when a reading asks for another one, which is of kind `j` of three, on a
shorter input. -/
theorem work_lt {m n j k : Nat} (h : m < n) (hj : j < 3) : 3 * m + j < 3 * n + k := by omega

/-- What is left to do when a reading asks for one of an earlier kind on the same input or a part
of it. -/
theorem work_lt_of_kind {m n j k : Nat} (h : m ≤ n) (hjk : j < k) : 3 * m + j < 3 * n + k := by
  omega

/-- How many calls are open at once for each list around a value, and for each table. -/
def callsOfList : Nat := 2

def callsOfTable : Nat := 3

/-! The readers of values may open so many calls as there is `room` for. Those of a key, a comment
or a value that holds no others are few, and not counted. -/
mutual

def value (room : Nat) (input : List Char) : Outcome Value input.length :=
  match input with
  | '[' :: rest =>
    if room < callsOfList then .error .tooDeep
    else ((items (room - callsOfList) rest).map .list).within (Nat.le_succ _)
  | '{' :: rest =>
    if room < callsOfTable then .error .tooDeep
    else ((inlineTable (room - callsOfTable) rest).map .table).within (Nat.le_succ _)
  | input => scalar input
termination_by 3 * input.length
decreasing_by
  · exact work_lt (k := 0) (Nat.lt_succ_self _) (by decide)
  · exact work_lt (k := 0) (Nat.lt_succ_self _) (by decide)

def items (room : Nat) (input : List Char) : Outcome (List Value) input.length :=
  (gap input).andThen fun _ start h₁ =>
    if start.head? = some ']' then
      .ok ⟨[], start.drop 1, Nat.le_trans (List.drop_sublist 1 start).length_le h₁⟩
    else
      ((value room start).andThen fun item next h₂ =>
        ((gap next).andThen fun _ mark h₃ =>
          (Outcome.withFirst mark fun c after h₄ =>
            if c = ']' then .ok ⟨[item], after, Nat.le_of_lt h₄⟩
            else if c = ',' then ((items room after).map (item :: ·)).within (Nat.le_of_lt h₄)
            else .error .malformed).within h₃).within h₂).within h₁
termination_by 3 * input.length + 1
decreasing_by
  · exact work_lt_of_kind (j := 0) h₁ (by decide)
  · exact work_lt (Nat.lt_of_lt_of_le h₄ (Nat.le_trans h₃ (Nat.le_trans h₂ h₁))) (by decide)

def inlineTable (room : Nat) (input : List Char) : Outcome Table input.length :=
  (spaces input).andThen fun _ start h₁ =>
    if start.head? = some '}' then
      .ok ⟨[], start.drop 1, Nat.le_trans (List.drop_sublist 1 start).length_le h₁⟩
    else (entries room {} start).within h₁
termination_by 3 * input.length + 2
decreasing_by exact work_lt_of_kind h₁ (by decide)

def entries (room : Nat) (t : InlineTable) (input : List Char) : Outcome Table input.length :=
  (assignedKey input).andThen fun k start h₁ =>
    ((value room start).andThen fun v next h₂ =>
      match t.insert? k v with
      | none => .error .malformed
      | some t =>
        ((spaces next).andThen fun _ mark h₃ =>
          (Outcome.withFirst mark fun c after h₄ =>
            if c = '}' then .ok ⟨t.entries, after, Nat.le_of_lt h₄⟩
            else if c = ',' then
              ((spaces after).andThen fun _ following h₅ =>
                (entries room t following).within h₅).within (Nat.le_of_lt h₄)
            else .error .malformed).within h₃).within h₂).within h₁
termination_by 3 * input.length + 1
decreasing_by
  · exact work_lt_of_kind (j := 0) h₁ (by decide)
  · exact work_lt (Nat.lt_of_le_of_lt h₅
      (Nat.lt_of_lt_of_le h₄ (Nat.le_trans h₃ (Nat.le_trans h₂ h₁)))) (by decide)

end

end Reader
end Lockstep.Toml
