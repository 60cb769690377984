/-! Readers of a document's characters. A reader finds a value at the start of its input and leaves
the rest. That the rest is never longer than the input is part of the type, so that a loop which
takes a single character in each round comes to an end. -/
namespace Lockstep.Toml

inductive Fault where
  | malformed
  | integerTooLong
  | tooDeep
deriving DecidableEq

/-- What a reader found in an input of some size, and what it left. -/
structure Reading (α : Type) (size : Nat) where
  value : α
  rest : List Char
  bounded : rest.length ≤ size

namespace Reading

variable {α β : Type} {m n : Nat}

def map (f : α → β) (r : Reading α n) : Reading β n := { r with value := f r.value }

def within (r : Reading α m) (h : m ≤ n) : Reading α n :=
  { r with bounded := Nat.le_trans r.bounded h }

end Reading

abbrev Outcome (α : Type) (size : Nat) := Except Fault (Reading α size)

namespace Outcome

variable {α β : Type} {m n : Nat}

def map (f : α → β) (o : Outcome α n) : Outcome β n := Except.map (Reading.map f) o

def within (o : Outcome α m) (h : m ≤ n) : Outcome α n := Except.map (·.within h) o

def andThen (o : Outcome α n) (next : α → (rest : List Char) → rest.length ≤ n → Outcome β n) :
    Outcome β n :=
  match o with
  | .error e => .error e
  | .ok r => next r.value r.rest r.bounded

def withFirst (input : List Char)
    (next : Char → (rest : List Char) → rest.length < input.length → Outcome β input.length) :
    Outcome β input.length :=
  match input with
  | [] => .error .malformed
  | c :: rest => next c rest (Nat.lt_succ_self _)

end Outcome

def Reader (α : Type) := (input : List Char) → Outcome α input.length

namespace Reader

variable {α β : Type}

instance : Monad Reader where
  pure a := fun input => .ok ⟨a, input, Nat.le_refl _⟩
  bind r f := fun input => (r input).andThen fun a rest h => (f a rest).within h

def fail (e : Fault := .malformed) : Reader α := fun _ => .error e

/-- The second reader stands in where the first finds nothing well-formed. -/
instance : OrElse (Reader α) where
  orElse first second := fun input =>
    match first input with
    | .error .malformed => second () input
    | outcome => outcome

def optional (r : Reader α) : Reader (Option α) := (some <$> r) <|> pure none

def satisfying (p : Char → Bool) : Reader Char
  | [] => .error .malformed
  | c :: rest => if p c then .ok ⟨c, rest, Nat.le_succ _⟩ else .error .malformed

def literal : List Char → Reader Unit
  | [] => pure ()
  | c :: cs => do
    let _ ← satisfying (· = c)
    literal cs

def run (p : Char → Bool) : Reader (List Char) := fun input =>
  .ok ⟨input.takeWhile p, input.dropWhile p, (List.dropWhile_sublist p).length_le⟩

def check (condition : Bool) : Reader Unit := if condition then pure () else fail

end Reader
end Lockstep.Toml
