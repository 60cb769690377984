import Lockstep.Scan.File

/-! A file as the scan sees it: its lines fall into stretches, each read from outside of all regions
to outside of all regions, and each with its own events. Every sequence of lines divides in this way
and has the events of its stretches, so that what holds of each stretch holds of every file, however
malformed. -/
namespace Lockstep.Scan

variable {implicitClose : Bool} {line : Nat}

def outcome (implicitClose : Bool) (state : State) (line : Nat) (readings : List Reading) :
    List Event :=
  let (last, events) := advance implicitClose state line readings
  events ++ finish implicitClose last

@[simp] theorem outcome_nil (state : State) :
    outcome implicitClose state line [] = finish implicitClose state := rfl

theorem outcome_cons (state : State) (reading : Reading) (rest : List Reading) :
    outcome implicitClose state line (reading :: rest) =
      (step implicitClose state line reading).2 ++
        outcome implicitClose (step implicitClose state line reading).1 (line + 1) rest := by
  simp [outcome, advance]

namespace Reading

def isSource : Reading → Bool
  | .entry _ | .separator | .code => true
  | _ => false

def isDeclaration : Reading → Bool
  | .declares _ | .declaresList => true
  | _ => false

def staysInList (implicitClose : Bool) : Reading → Bool
  | .entry _ => true
  | .separator => !implicitClose
  | _ => false

/-- Whether a list of targets ends before a line, without being closed by it. -/
def breaksList (implicitClose : Bool) (reading : Reading) : Bool :=
  reading ≠ .closes && !reading.staysInList implicitClose

end Reading

def strays (line : Nat) : List Reading → List Event
  | [] => []
  | .opens :: rest => .fault line .openedInside :: strays (line + 1) rest
  | .closes :: rest => .fault line .closedBeforeDeclared :: strays (line + 1) rest
  | _ :: rest => strays (line + 1) rest

def entriesOf (line : Nat) : List Reading → List Entry
  | [] => []
  | .entry target :: rest => ⟨target, line⟩ :: entriesOf (line + 1) rest
  | _ :: rest => entriesOf (line + 1) rest

theorem outcome_body {body : List Reading} (plain : ∀ r ∈ body, r.isDeclaration = false)
    (opened : Nat) (rest : List Reading) :
    outcome implicitClose (.body opened) line (body ++ rest) =
      strays line body ++ outcome implicitClose (.body opened) (line + body.length) rest := by
  induction body generalizing line with
  | nil => rfl
  | cons reading body ih =>
    have tail := @ih (line + 1) fun r hr => plain r (by simp [hr])
    have head := plain reading (by simp)
    rw [Nat.add_assoc, Nat.add_comm 1] at tail
    cases reading <;>
      simp_all [outcome_cons, step, stepBody, strays, Reading.isDeclaration]

theorem outcome_list {list : List Reading} (stay : ∀ r ∈ list, r.staysInList implicitClose = true)
    (opened declared : Nat) (entries : List Entry) (rest : List Reading) :
    outcome implicitClose (.list opened declared entries) line (list ++ rest) =
      outcome implicitClose (.list opened declared (entries ++ entriesOf line list))
        (line + list.length) rest := by
  induction list generalizing line entries with
  | nil => simp [entriesOf]
  | cons reading list ih =>
    have tail := @ih (line + 1) fun r hr => stay r (by simp [hr])
    have head := stay reading (by simp)
    rw [Nat.add_assoc, Nat.add_comm 1] at tail
    cases reading <;>
      simp_all [outcome_cons, step, stepList, entriesOf, Reading.staysInList]

theorem outcome_broken {rest : List Reading}
    (broken : ∀ r ∈ rest.head?, r.breaksList implicitClose = true) (opened declared : Nat)
    (entries : List Entry) :
    outcome implicitClose (.list opened declared entries) line rest =
      breakList implicitClose opened declared entries :: outcome implicitClose .idle line rest := by
  cases rest with
  | nil => rfl
  | cons reading rest =>
    have head := broken reading (by simp)
    cases reading <;>
      simp_all [outcome_cons, step, stepList, Reading.breaksList, Reading.staysInList]

/-- Lines that are read together, the first of which has number `line`, with the line behind them,
if there is one, and the events they give. -/
inductive Stretch (implicitClose : Bool) (line : Nat) :
    List Reading → Option Reading → List Event → Prop where
  /-- A line outside of all regions that opens none. -/
  | outside {reading next} (stays : reading ≠ .opens) :
      Stretch implicitClose line [reading] next (stepIdle line reading).2
  /-- A region that ends with the line that declares its target. -/
  | inline {body next} (target : Text) (plain : ∀ r ∈ body, r.isDeclaration = false) :
      Stretch implicitClose line (.opens :: (body ++ [.declares target])) next
        (strays (line + 1) body ++
          [.block { firstLine := line + 1, lastLine := line + 1 + body.length,
                    entries := [⟨target, line + 1 + body.length⟩] }])
  /-- A region with a list that a closing line ends. -/
  | closed {body list next} (plain : ∀ r ∈ body, r.isDeclaration = false)
      (stay : ∀ r ∈ list, r.staysInList implicitClose = true) :
      Stretch implicitClose line (.opens :: (body ++ .declaresList :: (list ++ [.closes]))) next
        (strays (line + 1) body ++
          [finishList line (line + 1 + body.length) (entriesOf (line + 2 + body.length) list)
            (line + 1 + body.length + list.length)])
  /-- A region with a list that ends where it does not go on. -/
  | broken {body list next} (plain : ∀ r ∈ body, r.isDeclaration = false)
      (stay : ∀ r ∈ list, r.staysInList implicitClose = true)
      (breaks : ∀ r ∈ next, r.breaksList implicitClose = true) :
      Stretch implicitClose line (.opens :: (body ++ .declaresList :: list)) next
        (strays (line + 1) body ++
          [breakList implicitClose line (line + 1 + body.length)
            (entriesOf (line + 2 + body.length) list)])
  /-- A region that nothing has declared when the file ends. -/
  | undeclared {body} (plain : ∀ r ∈ body, r.isDeclaration = false) :
      Stretch implicitClose line (.opens :: body) none
        (strays (line + 1) body ++ [.fault line .neverDeclared])

/-- Lines that divide into stretches, with the events of all of them. -/
inductive Division (implicitClose : Bool) : Nat → List Reading → List Event → Prop where
  | done {line : Nat} : Division implicitClose line [] []
  | stretch {line : Nat} {front rest events more}
      (first : Stretch implicitClose line front rest.head? events)
      (others : Division implicitClose (line + front.length) rest more) :
      Division implicitClose line (front ++ rest) (events ++ more)

/-- A stretch is read without regard to what stands before it, and leaves nothing behind. -/
theorem Stretch.outcome_append {front rest : List Reading} {events : List Event}
    (h : Stretch implicitClose line front rest.head? events) :
    outcome implicitClose .idle line (front ++ rest) =
      events ++ outcome implicitClose .idle (line + front.length) rest := by
  generalize hnext : rest.head? = next at h
  cases h with
  | @outside reading _ stays =>
    cases reading <;> simp_all [outcome_cons, step, stepIdle]
  | @inline body _ target plain =>
    simp only [List.cons_append, List.append_assoc, outcome_cons, step, stepIdle, List.nil_append,
      outcome_body plain, stepBody, List.length_cons, List.length_append, List.length_nil]
    congr 3
    omega
  | @closed body list _ plain stay =>
    simp only [List.cons_append, List.append_assoc, outcome_cons, step, stepIdle, List.nil_append,
      outcome_body plain, stepBody, outcome_list stay, stepList, List.length_cons,
      List.length_append, List.length_nil]
    congr 2
    · congr 2 <;> omega
    · congr 1
      omega
  | @broken body list _ plain stay breaks =>
    subst hnext
    simp only [List.cons_append, List.append_assoc, outcome_cons, step, stepIdle, List.nil_append,
      outcome_body plain, stepBody, outcome_list stay, outcome_broken breaks, List.length_cons,
      List.length_append]
    congr 2
    · congr 2
      omega
    · congr 1
      omega
  | @undeclared body plain =>
    rw [List.head?_eq_none_iff] at hnext
    subst hnext
    have whole := @outcome_body implicitClose (line + 1) body plain line []
    simp only [List.append_nil, outcome_nil, finish] at whole
    simp [outcome_cons, step, stepIdle, whole, finish]

theorem Division.outcome_eq {readings : List Reading} {events : List Event}
    (h : Division implicitClose line readings events) :
    outcome implicitClose .idle line readings = events := by
  induction h with
  | done => rfl
  | stretch first _ ih => rw [first.outcome_append, ih]

private theorem exists_longest_front {α : Type} (p : α → Bool) (xs : List α) :
    ∃ front back, xs = front ++ back ∧ (∀ x ∈ front, p x = true) ∧ ∀ x ∈ back.head?, p x = false :=
  ⟨xs.takeWhile p, xs.dropWhile p, List.takeWhile_append_dropWhile.symm,
    List.all_eq_true.mp List.all_takeWhile, fun x hx => by
      have := List.head?_dropWhile_not p xs
      rw [Option.mem_def] at hx
      simpa [hx] using this⟩

theorem exists_stretch (implicitClose : Bool) (line : Nat) (reading : Reading)
    (rest : List Reading) :
    ∃ front back events, reading :: rest = front ++ back ∧ front ≠ [] ∧
      Stretch implicitClose line front back.head? events := by
  by_cases hopens : reading = .opens
  · subst hopens
    obtain ⟨body, tail, rfl, plain, ends⟩ := exists_longest_front (!·.isDeclaration) rest
    have plain : ∀ r ∈ body, r.isDeclaration = false := by simpa using plain
    match tail with
    | [] => exact ⟨.opens :: body, [], _, by simp, by simp, .undeclared plain⟩
    | .declares target :: after =>
      exact ⟨.opens :: (body ++ [.declares target]), after, _, by simp, by simp,
        .inline target plain⟩
    | .declaresList :: after =>
      obtain ⟨list, behind, rfl, stay, last⟩ :=
        exists_longest_front (·.staysInList implicitClose) after
      by_cases hcloses : behind.head? = some .closes
      · obtain ⟨back, rfl⟩ := List.head?_eq_some_iff.mp hcloses
        exact ⟨.opens :: (body ++ .declaresList :: (list ++ [.closes])), back, _, by simp, by simp,
          .closed plain stay⟩
      · refine ⟨.opens :: (body ++ .declaresList :: list), behind, _, by simp, by simp,
          .broken plain stay ?_⟩
        intro r hr
        have : r ≠ .closes := by
          rintro rfl
          exact hcloses hr
        simp [Reading.breaksList, this, last r hr]
    | .opens :: _ | .closes :: _ | .entry _ :: _ | .separator :: _ | .code :: _ =>
      simp [Reading.isDeclaration] at ends
  · exact ⟨[reading], rest, _, rfl, by simp, .outside hopens⟩

theorem exists_division (implicitClose : Bool) (line : Nat) (readings : List Reading) :
    ∃ events, Division implicitClose line readings events := by
  match readings with
  | [] => exact ⟨[], .done⟩
  | reading :: rest =>
    obtain ⟨front, back, events, split, nonempty, first⟩ :=
      exists_stretch implicitClose line reading rest
    have shorter : back.length < (reading :: rest).length := by
      have := List.length_pos_iff.mpr nonempty
      rw [split, List.length_append]
      omega
    obtain ⟨more, others⟩ := exists_division implicitClose (line + front.length) back
    rw [split]
    exact ⟨events ++ more, .stretch first others⟩
termination_by readings.length
decreasing_by simpa using shorter

/-- Every file divides into stretches. -/
theorem division_outcome (implicitClose : Bool) (line : Nat) (readings : List Reading) :
    Division implicitClose line readings (outcome implicitClose .idle line readings) := by
  obtain ⟨events, h⟩ := exists_division implicitClose line readings
  rwa [h.outcome_eq]

theorem division_run (implicitClose : Bool) (readings : List Reading) :
    Division implicitClose 1 readings (run implicitClose readings) :=
  division_outcome implicitClose 1 readings

end Lockstep.Scan
