import Lockstep.Region

/-! The scan reads classified lines one by one and remembers only where it is in a region. Each
line that cannot stand where it does is reported at the directive to mend, and the scan goes on
behind it. -/
namespace Lockstep.Scan

/-- What a line means to the scan: a directive, or source in one of three roles. -/
inductive Reading where
  | opens
  | declares (target : Text)
  | declaresList
  | closes
  | entry (target : Text)
  | separator
  | code
deriving DecidableEq

/-- Source that names a target is an entry, and a line with nothing but filler is a separator. -/
def Reading.ofLine (m : Markers) (line : Text) : Reading :=
  match Line.classify m line with
  | .opens => .opens
  | .declares target => .declares target
  | .declaresList => .declaresList
  | .closes => .closes
  | .source =>
    match Line.targetEntry? line with
    | some target => .entry target
    | none => if Line.isSeparator line then .separator else .code

structure Entry where
  target : Text
  line : Nat
deriving DecidableEq

inductive State where
  | idle
  /-- Inside a region that no declaration has ended, opened at a line. -/
  | body (opened : Nat)
  /-- Inside a list of targets that began at a line. -/
  | list (opened declared : Nat) (entries : List Entry)
deriving DecidableEq

structure Block where
  firstLine : Nat
  lastLine : Nat
  entries : List Entry
deriving DecidableEq

inductive Event where
  | block (b : Block)
  | fault (line : Nat) (fault : AnnotationFault)
deriving DecidableEq

/-- The end of a list whose region reaches `last`: a region, unless the list is empty. -/
def finishList (opened declared : Nat) (entries : List Entry) (last : Nat) : Event :=
  if entries.isEmpty then .fault declared .emptyList
  else .block { firstLine := opened + 1, lastLine := last, entries }

/-- The end of a list that no closing line ends. Where such an end is allowed, the region reaches
the last entry. -/
def breakList (implicitClose : Bool) (opened declared : Nat) (entries : List Entry) : Event :=
  if implicitClose then
    finishList opened declared entries ((entries.getLast?.map Entry.line).getD declared)
  else .fault declared .unclosedList

def stepIdle (line : Nat) : Reading → State × List Event
  | .opens => (.body line, [])
  | .declares _ => (.idle, [.fault line .declaredOutside])
  | .declaresList => (.idle, [.fault line .declaredOutside])
  | .closes => (.idle, [.fault line .closedOutside])
  | _ => (.idle, [])

def stepBody (opened line : Nat) : Reading → State × List Event
  | .opens => (.body opened, [.fault line .openedInside])
  | .declares target =>
    (.idle, [.block { firstLine := opened + 1, lastLine := line, entries := [⟨target, line⟩] }])
  | .declaresList => (.list opened line [], [])
  | .closes => (.body opened, [.fault line .closedBeforeDeclared])
  | _ => (.body opened, [])

/-- A line inside a list. One that belongs to no list ends it and is then read as a line outside of
all regions. -/
def stepList (implicitClose : Bool) (opened declared : Nat) (entries : List Entry) (line : Nat)
    (reading : Reading) : State × List Event :=
  let broken :=
    let (next, events) := stepIdle line reading
    (next, breakList implicitClose opened declared entries :: events)
  match reading with
  | .closes => (.idle, [finishList opened declared entries (line - 1)])
  | .entry target => (.list opened declared (entries ++ [⟨target, line⟩]), [])
  | .separator => if implicitClose then broken else (.list opened declared entries, [])
  | _ => broken

def step (implicitClose : Bool) (state : State) (line : Nat) (reading : Reading) :
    State × List Event :=
  match state with
  | .idle => stepIdle line reading
  | .body opened => stepBody opened line reading
  | .list opened declared entries => stepList implicitClose opened declared entries line reading

def finish (implicitClose : Bool) : State → List Event
  | .idle => []
  | .body opened => [.fault opened .neverDeclared]
  | .list opened declared entries => [breakList implicitClose opened declared entries]

def advance (implicitClose : Bool) (state : State) (line : Nat) :
    List Reading → State × List Event
  | [] => (state, [])
  | reading :: rest =>
    let (next, events) := step implicitClose state line reading
    let (last, more) := advance implicitClose next (line + 1) rest
    (last, events ++ more)

def run (implicitClose : Bool) (readings : List Reading) : List Event :=
  let (last, events) := advance implicitClose .idle 1 readings
  events ++ finish implicitClose last

theorem advance_append (implicitClose : Bool) (state : State) (line : Nat)
    (front back : List Reading) :
    advance implicitClose state line (front ++ back) =
      let (middle, events) := advance implicitClose state line front
      let (last, more) := advance implicitClose middle (line + front.length) back
      (last, events ++ more) := by
  induction front generalizing state line with
  | nil => simp [advance]
  | cons reading rest ih =>
    simp only [List.cons_append, advance, ih, List.length_cons, List.append_assoc]
    rw [Nat.add_assoc line 1, Nat.add_comm 1]

end Lockstep.Scan
