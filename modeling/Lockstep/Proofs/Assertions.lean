import Lockstep.Proofs.Stretches

/-! The scan kept in one record, in which an open region and a list of targets may be missing. Every
use of either is asserted, and an assertion that fails ends the scan without a result. The states of
the scan have no place for such a failure; the two agree because none ever happens. -/
namespace Lockstep.Scan

structure Draft where
  opened : Nat
  declared : Option Nat := none
  entries : List Entry := []

def Draft.lastLine (d : Draft) : Nat :=
  match d.entries.getLast? with
  | some e => e.line
  | none => d.declared.getD d.opened

structure Progress where
  draft : Option Draft := none
  events : List Event := []

namespace Progress

def fault (p : Progress) (line : Nat) (fault : AnnotationFault) : Progress :=
  { p with events := p.events ++ [.fault line fault] }

def emit (p : Progress) (last : Nat) : Option Progress := do
  let d ← p.draft
  return { draft := none,
           events := p.events ++
             [.block { firstLine := d.opened + 1, lastLine := last, entries := d.entries }] }

def closeList (p : Progress) (last : Nat) : Option Progress := do
  let d ← p.draft
  let declared ← d.declared
  if d.entries.isEmpty then return { p.fault declared .emptyList with draft := none }
  else p.emit last

def readOutside (p : Progress) (line : Nat) (reading : Reading) : Option Progress :=
  match p.draft with
  | some _ => none
  | none =>
    match reading with
    | .opens => some { p with draft := some { opened := line } }
    | .declares _ | .declaresList => some (p.fault line .declaredOutside)
    | .closes => some (p.fault line .closedOutside)
    | .entry _ | .separator | .code => some p

def readBody (p : Progress) (d : Draft) (line : Nat) : Reading → Option Progress
  | .opens => some (p.fault line .openedInside)
  | .declares target =>
    let d := { d with declared := some line, entries := d.entries ++ [⟨target, line⟩] }
    emit { p with draft := some d } line
  | .declaresList => some { p with draft := some { d with declared := some line } }
  | .closes => some (p.fault line .closedBeforeDeclared)
  | .entry _ | .separator | .code => some p

/-- Reads a line in a list. One that does not belong to it ends it and is read a second time. -/
def readList (implicitClose : Bool) (p : Progress) (d : Draft) (declared line : Nat)
    (reading : Reading) : Option Progress :=
  let broken := do
    let ended ←
      if implicitClose then p.closeList d.lastLine
      else some { p.fault declared .unclosedList with draft := none }
    ended.readOutside line reading
  match reading with
  | .closes => p.closeList (line - 1)
  | .entry target =>
    some { p with draft := some { d with entries := d.entries ++ [⟨target, line⟩] } }
  | .separator => if implicitClose then broken else some p
  | _ => broken

def read (implicitClose : Bool) (p : Progress) (line : Nat) (reading : Reading) :
    Option Progress :=
  match p.draft with
  | none => p.readOutside line reading
  | some d =>
    match d.declared with
    | none => p.readBody d line reading
    | some declared => p.readList implicitClose d declared line reading

def readAll (implicitClose : Bool) (p : Progress) (line : Nat) : List Reading → Option Progress
  | [] => some p
  | reading :: rest => do
    (← p.read implicitClose line reading).readAll implicitClose (line + 1) rest

def close (implicitClose : Bool) (p : Progress) : Option Progress :=
  match p.draft with
  | none => some p
  | some d =>
    match d.declared with
    | none => some { p.fault d.opened .neverDeclared with draft := none }
    | some declared =>
      if implicitClose then p.closeList d.lastLine
      else some { p.fault declared .unclosedList with draft := none }

end Progress

def assertedRun (implicitClose : Bool) (readings : List Reading) : Option (List Event) := do
  let p ← ({} : Progress).readAll implicitClose 1 readings
  return (← p.close implicitClose).events

def State.draft : State → Option Draft
  | .idle => none
  | .body opened => some { opened }
  | .list opened declared entries => some { opened, declared := some declared, entries }

namespace Progress

variable (implicitClose : Bool) (events : List Event)

theorem closeList_list (opened declared last : Nat) (entries : List Entry) :
    closeList ⟨(State.list opened declared entries).draft, events⟩ last =
      some ⟨none, events ++ [finishList opened declared entries last]⟩ := by
  cases entries <;> rfl

theorem lastLine_list (opened declared : Nat) (entries : List Entry) :
    Draft.lastLine { opened, declared := some declared, entries } =
      (entries.getLast?.map Entry.line).getD declared := by
  unfold Draft.lastLine
  cases entries.getLast? <;> rfl

theorem readOutside_idle (line : Nat) (reading : Reading) :
    readOutside ⟨none, events⟩ line reading =
      some ⟨(stepIdle line reading).1.draft, events ++ (stepIdle line reading).2⟩ := by
  cases reading <;> simp [readOutside, stepIdle, State.draft, fault]

theorem break_list (opened declared : Nat) (entries : List Entry) :
    (if implicitClose then
        closeList ⟨(State.list opened declared entries).draft, events⟩
          (Draft.lastLine { opened, declared := some declared, entries })
      else some { fault ⟨(State.list opened declared entries).draft, events⟩ declared
                    .unclosedList with draft := none }) =
      some ⟨none, events ++ [breakList implicitClose opened declared entries]⟩ := by
  cases implicitClose with
  | false => rfl
  | true =>
    rw [if_pos rfl, closeList_list, lastLine_list]
    rfl

theorem read_eq (state : State) (line : Nat) (reading : Reading) :
    read implicitClose ⟨state.draft, events⟩ line reading =
      some ⟨(step implicitClose state line reading).1.draft,
        events ++ (step implicitClose state line reading).2⟩ := by
  cases state with
  | idle => exact readOutside_idle events line reading
  | body opened =>
    cases reading <;> simp [read, readBody, step, stepBody, State.draft, fault, emit]
  | list opened declared entries =>
    have broken := break_list implicitClose events opened declared entries
    have closed := closeList_list events opened declared (line - 1) entries
    simp only [State.draft] at broken closed
    cases reading <;> cases implicitClose <;>
      simp_all [read, readList, step, stepList, State.draft, readOutside_idle]

theorem readAll_eq (state : State) (line : Nat) (readings : List Reading) :
    readAll implicitClose ⟨state.draft, events⟩ line readings =
      some ⟨(advance implicitClose state line readings).1.draft,
        events ++ (advance implicitClose state line readings).2⟩ := by
  induction readings generalizing state line events with
  | nil => simp [readAll, advance]
  | cons reading rest ih =>
    rw [readAll, read_eq]
    simp only [Option.bind_eq_bind, Option.bind_some, ih, advance, List.append_assoc]

theorem close_eq (state : State) :
    close implicitClose ⟨state.draft, events⟩ =
      some ⟨none, events ++ finish implicitClose state⟩ := by
  cases state with
  | idle => simp [close, State.draft, finish]
  | body opened => rfl
  | list opened declared entries => exact break_list implicitClose events opened declared entries

end Progress

/-- No assertion fails, whatever the lines are. -/
theorem assertedRun_eq (implicitClose : Bool) (readings : List Reading) :
    assertedRun implicitClose readings = some (run implicitClose readings) := by
  have start : Progress.readAll implicitClose {} 1 readings =
      some ⟨(advance implicitClose .idle 1 readings).1.draft,
        (advance implicitClose .idle 1 readings).2⟩ :=
    Progress.readAll_eq implicitClose [] .idle 1 readings
  simp only [assertedRun, start, Option.bind_eq_bind, Option.bind_some, Progress.close_eq]
  rfl

end Lockstep.Scan
