import Mathlib.Data.List.Basic
import Lockstep.Proofs.Regions

/-! Contents laid end to end. Where the first one ends with a line and leaves no region open, the
scan goes on as if the second one stood alone, only further down: a list that breaks off at its
opening line ends just as it would at the end of a file. -/
namespace Lockstep

/-- Whether one content ends with a line, also if another one stands behind it. -/
structure EndsLine (front back : Bytes) : Prop where
  ending : ∀ b ∈ front.getLast?, b = 10 ∨ b = 13
  apart : ¬(front.getLast? = some 13 ∧ back.head? = some 10)

theorem IsLine.before {line next : Bytes} (h : IsLine line none) (ends : EndsLine line next) :
    IsLine line next.head? := by
  obtain ⟨text, ending, rfl, nonempty, plain, last⟩ := h
  refine ⟨text, ending, rfl, nonempty, plain, .inl ?_⟩
  rcases last with ⟨known, -⟩ | ⟨rfl, -⟩
  · refine ⟨known, ?_⟩
    rintro rfl feed
    exact ends.apart ⟨by simp, feed⟩
  · -- A line without an ending has neither of the two bytes at its end.
    rw [List.append_nil] at nonempty ends
    have last := ends.ending (text.getLast nonempty) (List.getLast?_eq_some_getLast nonempty)
    have unlike := plain _ (List.getLast_mem nonempty)
    exact absurd last (not_or.mpr unlike)

theorem AreLines.append {front back : List Bytes} (first : AreLines front) (second : AreLines back)
    (ends : EndsLine front.flatten back.flatten) : AreLines (front ++ back) := by
  induction front with
  | nil => exact second
  | cons line rest ih =>
    rw [List.flatten_cons] at ends
    cases rest with
    | nil =>
      rw [List.flatten_nil, List.append_nil] at ends
      exact ⟨first.1.before ends, second⟩
    | cons next rest =>
      have filled : (next :: rest).flatten ≠ [] := by
        obtain ⟨_, _, -, nonempty, -⟩ := first.2.1
        simp [nonempty]
      have last := List.getLast?_append_of_ne_nil line filled
      have head : IsLine line ((next :: rest) ++ back).flatten.head? := by
        rw [List.flatten_append, List.head?_append_of_ne_nil _ filled]
        exact first.1
      exact ⟨head, ih first.2 ⟨last ▸ ends.ending, last ▸ ends.apart⟩⟩

theorem splitLines_append_of_endsLine {front back : Bytes} (ends : EndsLine front back) :
    splitLines (front ++ back) = splitLines front ++ splitLines back := by
  have lines : AreLines (splitLines front ++ splitLines back) := by
    apply (areLines_splitLines front).append (areLines_splitLines back)
    rwa [flatten_splitLines, flatten_splitLines]
  have cut := splitLines_flatten lines
  rwa [List.flatten_append, flatten_splitLines, flatten_splitLines] at cut

def AnnotationError.below (above : Nat) (e : AnnotationError) : AnnotationError :=
  { e with line := above + e.line }

def Region.below (lines regions : Nat) (r : Region) : Region :=
  { r with
    index := regions + r.index, firstLine := lines + r.firstLine, lastLine := lines + r.lastLine,
    targetLines := r.targetLines.map (lines + ·) }

namespace Scan

variable {implicitClose : Bool} {line : Nat}

section Below

variable (above : Nat)

def Block.below (b : Block) : Block :=
  { firstLine := above + b.firstLine, lastLine := above + b.lastLine,
    entries := b.entries.map (Entry.below above) }

def Event.below : Event → Event
  | .block b => .block (b.below above)
  | .fault line cause => .fault (above + line) cause

def State.below : State → State
  | .idle => .idle
  | .body opened => .body (above + opened)
  | .list opened declared entries =>
    .list (above + opened) (above + declared) (entries.map (Entry.below above))

theorem finishList_below (opened declared last : Nat) (entries : List Entry) :
    finishList (above + opened) (above + declared) (entries.map (Entry.below above)) (above + last) =
      (finishList opened declared entries last).below above := by
  cases entries with
  | nil => rfl
  | cons e rest => simp [finishList, Event.below, Block.below, Nat.add_assoc]

theorem breakList_below (opened declared : Nat) (entries : List Entry) :
    breakList implicitClose (above + opened) (above + declared)
        (entries.map (Entry.below above)) =
      (breakList implicitClose opened declared entries).below above := by
  cases implicitClose with
  | false => rfl
  | true =>
    simp only [breakList, if_true, ← finishList_below]
    congr 1
    rw [List.getLast?_map]
    cases entries.getLast? with
    | none => rfl
    | some e => rfl

theorem stepIdle_below (reading : Reading) :
    stepIdle (above + line) reading =
      ((stepIdle line reading).1.below above, (stepIdle line reading).2.map (Event.below above)) := by
  cases reading <;> rfl

theorem stepBody_below (opened : Nat) (reading : Reading) :
    stepBody (above + opened) (above + line) reading =
      ((stepBody opened line reading).1.below above,
        (stepBody opened line reading).2.map (Event.below above)) := by
  cases reading <;> rfl

theorem stepList_below (counted : 0 < line) (opened declared : Nat) (entries : List Entry)
    (reading : Reading) :
    stepList implicitClose (above + opened) (above + declared) (entries.map (Entry.below above))
        (above + line) reading =
      ((stepList implicitClose opened declared entries line reading).1.below above,
        (stepList implicitClose opened declared entries line reading).2.map
          (Event.below above)) := by
  have before : above + line - 1 = above + (line - 1) := by omega
  cases reading with
  | closes => simp [stepList, before, finishList_below, State.below]
  | entry target => simp [stepList, State.below, Entry.below]
  | separator =>
    cases implicitClose <;>
      simp [stepList, stepIdle_below, breakList_below, State.below]
  | _ => simp [stepList, stepIdle_below, breakList_below]

theorem step_below (counted : 0 < line) (state : State) (reading : Reading) :
    step implicitClose (state.below above) (above + line) reading =
      ((step implicitClose state line reading).1.below above,
        (step implicitClose state line reading).2.map (Event.below above)) := by
  cases state with
  | idle => exact stepIdle_below above reading
  | body opened => exact stepBody_below above opened reading
  | list opened declared entries => exact stepList_below above counted opened declared entries reading

theorem finish_below (state : State) :
    finish implicitClose (state.below above) =
      (finish implicitClose state).map (Event.below above) := by
  cases state with
  | idle => rfl
  | body opened => rfl
  | list opened declared entries =>
    simp only [State.below, finish, breakList_below, List.map_cons, List.map_nil]

theorem outcome_below (counted : 0 < line) (state : State) (readings : List Reading) :
    outcome implicitClose (state.below above) (above + line) readings =
      (outcome implicitClose state line readings).map (Event.below above) := by
  induction readings generalizing state line with
  | nil => exact finish_below above state
  | cons reading rest ih =>
    rw [outcome_cons, outcome_cons, step_below above counted, List.map_append,
      ← ih (Nat.succ_pos line), Nat.add_assoc]

theorem blocks_below (events : List Event) :
    blocks (events.map (Event.below above)) = (blocks events).map (Block.below above) := by
  induction events with
  | nil => rfl
  | cons event rest ih => cases event <;> simp [Event.below, ih]

theorem errors_below (events : List Event) :
    errors (events.map (Event.below above)) =
      (errors events).map (AnnotationError.below above) := by
  induction events with
  | nil => rfl
  | cons event rest ih => cases event <;> simp [Event.below, AnnotationError.below, ih]

end Below

def State.canRestart (implicitClose : Bool) (next : Option Reading) : State → Prop
  | .idle => True
  | .body _ => False
  | .list .. => ∀ r ∈ next, r.breaksList implicitClose = true

theorem outcome_of_canRestart {state : State} {readings : List Reading}
    (restarts : state.canRestart implicitClose readings.head?) :
    outcome implicitClose state line readings =
      finish implicitClose state ++ outcome implicitClose .idle line readings := by
  cases state with
  | idle => rfl
  | body opened => exact restarts.elim
  | list opened declared entries => exact outcome_broken restarts opened declared entries

theorem run_append {front back : List Reading}
    (restarts : (advance implicitClose .idle 1 front).1.canRestart implicitClose back.head?) :
    run implicitClose (front ++ back) =
      run implicitClose front ++ (run implicitClose back).map (Event.below front.length) := by
  have later := @outcome_below implicitClose 1 front.length Nat.one_pos .idle back
  rw [State.below, Nat.add_comm] at later
  have whole := @outcome_of_canRestart implicitClose (1 + front.length) _ _ restarts
  simp only [run, outcome, advance_append] at later whole ⊢
  rw [List.append_assoc, whole, later, List.append_assoc]

section Contents

variable {front back : List Bytes} {b : Block}

theorem contentOf_append_left (within : b.lastLine ≤ front.length) :
    contentOf (front ++ back) b = contentOf front b := by
  unfold contentOf
  rw [List.take_append_of_le_length within]

theorem contentOf_append_right (counted : 0 < b.firstLine) :
    contentOf (front ++ back) (b.below front.length) = contentOf back b := by
  unfold contentOf Block.below
  rw [List.take_length_add_append, Nat.add_sub_assoc counted, List.drop_length_add_append]

theorem regionOf_append_left (within : b.lastLine ≤ front.length) (path : Path) (place : Nat) :
    regionOf path (front ++ back) place b = regionOf path front place b := by
  simp only [regionOf, contentOf_append_left within]

theorem regionOf_append_right (counted : 0 < b.firstLine) (path : Path) (before place : Nat) :
    regionOf path (front ++ back) (before + place) (b.below front.length) =
      (regionOf path back place b).below front.length before := by
  simp only [regionOf, Region.below, contentOf_append_right counted]
  simp [Block.below, Entry.below, Function.comp_def]

theorem mapIdx_regionOf_append {first second : List Block}
    (within : ∀ b ∈ first, b.lastLine ≤ front.length) (counted : ∀ b ∈ second, 0 < b.firstLine)
    (path : Path) :
    (first ++ second.map (Block.below front.length)).mapIdx (regionOf path (front ++ back)) =
      first.mapIdx (regionOf path front) ++
        (second.mapIdx (regionOf path back)).map (Region.below front.length first.length) := by
  rw [List.mapIdx_append]
  congr 1
  · apply List.mapIdx_eq_mapIdx_iff.mpr
    intro place inside
    exact regionOf_append_left (within _ (List.getElem_mem inside)) path place
  · apply List.mapIdx_eq_iff.mpr
    intro place
    rw [List.getElem?_map, List.getElem?_map, List.getElem?_mapIdx]
    cases found : second[place]? with
    | none => rfl
    | some b =>
      have positive := counted b (List.mem_of_getElem? found)
      simp only [Option.map_some, Nat.add_comm place, regionOf_append_right positive]

end Contents

def stateAfter (convention : Convention) (content : Bytes) : State :=
  (advance convention.implicitClose .idle 1 (readingsOf convention.markers content)).1

/-- Whether a scan of one content can begin anew with another: it stands outside of all regions, or
in a list, and the other content opens a region with its first line. -/
def RestartsWith (convention : Convention) (front back : Bytes) : Prop :=
  match stateAfter convention front with
  | .idle => True
  | .body _ => False
  | .list .. =>
    ∃ first ∈ (splitLines back).head?, Line.classify convention.markers (lineText first) = .opens

theorem RestartsWith.canRestart {convention : Convention} {front back : Bytes}
    (h : RestartsWith convention front back) :
    (stateAfter convention front).canRestart convention.implicitClose
      (readingsOf convention.markers back).head? := by
  unfold RestartsWith at h
  cases state : stateAfter convention front with
  | idle => trivial
  | body opened => simp [state] at h
  | list opened declared entries =>
    rw [state] at h
    obtain ⟨first, head, opens⟩ := h
    intro r hr
    rw [readingsOf, List.head?_map, Option.mem_def.mp head] at hr
    cases hr
    simp [Reading.ofLine, opens, Reading.breaksList, Reading.staysInList]

theorem eventsOf_append {convention : Convention} {front back : Bytes} (ends : EndsLine front back)
    (restarts : RestartsWith convention front back) :
    eventsOf convention (front ++ back) =
      eventsOf convention front ++
        (eventsOf convention back).map (Event.below (splitLines front).length) := by
  have readings : readingsOf convention.markers (front ++ back) =
      readingsOf convention.markers front ++ readingsOf convention.markers back := by
    unfold readingsOf
    rw [splitLines_append_of_endsLine ends, List.map_append]
  have joined := run_append restarts.canRestart
  rwa [← readings, length_readingsOf] at joined

end Scan

/-- Two contents end to end have the regions and the errors of the first one, those at its end
included, and behind them those of the second one, only further down. -/
theorem everyLine_append (convention : Convention) (path : Path) (front back : Bytes)
    (ends : EndsLine front back) (restarts : Scan.RestartsWith convention front back) :
    let whole := Scan.everyLine convention path (front ++ back)
    let first := Scan.everyLine convention path front
    let second := Scan.everyLine convention path back
    let lines := (splitLines front).length
    whole.regions =
        first.regions ++ second.regions.map (Region.below lines first.regions.length) ∧
      whole.errors = first.errors ++ second.errors.map (AnnotationError.below lines) := by
  intro whole first second lines
  have events := Scan.eventsOf_append ends restarts
  have lies (content : Bytes) : ∀ b ∈ Scan.blocks (Scan.eventsOf convention content),
      b.LiesIn 1 (Scan.readingsOf convention.markers content) :=
    (Scan.division_run _ _).liesIn
  constructor
  · simp only [whole, first, second, Scan.everyLine, events, Scan.blocks_append, Scan.blocks_below,
      splitLines_append_of_endsLine ends, List.length_mapIdx]
    apply Scan.mapIdx_regionOf_append
    · intro b hb
      have inside := (lies front b hb).lastLine_lt
      rw [Scan.length_readingsOf] at inside
      omega
    · intro b hb
      exact Nat.lt_trans Nat.one_pos (lies back b hb).firstLine_gt
  · simp only [whole, first, second, Scan.everyLine, events, Scan.errors_append, Scan.errors_below,
      lines]

theorem everyLine_append_of_open_list :
    let front := Text.toUtf8
      "# if-change\nx\n# then-change a\n# if-change\n# then-change\n# p\n"
    let back := Text.toUtf8 "# if-change\ny\n# then-change q\n# end-change"
    let second := Scan.everyLine {} "f" back
    EndsLine front back ∧ Scan.RestartsWith {} front back ∧
      (Scan.everyLine {} "f" (front ++ back)).regions =
        (Scan.everyLine {} "f" front).regions ++ second.regions.map (Region.below 6 1) ∧
      (Scan.everyLine {} "f" (front ++ back)).errors =
        [⟨5, .unclosedList⟩, ⟨10, .closedOutside⟩] := by
  intro front back second
  have ends : EndsLine front back := ⟨by decide +kernel, by decide +kernel⟩
  have state : Scan.stateAfter {} front = .list 4 5 [⟨"p", 6⟩] := by decide +kernel
  have restarts : Scan.RestartsWith {} front back := by
    unfold Scan.RestartsWith
    rw [state]
    exact ⟨Text.toUtf8 "# if-change\n", by decide +kernel, by decide +kernel⟩
  have lines : (splitLines front).length = 6 := by decide +kernel
  have regions : (Scan.everyLine {} "f" front).regions.length = 1 := by decide +kernel
  obtain ⟨joined, errors⟩ := everyLine_append {} "f" front back ends restarts
  rw [lines] at joined errors
  rw [regions] at joined
  refine ⟨ends, restarts, joined, errors.trans ?_⟩
  decide +kernel

end Lockstep
