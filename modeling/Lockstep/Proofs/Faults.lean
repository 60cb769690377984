import Mathlib.Data.List.Perm.Subperm
import Lockstep.Proofs.Extents

/-! Where faults are reported. Each stretch reports at directives among its own lines, and at each
of them at most once, so the same holds of every file: however its lines go wrong, no line bears two
faults. -/
namespace Lockstep.Scan

variable {implicitClose : Bool} {line : Nat}

def faultLines (events : List Event) : List Nat := (errors events).map AnnotationError.line

def directiveLines (line : Nat) (readings : List Reading) : List Nat :=
  ((readings.zipIdx line).filter fun (r, _) => !r.isSource).map Prod.snd

section Lines

variable (events more : List Event)

@[simp] theorem faultLines_nil : faultLines [] = [] := rfl

@[simp] theorem faultLines_block (b : Block) :
    faultLines (.block b :: events) = faultLines events := rfl

@[simp] theorem faultLines_fault (n : Nat) (fault : AnnotationFault) :
    faultLines (.fault n fault :: events) = n :: faultLines events := rfl

@[simp] theorem faultLines_append :
    faultLines (events ++ more) = faultLines events ++ faultLines more := by
  simp [faultLines]

@[simp] theorem directiveLines_nil : directiveLines line [] = [] := rfl

@[simp] theorem directiveLines_cons (reading : Reading) (rest : List Reading) :
    directiveLines line (reading :: rest) =
      if reading.isSource then directiveLines (line + 1) rest
      else line :: directiveLines (line + 1) rest := by
  cases h : reading.isSource <;> simp [directiveLines, List.zipIdx_cons, h]

@[simp] theorem directiveLines_append (front rest : List Reading) :
    directiveLines line (front ++ rest) =
      directiveLines line front ++ directiveLines (line + front.length) rest := by
  simp [directiveLines, List.zipIdx_append]

end Lines

theorem mem_directiveLines {readings : List Reading} {n : Nat} :
    n ∈ directiveLines line readings ↔
      ∃ r, (r, n) ∈ readings.zipIdx line ∧ r.isSource = false := by
  simp [directiveLines]

theorem nodup_directiveLines (line : Nat) (readings : List Reading) :
    (directiveLines line readings).Nodup := by
  have numbers : ((readings.zipIdx line).map Prod.snd).Nodup := by
    rw [List.zipIdx_map_snd]
    exact List.nodup_range'
  exact numbers.sublist (List.filter_sublist.map Prod.snd)

theorem mem_faultLines_strays {body : List Reading} {n : Nat} :
    n ∈ faultLines (strays line body) ↔
      (.opens, n) ∈ body.zipIdx line ∨ (.closes, n) ∈ body.zipIdx line := by
  induction body generalizing line with
  | nil => simp [strays]
  | cons reading rest ih =>
    cases reading <;> simp [strays, List.zipIdx_cons, ih, or_assoc, or_left_comm]

theorem faultLines_strays_sublist (line : Nat) (body : List Reading) :
    (faultLines (strays line body)).Sublist (directiveLines line body) := by
  induction body generalizing line with
  | nil => exact .slnil
  | cons reading rest ih =>
    cases reading <;> simp [strays, Reading.isSource, ih, List.Sublist.cons]

theorem faultLines_finishList_sublist (opened declared : Nat) (entries : List Entry) (last : Nat) :
    (faultLines [finishList opened declared entries last]).Sublist [declared] := by
  cases entries <;> simp [finishList]

theorem faultLines_breakList_sublist (implicitClose : Bool) (opened declared : Nat)
    (entries : List Entry) :
    (faultLines [breakList implicitClose opened declared entries]).Sublist [declared] := by
  cases implicitClose with
  | false => simp [breakList]
  | true => exact faultLines_finishList_sublist opened declared entries _

theorem faultLines_list_sublist {body : List Reading} {last : Event}
    (ends : (faultLines [last]).Sublist [line + 1 + body.length]) (tail : List Reading) :
    (faultLines (strays (line + 1) body ++ [last])).Sublist
      (directiveLines line (.opens :: (body ++ .declaresList :: tail))) := by
  have own := faultLines_strays_sublist (line + 1) body
  have declared := ends.trans
    (List.sublist_append_left [line + 1 + body.length]
      (directiveLines (line + 1 + body.length + 1) tail))
  simpa [Reading.isSource] using (own.append declared).cons line

theorem Stretch.faultLines_subperm {front : List Reading} {next : Option Reading}
    {events : List Event} (h : Stretch implicitClose line front next events) :
    (faultLines events).Subperm (directiveLines line front) := by
  cases h with
  | @outside reading _ stays =>
    cases reading <;> simp [stepIdle, Reading.isSource]
  | @inline body _ target plain =>
    apply List.Sublist.subperm
    have own := faultLines_strays_sublist (line + 1) body
    simpa [Reading.isSource] using (own.trans (List.sublist_append_left _ _)).cons line
  | closed plain stay =>
    exact (faultLines_list_sublist (faultLines_finishList_sublist _ _ _ _) _).subperm
  | broken plain stay breaks =>
    exact (faultLines_list_sublist (faultLines_breakList_sublist _ _ _ _) _).subperm
  | @undeclared body plain =>
    -- The fault of the opening line comes last, behind those of the lines that follow it.
    have own := faultLines_strays_sublist (line + 1) body
    have turned : (faultLines (strays (line + 1) body) ++ [line]).Perm
        (line :: faultLines (strays (line + 1) body)) := List.perm_append_singleton _ _
    simpa [Reading.isSource] using turned.subperm.trans (own.cons_cons line).subperm

theorem Division.faultLines_subperm {readings : List Reading} {events : List Event}
    (h : Division implicitClose line readings events) :
    (faultLines events).Subperm (directiveLines line readings) := by
  induction h with
  | done => exact .refl _
  | @stretch line front rest events more first _ ih =>
    rw [faultLines_append, directiveLines_append]
    exact first.faultLines_subperm.append ih

theorem nodup_of_subperm {lines : List Nat} {readings : List Reading}
    (h : lines.Subperm (directiveLines line readings)) : lines.Nodup := by
  obtain ⟨part, perm, sub⟩ := h
  exact perm.nodup_iff.mp ((nodup_directiveLines line readings).sublist sub)

theorem Stretch.nodup_faultLines {front : List Reading} {next : Option Reading}
    {events : List Event} (h : Stretch implicitClose line front next events) :
    (faultLines events).Nodup :=
  nodup_of_subperm h.faultLines_subperm

theorem Division.nodup_faultLines {readings : List Reading} {events : List Event}
    (h : Division implicitClose line readings events) : (faultLines events).Nodup :=
  nodup_of_subperm h.faultLines_subperm

end Lockstep.Scan
