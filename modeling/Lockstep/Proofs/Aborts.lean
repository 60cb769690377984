import Lockstep.Proofs.Repositories
import Lockstep.Proofs.Verdicts

/-! What can bring a check to an early end. It ends in a fault only if the source does, when it
lists or reads, or if a marker is refused that UTF-8 has no bytes for. -/
namespace Lockstep

namespace Access

variable {σ α β : Type} {inv : σ → Prop} {cause : Fault → Prop}

/-- Whether some work that begins with a memory of some kind leaves one of this kind, also when it
ends in a fault, and then there is a cause for the fault. -/
def FailsOnly (inv : σ → Prop) (cause : Fault → Prop) (work : Access σ α) : Prop :=
  ∀ s, inv s.memory →
    inv (work.perform s).2.memory ∧ ∀ fault, (work.perform s).1 = .error fault → cause fault

theorem Answers.failsOnly {work : Access σ α} {outcome : Except Fault α}
    (h : work.Answers inv outcome) (known : ∀ fault, outcome = .error fault → cause fault) :
    work.FailsOnly inv cause := by
  intro s begins
  obtain ⟨after, run, holds⟩ := h s begins
  rw [run]
  exact ⟨holds, known⟩

theorem Yields.failsOnly {work : Access σ α} {value : α} (h : work.Yields inv False value) :
    work.FailsOnly inv cause := by
  intro s begins
  rcases h s begins with ⟨after, run, holds⟩ | ⟨never, -⟩
  · rw [run]
    exact ⟨holds, fun _ failed => nomatch failed⟩
  · exact never.elim

theorem failsOnly_pure (value : α) : (pure value : Access σ α).FailsOnly inv cause :=
  (yields_pure value).failsOnly

theorem failsOnly_throw {fault : Fault} (known : cause fault) :
    (throw fault : Access σ α).FailsOnly inv cause := by
  intro s begins
  refine ⟨begins, ?_⟩
  rintro _ ⟨⟩
  exact known

theorem failsOnly_bind {work : Access σ α} {next : α → Access σ β}
    (first : work.FailsOnly inv cause) (rest : ∀ x, (next x).FailsOnly inv cause) :
    (work >>= next).FailsOnly inv cause := by
  intro s begins
  obtain ⟨holds, known⟩ := first s begins
  rw [perform_bind]
  rcases run : work.perform s with ⟨fault | x, between⟩
  · rw [run] at holds known
    refine ⟨holds, ?_⟩
    rintro _ ⟨⟩
    exact known fault rfl
  · rw [run] at holds
    exact rest x between holds

theorem failsOnly_mapM_option {work : α → Access σ β} (each : ∀ x, (work x).FailsOnly inv cause)
    (x : Option α) : (x.mapM work).FailsOnly inv cause := by
  cases x with
  | none => exact failsOnly_pure none
  | some x => exact failsOnly_bind (each x) fun _ => failsOnly_pure _

theorem failsOnly_mapM {work : α → Access σ β} (each : ∀ x, (work x).FailsOnly inv cause)
    (xs : List α) : (xs.mapM work).FailsOnly inv cause := by
  induction xs with
  | nil => exact failsOnly_pure []
  | cons x rest ih =>
    rw [List.mapM_cons]
    apply failsOnly_bind (each x)
    intro y
    apply failsOnly_bind ih
    intro ys
    exact failsOnly_pure _

end Access

open Access

def Markers.Refuses (m : Markers) (fault : Fault) : Prop :=
  ∃ word ∈ m.words, ¬word.IsProse ∧ fault = .unencodable word

variable {σ : Type} {source : Source σ} {settings : Settings} {old new : Text} {inv : σ → Prop}
  {cause : Fault → Prop}

namespace Check

theorem noteAll_failsOnly (notes : List Note) :
    (noteAll notes : Access σ Unit).FailsOnly inv cause :=
  (yields_forM yields_note notes).failsOnly

theorem scan_failsOnly {convention : Convention}
    (refuses : ∀ fault, convention.markers.Refuses fault → cause fault) (path : Path)
    (content : Bytes) : (scan convention path content : Access σ _).FailsOnly inv cause := by
  unfold scan
  cases chosen : Scan.treatment convention.markers content with
  | error word =>
    obtain ⟨marker, stray⟩ := Scan.treatment_eq_error chosen
    have known := refuses (.unencodable word) ⟨word, marker, stray, rfl⟩
    apply failsOnly_bind (failsOnly_throw known)
    exact fun _ => failsOnly_pure _
  | ok way =>
    cases way with
    | binary =>
      apply failsOnly_bind (yields_note _).failsOnly
      exact fun _ => failsOnly_pure _
    | unmarked => exact failsOnly_pure _
    | lineByLine =>
      apply failsOnly_bind (yields_note _).failsOnly
      exact fun _ => failsOnly_pure _

theorem versions_failsOnly {convention : Convention}
    (refuses : ∀ fault, convention.markers.Refuses fault → cause fault) (path : Path)
    (before after : Option Bytes) :
    (versions convention path before after : Access σ _).FailsOnly inv cause := by
  unfold versions
  apply failsOnly_bind (failsOnly_mapM_option (scan_failsOnly refuses path) after)
  intro scanned
  cases before with
  | none => exact failsOnly_pure _
  | some bytes =>
    by_cases same : some bytes = after
    · simp only [if_pos same]
      exact failsOnly_pure _
    · simp only [if_neg same]
      exact failsOnly_bind (scan_failsOnly refuses path bytes) fun _ => failsOnly_pure _

variable (refuses : ∀ fault, settings.convention.markers.Refuses fault → cause fault)
  (readsOld : ∀ path, (source.read old path).FailsOnly inv cause)
  (readsNew : ∀ path, (source.read new path).FailsOnly inv cause)

include refuses readsOld readsNew

theorem compare_failsOnly (path : Path) :
    (compare source settings old new path).FailsOnly inv cause := by
  unfold compare
  apply failsOnly_bind (readsOld path)
  intro before
  cases before with
  | error e => exact failsOnly_bind (yields_note _).failsOnly fun _ => failsOnly_pure _
  | ok oldBytes =>
    apply failsOnly_bind (readsNew path)
    intro after
    cases after with
    | error e => exact failsOnly_bind (yields_note _).failsOnly fun _ => failsOnly_pure _
    | ok newBytes =>
      apply failsOnly_bind (versions_failsOnly refuses path oldBytes newBytes)
      exact fun _ => failsOnly_pure _

theorem judgeAll_failsOnly (scene : Scene) (edges : List Edge)
    (compared : List (Path × Comparison)) :
    (judgeAll source settings old new scene edges compared).FailsOnly inv cause := by
  induction edges generalizing compared with
  | nil => exact failsOnly_pure []
  | cons e rest ih =>
    unfold judgeAll
    cases settings.resolve scene.known e.source.file e.target with
    | none => exact failsOnly_bind (ih compared) fun _ => failsOnly_pure _
    | some target =>
      by_cases missing : (!scene.newFiles.contains target) = true
      · simp only [if_pos missing]
        exact failsOnly_bind (ih compared) fun _ => failsOnly_pure _
      simp only [if_neg missing]
      cases compared.lookup target with
      | some comparison => exact failsOnly_bind (ih compared) fun _ => failsOnly_pure _
      | none =>
        apply failsOnly_bind (compare_failsOnly refuses readsOld readsNew target)
        intro comparison
        exact failsOnly_bind (ih _) fun _ => failsOnly_pure _

end Check

theorem check_failsOnly
    (refuses : ∀ fault, settings.convention.markers.Refuses fault → cause fault)
    (listsOld : (source.list old).FailsOnly inv cause)
    (listsNew : (source.list new).FailsOnly inv cause)
    (readsOld : ∀ path, (source.read old path).FailsOnly inv cause)
    (readsNew : ∀ path, (source.read new path).FailsOnly inv cause) :
    (check source settings old new).FailsOnly inv cause := by
  have compares (path : Path) :
      (do return (path, ← Check.compare source settings old new path) : Access σ _).FailsOnly
        inv cause :=
    failsOnly_bind (Check.compare_failsOnly refuses readsOld readsNew path)
      fun _ => failsOnly_pure _
  unfold check
  apply failsOnly_bind listsOld
  intro oldFiles
  apply failsOnly_bind listsNew
  intro newFiles
  apply failsOnly_bind (yields_note _).failsOnly
  intro _
  apply failsOnly_bind (failsOnly_mapM compares _)
  intro compared
  apply failsOnly_bind (Check.noteAll_failsOnly _)
  intro _
  apply failsOnly_bind (Check.noteAll_failsOnly _)
  intro _
  apply failsOnly_bind (Check.judgeAll_failsOnly refuses readsOld readsNew _ _ compared)
  intro ofEdges
  apply failsOnly_bind (yields_note _).failsOnly
  intro _
  exact failsOnly_pure _

end Lockstep
