import Lockstep.Proofs.Nodes
import Lockstep.Proofs.Snapshots

/-! What holds of work whenever it ends with a value, whatever the source answers and remembers. A
source need not give the same answer twice; still each path is compared once, and all findings of
targets come from edges of the graph, one for each edge at most. -/
namespace Lockstep

namespace Access

variable {σ α β : Type}

def Ensures (work : Access σ α) (post : α → Prop) : Prop :=
  ∀ s value after, work.perform s = (.ok value, after) → post value

theorem ensures_any (work : Access σ α) : work.Ensures fun _ => True := by
  intro _ _ _ _
  trivial

theorem Yields.ensures {work : Access σ α} {mayFail : Prop} {value : α}
    (h : work.Yields (fun _ => True) mayFail value) : work.Ensures (· = value) := by
  intro s given after run
  exact (h.eq_of_perform trivial run).1

theorem ensures_pure {post : α → Prop} {value : α} (h : post value) :
    Ensures (pure value : Access σ α) post := by
  intro s given after run
  cases run
  exact h

theorem ensures_bind {work : Access σ α} {next : α → Access σ β} {mid : α → Prop} {post : β → Prop}
    (first : work.Ensures mid) (rest : ∀ x, mid x → (next x).Ensures post) :
    (work >>= next).Ensures post := by
  intro s value after run
  rw [perform_bind] at run
  rcases h : work.perform s with ⟨outcome, between⟩
  rw [h] at run
  cases outcome with
  | error fault => cases run
  | ok x => exact rest x (first s x between h) between value after run

theorem ensures_mapM {work : α → Access σ β} {key : β → α} {post : β → Prop}
    (each : ∀ x, (work x).Ensures fun y => key y = x ∧ post y) (xs : List α) :
    (xs.mapM work).Ensures fun ys => ys.map key = xs ∧ ∀ y ∈ ys, post y := by
  induction xs with
  | nil => exact ensures_pure ⟨rfl, by simp⟩
  | cons x rest ih =>
    rw [List.mapM_cons]
    refine ensures_bind (each x) ?_
    rintro y ⟨rfl, hy⟩
    refine ensures_bind ih ?_
    rintro ys ⟨same, hys⟩
    exact ensures_pure ⟨congrArg (key y :: ·) same, List.forall_mem_cons.mpr ⟨hy, hys⟩⟩

end Access

def Comparison.OfContent (convention : Convention) (path : Path) (k : Comparison) : Prop :=
  ∀ v, k = .ok v → ∀ scan ∈ v.new, ∃ bytes, scan = FileScan.ofContent convention path bytes

abbrev Spot := Path × Int × Int

def Edge.spot (e : Edge) : Spot := (e.source.file, e.source.firstLine, e.targetIndex)

def Finding.spot (f : Finding) : Spot := (f.source, f.firstLine.getD 0, f.targetIndex)

namespace Check

variable {σ : Type} (source : Source σ) (settings : Settings) (old new : Text)

theorem compare_ensures (path : Path) :
    (compare source settings old new path).Ensures
      (Comparison.OfContent settings.convention path) := by
  unfold compare
  refine Access.ensures_bind (Access.ensures_any _) ?_
  intro before _
  cases before with
  | error e =>
    refine Access.ensures_bind (Access.ensures_any _) fun _ _ => Access.ensures_pure ?_
    intro v h
    cases h
  | ok oldBytes =>
    refine Access.ensures_bind (Access.ensures_any _) ?_
    intro after _
    cases after with
    | error e =>
      refine Access.ensures_bind (Access.ensures_any _) fun _ _ => Access.ensures_pure ?_
      intro v h
      cases h
    | ok newBytes =>
      refine Access.ensures_bind (versions_yields (.inr trivial) path oldBytes newBytes).ensures ?_
      rintro _ rfl
      apply Access.ensures_pure
      intro v h scan hscan
      cases h
      obtain ⟨bytes, -, rfl⟩ := Option.map_eq_some_iff.mp hscan
      exact ⟨bytes, rfl⟩

/-- Whether findings come from edges, each from one of its own. -/
def ComeFrom (edges : List Edge) (findings : List Finding) : Prop :=
  (findings.map Finding.spot).Sublist (edges.map Edge.spot) ∧ ∀ f ∈ findings, f.reason ≠ .malformed

variable {e : Edge} {rest : List Edge} {findings : List Finding}

theorem ComeFrom.cons {found : Option Finding}
    (own : ∀ f ∈ found, f.spot = e.spot ∧ f.reason ≠ .malformed) (others : ComeFrom rest findings) :
    ComeFrom (e :: rest) (found.toList ++ findings) := by
  cases found with
  | none => exact ⟨others.1.cons _, others.2⟩
  | some f =>
    obtain ⟨here, known⟩ := own f rfl
    refine ⟨?_, List.forall_mem_cons.mpr ⟨known, others.2⟩⟩
    have both := others.1.cons_cons f.spot
    rw [here] at both
    simpa [here] using both

theorem spot_missing (e : Edge) (resolved : Option Path) :
    ∀ f ∈ some (missing e resolved), f.spot = e.spot ∧ f.reason ≠ .malformed := by
  intro f hf
  cases hf
  exact ⟨rfl, by simp [missing, edgeFinding]⟩

theorem spot_judge (e : Edge) (target : Path) (k : Comparison) :
    ∀ f ∈ judge e target k, f.spot = e.spot ∧ f.reason ≠ .malformed := by
  intro f hf
  unfold judge at hf
  split at hf
  · cases hf
    exact ⟨rfl, by simp [edgeFinding]⟩
  · split at hf
    · cases hf
      exact ⟨rfl, by simp [edgeFinding]⟩
    · cases hf

theorem judgeAll_ensures (scene : Scene) (edges : List Edge) (compared : List (Path × Comparison)) :
    (judgeAll source settings old new scene edges compared).Ensures (ComeFrom edges) := by
  induction edges generalizing compared with
  | nil => exact Access.ensures_pure ⟨.slnil, by simp⟩
  | cons e rest ih =>
    unfold judgeAll
    split
    · refine Access.ensures_bind (ih compared) fun fs others => Access.ensures_pure ?_
      exact others.cons (spot_missing e none)
    · split
      · refine Access.ensures_bind (ih compared) fun fs others => Access.ensures_pure ?_
        exact others.cons (spot_missing e _)
      · split
        · refine Access.ensures_bind (ih compared) fun fs others => Access.ensures_pure ?_
          exact others.cons (spot_judge e _ _)
        · refine Access.ensures_bind (Access.ensures_any _) fun k _ => ?_
          refine Access.ensures_bind (ih _) fun fs others => Access.ensures_pure ?_
          exact others.cons (spot_judge e _ k)

end Check

/-- What a check reports: what the files report on their own account, each path being compared once,
and findings of edges of the graph. -/
structure Verdict.Gathered (settings : Settings) (v : Verdict) (compared : List (Path × Comparison))
    (ofEdges : List Finding) : Prop where
  nodup : (compared.map Prod.fst).Nodup
  ofContent : ∀ pc ∈ compared, pc.2.OfContent settings.convention pc.1
  comeFrom : ∃ resolver,
    Check.ComeFrom (Graph.ofScans resolver
      ((Check.readable compared).filterMap fun (_, v) => v.new)).edges ofEdges
  findings_eq : v.findings = sortBy Finding.le
    ((compared.flatMap fun (p, k) => Check.fileFindings settings.convention.markers p k) ++ ofEdges)

theorem check_ensures {σ : Type} (source : Source σ) (settings : Settings) (old new : Text) :
    (check source settings old new).Ensures fun v =>
      ∃ compared ofEdges, v.Gathered settings compared ofEdges := by
  unfold check
  refine Access.ensures_bind (Access.ensures_any _) fun oldFiles _ => ?_
  refine Access.ensures_bind (Access.ensures_any _) fun newFiles _ => ?_
  refine Access.ensures_bind (Access.ensures_any _) fun _ _ => ?_
  let paths := sortBy Text.le
    (distinct ((oldFiles ++ newFiles).filter fun p => !settings.excludes p))
  have each (path : Path) :
      (do return (path, ← Check.compare source settings old new path) : Access σ _).Ensures
        fun pc => pc.1 = path ∧ pc.2.OfContent settings.convention pc.1 :=
    Access.ensures_bind (Check.compare_ensures source settings old new path) fun _ h =>
      Access.ensures_pure ⟨rfl, h⟩
  refine Access.ensures_bind (Access.ensures_mapM each paths) ?_
  rintro compared ⟨compares, ofContent⟩
  refine Access.ensures_bind (Access.ensures_any _) fun _ _ => ?_
  refine Access.ensures_bind (Access.ensures_any _) fun _ _ => ?_
  refine Access.ensures_bind (Check.judgeAll_ensures source settings old new _ _ compared) ?_
  intro ofEdges comeFrom
  refine Access.ensures_bind (Access.ensures_any _) fun _ _ => Access.ensures_pure ?_
  refine ⟨compared, ofEdges, ?_, ofContent, ⟨settings.resolver (oldFiles ++ newFiles), ?_⟩, rfl⟩
  · rw [compares]
    exact (perm_sortBy _ _).nodup_iff.mpr (nodup_distinct _)
  · exact ⟨comeFrom.1.trans (List.filter_sublist.map Edge.spot), comeFrom.2⟩

end Lockstep
