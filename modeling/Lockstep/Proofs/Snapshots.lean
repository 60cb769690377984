import Lockstep.Check
import Lockstep.Proofs.Prefilter
import Lockstep.Snapshot.Archive

/-! Sources that give one answer to each question, in every session or as long as what they remember
is of some kind. What such a source holds under a reference is a snapshot, and work that asks
nothing else gives one value, whatever is noted meanwhile. -/
namespace Lockstep

structure Snapshot where
  files : List Path
  read : Path → Except ReadError (Option Bytes)

namespace Access

variable {σ α β : Type}

/-- Whether some work gives a value in every session. -/
def Returns (work : Access σ α) (value : α) : Prop :=
  ∀ s, ∃ after, work.perform s = (.ok value, after)

/-- Whether some work that begins with a memory of some kind leaves one of this kind and gives no
other value. Only where work may fail can it end in a fault instead. -/
def Yields (inv : σ → Prop) (mayFail : Prop) (work : Access σ α) (value : α) : Prop :=
  ∀ s, inv s.memory →
    (∃ after, work.perform s = (.ok value, after) ∧ inv after.memory) ∨
      mayFail ∧ ∃ fault after, work.perform s = (.error fault, after)

theorem returns_iff {work : Access σ α} {value : α} :
    work.Returns value ↔ work.Yields (fun _ => True) False value := by
  simp [Returns, Yields]

variable {inv : σ → Prop} {mayFail : Prop}

theorem Yields.eq_of_perform {work : Access σ α} {value given : α} {s after : Session σ}
    (h : work.Yields inv mayFail value) (begins : inv s.memory)
    (run : work.perform s = (.ok given, after)) : given = value ∧ inv after.memory := by
  rcases h s begins with ⟨_, run', holds⟩ | ⟨_, _, _, run'⟩
  · cases run'.symm.trans run
    exact ⟨rfl, holds⟩
  · cases run'.symm.trans run

theorem Yields.eq_of_fst {work : Access σ α} {value given : α} {s : Session σ}
    (h : work.Yields inv mayFail value) (begins : inv s.memory)
    (run : (work.perform s).1 = .ok given) : given = value :=
  (h.eq_of_perform begins (Prod.ext run rfl)).1

theorem exists_ok_of_map_toOption {outcome : Except Fault α} {f : α → β} {known : β}
    (h : outcome.toOption.map f = some known) : ∃ value, outcome = .ok value ∧ f value = known := by
  cases outcome with
  | error fault => cases h
  | ok value => exact ⟨value, rfl, Option.some.inj h⟩

theorem exists_of_map_toOption {outcome : Except Fault α × Session σ} {f : α → β} {known : β}
    (h : outcome.1.toOption.map f = some known) :
    ∃ value after, outcome = (.ok value, after) ∧ f value = known := by
  obtain ⟨value, run, same⟩ := exists_ok_of_map_toOption h
  exact ⟨value, outcome.2, Prod.ext run rfl, same⟩

theorem eq_of_map_toOption {work : Access σ α} {value : α} {s after : Session σ} {f : α → β}
    {known : β} (run : work.perform s = (.ok value, after))
    (h : (work.perform s).1.toOption.map f = some known) : f value = known := by
  rw [run] at h
  exact Option.some.inj h

theorem yields_pure (value : α) : Yields inv mayFail (pure value : Access σ α) value := by
  intro s begins
  exact .inl ⟨s, rfl, begins⟩

theorem perform_bind (work : Access σ α) (next : α → Access σ β) (s : Session σ) :
    (work >>= next).perform s =
      match work.perform s with
      | (.ok x, between) => (next x).perform between
      | (.error fault, after) => (.error fault, after) := by
  unfold perform
  rw [ExceptT.run_bind, StateT.run_bind]
  rcases work.run.run s with ⟨fault | x, between⟩
  · rfl
  · rfl

theorem yields_throw (allowed : mayFail) (fault : Fault) (value : α) :
    (throw fault : Access σ α).Yields inv mayFail value :=
  fun s _ => .inr ⟨allowed, fault, s, rfl⟩

theorem yields_bind {work : Access σ α} {next : α → Access σ β} {value : α} {result : β}
    (first : work.Yields inv mayFail value) (rest : (next value).Yields inv mayFail result) :
    (work >>= next).Yields inv mayFail result := by
  intro s begins
  rcases first s begins with ⟨between, run, holds⟩ | ⟨allowed, fault, after, run⟩
  · rw [perform_bind, run]
    exact rest between holds
  · rw [perform_bind, run]
    exact .inr ⟨allowed, fault, after, rfl⟩

theorem yields_note (n : Note) : (note n : Access σ Unit).Yields inv mayFail () := by
  intro s begins
  exact .inl ⟨_, rfl, begins⟩

theorem yields_mapM {work : α → Access σ β} {value : α → β}
    (each : ∀ x, (work x).Yields inv mayFail (value x)) (xs : List α) :
    (xs.mapM work).Yields inv mayFail (xs.map value) := by
  induction xs with
  | nil => exact yields_pure []
  | cons x rest ih =>
    rw [List.mapM_cons]
    apply yields_bind (each x)
    apply yields_bind ih
    exact yields_pure _

theorem yields_mapM_option {work : α → Access σ β} {value : α → β}
    (each : ∀ x, (work x).Yields inv mayFail (value x)) (x : Option α) :
    (x.mapM work).Yields inv mayFail (x.map value) := by
  cases x with
  | none => exact yields_pure none
  | some x =>
    apply yields_bind (each x)
    exact yields_pure _

theorem yields_forM {work : α → Access σ Unit} (each : ∀ x, (work x).Yields inv mayFail ())
    (xs : List α) : (xs.forM work).Yields inv mayFail () := by
  induction xs with
  | nil => exact yields_pure ()
  | cons x rest ih => exact yields_bind (each x) ih

end Access

structure Source.Holds {σ : Type} (source : Source σ) (ref : Text) (s : Snapshot) : Prop where
  list : (source.list ref).Returns s.files
  read : ∀ path, (source.read ref path).Returns (s.read path)

/-- What a source gives under a reference, as long as what it remembers is of some kind. -/
structure Source.Shows {σ : Type} (source : Source σ) (inv : σ → Prop) (mayFail : Prop) (ref : Text)
    (s : Snapshot) : Prop where
  list : (source.list ref).Yields inv mayFail s.files
  read : ∀ path, (source.read ref path).Yields inv mayFail (s.read path)

theorem Source.Holds.shows {σ : Type} {source : Source σ} {ref : Text} {s : Snapshot}
    (h : source.Holds ref s) : source.Shows (fun _ => True) False ref s :=
  ⟨Access.returns_iff.mp h.list, fun path => Access.returns_iff.mp (h.read path)⟩

/-- Whether UTF-8 has bytes for a content that is given as a text. -/
def Stored.Encodable : Stored → Prop
  | .text t => t.IsProse
  | _ => True

instance (stored : Stored) : Decidable stored.Encodable :=
  match stored with
  | .text t => inferInstanceAs (Decidable t.IsProse)
  | .content _ | .unreadable _ | .empty => isTrue trivial

namespace Archive

def contentOf (ref : Text) (path : Path) : Stored → Except ReadError (Option Bytes)
  | .content bytes => .ok (some bytes)
  | .text t => .ok (some t.toUtf8)
  | .unreadable reason => .error { ref, path, reason }
  | .empty => .ok none

theorem read?_of_encodable {stored : Stored} (encodable : stored.Encodable) (ref : Text)
    (path : Path) : read? ref path stored = .ok (contentOf ref path stored) := by
  cases stored with
  | text t =>
    rw [read?, Text.encode?_of_isProse encodable]
    rfl
  | _ => rfl

def snapshotOf (ref : Text) (files : List (Path × Stored)) : Snapshot where
  files := files.map Prod.fst
  read path :=
    match files.lookup path with
    | none => .ok none
    | some stored => contentOf ref path stored

variable {a : Archive} {ref : Text} {files : List (Path × Stored)}

theorem shows (h : a.snapshot? ref = some files) (encodable : ∀ file ∈ files, file.2.Encodable)
    (inv : Unit → Prop) (mayFail : Prop) :
    a.source.Shows inv mayFail ref (snapshotOf ref files) := by
  have found : (a.find ref : Access Unit _).Yields inv mayFail files := by
    unfold find
    rw [h]
    exact Access.yields_pure files
  constructor
  · exact Access.yields_bind found (Access.yields_pure _)
  · intro path
    apply Access.yields_bind found
    simp only [snapshotOf]
    cases stored : files.lookup path with
    | none => exact Access.yields_pure _
    | some stored' =>
      obtain ⟨before, after, rfl, -⟩ := List.lookup_eq_some_iff.mp stored
      dsimp only
      rw [read?_of_encodable (encodable (path, stored') (by simp))]
      exact Access.yields_pure _

theorem holds (h : a.snapshot? ref = some files) (encodable : ∀ file ∈ files, file.2.Encodable) :
    a.source.Holds ref (snapshotOf ref files) :=
  have shown := shows h encodable (fun _ => True) False
  ⟨Access.returns_iff.mpr shown.list, fun path => Access.returns_iff.mpr (shown.read path)⟩

end Archive

structure Change where
  old : Snapshot
  new : Snapshot

namespace Change

def known (c : Change) : List Path := c.old.files ++ c.new.files

/-- What both snapshots have at a path. The first failure to read stands for both. -/
def contents (c : Change) (path : Path) : Except ReadError (Option Bytes × Option Bytes) :=
  match c.old.read path with
  | .error e => .error e
  | .ok old =>
    match c.new.read path with
    | .error e => .error e
    | .ok new => .ok (old, new)

theorem contents_eq_ok {c : Change} {path : Path} {old new : Option Bytes} :
    c.contents path = .ok (old, new) ↔ c.old.read path = .ok old ∧ c.new.read path = .ok new := by
  unfold contents
  cases c.old.read path with
  | error e => simp
  | ok oldBytes =>
    cases c.new.read path with
    | error e => simp
    | ok newBytes => simp

def comparison (c : Change) (convention : Convention) (path : Path) : Comparison :=
  (c.contents path).map fun (old, new) =>
    { old := old.map (FileScan.ofContent convention path)
      new := new.map (FileScan.ofContent convention path)
      same := old.isSome && old = new }

end Change

namespace Check

variable {σ : Type} {source : Source σ} {convention : Convention} {settings : Settings}
  {old new : Text} {c : Change} {inv : σ → Prop} {mayFail : Prop}

theorem scan_yields (unrefused : convention.markers.Encodable ∨ mayFail) (path : Path)
    (content : Bytes) :
    (scan convention path content).Yields inv mayFail
      (FileScan.ofContent convention path content) := by
  unfold scan
  cases chosen : Scan.treatment convention.markers content with
  | error word =>
    obtain ⟨marker, stray⟩ := Scan.treatment_eq_error chosen
    have allowed := unrefused.resolve_left fun encodable => stray (encodable word marker)
    apply Access.yields_bind (Access.yields_throw allowed _ ())
    exact Access.yields_pure _
  | ok way =>
    cases way with
    | binary => exact Access.yields_bind (Access.yields_note _) (Access.yields_pure _)
    | unmarked => exact Access.yields_bind (Access.yields_pure _) (Access.yields_pure _)
    | lineByLine => exact Access.yields_bind (Access.yields_note _) (Access.yields_pure _)

theorem versions_yields (unrefused : convention.markers.Encodable ∨ mayFail) (path : Path)
    (old new : Option Bytes) :
    (versions convention path old new).Yields inv mayFail
      { old := old.map (FileScan.ofContent convention path)
        new := new.map (FileScan.ofContent convention path)
        same := old.isSome && old = new } := by
  unfold versions
  apply Access.yields_bind
  · exact Access.yields_mapM_option (scan_yields unrefused path) new
  cases old with
  | none => exact Access.yields_pure _
  | some bytes =>
    by_cases same : some bytes = new
    · subst same
      simp only [if_true, Option.isSome_some, decide_true, Bool.and_self]
      exact Access.yields_pure _
    · simp only [if_neg same, Option.isSome_some, decide_eq_false same, Bool.and_false]
      exact Access.yields_bind (scan_yields unrefused path bytes) (Access.yields_pure _)

theorem compare_yields (unrefused : settings.convention.markers.Encodable ∨ mayFail)
    (showsOld : source.Shows inv mayFail old c.old)
    (showsNew : source.Shows inv mayFail new c.new) (path : Path) :
    (compare source settings old new path).Yields inv mayFail
      (c.comparison settings.convention path) := by
  unfold compare Change.comparison Change.contents
  apply Access.yields_bind (showsOld.read path)
  cases c.old.read path with
  | error e => exact Access.yields_bind (Access.yields_note _) (Access.yields_pure _)
  | ok oldBytes =>
    apply Access.yields_bind (showsNew.read path)
    cases c.new.read path with
    | error e => exact Access.yields_bind (Access.yields_note _) (Access.yields_pure _)
    | ok newBytes =>
      apply Access.yields_bind (versions_yields unrefused path oldBytes newBytes)
      exact Access.yields_pure _

end Check
end Lockstep
