import Lockstep.Proofs.Listings
import Lockstep.Proofs.Overlays

/-! What loading settings comes to, apart from the notes it takes: each source gives a table or a
fault, and the tables are laid over the defaults one after the other until the first fault. -/
namespace Lockstep

namespace Loading

variable {α β : Type}

def Gives (work : Loading α) (outcome : Except SettingsFault α) : Prop :=
  ∀ notes, (work.run.run notes).1 = outcome

theorem gives_pure (x : α) : Gives (pure x) (.ok x) := fun _ => rfl

theorem gives_throw (fault : SettingsFault) : Gives (throw fault : Loading α) (.error fault) :=
  fun _ => rfl

theorem gives_lift (outcome : Except SettingsFault α) : Gives (liftM outcome) outcome := by
  intro notes
  cases outcome with
  | error fault => rfl
  | ok x => rfl

theorem gives_bind {work : Loading α} {next : α → Loading β} {first : Except SettingsFault α}
    {rest : α → Except SettingsFault β} (begins : work.Gives first)
    (goesOn : ∀ x, first = .ok x → (next x).Gives (rest x)) :
    Gives (work >>= next) (first >>= rest) := by
  intro notes
  have begun := begins notes
  rw [ExceptT.run_bind, StateT.run_bind]
  rcases run : work.run.run notes with ⟨fault | x, between⟩
  · rw [run] at begun
    rw [← begun]
    rfl
  · rw [run] at begun
    rw [← begun]
    exact goesOn x begun.symm between

end Loading

namespace Settings
open Loading

def documentAt (room : Room) (files : FileTree) :
    Option Location → Except SettingsFault (Option Table)
  | none => .ok none
  | some l => do
    match ← contentAt files l with
    | none => return none
    | some content => return some (← tableOf room l content)

/-- The table of a document that has to be there if its place is given. -/
def namedDocument (room : Room) (files : FileTree) (named : Option Location) :
    Except SettingsFault (Option Table) := do
  match named, ← documentAt room files named with
  | some l, none => throw (.invalid (.fileMissing l.text))
  | _, document => return document

theorem documentAt_of_missing {room : Room} {files : FileTree} {l : Location}
    (missing : contentAt files l = .ok none) : documentAt room files (some l) = .ok none := by
  rw [documentAt, missing]
  rfl

theorem documentAt_of_content {room : Room} {files : FileTree} {l : Location}
    {content : Bytes} (held : contentAt files l = .ok (some content)) :
    documentAt room files (some l) = (tableOf room l content).map some := by
  rw [documentAt, held]
  change (tableOf room l content >>= fun t => pure (some t)) = _
  cases tableOf room l content with
  | error fault => rfl
  | ok t => rfl

theorem contentAt_of_name {files : FileTree} {l : Location} (name : Text) {content : Option Bytes}
    (reached : ¬ (l.text = [] || FileTree.hasNull l.text) = true ∧
      ¬ FileTree.maxPathLength < (Text.toUtf8 l.text).length ∧ FileTree.steps l.text = [name] ∧
      name ≠ Path.here ∧ name ≠ Path.parent ∧
      ¬ FileTree.maxNameLength < (Text.toUtf8 name).length ∧
      files.node? (FileTree.startOf files.start l.text) = some .directory ∧
      files.node? (FileTree.startOf files.start l.text ++ [name]) = content.map .file) :
    contentAt files l = .ok content := by
  rw [contentAt, FileTree.at?_of_name reached (by cases content <;> nofun)]
  cases content with
  | none => rfl
  | some content => rfl

def present (values : Table) : Table := values.filter fun (_, v) => !v.isAbsent

/-- What the sources of settings give, the weakest first. A document that is not there gives an
empty table. -/
def sources (room : Room) (files : FileTree) (root named : Option Location) (values : Table) :
    List (Except SettingsFault Table) :=
  [(documentAt room files (root.map (·.join projectFile))).map fun d => ownTable (d.getD []),
    (documentAt room files (root.map (·.join settingsFile))).map fun d => d.getD [],
    (namedDocument room files named).map fun d => ownTableOrAll (d.getD []),
    .ok (present values)]

def lay (room : Room) (s : Settings) (source : Except SettingsFault Table) :
    Except SettingsFault Settings :=
  source >>= s.overlay room

theorem lay_ok (room : Room) (s : Settings) (t : Table) :
    s.lay room (.ok t) = s.overlay room t := rfl

theorem lay_nil (room : Room) (s : Settings) : s.lay room (.ok []) = .ok s := by
  rw [lay_ok, overlay_nil]

variable {room : Room} {files : FileTree} {root named : Option Location} {values : Table}

theorem lay_document (l : Location) (s : Settings) (part : Table → Table) (empty : part [] = []) :
    s.lay room ((documentAt room files (some l)).map fun d => part (d.getD [])) =
      (do
        match ← contentAt files l with
        | none => return s
        | some content => s.overlay room (part (← tableOf room l content))) := by
  cases held : contentAt files l with
  | error fault =>
    rw [documentAt, held]
    rfl
  | ok content =>
    cases content with
    | none =>
      rw [documentAt_of_missing held]
      show s.overlay room (part []) = .ok s
      rw [empty, overlay_nil]
    | some content =>
      rw [documentAt_of_content held]
      show s.lay room _ = tableOf room l content >>= fun t => s.overlay room (part t)
      cases tableOf room l content with
      | error fault => rfl
      | ok t => rfl

theorem loadProject_gives (l : Location) (s : Settings) :
    Gives (loadProject room files l s)
      (s.lay room ((documentAt room files (some (l.join projectFile))).map fun d =>
        ownTable (d.getD []))) := by
  rw [lay_document _ s ownTable rfl]
  apply gives_bind (gives_lift _)
  rintro (_ | content) -
  · exact gives_pure s
  apply gives_bind (gives_lift _)
  intro t _
  dsimp only
  split
  next empty =>
    rw [List.isEmpty_iff.mp empty, overlay_nil]
    exact gives_pure s
  next =>
    intro notes
    exact gives_lift (s.overlay room (ownTable t)) _

theorem loadRoot_gives (l : Location) (s : Settings) :
    Gives (loadRoot room files l s)
      (s.lay room ((documentAt room files (some (l.join settingsFile))).map
        fun d => d.getD [])) := by
  rw [lay_document _ s (fun t => t) rfl]
  apply gives_bind (gives_lift _)
  rintro (_ | content) -
  · exact gives_pure s
  intro notes
  exact gives_bind (gives_lift (tableOf room (l.join settingsFile) content))
    (fun t _ => gives_lift (s.overlay room t)) _

theorem loadNamed_gives (l : Location) (s : Settings) :
    Gives (loadNamed room files l s)
      (s.lay room ((namedDocument room files (some l)).map
        fun d => ownTableOrAll (d.getD []))) := by
  have laid : s.lay room ((namedDocument room files (some l)).map
      fun d => ownTableOrAll (d.getD [])) =
      (do
        match ← contentAt files l with
        | none => throw (.invalid (.fileMissing l.text))
        | some content => s.overlay room (ownTableOrAll (← tableOf room l content))) := by
    cases held : contentAt files l with
    | error fault =>
      rw [namedDocument, documentAt, held]
      rfl
    | ok content =>
      cases content with
      | none =>
        rw [namedDocument, documentAt_of_missing held]
        rfl
      | some content =>
        rw [namedDocument, documentAt_of_content held]
        show _ = tableOf room l content >>= fun t => s.overlay room (ownTableOrAll t)
        cases tableOf room l content with
        | error fault => rfl
        | ok t => rfl
  rw [laid]
  apply gives_bind (gives_lift _)
  rintro (_ | content) -
  · exact gives_throw _
  intro notes
  exact gives_bind (gives_lift (tableOf room l content))
    (fun t _ => gives_lift (s.overlay room (ownTableOrAll t))) _

theorem load_gives :
    Gives (load room files root named values)
      ((sources room files root named values).foldlM (lay room) {}) := by
  have inTurn : (sources room files root named values).foldlM (lay room) {} =
      (do
        let ofRoot ← (do
          let ofProject ← lay room {} ((documentAt room files (root.map (·.join projectFile))).map
            fun d => ownTable (d.getD []))
          ofProject.lay room ((documentAt room files (root.map (·.join settingsFile))).map fun d =>
            d.getD []))
        let ofFiles ← ofRoot.lay room ((namedDocument room files named).map fun d =>
          ownTableOrAll (d.getD []))
        ofFiles.overlay room (present values)) := by
    simp only [sources, List.foldlM_cons, List.foldlM_nil, bind_assoc, bind_pure]
    rfl
  have skip (s : Settings) : Gives (pure s) (s.lay room (.ok [])) := by
    rw [lay_nil]
    exact gives_pure s
  have skipBoth : Gives (pure {}) (lay room {} (.ok []) >>= fun s => s.lay room (.ok [])) := by
    simp only [lay_nil]
    exact gives_pure _
  rw [inTurn]
  unfold load
  cases root with
  | none =>
    apply gives_bind skipBoth
    intro ofRoot _
    cases named with
    | none => exact gives_bind (skip ofRoot) fun ofFiles _ => gives_lift _
    | some l => exact gives_bind (loadNamed_gives l ofRoot) fun ofFiles _ => gives_lift _
  | some l =>
    apply gives_bind (gives_bind (loadProject_gives l {}) fun s _ => loadRoot_gives l s)
    intro ofRoot _
    cases named with
    | none => exact gives_bind (skip ofRoot) fun ofFiles _ => gives_lift _
    | some l => exact gives_bind (loadNamed_gives l ofRoot) fun ofFiles _ => gives_lift _

theorem namedDocument_eq_ok {document : Option Table}
    (found : namedDocument room files named = .ok document) :
    documentAt room files named = .ok document ∧ (named.isSome → document.isSome) := by
  obtain ⟨d, held, rest⟩ := bind_eq_ok.mp found
  cases named with
  | none =>
    cases rest
    exact ⟨held, nofun⟩
  | some l =>
    cases d with
    | none => cases rest
    | some t =>
      cases rest
      exact ⟨held, fun _ => rfl⟩

variable {given : List (Except SettingsFault Table)} {s s' : Settings} {fault : SettingsFault}

theorem layAll_eq_ok (laid : given.foldlM (lay room) s = .ok s') :
    ∃ tables : List Table, given = tables.map .ok ∧ tables.foldlM (overlay room) s = .ok s' := by
  induction given generalizing s with
  | nil => exact ⟨[], rfl, laid⟩
  | cons source rest ih =>
    obtain ⟨between, first, others⟩ := bind_eq_ok.mp laid
    obtain ⟨t, rfl, added⟩ := bind_eq_ok.mp first
    obtain ⟨tables, rfl, all⟩ := ih others
    exact ⟨t :: tables, rfl, bind_eq_ok.mpr ⟨between, added, all⟩⟩

theorem layAll_eq_error (failed : given.foldlM (lay room) s = .error fault) :
    .error fault ∈ given ∨ ∃ t before, .ok t ∈ given ∧ overlay room before t = .error fault := by
  induction given generalizing s with
  | nil => cases failed
  | cons source rest ih =>
    rcases bind_eq_error.mp failed with first | ⟨between, -, others⟩
    · rcases bind_eq_error.mp first with rfl | ⟨t, rfl, added⟩
      · exact .inl (List.mem_cons_self ..)
      · exact .inr ⟨t, s, List.mem_cons_self .., added⟩
    · rcases ih others with source | ⟨t, before, source, added⟩
      · exact .inl (List.mem_cons_of_mem _ source)
      · exact .inr ⟨t, before, List.mem_cons_of_mem _ source, added⟩

end Settings
end Lockstep
