import Lockstep.Proofs.Loading

/-! Where a setting comes from. Of the tables that are laid over one another, the last that has the
key of a setting decides it, whatever the ones before have there; markers are decided one by one. -/
namespace Lockstep.Settings

def lastGiven? (tables : List Table) (key : Text) : Option Value :=
  tables.reverse.findSome? fun t => t.get? key

/-- Whether a setting is what the last table with its key means, or the default if none has it. -/
def IsLast {α : Type} (tables : List Table) (key : Text) (means : Value → α → Prop)
    (default actual : α) : Prop :=
  match lastGiven? tables key with
  | none => actual = default
  | some v => means v actual

def MeansText (v : Value) (t : Text) : Prop := ∃ given, v = .text given ∧ t = given.strip

/-- A lone text stands for a list of one, and patterns with nothing on them for none. -/
def MeansPatterns (v : Value) (patterns : List Text) : Prop :=
  ∃ given : List Text, (v = .list (given.map .text) ∨ ∃ one, v = .text one ∧ given = [one]) ∧
    patterns = (given.map Text.strip).filter (· ≠ [])

/-- Whether each setting is decided by the last of some tables that has its key. -/
structure IsLastWritten (s : Settings) (tables : List Table) : Prop where
  implicitClose : IsLast tables "implicit_close" (fun v on => v = .bool on) false
    s.convention.implicitClose
  resolution : IsLast tables "resolve" (fun v mode => MeansText v mode.name) .auto s.resolution
  matching : IsLast tables "matching" (fun v mode => MeansText v mode.name) .position s.matching
  workers : IsLast tables "workers" (fun v count => v = .integer (count : Nat)) 1 s.workers
  exclude : IsLast tables "exclude" MeansPatterns [] s.exclude
  opens : IsLast (tables.map (subtable · "markers")) "open" MeansText "if-change"
    s.convention.markers.opens
  declares : IsLast (tables.map (subtable · "markers")) "then" MeansText "then-change"
    s.convention.markers.declares
  closes : IsLast (tables.map (subtable · "markers")) "close" MeansText "end-change"
    s.convention.markers.closes

structure IsValid (s : Settings) : Prop where
  words : ∀ word ∈ s.convention.markers.words, word ≠ [] ∧ ∀ g ∈ word, g.isBlank = false
  distinct : s.convention.markers.words.Nodup
  resolution : s.resolution.name ∈ Resolution.names.map Prod.fst
  matching : s.matching.name ∈ Matching.names.map Prod.fst
  workers : 1 ≤ s.workers

theorem isValid (s : Settings) : s.IsValid where
  words word isWord := by
    have usable := s.convention.markers.usable word isWord
    simp only [isMarkerWord, Bool.and_eq_true, Bool.not_eq_true', List.isEmpty_eq_false_iff,
      List.all_eq_true] at usable
    exact usable
  distinct := s.convention.markers.distinct
  resolution := by
    cases s.resolution
    all_goals decide
  matching := by
    cases s.matching
    all_goals decide
  workers := s.workers_pos

theorem lastGiven?_append (tables : List Table) (t : Table) (key : Text) :
    lastGiven? (tables ++ [t]) key = (t.get? key).or (lastGiven? tables key) := by
  rw [lastGiven?, List.reverse_append, List.findSome?_append]
  simp [lastGiven?]

variable {room : Room} {tables : List Table} {t : Table} {key : Text}

theorem IsLast.append {α β : Type} {code : α → β} (injective : ∀ x y, code x = code y → x = y)
    {means : Value → α → Prop} {default before after : α} {read : Value → Except SettingsFault β}
    (reads : ∀ v, read v = .ok (code after) → means v after)
    (decided : IsLast tables key means default before)
    (laid : readKey t key (code before) read = .ok (code after)) :
    IsLast (tables ++ [t]) key means default after := by
  unfold IsLast at decided ⊢
  rw [lastGiven?_append]
  unfold readKey at laid
  split at laid
  next absent =>
    obtain rfl := injective before after (Except.ok.inj laid)
    rw [absent]
    exact decided
  next v held =>
    rw [held]
    exact reads v laid

theorem readFlag_eq_ok {v : Value} {on : Bool} (read : readFlag room key v = .ok on) :
    v = .bool on := by
  cases v with
  | bool b => exact congrArg Value.bool (Except.ok.inj read)
  | _ => cases read

theorem readText_eq_ok {v : Value} {t : Text} (read : readText room key v = .ok t) :
    MeansText v t := by
  cases v with
  | text given =>
    simp only [readText] at read
    split at read
    · cases read
    · exact ⟨given, rfl, (Except.ok.inj read).symm⟩
  | _ => cases read

theorem readInteger_eq_ok {v : Value} {n : Int} (read : readInteger room key v = .ok n) :
    v = .integer n := by
  cases v with
  | integer m => exact congrArg Value.integer (Except.ok.inj read)
  | _ => cases read

theorem texts?_eq_some {items : List Value} {ts : List Text} (held : texts? items = some ts) :
    items = ts.map .text := by
  induction items generalizing ts with
  | nil =>
    cases held
    rfl
  | cons item rest ih =>
    cases item with
    | text t =>
      obtain ⟨others, found, rfl⟩ := Option.map_eq_some_iff.mp held
      rw [ih found]
      rfl
    | _ => cases held

theorem readPatterns_eq_ok {v : Value} {patterns : List Text}
    (read : readPatterns room v = .ok patterns) : MeansPatterns v patterns := by
  cases v with
  | text one => exact ⟨[one], .inr ⟨one, rfl, rfl⟩, (Except.ok.inj read).symm⟩
  | list items =>
    simp only [readPatterns] at read
    split at read
    next given held =>
      exact ⟨given, .inl (congrArg Value.list (texts?_eq_some held)), (Except.ok.inj read).symm⟩
    next => cases read
  | _ => cases read

theorem isLastWritten_default : IsLastWritten {} [] :=
  ⟨rfl, rfl, rfl, rfl, rfl, rfl, rfl, rfl⟩

theorem IsLastWritten.overlay {s s' : Settings} (decided : s.IsLastWritten tables)
    (added : s.overlay room t = .ok s') : s'.IsLastWritten (tables ++ [t]) := by
  have laid := overlay_eq_ok.mp added
  have same {α : Type} (x y : α) (h : id x = id y) : x = y := h
  refine ⟨?_, ?_, ?_, ?_, ?_, ?_, ?_, ?_⟩
  · exact decided.implicitClose.append same (fun _ => readFlag_eq_ok) laid.implicitClose
  · exact decided.resolution.append (fun _ _ => Resolution.name_injective)
      (fun _ => readText_eq_ok) laid.resolution
  · exact decided.matching.append (fun _ _ => Matching.name_injective)
      (fun _ => readText_eq_ok) laid.matching
  · exact decided.workers.append (fun _ _ => Int.ofNat.inj) (fun _ => readInteger_eq_ok)
      laid.workers
  · exact decided.exclude.append same (fun _ => readPatterns_eq_ok) laid.exclude
  all_goals rw [List.map_append]
  · exact decided.opens.append same (fun _ => readText_eq_ok) laid.opens
  · exact decided.declares.append same (fun _ => readText_eq_ok) laid.declares
  · exact decided.closes.append same (fun _ => readText_eq_ok) laid.closes

theorem isLastWritten_of_foldlM {s s' : Settings} {before : List Table}
    (decided : s.IsLastWritten before) (laid : tables.foldlM (Settings.overlay room) s = .ok s') :
    s'.IsLastWritten (before ++ tables) := by
  induction tables generalizing s before with
  | nil =>
    cases laid
    rwa [List.append_nil]
  | cons t rest ih =>
    obtain ⟨between, added, others⟩ := bind_eq_ok.mp laid
    have := ih (decided.overlay added) others
    rwa [List.append_assoc] at this

/-- Settings that are loaded hold for each key what the strongest source with this key means: the
table of this program in the project file, then the settings file, then the file that is named, of
which a table of this program goes before the rest, and then the single values. -/
theorem load_last_written {room : Room} {files : FileTree} {root named : Option Location}
    {values : Table} {notes : List Note} {s : Settings}
    (loaded : ((load room files root named values).run.run notes).1 = .ok s) :
    ∃ project beside explicit : Option Table,
      documentAt room files (root.map (·.join projectFile)) = .ok project ∧
        documentAt room files (root.map (·.join settingsFile)) = .ok beside ∧
        documentAt room files named = .ok explicit ∧ (named.isSome → explicit.isSome) ∧
        s.IsLastWritten [ownTable (project.getD []), beside.getD [],
          ownTableOrAll (explicit.getD []), present values] ∧
        s.IsValid := by
  rw [load_gives notes] at loaded
  obtain ⟨tables, given, laid⟩ := layAll_eq_ok loaded
  obtain ⟨_, _, rfl, ofProject, behindProject⟩ := List.map_eq_cons_iff.mp given.symm
  obtain ⟨_, _, rfl, ofBeside, behindBeside⟩ := List.map_eq_cons_iff.mp behindProject
  obtain ⟨_, _, rfl, ofNamed, behindNamed⟩ := List.map_eq_cons_iff.mp behindBeside
  obtain ⟨_, _, rfl, ofValues, behindValues⟩ := List.map_eq_cons_iff.mp behindNamed
  obtain ⟨project, atProject, rfl⟩ := map_eq_ok.mp ofProject.symm
  obtain ⟨beside, atBeside, rfl⟩ := map_eq_ok.mp ofBeside.symm
  obtain ⟨explicit, atNamed, rfl⟩ := map_eq_ok.mp ofNamed.symm
  cases ofValues
  cases List.map_eq_nil_iff.mp behindValues
  obtain ⟨atNamed, isThere⟩ := namedDocument_eq_ok atNamed
  exact ⟨project, beside, explicit, atProject, atBeside, atNamed, isThere,
    isLastWritten_of_foldlM isLastWritten_default laid, s.isValid⟩

theorem load_last_written_of_four :
    let ofProject : Text := "[tool.cochange]\nworkers = 2\nresolve = 'root'\n"
      ++ "matching = ' sequence '\nmarkers = \x7bopen = 'a', then = 'b'\x7d\n"
    let ofRoot : Text := "workers = 3\nresolve = 'file'\nexclude = ' docs/* '\nmarkers.then = 'c'\n"
    let ofNamed : Text := "implicit_close = 1\n[tool.cochange]\nworkers = 4\nother = [1]\n"
    let files : FileTree :=
      { nodes := [(["pyproject.toml"], .file ofProject.toUtf8),
          ([".cochange.toml"], .file ofRoot.toUtf8), (["ci.toml"], .file ofNamed.toUtf8)] }
    let room : Room := { reading := 100, showing := 100 }
    let root : Location := .ofText "."
    let named : Location := .ofText "ci.toml"
    let values : Table := [("workers", .integer 8), ("resolve", .absent)]
    ∃ s, ((load room files (some root) (some named) values).run.run []).1 = .ok s ∧
      (s.workers, s.resolution, s.matching, s.exclude) =
        (8, Resolution.file, Matching.sequence, [("docs/*" : Text)]) ∧
      (s.convention.implicitClose, s.convention.markers.words) =
        (false, [("a" : Text), "c", "end-change"]) ∧
      ∃ project beside explicit : Option Table,
        documentAt room files (some (root.join projectFile)) = .ok project ∧
          documentAt room files (some (root.join settingsFile)) = .ok beside ∧
          documentAt room files (some named) = .ok explicit ∧ explicit.isSome ∧
          s.IsLastWritten [ownTable (project.getD []), beside.getD [],
            ownTableOrAll (explicit.getD []), present values] ∧
          s.IsValid := by
  intro ofProject ofRoot ofNamed files room root named values
  have atProject : contentAt files (root.join projectFile) = .ok (some ofProject.toUtf8) :=
    contentAt_of_name "pyproject.toml" (by decide +kernel)
  have atBeside : contentAt files (root.join settingsFile) = .ok (some ofRoot.toUtf8) :=
    contentAt_of_name ".cochange.toml" (by decide +kernel)
  have atNamed : contentAt files named = .ok (some ofNamed.toUtf8) :=
    contentAt_of_name "ci.toml" (by decide +kernel)
  let shown (s : Settings) :=
    ((s.workers, s.resolution, s.matching, s.exclude), s.convention.implicitClose,
      s.convention.markers.words)
  have seen : ((load room files (some root) (some named) values).run.run []).1.toOption.map shown =
      some ((8, Resolution.file, Matching.sequence, [("docs/*" : Text)]), false,
        [("a" : Text), "c", "end-change"]) := by
    rw [load_gives [], sources]
    simp only [documentAt, namedDocument, Option.map_some, atProject, atBeside, atNamed]
    set_option synthInstance.maxSize 256 in decide +kernel
  cases loaded : ((load room files (some root) (some named) values).run.run []).1 with
  | error fault =>
    rw [loaded] at seen
    cases seen
  | ok s =>
    rw [loaded] at seen
    obtain ⟨first, second⟩ := Prod.mk.inj (Option.some.inj seen)
    obtain ⟨project, beside, explicit, h, h', h'', isThere, decided⟩ := load_last_written loaded
    exact ⟨s, rfl, first, second, project, beside, explicit, h, h', h'', isThere rfl, decided⟩

end Lockstep.Settings
