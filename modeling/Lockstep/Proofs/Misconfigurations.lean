import Lockstep.CommandLine.Run
import Lockstep.Proofs.LongDocuments
import Lockstep.Proofs.Precedence

/-! What comes of settings that cannot be used. A document of the wrong form and a table with a bad
value are configuration errors. What keeps a document from being text at all, or from being read to
its end, or a value from being shown, is another fault, and a command that ends with it has another
exit code. -/
namespace Lockstep

namespace Settings
open Loading

def documents (root named : Option Location) : List Location :=
  (root.map (·.join projectFile)).toList ++ (root.map (·.join settingsFile)).toList ++ named.toList

def IsMalformed (room : Room) (files : FileTree) (l : Location) : Prop :=
  ∃ content cs, contentAt files l = .ok (some content) ∧ Text.ofUtf8? content = some cs ∧
    Toml.read room.reading (Toml.unifyLines cs) = .error .malformed

/-- What keeps a document from being read, other than that it is malformed. -/
inductive Unreadable (room : Room) (files : FileTree) (l : Location) : SettingsFault → Prop
  | nameTooLong (beyond : files.at? true l = none) :
      Unreadable room files l (.nameTooLong l.text)
  | undecodable {content : Bytes} (held : contentAt files l = .ok (some content))
      (invalid : Text.ofUtf8? content = none) : Unreadable room files l .undecodable
  | integerTooLong {content : Bytes} {cs : List Char}
      (held : contentAt files l = .ok (some content)) (decoded : Text.ofUtf8? content = some cs)
      (refused : Toml.read room.reading (Toml.unifyLines cs) = .error .integerTooLong)
      (long : maxShownDigits < cs.length) : Unreadable room files l .integerTooLong
  | tooDeep {content : Bytes} {cs : List Char}
      (held : contentAt files l = .ok (some content)) (decoded : Text.ofUtf8? content = some cs)
      (refused : Toml.read room.reading (Toml.unifyLines cs) = .error .tooDeep)
      (long : room.reading < Toml.Reader.callsOfTable * cs.length) :
      Unreadable room files l .tooDeep

/-- What loading can come to, and what for. All but the last two are settings or a complaint. -/
inductive Settled (room : Room) (files : FileTree) (root named : Option Location)
    (values : Table) : Except SettingsFault Settings → Prop
  | valid {s : Settings} (h : s.IsValid) : Settled room files root named values (.ok s)
  | missing {l : Location} (asked : named = some l) (absent : contentAt files l = .ok none) :
      Settled room files root named values (.error (.invalid (.fileMissing l.text)))
  | malformed {l : Location} (looked : l ∈ documents root named) (h : IsMalformed room files l) :
      Settled room files root named values (.error (.invalid (.invalidDocument l.text)))
  | refused {t : Table} {before : Settings} {e : SettingsError}
      (given : .ok t ∈ sources room files root named values)
      (h : before.overlay room t = .error (.invalid e)) :
      Settled room files root named values (.error (.invalid e))
  | unreadable {l : Location} {fault : SettingsFault} (looked : l ∈ documents root named)
      (h : Unreadable room files l fault) : Settled room files root named values (.error fault)
  /-- A value would have to be shown in a complaint. -/
  | unshowable {t : Table} {v : Value} {hindrance : Value.Hindrance}
      (given : .ok t ∈ sources room files root named values) (mentioned : Mentions t v)
      (h : v.Hinders room.showing hindrance) :
      Settled room files root named values (.error (.ofHindrance hindrance))

theorem length_unifyLines (cs : List Char) : (Toml.unifyLines cs).length ≤ cs.length := by
  fun_induction Toml.unifyLines cs with
  | case1 rest ih => exact Nat.le_succ_of_le (Nat.succ_le_succ ih)
  | case2 rest _ ih => exact Nat.succ_le_succ ih
  | case3 c rest _ _ ih => exact Nat.succ_le_succ ih
  | case4 => exact Nat.le_refl _

variable {room : Room} {files : FileTree} {root named : Option Location} {values : Table}
  {l : Location} {fault : SettingsFault}

theorem contentAt_eq_error (failed : contentAt files l = .error fault) :
    Unreadable room files l fault := by
  unfold contentAt at failed
  split at failed
  next beyond =>
    cases failed
    exact .nameTooLong beyond
  next => cases failed
  next => cases failed

theorem tableOf_eq_error {content : Bytes} (held : contentAt files l = .ok (some content))
    (failed : tableOf room l content = .error fault) :
    IsMalformed room files l ∧ fault = .invalid (.invalidDocument l.text) ∨
      Unreadable room files l fault := by
  unfold tableOf at failed
  split at failed
  next invalid =>
    cases failed
    exact .inr (.undecodable held invalid)
  next cs decoded =>
    have shorter := length_unifyLines cs
    split at failed
    next => cases failed
    next malformed =>
      cases failed
      exact .inl ⟨⟨content, cs, held, decoded, malformed⟩, rfl⟩
    next refused =>
      cases failed
      have long : maxShownDigits < (Toml.unifyLines cs).length := Toml.explained_of_read refused
      exact .inr (.integerTooLong held decoded refused (Nat.lt_of_lt_of_le long shorter))
    next refused =>
      cases failed
      have long : room.reading < Toml.Reader.callsOfTable * (Toml.unifyLines cs).length :=
        Toml.explained_of_read refused
      exact .inr (.tooDeep held decoded refused
        (Nat.lt_of_lt_of_le long (Nat.mul_le_mul_left _ shorter)))

theorem documentAt_eq_error (failed : documentAt room files (some l) = .error fault) :
    IsMalformed room files l ∧ fault = .invalid (.invalidDocument l.text) ∨
      Unreadable room files l fault := by
  rcases bind_eq_error.mp failed with unreachable | ⟨_ | content, held, failed⟩
  · exact .inr (contentAt_eq_error unreachable)
  · cases failed
  · rcases bind_eq_error.mp failed with refused | ⟨t, -, done⟩
    · exact tableOf_eq_error held refused
    · cases done

theorem contentAt_of_documentAt_eq_none (found : documentAt room files (some l) = .ok none) :
    contentAt files l = .ok none := by
  obtain ⟨_ | content, held, rest⟩ := bind_eq_ok.mp found
  · exact held
  · obtain ⟨t, -, done⟩ := bind_eq_ok.mp rest
    cases done

theorem settled_of_error_mem_sources
    (failed : .error fault ∈ sources room files root named values) :
    Settled room files root named values (.error fault) := by
  have cause {place : Option Location} (h : documentAt room files place = .error fault)
      (looked : ∀ l, place = some l → l ∈ documents root named) :
      Settled room files root named values (.error fault) := by
    cases place with
    | none => cases h
    | some l =>
      rcases documentAt_eq_error h with ⟨malformed, rfl⟩ | unreadable
      · exact .malformed (looked l rfl) malformed
      · exact .unreadable (looked l rfl) unreadable
  simp only [sources, List.mem_cons, List.not_mem_nil, or_false, eq_comm (a := Except.error fault),
    map_eq_error] at failed
  rcases failed with ofProject | ofRoot | ofNamed | ofValues
  · exact cause ofProject fun l h => by simp [documents, h]
  · exact cause ofRoot fun l h => by simp [documents, h]
  · rcases bind_eq_error.mp ofNamed with failed | ⟨d, found, missing⟩
    · exact cause failed fun l h => by simp [documents, h]
    · cases named with
      | none => cases missing
      | some l =>
        cases d with
        | none =>
          cases missing
          exact .missing rfl (contentAt_of_documentAt_eq_none found)
        | some t => cases missing
  · cases ofValues

theorem settled (room : Room) (files : FileTree) (root named : Option Location)
    (values : Table) :
    Settled room files root named values
      ((sources room files root named values).foldlM (lay room) {}) := by
  cases laid : (sources room files root named values).foldlM (lay room) {} with
  | ok s => exact .valid s.isValid
  | error fault =>
    rcases layAll_eq_error laid with failed | ⟨t, before, given, refused⟩
    · exact settled_of_error_mem_sources failed
    · rcases overlay_eq_error refused with ⟨e, rfl⟩ | ⟨v, hindrance, mentioned, hinders, rfl⟩
      · exact .refused given refused
      · exact .unshowable given mentioned hinders

end Settings

namespace Running

variable {α β : Type} {work : Running α} {next : α → Running β} {p : Progress} {failure : Failure}

def Ends (work : Running α) (outcome : Except Failure α) : Prop :=
  ∀ p, (work.run.run p).1 = outcome

theorem Ends.bind_error (h : work.Ends (.error failure)) :
    (work >>= next).Ends (.error failure) := by
  intro p
  have failed := h p
  rw [ExceptT.run_bind, StateT.run_bind]
  rcases done : work.run.run p with ⟨reached, p'⟩
  rw [done] at failed
  cases failed
  rfl

def refusal : SettingsFault → Failure
  | .invalid e => .fatal ("Invalid configuration: " ++ e.message)
  | fault => .loading fault

theorem ends_onSettings {loading : Loading Settings} {fault : SettingsFault}
    (failed : loading.Gives (.error fault)) :
    (onSettings loading).Ends (.error (refusal fault)) := by
  intro p
  have outcome := failed []
  rcases done : loading.run.run [] with ⟨reached, notes⟩
  rw [done] at outcome
  cases outcome
  unfold onSettings
  rw [done]
  cases fault with
  | _ => rfl

end Running

namespace CommandLine
open Running

/-- The commands that load settings: from the root of their repository, from a named document and
from single values. -/
inductive Loads (around : Surroundings) (root : Location) (named : Option Location)
    (values : Table) : Running Nat → Prop
  | check (request : CheckRequest) :
      Loads around root named values (runCheck around root named values request)
  | regions (request : RegionsRequest) :
      Loads around root named values (runRegions around root named values request)

/-- How a command ends that cannot load its settings. -/
def Refuses (command : Running Nat) : SettingsFault → Prop
  | .invalid e => ∃ failure, command.Ends (.error failure) ∧ failure.exitCode = 2 ∧
      failure = .fatal ("Invalid configuration: " ++ e.message)
  | fault => ∃ failure, command.Ends (.error failure) ∧ failure.exitCode = 1 ∧
      failure = .loading fault

theorem refuses_of_ends {command : Running Nat} {fault : SettingsFault}
    (ends : command.Ends (.error (refusal fault))) : Refuses command fault := by
  cases fault with
  | _ => exact ⟨_, ends, rfl, rfl⟩

theorem refuses_of_loads {around : Surroundings} {root : Location} {named : Option Location}
    {values : Table} {fault : SettingsFault} {command : Running Nat}
    (loads : Loads around root named values command)
    (failed : (Settings.load around.room around.files (some root) named values).Gives
      (.error fault)) :
    Refuses command fault := by
  have prepares : (prepare around root named values).Ends (.error (refusal fault)) :=
    (ends_onSettings failed).bind_error
  apply refuses_of_ends
  cases loads with
  | check request => exact prepares.bind_error
  | regions request => exact prepares.bind_error

def noValues : Table :=
  [("implicit_close", .absent), ("matching", .absent), ("resolve", .absent), ("workers", .absent),
    ("exclude", .absent)]

def complaint? : Except SettingsFault Settings → Option Text
  | .error (.invalid e) => some e.message
  | _ => none

def filesWith (content : Bytes) : FileTree := { nodes := [([".cochange.toml"], .file content)] }

theorem contentAt_filesWith (content : Bytes) :
    Settings.contentAt (filesWith content) ((Location.ofText "/").join Settings.projectFile) =
        .ok none ∧
      Settings.contentAt (filesWith content) ((Location.ofText "/").join Settings.settingsFile) =
        .ok (some content) := by
  constructor
  · exact Settings.contentAt_of_name "pyproject.toml" ⟨by decide +kernel, by decide +kernel,
      by decide +kernel, by decide, by decide, by decide +kernel, rfl, rfl⟩
  · exact Settings.contentAt_of_name ".cochange.toml" ⟨by decide +kernel, by decide +kernel,
      by decide +kernel, by decide, by decide, by decide +kernel, rfl, rfl⟩

theorem gives_filesWith (room : Room) (content : Bytes) :
    (Settings.load room (filesWith content) (some (.ofText "/")) none noValues).Gives
      (Settings.tableOf room ((Location.ofText "/").join Settings.settingsFile) content >>=
        Settings.overlay room {}) := by
  obtain ⟨ofProject, ofRoot⟩ := contentAt_filesWith content
  have gives := @Settings.load_gives room (filesWith content) (some (.ofText "/")) none noValues
  simp only [Settings.sources, Option.map_some, Settings.documentAt_of_missing ofProject,
    Settings.documentAt_of_content ofRoot] at gives
  refine (congrArg (Loading.Gives _) ?_).mp gives
  cases Settings.tableOf room _ content with
  | error fault => rfl
  | ok t =>
    change (Settings.overlay room {} t >>= fun s => [.ok [], .ok []].foldlM (Settings.lay room) s) =
      Settings.overlay room {} t
    simp only [List.foldlM_cons, List.foldlM_nil, Settings.lay_nil]
    exact bind_pure _

/-- However much room there is, loading gives valid settings or ends in a configuration error,
unless there is a document that cannot be read or a value that cannot be shown. A command ends with
the exit code two on a configuration error, and on any other fault with the code one, like a check
that has found something. -/
theorem loading_is_settled (room : Room) (files : FileTree) (root named : Option Location)
    (values : Table) :
    ∃ outcome, (Settings.load room files root named values).Gives outcome ∧
      Settings.Settled room files root named values outcome ∧
      ∀ git top fault command, root = some top → outcome = .error fault →
        Loads { files, git, room } top named values command → Refuses command fault := by
  refine ⟨_, Settings.load_gives, Settings.settled room files root named values, ?_⟩
  rintro git top fault command rfl failed loads
  exact refuses_of_loads loads (failed ▸ Settings.load_gives)

theorem loading_is_settled_of_no_workers :
    let room : Room := { reading := 100, showing := 100 }
    let around : Surroundings :=
      { files := filesWith (Text.toUtf8 "workers = 0\n"), git := fun _ => .timedOut, room }
    let check := runCheck around (.ofText "/") none noValues {}
    ∃ failure, check.Ends (.error failure) ∧ failure.exitCode = 2 ∧
      failure = .fatal "Invalid configuration: workers must be a positive integer, got 0" := by
  intro room around check
  obtain ⟨outcome, gives, -, refuses⟩ :=
    loading_is_settled room around.files (some (.ofText "/")) none noValues
  have seen : complaint? outcome = some ("workers must be a positive integer, got 0" : Text) := by
    rw [← gives [], gives_filesWith _ _ []]
    decide +kernel
  have isFault : ∃ e, outcome = .error (.invalid e) ∧
      e.message = "workers must be a positive integer, got 0" := by
    unfold complaint? at seen
    split at seen
    next e => exact ⟨e, rfl, Option.some.inj seen⟩
    next => cases seen
  obtain ⟨e, rfl, shown⟩ := isFault
  have refused : Refuses check (.invalid e) := refuses around.git _ _ _ rfl rfl (.check {})
  obtain ⟨failure, ends, code, rfl⟩ := refused
  exact ⟨_, ends, code, by rw [shown]; rfl⟩

/-- A byte that is not UTF-8 in the settings file is no configuration error, and the check ends as
one does that has found something. -/
theorem undecodable_settings_are_not_invalid :
    let room : Room := { reading := 100, showing := 100 }
    let around : Surroundings := { files := filesWith [0xFF], git := fun _ => .timedOut, room }
    let check := runCheck around (.ofText "/") none noValues {}
    let outcome :=
      ((Settings.load room around.files (some (.ofText "/")) none noValues).run.run []).1
    ¬ ((∃ s, outcome = .ok s) ∨ ∃ e, outcome = .error (.invalid e)) ∧
      ∃ failure, check.Ends (.error failure) ∧ failure.exitCode = 1 := by
  intro room around check outcome
  have failed := gives_filesWith room [0xFF]
  have loads : Loads around (.ofText "/") none noValues check := .check {}
  obtain ⟨failure, ends, code, -⟩ := refuses_of_loads loads failed
  refine ⟨?_, failure, ends, code⟩
  rw [show outcome = .error .undecodable from failed []]
  rintro (⟨s, ⟨⟩⟩ | ⟨e, ⟨⟩⟩)

end CommandLine
end Lockstep
