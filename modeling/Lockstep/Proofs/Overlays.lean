import Lockstep.Settings.Sources

/-! What laying a table over settings does. Either each setting is what the table has under its key,
or what it was where the table does not have the key; or the table has a value to complain about. -/
namespace Lockstep

section

variable {ε ε' α β : Type} {f : ε → ε'} {outcome : Except ε α}

theorem bind_eq_ok {next : α → Except ε β} {y : β} :
    outcome >>= next = .ok y ↔ ∃ x, outcome = .ok x ∧ next x = .ok y := by
  cases outcome with
  | error e => simp [bind, Except.bind]
  | ok x => simp [bind, Except.bind]

theorem bind_eq_error {next : α → Except ε β} {e : ε} :
    outcome >>= next = .error e ↔
      outcome = .error e ∨ ∃ x, outcome = .ok x ∧ next x = .error e := by
  cases outcome with
  | error e => simp [bind, Except.bind]
  | ok x => simp [bind, Except.bind]

theorem map_eq_ok {g : α → β} {y : β} :
    outcome.map g = .ok y ↔ ∃ x, outcome = .ok x ∧ g x = y := by
  cases outcome with
  | error e => simp [Except.map]
  | ok x => simp [Except.map]

theorem map_eq_error {g : α → β} {e : ε} : outcome.map g = .error e ↔ outcome = .error e := by
  cases outcome with
  | error e => simp [Except.map]
  | ok x => simp [Except.map]

theorem mapError_eq_ok {x : α} : outcome.mapError f = .ok x ↔ outcome = .ok x := by
  cases outcome with
  | error e => exact ⟨nofun, nofun⟩
  | ok y => exact ⟨fun h => congrArg _ (Except.ok.inj h), fun h => congrArg _ (Except.ok.inj h)⟩

theorem mapError_eq_error {e : ε'} :
    outcome.mapError f = .error e ↔ ∃ cause, outcome = .error cause ∧ f cause = e := by
  cases outcome with
  | error cause =>
    constructor
    · exact fun h => ⟨cause, rfl, Except.error.inj h⟩
    · rintro ⟨_, ⟨⟩, rfl⟩
      rfl
  | ok x => exact ⟨nofun, by rintro ⟨_, ⟨⟩, _⟩⟩

end

theorem Markers.ofWords_eq_ok {opens declares closes : Text} {m : Markers} :
    ofWords opens declares closes = .ok m ↔
      m.opens = opens ∧ m.declares = declares ∧ m.closes = closes := by
  constructor
  · intro made
    unfold ofWords at made
    split at made
    · cases made
    · split at made
      · cases made
        exact ⟨rfl, rfl, rfl⟩
      · cases made
  · rintro ⟨rfl, rfl, rfl⟩
    unfold ofWords
    split
    next word found =>
      have unusable := List.find?_some found
      rw [m.usable word (List.mem_of_find?_eq_some found)] at unusable
      cases unusable
    next => rw [dif_pos m.distinct]

theorem mem_of_lookup {κ α : Type} [BEq κ] [LawfulBEq κ] {entries : List (κ × α)} {key : κ} {x : α}
    (found : entries.lookup key = some x) : (key, x) ∈ entries := by
  obtain ⟨before, after, rfl, -⟩ := List.lookup_eq_some_iff.mp found
  simp

theorem Resolution.name_of_ofName? {given : Text} {mode : Resolution}
    (named : ofName? given = some mode) : mode.name = given := by
  have entry := mem_of_lookup named
  simp only [names, List.mem_cons, Prod.mk.injEq, List.not_mem_nil, or_false] at entry
  rcases entry with ⟨rfl, rfl⟩ | ⟨rfl, rfl⟩ | ⟨rfl, rfl⟩
  all_goals rfl

theorem Matching.name_of_ofName? {given : Text} {mode : Matching}
    (named : ofName? given = some mode) : mode.name = given := by
  have entry := mem_of_lookup named
  simp only [names, List.mem_cons, Prod.mk.injEq, List.not_mem_nil, or_false] at entry
  rcases entry with ⟨rfl, rfl⟩ | ⟨rfl, rfl⟩
  all_goals rfl

theorem Resolution.name_injective {a b : Resolution} (same : a.name = b.name) : a = b := by
  have named (mode : Resolution) : ofName? mode.name = some mode := by
    cases mode
    all_goals decide
  have found := named a
  rw [same, named b] at found
  exact (Option.some.inj found).symm

theorem Matching.name_injective {a b : Matching} (same : a.name = b.name) : a = b := by
  have named (mode : Matching) : ofName? mode.name = some mode := by
    cases mode
    all_goals decide
  have found := named a
  rw [same, named b] at found
  exact (Option.some.inj found).symm

namespace Value

/-- Whether a value is so deep inside another one, behind that many lists and tables. -/
inductive Holds : Value → Nat → Value → Prop
  | self (v : Value) : Holds v 0 v
  | item {items : List Value} {item v : Value} {depth : Nat} (mem : item ∈ items)
      (inside : Holds item depth v) : Holds (.list items) (depth + 1) v
  | entry {entries : Table} {key : Text} {value v : Value} {depth : Nat}
      (mem : (key, value) ∈ entries) (inside : Holds value depth v) :
      Holds (.table entries) (depth + 1) v

/-- Whether a value holds an integer that is not written out, or is nested deeper than there is
room. -/
inductive Hinders (room : Nat) (v : Value) : Hindrance → Prop
  | integerTooLong {depth : Nat} {n : Int} (held : v.Holds depth (.integer n))
      (long : ¬ n.natAbs < Nat.pow 10 maxShownDigits) : Hinders room v .integerTooLong
  | tooDeep {depth : Nat} {u : Value} (held : v.Holds depth u) (deep : room < depth) :
      Hinders room v .tooDeep

variable {room : Nat} {h : Hindrance}

theorem hindranceOfItems?_succ (left : Nat) (items : List Value) :
    hindranceOfItems? (left + 1) items = items.findSome? (hindrance? left) := by
  induction items with
  | nil => rfl
  | cons item rest ih =>
    rw [hindranceOfItems?, ih, List.findSome?_cons]
    cases hindrance? left item <;> rfl

theorem hindranceOfEntries?_succ (left : Nat) (entries : Table) :
    hindranceOfEntries? (left + 1) entries = entries.findSome? fun e => hindrance? left e.2 := by
  induction entries with
  | nil => rfl
  | cons entry rest ih =>
    rw [hindranceOfEntries?, ih, List.findSome?_cons]
    cases hindrance? left entry.2 <;> rfl

theorem hinders_of_integer {n : Int} (hindered : (integer n).hindrance? room = some h) :
    (integer n).Hinders room h := by
  unfold hindrance? at hindered
  split at hindered
  · cases hindered
  next long =>
    cases hindered
    exact .integerTooLong (.self _) long

theorem Hinders.of_inside {left : Nat} {v inner : Value}
    (goesOn : ∀ depth u, inner.Holds depth u → v.Holds (depth + 1) u)
    (hindered : inner.Hinders left h) : v.Hinders (left + 1) h := by
  cases hindered with
  | integerTooLong held long => exact .integerTooLong (goesOn _ _ held) long
  | tooDeep held deep => exact .tooDeep (goesOn _ _ held) (Nat.succ_lt_succ deep)

theorem hinders_of_hindrance? {v : Value} (hindered : v.hindrance? room = some h) :
    v.Hinders room h := by
  induction room generalizing v with
  | zero =>
    cases v with
    | integer n => exact hinders_of_integer hindered
    | list items =>
      cases items with
      | nil => cases hindered
      | cons item rest =>
        cases hindered
        exact .tooDeep (.item List.mem_cons_self (.self item)) Nat.zero_lt_one
    | table entries =>
      cases entries with
      | nil => cases hindered
      | cons entry rest =>
        cases hindered
        exact .tooDeep (.entry List.mem_cons_self (.self entry.2)) Nat.zero_lt_one
    | _ => cases hindered
  | succ left ih =>
    cases v with
    | integer n => exact hinders_of_integer hindered
    | list items =>
      rw [hindrance?, hindranceOfItems?_succ] at hindered
      obtain ⟨item, mem, found⟩ := List.exists_of_findSome?_eq_some hindered
      exact (ih found).of_inside fun _ _ => .item mem
    | table entries =>
      rw [hindrance?, hindranceOfEntries?_succ] at hindered
      obtain ⟨entry, mem, found⟩ := List.exists_of_findSome?_eq_some hindered
      exact (ih found).of_inside fun _ _ => .entry mem
    | _ => cases hindered

end Value

namespace Settings

variable {s s' : Settings} {t : Table} {d : Draft} {room : Room}

theorem ofDraft_eq_ok : ofDraft d = .ok s ↔ s.draft = d := by
  constructor
  · intro made
    unfold ofDraft at made
    split at made
    next => cases made
    next resolution named =>
      split at made
      next => cases made
      next matching named' =>
        split at made
        next positive =>
          cases made
          simp only [draft, Resolution.name_of_ofName? named, Matching.name_of_ofName? named']
          rw [Int.toNat_of_nonneg (Int.le_of_lt (Int.lt_toNat.mp positive))]
        next => cases made
  · rintro rfl
    exact ofDraft_draft s

theorem workers_of_ofDraft_eq_error {given : Int}
    (refused : ofDraft d = .error (.workersNotPositive given)) :
    d.workers = given ∧ ¬ 0 < d.workers := by
  unfold ofDraft at refused
  split at refused
  · cases refused
  · split at refused
    · cases refused
    · split at refused
      next => cases refused
      next notPositive =>
        cases refused
        exact ⟨rfl, fun positive => notPositive (Int.lt_toNat.mpr positive)⟩

structure Laid (room : Room) (s : Settings) (t : Table) (s' : Settings) : Prop where
  opens : readKey (subtable t "markers") "open" s.convention.markers.opens
    (readText room "markers.open") = .ok s'.convention.markers.opens
  declares : readKey (subtable t "markers") "then" s.convention.markers.declares
    (readText room "markers.then") = .ok s'.convention.markers.declares
  closes : readKey (subtable t "markers") "close" s.convention.markers.closes
    (readText room "markers.close") = .ok s'.convention.markers.closes
  implicitClose : readKey t "implicit_close" s.convention.implicitClose
    (readFlag room "implicit_close") = .ok s'.convention.implicitClose
  resolution : readKey t "resolve" s.resolution.name (readText room "resolve") =
    .ok s'.resolution.name
  matching : readKey t "matching" s.matching.name (readText room "matching") = .ok s'.matching.name
  workers : readKey t "workers" (s.workers : Int) (readInteger room "workers") =
    .ok (s'.workers : Int)
  exclude : readKey t "exclude" s.exclude (readPatterns room) = .ok s'.exclude

theorem overlay_eq_ok : s.overlay room t = .ok s' ↔ Laid room s t s' := by
  unfold overlay overlayMarkers
  simp only [bind_eq_ok, mapError_eq_ok, Markers.ofWords_eq_ok, ofDraft_eq_ok]
  constructor
  · rintro ⟨markers, ⟨_, opens, _, declares, _, closes, rfl, rfl, rfl⟩, implicitClose, flag,
      resolution, resolve, matching, pairing, workers, count, exclude, patterns, made⟩
    cases s'
    simp only [draft, Draft.mk.injEq] at made
    obtain ⟨rfl, rfl, rfl, rfl, rfl⟩ := made
    exact ⟨opens, declares, closes, flag, resolve, pairing, count, patterns⟩
  · intro h
    exact ⟨s'.convention.markers,
      ⟨_, h.opens, _, h.declares, _, h.closes, rfl, rfl, rfl⟩,
      _, h.implicitClose, _, h.resolution, _, h.matching, _, h.workers, _, h.exclude, rfl⟩

@[simp] theorem overlay_nil (room : Room) (s : Settings) : s.overlay room [] = .ok s :=
  overlay_eq_ok.mpr ⟨rfl, rfl, rfl, rfl, rfl, rfl, rfl, rfl⟩

def Mentions (t : Table) (v : Value) : Prop :=
  ∃ key, t.get? key = some v ∨ (subtable t "markers").get? key = some v

/-- Whether a fault is a complaint that can be shown, or comes of a value that cannot be. -/
def IsComplaint (room : Room) (t : Table) (fault : SettingsFault) : Prop :=
  (∃ e, fault = .invalid e) ∨
    ∃ v h, Mentions t v ∧ v.Hinders room.showing h ∧ fault = .ofHindrance h

variable {fault : SettingsFault}

theorem complaint_isComplaint {e : Value → SettingsError} {v : Value} (given : Mentions t v) :
    IsComplaint room t (complaint room e v) := by
  unfold complaint
  split
  next => exact .inl ⟨_, rfl⟩
  next h hindered => exact .inr ⟨v, h, given, Value.hinders_of_hindrance? hindered, rfl⟩

def Complains (room : Room) {α : Type} (read : Value → Except SettingsFault α) : Prop :=
  ∀ v fault, read v = .error fault → ∃ e, fault = complaint room e v

theorem readFlag_complains (key : Text) : Complains room (readFlag room key) := by
  intro v fault refused
  cases v with
  | bool b => cases refused
  | _ => exact ⟨_, (Except.error.inj refused).symm⟩

theorem readText_complains (key : Text) : Complains room (readText room key) := by
  intro v fault refused
  cases v with
  | text given =>
    simp only [readText] at refused
    split at refused
    · exact ⟨_, (Except.error.inj refused).symm⟩
    · cases refused
  | _ => exact ⟨_, (Except.error.inj refused).symm⟩

theorem readInteger_complains (key : Text) : Complains room (readInteger room key) := by
  intro v fault refused
  cases v with
  | integer n => cases refused
  | _ => exact ⟨_, (Except.error.inj refused).symm⟩

theorem readPatterns_complains : Complains room (readPatterns room) := by
  intro v fault refused
  cases v with
  | text given => cases refused
  | list items =>
    simp only [readPatterns] at refused
    split at refused
    · cases refused
    · exact ⟨_, (Except.error.inj refused).symm⟩
  | _ => exact ⟨_, (Except.error.inj refused).symm⟩

theorem readKey_eq_error {α : Type} {part : Table} {key : Text} {before : α}
    {read : Value → Except SettingsFault α} (complains : Complains room read)
    (refused : readKey part key before read = .error fault) :
    ∃ v e, part.get? key = some v ∧ fault = complaint room e v := by
  unfold readKey at refused
  split at refused
  next => cases refused
  next v held =>
    obtain ⟨e, rfl⟩ := complains v fault refused
    exact ⟨v, e, held, rfl⟩

theorem mentions_of_refused_count {given : Int}
    (counted : readKey t "workers" (s.workers : Int) (readInteger room "workers") = .ok given)
    (notPositive : ¬ 0 < given) : Mentions t (.integer given) := by
  unfold readKey at counted
  split at counted
  next =>
    cases counted
    exact absurd (Int.natCast_pos.mpr s.workers_pos) notPositive
  next v held =>
    cases v with
    | integer n =>
      cases counted
      exact ⟨_, .inl held⟩
    | _ => cases counted

theorem overlay_eq_error (refused : s.overlay room t = .error fault) :
    IsComplaint room t fault := by
  have own {α : Type} {key : Text} {before : α} {read : Value → Except SettingsFault α}
      (complains : Complains room read) (refused : readKey t key before read = .error fault) :
      IsComplaint room t fault := by
    obtain ⟨v, e, held, rfl⟩ := readKey_eq_error complains refused
    exact complaint_isComplaint ⟨key, .inl held⟩
  have ofMarkers {key name before : Text}
      (refused : readKey (subtable t "markers") key before (readText room name) = .error fault) :
      IsComplaint room t fault := by
    obtain ⟨v, e, held, rfl⟩ := readKey_eq_error (readText_complains name) refused
    exact complaint_isComplaint ⟨key, .inr held⟩
  unfold overlay overlayMarkers at refused
  simp only [bind_eq_error, mapError_eq_error] at refused
  rcases refused with (h | ⟨_, -, h | ⟨_, -, h | ⟨_, -, e, -, rfl⟩⟩⟩) |
    ⟨_, -, h | ⟨_, -, h | ⟨_, -, h | ⟨_, -, h | ⟨workers, counted, h⟩⟩⟩⟩⟩
  · exact ofMarkers h
  · exact ofMarkers h
  · exact ofMarkers h
  · exact .inl ⟨_, rfl⟩
  · exact own (readFlag_complains _) h
  · exact own (readText_complains _) h
  · exact own (readText_complains _) h
  · exact own (readInteger_complains _) h
  rcases h with h | ⟨exclude, -, e, made, rfl⟩
  · exact own readPatterns_complains h
  · cases e with
    | workersNotPositive given =>
      obtain ⟨rfl, notPositive⟩ := workers_of_ofDraft_eq_error made
      rw [rejection]
      exact complaint_isComplaint (mentions_of_refused_count counted notPositive)
    | _ => exact .inl ⟨_, rfl⟩

end Settings
end Lockstep
