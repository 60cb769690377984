import Lockstep.Settings.Basic
import Lockstep.Text.Class

/-! Settings as tables give them, one table laid over the other. A table replaces what it has a key
for and leaves the rest; keys that nobody knows are skipped, so that a newer table can still be
read. -/
namespace Lockstep

/-- How many calls may still be opened where a document is read and where a value is shown. -/
structure Room where
  reading : Nat
  showing : Nat

inductive SettingsFault where
  | invalid (e : SettingsError)
  /-- An integer has more digits than are read or shown. -/
  | integerTooLong
  /-- Lists and tables are nested deeper than there is room to read or show. -/
  | tooDeep
  /-- A document is not UTF-8. -/
  | undecodable
  /-- The name of a document is longer than the system allows. -/
  | nameTooLong (path : Text)

def SettingsFault.ofHindrance : Value.Hindrance → SettingsFault
  | .integerTooLong => .integerTooLong
  | .tooDeep => .tooDeep

namespace Settings

variable (room : Room)

def complaint (e : Value → SettingsError) (given : Value) : SettingsFault :=
  match given.hindrance? room.showing with
  | none => .invalid (e given)
  | some hindrance => .ofHindrance hindrance

def readFlag (key : Text) : Value → Except SettingsFault Bool
  | .bool b => .ok b
  | given => .error (complaint room (.notBoolean key) given)

def readText (key : Text) (given : Value) : Except SettingsFault Text :=
  match given with
  | .text t => if t.strip = [] then .error (complaint room (.notText key) given) else .ok t.strip
  | _ => .error (complaint room (.notText key) given)

def readInteger (key : Text) : Value → Except SettingsFault Int
  | .integer n => .ok n
  | given => .error (complaint room (.notInteger key) given)

def texts? : List Value → Option (List Text)
  | [] => some []
  | .text t :: rest => (texts? rest).map (t :: ·)
  | _ :: _ => none

/-- Patterns, each without the blanks around it. Those with nothing on them are dropped. -/
def trimmedPatterns (ts : List Text) : List Text := (ts.map Text.strip).filter (· ≠ [])

def readPatterns (given : Value) : Except SettingsFault (List Text) :=
  match given with
  | .text t => .ok (trimmedPatterns [t])
  | .list items =>
    match texts? items with
    | some ts => .ok (trimmedPatterns ts)
    | none => .error (complaint room .notPatterns given)
  | _ => .error (complaint room .notPatterns given)

def readKey {α : Type} (t : Table) (key : Text) (before : α)
    (read : Value → Except SettingsFault α) : Except SettingsFault α :=
  match t.get? key with
  | none => .ok before
  | some given => read given

/-- Markers are replaced one by one, and have to be usable together afterwards. -/
def overlayMarkers (m : Markers) (t : Table) : Except SettingsFault Markers := do
  let opens ← readKey t "open" m.opens (readText room "markers.open")
  let declares ← readKey t "then" m.declares (readText room "markers.then")
  let closes ← readKey t "close" m.closes (readText room "markers.close")
  (Markers.ofWords opens declares closes).mapError fun e => .invalid (.markers e)

def rejection : SettingsError → SettingsFault
  | .workersNotPositive given =>
    complaint room (fun _ => .workersNotPositive given) (.integer given)
  | e => .invalid e

def overlay (s : Settings) (t : Table) : Except SettingsFault Settings := do
  let markers ← overlayMarkers room s.convention.markers
    ((t.get? "markers").getD .absent).asTable
  let implicitClose ← readKey t "implicit_close" s.convention.implicitClose
    (readFlag room "implicit_close")
  let resolution ← readKey t "resolve" s.draft.resolution (readText room "resolve")
  let matching ← readKey t "matching" s.draft.matching (readText room "matching")
  let workers ← readKey t "workers" s.draft.workers (readInteger room "workers")
  let exclude ← readKey t "exclude" s.draft.exclude (readPatterns room)
  let d : Draft :=
    { convention := { markers, implicitClose }, resolution, matching, workers, exclude }
  (ofDraft d).mapError (rejection room)

end Settings
end Lockstep
