import Lockstep.FileTree
import Lockstep.Settings.Overlay
import Lockstep.Snapshot.Basic
import Lockstep.Toml.Document

/-! Where settings come from: the project file at the root of a repository, the settings file beside
it, a file named explicitly, and finally single values. Each lays its table over what the ones
before it gave, and the first fault ends the loading. -/
namespace Lockstep

/-- The work of loading settings. The notes taken on the way stay, also if it ends in a fault. -/
abbrev Loading := ExceptT SettingsFault (StateM (List Note))

namespace Settings

def contentAt (files : FileTree) (l : Location) : Except SettingsFault (Option Bytes) :=
  match files.at? true l with
  | none => .error (.nameTooLong l.text)
  | some (some (.file content)) => .ok (some content)
  | some _ => .ok none

def tableOf (room : Room) (l : Location) (content : Bytes) : Except SettingsFault Table :=
  match Text.ofUtf8? content with
  | none => .error .undecodable
  | some cs =>
    match Toml.read room.reading (Toml.unifyLines cs) with
    | .ok t => .ok t
    | .error .malformed => .error (.invalid (.invalidDocument l.text))
    | .error .integerTooLong => .error .integerTooLong
    | .error .tooDeep => .error .tooDeep

def subtable (t : Table) (name : Text) : Table := ((t.get? name).getD .absent).asTable

def ownTable (document : Table) : Table := subtable (subtable document "tool") "cochange"

/-- An explicitly named file may be a project file, or hold nothing but settings. -/
def ownTableOrAll (document : Table) : Table :=
  if (ownTable document).isEmpty then document else ownTable document

def projectFile : Location := .ofText "pyproject.toml"

def settingsFile : Location := .ofText ".cochange.toml"

def note (n : Note) : Loading Unit := modify (· ++ [n])

variable (room : Room)

def loadProject (files : FileTree) (root : Location) (s : Settings) : Loading Settings := do
  let l := root.join projectFile
  match ← contentAt files l with
  | none => return s
  | some content =>
    let t := ownTable (← tableOf room l content)
    if t.isEmpty then return s
    note (.tableLoaded l.text)
    s.overlay room t

def loadRoot (files : FileTree) (root : Location) (s : Settings) : Loading Settings := do
  let l := root.join settingsFile
  match ← contentAt files l with
  | none => return s
  | some content =>
    note (.fileLoaded l.text)
    s.overlay room (← tableOf room l content)

def loadNamed (files : FileTree) (l : Location) (s : Settings) : Loading Settings := do
  match ← contentAt files l with
  | none => throw (.invalid (.fileMissing l.text))
  | some content =>
    note (.fileLoaded l.text)
    s.overlay room (ownTableOrAll (← tableOf room l content))

/-- Loads settings. Of the single values, absent ones leave what was there before. -/
def load (files : FileTree) (root named : Option Location) (values : Table) : Loading Settings := do
  let ofRoot : Settings ← match root with
    | none => pure {}
    | some l => loadProject room files l {} >>= loadRoot room files l
  let ofFiles : Settings ← match named with
    | none => pure ofRoot
    | some l => loadNamed room files l ofRoot
  ofFiles.overlay room (values.filter fun (_, v) => !v.isAbsent)

end Settings
end Lockstep
