import Lockstep.Toml.Quotation
import Lockstep.Value

/-! Keys of a document, and the tables that they lead into. A key of several parts leads from table
to table, and makes those that are not there yet. -/
namespace Lockstep

namespace Table

def set (t : Table) (name : Text) (v : Value) : Table :=
  if t.any (·.1 = name) then t.map fun entry => if entry.1 = name then (name, v) else entry
  else t ++ [(name, v)]

def insertNew? (name : Text) (v : Value) (t : Table) : Option Table :=
  if t.any (·.1 = name) then none else some (t ++ [(name, v)])

/-- Changes the table at the end of a path. Where lists are open, one on the way stands for its last
element. -/
def update? (openLists : Bool) (change : Table → Option Table) : List Text → Table → Option Table
  | [], t => change t
  | name :: path, t =>
    match t.get? name with
    | none => return t.set name (.table (← update? openLists change path []))
    | some (.table inner) => return t.set name (.table (← update? openLists change path inner))
    | some (.list items) =>
      match openLists, items.getLast? with
      | true, some (.table inner) =>
        return t.set name
          (.list (items.dropLast ++ [.table (← update? openLists change path inner)]))
      | _, _ => none
    | some _ => none

end Table

namespace Toml

structure Key where
  above : List Text
  name : Text

def Key.path (k : Key) : List Text := k.above ++ [k.name]

def isBareKeyChar (c : Char) : Bool :=
  isDecimalDigit c || ('a' ≤ c && c ≤ 'z') || ('A' ≤ c && c ≤ 'Z') || c = '-' || c = '_'

namespace Reader

def spaces : Reader Unit := do
  let _ ← run isSpace
  return ()

def bareKey : Reader Text := do
  let first ← satisfying isBareKeyChar
  return .ofChars (first :: (← run isBareKeyChar))

def keyPart : Reader Text := do
  let part ← bareKey <|> quotedLine
  spaces
  return part

def moreKeyParts : Reader (List Text)
  | '.' :: rest =>
    ((do spaces; keyPart : Reader Text) rest).andThen (fun part after shorter =>
      ((moreKeyParts after).map (part :: ·)).within shorter) |>.within (Nat.le_succ _)
  | input => .ok ⟨[], input, Nat.le_refl _⟩
termination_by input => input.length

def key : Reader Key := do
  let first ← keyPart
  let rest ← moreKeyParts
  return { above := (first :: rest).dropLast, name := rest.getLast?.getD first }

def assignedKey : Reader Key := do
  let k ← key
  literal ['=']
  spaces
  return k

end Reader
end Toml
end Lockstep
