import Lockstep.Toml.Value

/-! Documents: entries under headers. A header opens a table, or adds one to a list of tables, and
the entries below it belong there. A table is described in one place only, so a document keeps
account of the tables that may not be opened or extended any more. -/
namespace Lockstep.Toml

structure Document where
  root : Table := []
  /-- The path of the table that entries go to. -/
  header : List Text := []
  /-- Tables that have been described; no header opens them, and no key passes through them. -/
  described : List (List Text) := []
  /-- Tables that keys have passed through since the last header; the next one settles them. -/
  passed : List (List Text) := []
  /-- Lists and tables that were written out as values. -/
  sealed : List (List Text) := []

namespace Document

def wayOf (d : Document) (k : Key) : List (List Text) :=
  (List.range k.above.length).map fun i => d.header ++ k.above.take (i + 1)

def assign? (d : Document) (k : Key) (v : Value) : Option Document :=
  let parent := d.header ++ k.above
  if (d.wayOf k).any d.described.contains || isSealed d.sealed parent then none
  else return { d with
    root := ← d.root.update? true (Table.insertNew? k.name v) parent
    passed := d.wayOf k ++ d.passed
    sealed := if isCompound v then (parent ++ [k.name]) :: d.sealed else d.sealed }

/-- The tables that keys have passed through count as described when a header follows. -/
def settled (d : Document) : Document :=
  { d with described := d.passed ++ d.described, passed := [] }

def openTable? (d : Document) (k : Key) : Option Document :=
  let d := d.settled
  if d.described.contains k.path || isSealed d.sealed k.path then none
  else return { d with
    root := ← d.root.update? true some k.path
    header := k.path
    described := k.path :: d.described }

def appendTable? (name : Text) (t : Table) : Option Table :=
  match t.get? name with
  | none => some (t.set name (.list [.table []]))
  | some (.list items) => some (t.set name (.list (items ++ [.table []])))
  | some _ => none

/-- A header between double brackets. What was known about tables below it held for the element
before the new one. -/
def openElement? (d : Document) (k : Key) : Option Document :=
  let d := d.settled
  if isSealed d.sealed k.path then none
  else return { d with
    root := ← d.root.update? true (appendTable? k.name) k.above
    header := k.path
    described := k.path :: d.described.filter fun p => !k.path.isPrefixOf p
    sealed := d.sealed.filter fun p => !k.path.isPrefixOf p }

end Document

inductive Statement where
  | nothing
  | assign (k : Key) (v : Value)
  | openTable (k : Key)
  | openElement (k : Key)

def Document.apply? (d : Document) : Statement → Option Document
  | .nothing => some d
  | .assign k v => d.assign? k v
  | .openTable k => d.openTable? k
  | .openElement k => d.openElement? k

namespace Reader

def elementHeader : Reader Statement := do
  literal ['[', '[']
  spaces
  let k ← key
  literal [']', ']']
  return .openElement k

def tableHeader : Reader Statement := do
  literal ['[']
  spaces
  let k ← key
  literal [']']
  return .openTable k

def assignment (room : Nat) : Reader Statement := do
  let k ← assignedKey
  return .assign k (← value room)

def statement (room : Nat) : Reader Statement := fun input =>
  match input.head?, (input.drop 1).head? with
  | some '[', some '[' => elementHeader input
  | some '[', _ => tableHeader input
  | none, _ | some '\n', _ | some '#', _ => (pure .nothing : Reader Statement) input
  | _, _ => assignment room input

def line (room : Nat) : Reader Statement := do
  spaces
  let s ← statement room
  spaces
  let _ ← optional (literal ['#'] *> commentRest)
  return s

end Reader

theorem tail_shorter {input rest : List Char} {c : Char} (first : rest.head? = some c)
    (bounded : rest.length ≤ input.length) : rest.tail.length < input.length := by
  cases rest with
  | nil => cases first
  | cons _ _ => exact bounded

def Document.readFrom (room : Nat) (d : Document) (input : List Char) : Except Fault Document :=
  match Reader.line room input with
  | .error e => .error e
  | .ok r =>
    match d.apply? r.value with
    | none => .error .malformed
    | some d =>
      if r.rest.isEmpty then .ok d
      else if first : r.rest.head? = some '\n' then
        have := tail_shorter first r.bounded
        readFrom room d r.rest.tail
      else .error .malformed
termination_by input.length
decreasing_by exact this

def read (room : Nat) (input : List Char) : Except Fault Table :=
  (Document.readFrom room {} input).map Document.root

def unifyLines : List Char → List Char
  | '\r' :: '\n' :: rest => '\n' :: unifyLines rest
  | '\r' :: rest => '\n' :: unifyLines rest
  | c :: rest => c :: unifyLines rest
  | [] => []

end Lockstep.Toml
