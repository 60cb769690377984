import Lockstep.Proofs.Grammar
import Lockstep.Proofs.Marking

/-! Files that were written on purpose: lines of source and annotations in any order, each line with
the same ending. What such a file holds is said here from what was written, with no regard to how it
is read. -/
namespace Lockstep.Writing

structure Bullet where
  leader : Text
  spaces : Nat
  path : Text

/-- How a region ends: with a line that names its target, or with a list of targets between two
lines. -/
inductive Declaration where
  | inline (lead path : Text)
  | list (lead : Text) (bullets : List Bullet) (closingLead : Text)

structure Annotation where
  lead : Text
  body : List Bytes
  declaration : Declaration

inductive Item where
  | source (line : Bytes)
  | annotated (a : Annotation)

def Bullet.text (b : Bullet) : Text :=
  b.leader ++ (List.replicate b.spaces (.char ' ') ++ b.path)

namespace Declaration

def own (m : Markers) : Declaration → List Text
  | .inline lead path => [lead ++ (m.declares ++ .char ' ' :: path)]
  | .list lead bullets _ => (lead ++ m.declares) :: bullets.map Bullet.text

def behind (m : Markers) : Declaration → List Text
  | .inline .. => []
  | .list _ _ closingLead => [closingLead ++ m.closes]

def entries (line : Nat) : Declaration → List Scan.Entry
  | .inline _ path => [⟨path, line⟩]
  | .list _ bullets _ => (bullets.zipIdx (line + 1)).map fun (b, line) => ⟨b.path, line⟩

end Declaration

namespace Annotation

variable (m : Markers) (a : Annotation)

def own : List Bytes := a.body ++ (a.declaration.own m).map Text.toUtf8

def lines : List Bytes :=
  (a.lead ++ m.opens).toUtf8 :: (a.own m ++ (a.declaration.behind m).map Text.toUtf8)

def block (line : Nat) : Scan.Block where
  firstLine := line + 1
  lastLine := line + (a.own m).length
  entries := a.declaration.entries (line + 1 + a.body.length)

def region (path : Path) (ending : Bytes) (index line : Nat) : Region where
  file := path
  index := index
  firstLine := (a.block m line).firstLine
  lastLine := (a.block m line).lastLine
  targets := (a.block m line).entries.map Scan.Entry.target
  targetLines := (a.block m line).entries.map fun e => e.line
  content := ((a.own m).map (· ++ ending)).flatten

end Annotation

def Item.lines (m : Markers) : Item → List Bytes
  | .source line => [line]
  | .annotated a => a.lines m

def render (m : Markers) (ending : Bytes) (items : List Item) : Bytes :=
  ((items.flatMap (Item.lines m)).map (· ++ ending)).flatten

def regionsFrom (m : Markers) (path : Path) (ending : Bytes) (index line : Nat) :
    List Item → List Region
  | [] => []
  | .source _ :: rest => regionsFrom m path ending index (line + 1) rest
  | .annotated a :: rest =>
    a.region m path ending index line ::
      regionsFrom m path ending (index + 1) (line + (a.lines m).length) rest

def scanOf (m : Markers) (path : Path) (ending : Bytes) (items : List Item) : FileScan where
  path := path
  digest := .ofBytes (render m ending items)
  regions := regionsFrom m path ending 0 1 items

section Valid

variable (m : Markers)

structure IsSource (line : Bytes) : Prop where
  plain : ∀ b ∈ line, b ≠ 0 ∧ b ≠ 10 ∧ b ≠ 13
  source : Line.classify m (Text.ofUtf8Lossy line) = .source

structure IsLead (lead : Text) : Prop where
  comment : Line.isCommentLead lead = true
  unbroken : .char '\n' ∉ lead ∧ .char '\r' ∉ lead

structure IsTarget (path : Text) : Prop extends path.IsPath where
  prose : path.IsProse
  noZero : .char '\x00' ∉ path

structure Bullet.Valid (b : Bullet) : Prop where
  led : b.leader ≠ []
  punct : ∀ g ∈ b.leader, g.isPunct = true
  parted : b.spaces ≠ 0
  path : IsTarget b.path
  bare : Line.hasLeader b.path = false
  source : Line.classify m b.text = .source

def Declaration.Valid : Declaration → Prop
  | .inline lead path => IsLead lead ∧ IsTarget path
  | .list lead bullets closingLead =>
    IsLead lead ∧ (bullets ≠ [] ∧ ∀ b ∈ bullets, b.Valid m) ∧ IsLead closingLead

structure Annotation.Valid (a : Annotation) : Prop where
  lead : IsLead a.lead
  body : ∀ line ∈ a.body, IsSource m line
  declaration : a.declaration.Valid m

def Item.Valid : Item → Prop
  | .source line => IsSource m line
  | .annotated a => a.Valid m

section Decide

variable {m : Markers}

instance (line : Bytes) : Decidable (IsSource m line) :=
  have : Decidable (∀ b ∈ line, b ≠ 0 ∧ b ≠ 10 ∧ b ≠ 13) := List.decidableBAll _ line
  decidable_of_iff ((∀ b ∈ line, b ≠ 0 ∧ b ≠ 10 ∧ b ≠ 13) ∧
      Line.classify m (Text.ofUtf8Lossy line) = .source)
    ⟨fun ⟨a, b⟩ => ⟨a, b⟩, fun ⟨a, b⟩ => ⟨a, b⟩⟩

instance (lead : Text) : Decidable (IsLead lead) :=
  decidable_of_iff (Line.isCommentLead lead = true ∧ .char '\n' ∉ lead ∧ .char '\r' ∉ lead)
    ⟨fun ⟨a, b⟩ => ⟨a, b⟩, fun ⟨a, b⟩ => ⟨a, b⟩⟩

instance (path : Text) : Decidable (IsTarget path) :=
  decidable_of_iff ((path ≠ [] ∧ (∀ g ∈ path, g.isBlank = false) ∧
      ∀ g ∈ path.getLast?, g.isPunct = false) ∧ path.IsProse ∧ .char '\x00' ∉ path)
    ⟨fun ⟨⟨a, b, c⟩, d, e⟩ => ⟨⟨a, b, c⟩, d, e⟩, fun ⟨⟨a, b, c⟩, d, e⟩ => ⟨⟨a, b, c⟩, d, e⟩⟩

instance (b : Bullet) : Decidable (b.Valid m) :=
  decidable_of_iff (b.leader ≠ [] ∧ (∀ g ∈ b.leader, g.isPunct = true) ∧ b.spaces ≠ 0 ∧
      IsTarget b.path ∧ Line.hasLeader b.path = false ∧ Line.classify m b.text = .source)
    ⟨fun ⟨a, b, c, d, e, f⟩ => ⟨a, b, c, d, e, f⟩, fun ⟨a, b, c, d, e, f⟩ => ⟨a, b, c, d, e, f⟩⟩

instance (d : Declaration) : Decidable (d.Valid m) :=
  match d with
  | .inline lead path => inferInstanceAs (Decidable (IsLead lead ∧ IsTarget path))
  | .list lead bullets closingLead =>
    inferInstanceAs (Decidable
      (IsLead lead ∧ (bullets ≠ [] ∧ ∀ b ∈ bullets, b.Valid m) ∧ IsLead closingLead))

instance (a : Annotation) : Decidable (a.Valid m) :=
  decidable_of_iff (IsLead a.lead ∧ (∀ line ∈ a.body, IsSource m line) ∧ a.declaration.Valid m)
    ⟨fun ⟨a, b, c⟩ => ⟨a, b, c⟩, fun ⟨a, b, c⟩ => ⟨a, b, c⟩⟩

instance (item : Item) : Decidable (item.Valid m) :=
  match item with
  | .source line => inferInstanceAs (Decidable (IsSource m line))
  | .annotated a => inferInstanceAs (Decidable (a.Valid m))

end Decide

end Valid
end Lockstep.Writing
