import Lockstep.Text.Glyph

/-! UTF-8 in both directions. Reading never fails: bytes that begin no character are reported as
junk, one piece for each longest beginning of a sequence that could have continued. What becomes of
junk is the reader's choice: a replacement character in file contents, the bytes themselves in file
names, a refusal where text is required. -/
namespace Lockstep.Utf8

def encodeChar (c : Char) : Bytes :=
  let n := c.toNat
  if n < 0x80 then [UInt8.ofNat n]
  else if n < 0x800 then [UInt8.ofNat (0xC0 + n / 64), UInt8.ofNat (0x80 + n % 64)]
  else if n < 0x10000 then
    [UInt8.ofNat (0xE0 + n / 4096), UInt8.ofNat (0x80 + n / 64 % 64), UInt8.ofNat (0x80 + n % 64)]
  else
    [UInt8.ofNat (0xF0 + n / 262144), UInt8.ofNat (0x80 + n / 4096 % 64),
      UInt8.ofNat (0x80 + n / 64 % 64), UInt8.ofNat (0x80 + n % 64)]

inductive Piece where
  | char (c : Char)
  | junk (bytes : Bytes)
deriving DecidableEq

/-- A sequence that has begun: its bytes, the number they spell so far, how many bytes are missing,
and the range of the next one. The range is narrower than `0x80` to `0xBF` after the leads that
could otherwise spell a surrogate, a number past the last code point, or a shorter sequence. -/
structure Pending where
  seen : Bytes
  value : Nat
  missing : Nat
  low : UInt8 := 0x80
  high : UInt8 := 0xBF

def lead (b : UInt8) : Piece ⊕ Pending :=
  let n := b.toNat
  if n < 0x80 then .inl (.char (Char.ofNat n))
  else if n < 0xC2 then .inl (.junk [b])
  else if n < 0xE0 then .inr { seen := [b], value := n - 0xC0, missing := 1 }
  else if n = 0xE0 then .inr { seen := [b], value := 0, missing := 2, low := 0xA0 }
  else if n = 0xED then .inr { seen := [b], value := n - 0xE0, missing := 2, high := 0x9F }
  else if n < 0xF0 then .inr { seen := [b], value := n - 0xE0, missing := 2 }
  else if n = 0xF0 then .inr { seen := [b], value := 0, missing := 3, low := 0x90 }
  else if n < 0xF4 then .inr { seen := [b], value := n - 0xF0, missing := 3 }
  else if n = 0xF4 then .inr { seen := [b], value := 4, missing := 3, high := 0x8F }
  else .inl (.junk [b])

def Pending.extend? (p : Pending) (b : UInt8) : Option (Piece ⊕ Pending) :=
  if p.low ≤ b ∧ b ≤ p.high then
    let value := p.value * 64 + (b.toNat - 0x80)
    if p.missing ≤ 1 then some (.inl (.char (Char.ofNat value)))
    else some (.inr { seen := p.seen ++ [b], value, missing := p.missing - 1 })
  else none

def piecesFrom : Option Pending → Bytes → List Piece
  | none, [] => []
  | some p, [] => [.junk p.seen]
  | none, b :: rest =>
    match lead b with
    | .inl piece => piece :: piecesFrom none rest
    | .inr p => piecesFrom (some p) rest
  | some p, b :: rest =>
    match p.extend? b with
    | some (.inl piece) => piece :: piecesFrom none rest
    | some (.inr q) => piecesFrom (some q) rest
    | none =>
      match lead b with
      | .inl piece => .junk p.seen :: piece :: piecesFrom none rest
      | .inr q => .junk p.seen :: piecesFrom (some q) rest

def pieces (bytes : Bytes) : List Piece := piecesFrom none bytes

end Lockstep.Utf8

namespace Lockstep

namespace Text

/-- The bytes of a text; a stray byte stands for itself. -/
def toUtf8 (t : Text) : Bytes :=
  t.flatMap fun
    | .char c => Utf8.encodeChar c
    | .byte b => [b]

/-- Reads bytes without loss: junk becomes stray bytes. -/
def ofUtf8 (bytes : Bytes) : Text :=
  (Utf8.pieces bytes).flatMap fun
    | .char c => [.char c]
    | .junk bs => bs.map .byte

/-- Reads bytes as prose: each piece of junk becomes one replacement character. -/
def ofUtf8Lossy (bytes : Bytes) : Text :=
  (Utf8.pieces bytes).map fun
    | .char c => .char c
    | .junk _ => .char '\uFFFD'

def ofUtf8? (bytes : Bytes) : Option (List Char) :=
  (Utf8.pieces bytes).mapM fun
    | .char c => some c
    | .junk _ => none

def IsProse (t : Text) : Prop := ∀ g ∈ t, ∃ c, g = .char c

instance (t : Text) : Decidable t.IsProse :=
  have (g : Glyph) : Decidable (∃ c, g = .char c) :=
    match g with
    | .char c => isTrue ⟨c, rfl⟩
    | .byte _ => isFalse (by simp)
  List.decidableBAll (fun g : Glyph => ∃ c, g = .char c) t

def encode? (t : Text) : Option Bytes := if t.IsProse then some t.toUtf8 else none

theorem encode?_of_isProse {t : Text} (h : t.IsProse) : t.encode? = some t.toUtf8 := if_pos h

theorem toUtf8_append (a b : Text) : (a ++ b).toUtf8 = a.toUtf8 ++ b.toUtf8 := by
  simp [toUtf8]

end Text
end Lockstep
