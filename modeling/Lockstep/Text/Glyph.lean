import Lockstep.Sorting

/-! Texts that came from bytes. File names are bytes first: a name that is not well-formed UTF-8
still has to be listed, compared, sorted and handed back unchanged, so a text keeps each byte that
belongs to no character as a place of its own. -/
namespace Lockstep

abbrev Bytes := List UInt8

/-- One place of a text: a character, or a byte that no well-formed UTF-8 sequence claims. -/
inductive Glyph where
  | char (c : Char)
  | byte (b : UInt8)
deriving DecidableEq, Inhabited

/-- Position in the order of texts. A stray byte `b` sorts as the code point `0xDC00 + b`, which
no character has. -/
def Glyph.rank : Glyph → Nat
  | .char c => c.toNat
  | .byte b => 0xDC00 + b.toNat

theorem Glyph.rank_injective {a b : Glyph} (h : a.rank = b.rank) : a = b := by
  have surrogate (c : Char) (k : UInt8) : c.toNat ≠ 0xDC00 + k.toNat := by
    have hc := c.valid
    have hk := k.toNat_lt
    simp only [UInt32.isValidChar, Nat.isValidChar] at hc
    show c.val.toNat ≠ _
    omega
  cases a with
  | char c =>
    cases b with
    | char d => exact congrArg Glyph.char (Char.toNat_inj.mp h)
    | byte k => exact absurd h (surrogate c k)
  | byte k =>
    cases b with
    | char c => exact absurd h.symm (surrogate c k)
    | byte l =>
      have : k.toNat = l.toNat := by simpa [Glyph.rank] using h
      exact congrArg Glyph.byte (UInt8.toNat_inj.mp this)

abbrev Text := List Glyph

namespace Text

def ofChars (cs : List Char) : Text := cs.map .char

def ofString (s : String) : Text := ofChars s.toList

instance : Coe String Text := ⟨ofString⟩

def ofNat (n : Nat) : Text := ofString (toString n)

def ofInt (n : Int) : Text := ofString (toString n)

def chars? : Text → Option (List Char)
  | [] => some []
  | .char c :: rest => (chars? rest).map (c :: ·)
  | .byte _ :: _ => none

def le (a b : Text) : Bool := lexLe (a.map Glyph.rank) (b.map Glyph.rank)

def inRuns (runs : List (Nat × Nat)) (c : Char) : Bool :=
  runs.any fun (first, last) => first ≤ c.toNat && c.toNat ≤ last

abbrev joinWith (separator : Text) (ts : List Text) : Text := List.intercalate separator ts

def trimEnd (p : Glyph → Bool) (t : Text) : Text := (t.reverse.dropWhile p).reverse

def trim (p : Glyph → Bool) (t : Text) : Text := trimEnd p (t.dropWhile p)

def cut? (needle : Text) : Text → Option (Text × Text)
  | [] => if needle = [] then some ([], []) else none
  | g :: rest =>
    if needle.isPrefixOf (g :: rest) then some ([], (g :: rest).drop needle.length)
    else (cut? needle rest).map fun (before, after) => (g :: before, after)

theorem eq_of_cut? {needle t before after : Text} (h : cut? needle t = some (before, after)) :
    t = before ++ needle ++ after := by
  induction t generalizing before after with
  | nil =>
    simp only [cut?] at h
    split at h
    · simp_all
    · cases h
  | cons g rest ih =>
    simp only [cut?] at h
    split at h
    next found =>
      obtain ⟨tail, htail⟩ := List.isPrefixOf_iff_prefix.mp found
      simp only [Option.some.injEq, Prod.mk.injEq] at h
      obtain ⟨rfl, rfl⟩ := h
      simp [← htail]
    next =>
      obtain ⟨⟨b, a⟩, hcut, heq⟩ := Option.map_eq_some_iff.mp h
      simp only [Prod.mk.injEq] at heq
      obtain ⟨rfl, rfl⟩ := heq
      simp [ih hcut]

end Text
end Lockstep
