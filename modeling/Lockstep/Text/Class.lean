import Lockstep.Text.Glyph

/-! The two classes of places that reading annotations depends on. Blanks follow Unicode, while
punctuation and the blanks that may close a comment are ASCII, so that a comment leader or closer
of any language is skipped and a letter of any alphabet is not. -/
namespace Lockstep

/-- Characters of Unicode's white space and the four information separators. -/
def isBlankChar (c : Char) : Bool :=
  let n := c.toNat
  (9 ≤ n && n ≤ 13) || (28 ≤ n && n ≤ 32) || n = 0x85 || n = 0xA0 || n = 0x1680
    || (0x2000 ≤ n && n ≤ 0x200A) || n = 0x2028 || n = 0x2029 || n = 0x202F || n = 0x205F
    || n = 0x3000

def isPunctChar (c : Char) : Bool :=
  let n := c.toNat
  (33 ≤ n && n ≤ 47) || (58 ≤ n && n ≤ 64) || (91 ≤ n && n ≤ 96) || (123 ≤ n && n ≤ 126)

def isAsciiBlankChar (c : Char) : Bool :=
  let n := c.toNat
  (9 ≤ n && n ≤ 13) || n = 32

namespace Glyph

def isBlank : Glyph → Bool
  | .char c => isBlankChar c
  | .byte _ => false

def isPunct : Glyph → Bool
  | .char c => isPunctChar c
  | .byte _ => false

/-- What a comment may put around a directive: ASCII punctuation and ASCII blanks. -/
def isFiller : Glyph → Bool
  | .char c => isPunctChar c || isAsciiBlankChar c
  | .byte _ => false

theorem isFiller_of_isPunct {g : Glyph} (h : g.isPunct = true) : g.isFiller = true := by
  cases g with
  | char c => simp_all [isPunct, isFiller]
  | byte b => cases h

theorem isBlank_or_isPunct_of_isFiller {g : Glyph} (h : g.isFiller = true) :
    g.isBlank = true ∨ g.isPunct = true := by
  cases g with
  | char c =>
    simp only [isFiller, isAsciiBlankChar, Bool.or_eq_true, Bool.and_eq_true,
      decide_eq_true_eq] at h
    simp only [isBlank, isPunct, isBlankChar, Bool.or_eq_true, Bool.and_eq_true, decide_eq_true_eq]
    rcases h with h | h
    · exact .inr h
    · exact .inl (by omega)
  | byte b => cases h

theorem not_isBlank_of_isPunct {g : Glyph} (h : g.isPunct = true) : g.isBlank = false := by
  cases g with
  | char c =>
    simp only [isPunct, isPunctChar, Bool.or_eq_true, Bool.and_eq_true, decide_eq_true_eq] at h
    simp only [isBlank, isBlankChar, Bool.or_eq_false_iff, Bool.and_eq_false_iff,
      decide_eq_false_iff_not]
    omega
  | byte b => rfl

end Glyph

namespace Text

abbrev strip (t : Text) : Text := t.trim Glyph.isBlank

abbrev dropFillerEnd (t : Text) : Text := t.trimEnd Glyph.isFiller

def words (t : Text) : List Text := (t.splitOnP Glyph.isBlank).filter (· ≠ [])

end Text
end Lockstep
