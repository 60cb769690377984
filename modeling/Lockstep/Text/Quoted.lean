import Lockstep.Text.Unprintable

/-! Quoted texts, as error messages show the values they complain about. A quoted text is one line
of visible characters whatever the text holds, and it tells apart all texts. -/
namespace Lockstep.Text

def hexDigits (width n : Nat) : Text :=
  (List.range width).reverse.map fun place => .char (Nat.digitChar (n / Nat.pow 16 place % 16))

/-- The mark around a text: a double one only where that saves escaping the single one. -/
def quoteMark (t : Text) : Char :=
  if t.contains (.char '\'') && !t.contains (.char '"') then '"' else '\''

def quoteGlyph (mark : Char) : Glyph → Text
  | .byte b => "\\u" ++ hexDigits 4 (0xDC00 + b.toNat)
  | .char c =>
    let n := c.toNat
    if c = mark || c = '\\' then [.char '\\', .char c]
    else if c = '\n' then "\\n"
    else if c = '\r' then "\\r"
    else if c = '\t' then "\\t"
    else if !isUnprintableChar c then [.char c]
    else if n < 0x100 then "\\x" ++ hexDigits 2 n
    else if n < 0x10000 then "\\u" ++ hexDigits 4 n
    else "\\U" ++ hexDigits 8 n

def quoted (t : Text) : Text :=
  let mark := quoteMark t
  [.char mark] ++ t.flatMap (quoteGlyph mark) ++ [.char mark]

end Lockstep.Text
