import Lockstep.Toml.Number
import Lockstep.Text.Glyph

/-! Quoted texts of a document. Between double quotes a backslash introduces an escape, between
single quotes every character stands for itself. Three quotes open a text that may have several
lines, of which the first is skipped if it is empty. -/
namespace Lockstep.Toml

def isControl (c : Char) : Bool := (c.toNat < 32 && c ≠ '\t') || c.toNat = 127

def isRefused (multiline : Bool) (c : Char) : Bool := isControl c && !(multiline && c = '\n')

def isSpace (c : Char) : Bool := c = ' ' || c = '\t'

def isSpaceOrNewline (c : Char) : Bool := isSpace c || c = '\n'

def shortEscapes : List (Char × Char) :=
  [('b', '\x08'), ('t', '\t'), ('n', '\n'), ('f', '\x0c'), ('r', '\r'), ('"', '"'), ('\\', '\\')]

namespace Reader

/-- A character given by its number. The numbers of surrogates stand for none. -/
def hexCharacter (count : Nat) : Reader Char := do
  let digits ← (List.range count).mapM fun _ => satisfying isHexDigit
  let n := numeralValue 16 digits
  check (n.isValidChar)
  return Char.ofNat n

/-- A break of a line that is not part of the text. Blanks and empty lines behind it are skipped. -/
def lineContinuation : Reader Unit := do
  let _ ← run isSpace
  let _ ← satisfying (· = '\n')
  let _ ← run isSpaceOrNewline
  return ()

def escape (multiline : Bool) : Reader (List Char) :=
  (do
    let c ← satisfying fun c => (shortEscapes.lookup c).isSome
    return (shortEscapes.lookup c).toList)
  <|> (do literal ['u']; return [← hexCharacter 4])
  <|> (do literal ['U']; return [← hexCharacter 8])
  <|> (do check multiline; lineContinuation; return [])

/-- Behind three quotes that close a text, up to two more belong to it. -/
def closingQuotes (quote : Char) : Reader (List Char) := do
  let one ← optional (satisfying (· = quote))
  if one = none then return []
  let two ← optional (satisfying (· = quote))
  return if two = none then [quote] else [quote, quote]

def basicRest (multiline : Bool) : Reader (List Char)
  | [] => .error .malformed
  | '"' :: rest =>
    if !multiline then .ok ⟨[], rest, Nat.le_succ _⟩
    else if ['"', '"'].isPrefixOf rest then
      (closingQuotes '"' (rest.drop 2)).within 
        (Nat.le_trans (List.drop_sublist 2 rest).length_le (Nat.le_succ _))
    else ((basicRest multiline rest).map ('"' :: ·)).within (Nat.le_succ _)
  | '\\' :: rest =>
    ((escape multiline rest).andThen fun escaped after shorter =>
      ((basicRest multiline after).map (escaped ++ ·)).within shorter).within (Nat.le_succ _)
  | c :: rest =>
    if isRefused multiline c then .error .malformed
    else ((basicRest multiline rest).map (c :: ·)).within (Nat.le_succ _)
termination_by input => input.length

def literalRest (multiline : Bool) : Reader (List Char)
  | [] => .error .malformed
  | '\'' :: rest =>
    if !multiline then .ok ⟨[], rest, Nat.le_succ _⟩
    else if ['\'', '\''].isPrefixOf rest then
      (closingQuotes '\'' (rest.drop 2)).within 
        (Nat.le_trans (List.drop_sublist 2 rest).length_le (Nat.le_succ _))
    else ((literalRest multiline rest).map ('\'' :: ·)).within (Nat.le_succ _)
  | c :: rest =>
    if isRefused multiline c then .error .malformed
    else ((literalRest multiline rest).map (c :: ·)).within (Nat.le_succ _)

def quotedLine : Reader Text :=
  (do literal ['"']; return .ofChars (← basicRest false))
    <|> (do literal ['\'']; return .ofChars (← literalRest false))

def quotedLines : Reader Text :=
  (do
    literal ['"', '"', '"']
    let _ ← optional (satisfying (· = '\n'))
    return .ofChars (← basicRest true))
  <|> do
    literal ['\'', '\'', '\'']
    let _ ← optional (satisfying (· = '\n'))
    return .ofChars (← literalRest true)

end Reader
end Lockstep.Toml
