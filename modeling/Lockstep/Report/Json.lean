import Lockstep.Text.Quoted

/-! JSON documents as reports write them: in ASCII, one entry on a line, and each level indented by
two spaces. -/
namespace Lockstep

inductive Json where
  | null
  | number (n : Int)
  | text (t : Text)
  | list (items : List Json)
  | object (fields : List (Text × Json))
deriving Inhabited

namespace Json

def escapedUnit (n : Nat) : Text := "\\u" ++ Text.hexDigits 4 n

/-- A place inside a string. What lies outside of ASCII's visible characters is written as its
UTF-16 units, and a stray byte as the unit it sorts as. -/
def escapedGlyph : Glyph → Text
  | .byte b => escapedUnit (0xDC00 + b.toNat)
  | .char c =>
    let n := c.toNat
    if c = '"' || c = '\\' then [.char '\\', .char c]
    else if c = '\n' then "\\n"
    else if c = '\r' then "\\r"
    else if c = '\t' then "\\t"
    else if n = 8 then "\\b"
    else if n = 12 then "\\f"
    else if 32 ≤ n && n ≤ 126 then [.char c]
    else if n < 0x10000 then escapedUnit n
    else escapedUnit (0xD800 + (n - 0x10000) / 1024) ++ escapedUnit (0xDC00 + (n - 0x10000) % 1024)

def string (t : Text) : Text := "\"" ++ t.flatMap escapedGlyph ++ "\""

def newline (level : Nat) : Text := .char '\n' :: List.replicate (2 * level) (.char ' ')

def bracketed (level : Nat) (opening closing : Text) (entries : List Text) : Text :=
  if entries.isEmpty then opening ++ closing
  else
    opening ++ newline (level + 1) ++ Text.joinWith ("," ++ newline (level + 1)) entries
      ++ newline level ++ closing

mutual

def render (level : Nat) : Json → Text
  | .null => "null"
  | .number n => Text.ofInt n
  | .text t => string t
  | .list items => bracketed level "[" "]" (renderItems (level + 1) items)
  | .object fields => bracketed level "\x7b" "\x7d" (renderFields (level + 1) fields)

def renderItems (level : Nat) : List Json → List Text
  | [] => []
  | item :: rest => render level item :: renderItems level rest

def renderFields (level : Nat) : List (Text × Json) → List Text
  | [] => []
  | (name, value) :: rest => (string name ++ ": " ++ render level value) :: renderFields level rest

end

def ofOption {α : Type} (f : α → Json) : Option α → Json
  | none => .null
  | some x => f x

end Json
end Lockstep
