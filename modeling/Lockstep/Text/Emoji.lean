import Lockstep.Text.Class
import Lockstep.Text.Emoji.Countries
import Lockstep.Text.Emoji.People
import Lockstep.Text.Emoji.Pictures

/-! Pictures that are written by name. A code is a name between two colons, as in `:warning:`, and
stands for the picture; a code without a picture stands for itself. -/
namespace Lockstep.Emoji

inductive SkinTone where
  | light
  | mediumLight
  | medium
  | mediumDark
  | dark

namespace SkinTone

def all : List SkinTone := [.light, .mediumLight, .medium, .mediumDark, .dark]

def suffix : SkinTone → String
  | .light => "_light_skin_tone"
  | .mediumLight => "_medium-light_skin_tone"
  | .medium => "_medium_skin_tone"
  | .mediumDark => "_medium-dark_skin_tone"
  | .dark => "_dark_skin_tone"

def modifier : SkinTone → Char
  | .light => Char.ofNat 0x1F3FB
  | .mediumLight => Char.ofNat 0x1F3FC
  | .medium => Char.ofNat 0x1F3FD
  | .mediumDark => Char.ofNat 0x1F3FE
  | .dark => Char.ofNat 0x1F3FF

end SkinTone

inductive Style where
  | colour
  | letter

namespace Style

def all : List Style := [.colour, .letter]

def suffix : Style → String
  | .colour => "-emoji"
  | .letter => "-text"

def selector : Style → Char
  | .colour => Char.ofNat 0xFE0F
  | .letter => Char.ofNat 0xFE0E

end Style

def before? (suffix : String) (cs : List Char) : Option (List Char) :=
  let end_ := suffix.toList
  if end_.isSuffixOf cs then some (cs.take (cs.length - end_.length)) else none

/-- A picture of people in a skin tone. The tone takes the place of a selector in second place. -/
def withTone (tone : SkinTone) : List Char → List Char
  | [] => []
  | first :: rest =>
    first :: tone.modifier
      :: (if rest.head? = some Style.colour.selector then rest.tail else rest)

def flag (letters : String) : List Char :=
  letters.toList.map fun c => Char.ofNat (0x1F1E6 + (c.toNat - 'A'.toNat))

def pictureOf? (name : List Char) : Option (List Char) :=
  let name := String.ofList name
  (pictures.find? fun (_, names) => names.contains name).map fun (picture, _) => picture.toList

def personOf? (name : List Char) : Option (List Char) :=
  let name := String.ofList name
  (people.find? fun (_, person) => person = name).map fun (picture, _) => picture.toList

def personInTone? (name : List Char) : Option (List Char) :=
  SkinTone.all.findSome? fun tone =>
    ((before? tone.suffix name).bind personOf?).map (withTone tone)

def flagOf? (name : List Char) : Option (List Char) :=
  let lead := "flag_for_".toList
  let name := String.ofList (if lead.isPrefixOf name then name.drop lead.length else name)
  (countries.find? fun (_, country) => country = name).map fun (letters, _) => flag letters

def ofName? (name : List Char) : Option (List Char) :=
  pictureOf? name <|> personOf? name <|> flagOf? name <|> personInTone? name

/-- The small form of a letter, as far as names have such letters: those of ASCII and Latin-1, and
the signs of kelvin and ångström. -/
def smallLetter (c : Char) : Char :=
  let n := c.toNat
  if (0x41 ≤ n && n ≤ 0x5A) || (0xC0 ≤ n && n ≤ 0xDE && n ≠ 0xD7) then Char.ofNat (n + 0x20)
  else if n = 0x212A then 'k'
  else if n = 0x212B then 'å'
  else c

def nameAndSelector (body : List Char) : List Char × List Char :=
  let styled := Style.all.findSome? fun style =>
    (before? style.suffix body).map fun name => (name, [style.selector])
  styled.getD (body, [])

def ofCode? (body : Text) : Option Text := do
  let (name, selector) := nameAndSelector (← body.chars?)
  let picture ← ofName? (name.map smallLetter)
  return Text.ofChars (picture ++ selector)

def colon : Glyph := .char ':'

def shown (body : Text) : Text := (ofCode? body).getD (colon :: body ++ [colon])

/-- Reads a text to its end. `opened` holds what follows a colon that may begin a code, the last
place first. A blank puts an end to such a code. -/
def readOn : Option Text → Text → Text
  | none, [] => []
  | some body, [] => colon :: body.reverse
  | none, g :: rest => if g = colon then readOn (some []) rest else g :: readOn none rest
  | some body, g :: rest =>
    if g = colon then shown body.reverse ++ readOn none rest
    else if g.isBlank then colon :: body.reverse ++ g :: readOn none rest
    else readOn (some (g :: body)) rest

def replaceCodes (t : Text) : Text := readOn none t

end Lockstep.Emoji
