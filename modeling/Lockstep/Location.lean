import Lockstep.Path

/-! Locations in a file system as they are written down. Empty names and lone dots say nothing and
are left out, while a climb stays, because what it leaves may be a link. -/
namespace Lockstep

/-- Where a location starts. Exactly two slashes in front are told apart from any other number. -/
inductive Anchor where
  | here
  | root
  | secondRoot
deriving DecidableEq

namespace Anchor

def ofText (t : Text) : Anchor :=
  match (t.takeWhile (· = Path.slash)).length with
  | 0 => .here
  | 2 => .secondRoot
  | _ => .root

def text : Anchor → Text
  | .here => []
  | .root => [Path.slash]
  | .secondRoot => [Path.slash, Path.slash]

end Anchor

structure Location where
  anchor : Anchor
  names : List Text
deriving DecidableEq

namespace Location

def ofText (t : Text) : Location := { anchor := .ofText t, names := Path.components t }

def text (l : Location) : Text :=
  if l.anchor = .here ∧ l.names = [] then Path.here
  else l.anchor.text ++ Text.joinWith [Path.slash] l.names

def join (base l : Location) : Location :=
  if l.anchor = .here then { base with names := base.names ++ l.names } else l

end Location
end Lockstep
