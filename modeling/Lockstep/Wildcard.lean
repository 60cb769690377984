import Lockstep.Text.Glyph

/-! Wildcard patterns over whole paths. A star stands for any places, a question mark for any one,
slashes and line feeds among them, and a bracket for one place of a class. -/
namespace Lockstep

inductive ClassMember where
  | single (g : Glyph)
  | range (low high : Glyph)
deriving DecidableEq

namespace ClassMember

def holds (g : Glyph) : ClassMember → Bool
  | .single h => g = h
  | .range low high => low.rank ≤ g.rank && g.rank ≤ high.rank

def isForward : ClassMember → Bool
  | .single _ => true
  | .range low high => low.rank ≤ high.rank

/-- The members that a text spells, from left to right: three places with a hyphen in the middle
are a range, and any other place stands for itself. -/
def spelled : Text → List ClassMember
  | low :: .char '-' :: high :: rest => .range low high :: spelled rest
  | g :: rest => .single g :: spelled rest
  | [] => []

end ClassMember

structure GlyphClass where
  inverted : Bool
  members : List ClassMember
deriving DecidableEq

namespace GlyphClass

def holds (k : GlyphClass) (g : Glyph) : Bool := k.members.any (·.holds g) != k.inverted

/-- The class between two brackets. An exclamation mark in front inverts it, also one that comes to
stand in front because the ranges before it run backwards. If such a mark began a range, the hyphen
and the other end remain as members. -/
def ofSpelling : Text → GlyphClass
  | .char '!' :: rest =>
    { inverted := true, members := (ClassMember.spelled rest).filter (·.isForward) }
  | t =>
    match (ClassMember.spelled t).filter (·.isForward) with
    | .single (.char '!') :: rest => { inverted := true, members := rest }
    | .range (.char '!') high :: rest =>
      { inverted := true, members := .single (.char '-') :: .single high :: rest }
    | members => { inverted := false, members }

end GlyphClass

namespace Wildcard

inductive Token where
  | star
  | any
  | exactly (g : Glyph)
  | oneOf (k : GlyphClass)
deriving DecidableEq

/-- Splits what follows an opening bracket into the spelling of the class and what stands behind
its closing bracket. A closing bracket in first place, or behind a first exclamation mark, is a
member. -/
def bracket? (t : Text) : Option (Text × Text) :=
  let (front, t) : Text × Text :=
    match t with
    | .char '!' :: .char ']' :: rest => ([.char '!', .char ']'], rest)
    | .char '!' :: rest => ([.char '!'], rest)
    | .char ']' :: rest => ([.char ']'], rest)
    | t => ([], t)
  match t.dropWhile (· ≠ .char ']') with
  | [] => none
  | _ :: rest => some (front ++ t.takeWhile (· ≠ .char ']'), rest)

theorem length_bracket? {t spelling rest : Text} (h : bracket? t = some (spelling, rest)) :
    rest.length < t.length := by
  have shorter (t : Text) : (t.dropWhile (· ≠ Glyph.char ']')).length ≤ t.length :=
    (List.dropWhile_sublist _).length_le
  unfold bracket? at h
  split at h
  next front t' heq =>
    have bound : t'.length ≤ t.length := by grind
    have := shorter t'
    split at h
    · cases h
    next hdrop =>
      simp only [Option.some.injEq, Prod.mk.injEq] at h
      obtain ⟨_, rfl⟩ := h
      rw [hdrop] at this
      simp only [List.length_cons] at this
      omega

def tokens : Text → List Token
  | [] => []
  | .char '*' :: rest => .star :: tokens rest
  | .char '?' :: rest => .any :: tokens rest
  | .char '[' :: rest =>
    match h : bracket? rest with
    | none => .exactly (.char '[') :: tokens rest
    | some (spelling, behind) =>
      have := length_bracket? h
      .oneOf (GlyphClass.ofSpelling spelling) :: tokens behind
  | g :: rest => .exactly g :: tokens rest
termination_by t => t.length
decreasing_by all_goals simp only [List.length_cons] at *; omega

def Token.takes : Token → Glyph → Bool
  | .star, _ => false
  | .any, _ => true
  | .exactly g, h => g = h
  | .oneOf k, h => k.holds h

def markLonger : List Bool → List Bool
  | [] => []
  | mark :: rest => (mark || rest.any id) :: markLonger rest

/-- From the end parts that the later tokens match, the end parts that match with one token more
in front. Both lists have one mark more than the text has places. -/
def extend (t : Text) (token : Token) (marks : List Bool) : List Bool :=
  match token with
  | .star => markLonger marks
  | token => (t.zip (marks.drop 1)).map (fun (g, mark) => token.takes g && mark) ++ [false]

/-- Whether tokens match a whole text. The end parts that match are computed for all tokens from
the last to the first, so that stars cost no more than other tokens. -/
def accepts (pattern : List Token) (t : Text) : Bool :=
  let nothingLeft := List.replicate t.length false ++ [true]
  (pattern.foldr (extend t) nothingLeft).headD false

end Wildcard

def wildcardMatch (pattern t : Text) : Bool := Wildcard.accepts (Wildcard.tokens pattern) t

end Lockstep
