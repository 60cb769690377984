import Lockstep.Markers
import Lockstep.Text.Utf8

/-! Lines, and what one line says on its own. A directive is a marker behind nothing but filler;
what follows it, less the filler at the end, is its remainder. Whether a directive is in place is
for the scan to judge, which reads lines in order. -/
namespace Lockstep

/-- Cuts a content into lines at a line feed, a carriage return, or both together. Each line keeps
its ending, so that the lines together are the content again. -/
def splitLines : Bytes → List Bytes
  | [] => []
  | 13 :: 10 :: rest => [13, 10] :: splitLines rest
  | b :: rest =>
    if b = 10 ∨ b = 13 then [b] :: splitLines rest
    else match splitLines rest with
      | [] => [[b]]
      | line :: lines => (b :: line) :: lines

theorem flatten_splitLines (content : Bytes) : (splitLines content).flatten = content := by
  fun_induction splitLines content <;> simp_all

def lineText (line : Bytes) : Text :=
  (Text.ofUtf8Lossy line).trimEnd fun g => g = .char '\n' || g = .char '\r'

inductive LineKind where
  | source
  | opens
  | declares (target : Text)
  | declaresList
  | closes
deriving DecidableEq

namespace Line

def isCommentLead (t : Text) : Bool := t.all Glyph.isFiller

/-- What follows `word` on a line that is a directive of this word. Only the first occurrence
counts, and a word that merely begins with the marker is no directive. -/
def remainder? (word line : Text) : Option Text :=
  match Text.cut? word line with
  | none => none
  | some (before, after) =>
    if isCommentLead before then
      match after.dropFillerEnd with
      | [] => some []
      | g :: rest => if g.isBlank then some (Text.strip (g :: rest)) else none
    else none

/-- The kind of a line. On a line with several markers the opening one wins over the declaring
one, and that over the closing one. -/
def classify (m : Markers) (line : Text) : LineKind :=
  if (remainder? m.opens line).isSome then .opens
  else match remainder? m.declares line with
    | some [] => .declaresList
    | some target => .declares target
    | none => if (remainder? m.closes line).isSome then .closes else .source

/-- Punctuation that opens a comment and may stand directly before a path. A dot, a slash, a tilde
and an underscore can begin a path and are not among it. -/
def isLeaderMark : Glyph → Bool
  | .char c => "#;%*!'\"-".toList.contains c
  | .byte _ => false

/-- Removes one comment leader: an HTML comment, a block comment, two or more slashes, or a run of
leader marks. -/
def dropLeader : Text → Text
  | .char '<' :: .char '!' :: .char '-' :: .char '-' :: rest => rest
  | .char '/' :: .char '*' :: rest => rest.dropWhile (· = .char '*')
  | .char '/' :: .char '/' :: rest => rest.dropWhile (· = .char '/')
  | t => t.dropWhile isLeaderMark

/-- The path of a line in a list of targets. Less the filler at its end, the line has to be one
word, or punctuation and one word; a line with more words is ordinary source. -/
def targetEntry? (line : Text) : Option Text :=
  let body := line.dropFillerEnd.dropWhile Glyph.isBlank
  let first := body.takeWhile fun g => !g.isBlank
  let rest := body.dropWhile fun g => !g.isBlank
  let second := rest.dropWhile Glyph.isBlank
  let path :=
    if rest = [] then first
    else if first.all Glyph.isPunct && second.all fun g => !g.isBlank then second
    else []
  match dropLeader path with
  | [] => none
  | g :: tail => some (g :: tail)

def isSeparator (line : Text) : Bool := line.dropFillerEnd.all Glyph.isBlank

end Line
end Lockstep
