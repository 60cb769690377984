import Lockstep.Text.Class
import Lockstep.Text.Quoted

/-! The three words of the annotation syntax, and what makes three words usable: each can stand on
a line as one word, and no two are the same. -/
namespace Lockstep

inductive MarkersError where
  | blankInside (word : Text)
  | repeated (opens declares closes : Text)
deriving DecidableEq

def MarkersError.message : MarkersError → Text
  | .blankInside word =>
    "marker lexeme must be non-empty and contain no whitespace: " ++ word.quoted
  | .repeated opens declares closes =>
    "marker lexemes must be distinct: ("
      ++ Text.joinWith ", " [opens.quoted, declares.quoted, closes.quoted] ++ ")"

def isMarkerWord (word : Text) : Bool := !word.isEmpty && word.all fun g => !g.isBlank

structure Markers where
  opens : Text := "if-change"
  declares : Text := "then-change"
  closes : Text := "end-change"
  usable : ∀ word ∈ [opens, declares, closes], isMarkerWord word = true := by decide
  distinct : [opens, declares, closes].Nodup := by decide
deriving DecidableEq

namespace Markers

def standard : Markers := {}

instance : Inhabited Markers := ⟨standard⟩

def words (m : Markers) : List Text := [m.opens, m.declares, m.closes]

/-- Takes three words as markers. The first word that cannot be a marker is reported before a
repetition is. -/
def ofWords (opens declares closes : Text) : Except MarkersError Markers :=
  match h : [opens, declares, closes].find? (fun word => !isMarkerWord word) with
  | some word => .error (.blankInside word)
  | none =>
    if distinct : [opens, declares, closes].Nodup then
      .ok { opens, declares, closes, distinct,
            usable := by simpa using List.find?_eq_none.mp h }
    else .error (.repeated opens declares closes)

end Markers

structure Convention where
  markers : Markers := .standard
  implicitClose : Bool := false
deriving DecidableEq, Inhabited

end Lockstep
