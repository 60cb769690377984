import Lockstep.Text.Emoji
import Lockstep.Text.Width

/-! Plain text on a console. Codes of pictures are replaced, control characters that would move the
cursor are dropped, tabs are filled up to the next stop, and a small table can be drawn with lines
around it. -/
namespace Lockstep.Console

/-- Bell, backspace, vertical tab, form feed and carriage return. -/
def isDropped : Glyph → Bool
  | .char c => [7, 8, 11, 12, 13].contains c.toNat
  | .byte _ => false

def tabWidth : Nat := 8

def expandTabs (column : Nat) : Text → Text
  | [] => []
  | .char '\n' :: rest => .char '\n' :: expandTabs 0 rest
  | .char '\t' :: rest =>
    let width := tabWidth - column % tabWidth
    List.replicate width (.char ' ') ++ expandTabs (column + width) rest
  | g :: rest => g :: expandTabs (column + g.columns) rest

def shown (t : Text) : Text :=
  expandTabs 0 ((Emoji.replaceCodes t).filter fun g => !isDropped g)

def line (t : Text) : Text := shown t ++ "\n"

def lines (ts : List Text) : Text := ts.flatMap line

def spaces (n : Nat) : Text := List.replicate n (.char ' ')

def rule (n : Nat) : Text := List.replicate n (.char '─')

def widest (ts : List Text) : Nat := ts.foldl (fun width t => max width t.length) 0

/-- Lines that show labels and values side by side under a title. Labels stand to the left, values
to the right, and the title in the middle, half a place to the left where it cannot be. -/
def table (title : Text) (rows : List (Text × Text)) : List Text :=
  let labels := widest (rows.map Prod.fst)
  let values := widest (rows.map Prod.snd)
  let width := labels + values + 7
  let excess := width - title.length
  let frame (left middle right : Text) : Text :=
    left ++ rule (labels + 2) ++ middle ++ rule (values + 2) ++ right
  [spaces (excess / 2) ++ title ++ spaces (excess - excess / 2), frame "┌" "┬" "┐"]
    ++ rows.map (fun (label, value) =>
      "│ " ++ label ++ spaces (labels - label.length) ++ " │ "
        ++ spaces (values - value.length) ++ value ++ " │")
    ++ [frame "└" "┴" "┘"]

end Lockstep.Console
