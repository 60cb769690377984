import Lockstep.Number.Shortest
import Lockstep.Text.Quoted

/-! Values of a settings document before anybody has asked what they mean, and how a complaint
about one shows it. -/
namespace Lockstep

structure Date where
  year : Nat
  month : Nat
  day : Nat
deriving DecidableEq

structure TimeOfDay where
  hour : Nat
  minute : Nat
  second : Nat := 0
  microsecond : Nat := 0
deriving DecidableEq

inductive Value where
  | absent
  | bool (b : Bool)
  | integer (n : Int)
  | float (x : Binary64)
  | text (t : Text)
  | date (d : Date)
  | time (t : TimeOfDay)
  /-- A date and a time, with the seconds by which its clock is ahead of universal time. -/
  | moment (d : Date) (t : TimeOfDay) (ahead : Option Int)
  | list (items : List Value)
  | table (entries : List (Text × Value))
deriving Inhabited

def Value.isAbsent : Value → Bool
  | .absent => true
  | _ => false

def Value.ofOption {α : Type} (f : α → Value) : Option α → Value
  | none => .absent
  | some x => f x

abbrev Table := List (Text × Value)

def Table.get? (t : Table) (key : Text) : Option Value := t.lookup key

def Value.asTable : Value → Table
  | .table entries => entries
  | _ => []

def maxShownDigits : Nat := 4300

namespace Value

def dateFields (d : Date) : List Text := [.ofNat d.year, .ofNat d.month, .ofNat d.day]

/-- Seconds are left out if nothing but zeros follows, and microseconds if they are zero. -/
def timeFields (t : TimeOfDay) : List Text :=
  [.ofNat t.hour, .ofNat t.minute]
    ++ (if t.second = 0 ∧ t.microsecond = 0 then [] else [.ofNat t.second])
    ++ (if t.microsecond = 0 then [] else [.ofNat t.microsecond])

/-- A clock behind universal time is shown as a day back and the seconds from there. -/
def zoneText (ahead : Int) : Text :=
  if ahead = 0 then "datetime.timezone.utc"
  else
    let days : Text := if ahead < 0 then "days=-1, " else []
    "datetime.timezone(datetime.timedelta(" ++ days ++ "seconds=" ++ Text.ofInt (ahead % 86400)
      ++ "))"

mutual

def shown : Value → Text
  | .absent => "None"
  | .bool b => if b then "True" else "False"
  | .integer n => Text.ofInt n
  | .float x => x.text
  | .text t => t.quoted
  | .date d => "datetime.date(" ++ Text.joinWith ", " (dateFields d) ++ ")"
  | .time t => "datetime.time(" ++ Text.joinWith ", " (timeFields t) ++ ")"
  | .moment d t ahead =>
    let zone := match ahead with
      | none => []
      | some ahead => ["tzinfo=" ++ zoneText ahead]
    "datetime.datetime(" ++ Text.joinWith ", " (dateFields d ++ timeFields t ++ zone) ++ ")"
  | .list items => "[" ++ Text.joinWith ", " (shownItems items) ++ "]"
  | .table entries => "\x7b" ++ Text.joinWith ", " (shownEntries entries) ++ "\x7d"

def shownItems : List Value → List Text
  | [] => []
  | item :: rest => shown item :: shownItems rest

def shownEntries : List (Text × Value) → List Text
  | [] => []
  | (key, value) :: rest => (key.quoted ++ ": " ++ shown value) :: shownEntries rest

end

inductive Hindrance where
  | integerTooLong
  | tooDeep
deriving DecidableEq

mutual

/-- The first hindrance on the way through a value, where what is inside a list or a table takes one
of the calls that there is `room` for. -/
def hindrance? (room : Nat) : Value → Option Hindrance
  | .integer n => if n.natAbs < Nat.pow 10 maxShownDigits then none else some .integerTooLong
  | .list items => hindranceOfItems? room items
  | .table entries => hindranceOfEntries? room entries
  | _ => none

def hindranceOfItems? (room : Nat) : List Value → Option Hindrance
  | [] => none
  | item :: rest =>
    match room with
    | 0 => some .tooDeep
    | left + 1 => (hindrance? left item).or (hindranceOfItems? (left + 1) rest)

def hindranceOfEntries? (room : Nat) : List (Text × Value) → Option Hindrance
  | [] => none
  | (_, value) :: rest =>
    match room with
    | 0 => some .tooDeep
    | left + 1 => (hindrance? left value).or (hindranceOfEntries? (left + 1) rest)

end

end Value
end Lockstep
