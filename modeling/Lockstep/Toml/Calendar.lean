import Lockstep.Toml.Number

/-! Dates and times of a document. -/
namespace Lockstep

def isLeapYear (year : Nat) : Bool := year % 4 = 0 && (year % 100 ≠ 0 || year % 400 = 0)

def daysOfMonth (year month : Nat) : Nat :=
  if month = 2 then if isLeapYear year then 29 else 28
  else if [4, 6, 9, 11].contains month then 30
  else 31

def Date.isValid (d : Date) : Bool :=
  1 ≤ d.year && 1 ≤ d.month && d.month ≤ 12 && 1 ≤ d.day && d.day ≤ daysOfMonth d.year d.month

namespace Toml.Reader

def fixedNumber (count : Nat) : Reader Nat :=
  match count with
  | 0 => pure 0
  | count + 1 => do
    let first ← satisfying isDecimalDigit
    return digitValue first * Nat.pow 10 count + (← fixedNumber count)

def date : Reader Date := do
  let year ← fixedNumber 4
  literal ['-']
  let month ← fixedNumber 2
  literal ['-']
  let day ← fixedNumber 2
  check (Date.isValid { year, month, day })
  return { year, month, day }

/-- The fraction of a second. What lies below a microsecond is dropped. -/
def microseconds : Reader Nat := do
  literal ['.']
  let first ← satisfying isDecimalDigit
  let places := (first :: (← run isDecimalDigit)).take 6
  return numeralValue 10 places * Nat.pow 10 (6 - places.length)

def hourAndMinute : Reader (Nat × Nat) := do
  let hour ← fixedNumber 2
  literal [':']
  let minute ← fixedNumber 2
  check (hour < 24 && minute < 60)
  return (hour, minute)

def timeOfDay : Reader TimeOfDay := do
  let (hour, minute) ← hourAndMinute
  literal [':']
  let second ← fixedNumber 2
  check (second < 60)
  let micro ← optional microseconds
  return { hour, minute, second, microsecond := micro.getD 0 }

def clockOffset : Reader Int :=
  (do let _ ← satisfying (fun c => c = 'Z' || c = 'z'); return 0)
    <|> do
      let mark ← satisfying fun c => c = '+' || c = '-'
      let (hour, minute) ← hourAndMinute
      let ahead : Int := hour * 3600 + minute * 60
      return if mark = '-' then -ahead else ahead

def clock : Reader (TimeOfDay × Option Int) := do
  let _ ← satisfying fun c => c = 'T' || c = 't' || c = ' '
  let time ← timeOfDay
  return (time, ← optional clockOffset)

def moment : Reader Value :=
  (do
    let d ← date
    match ← optional clock with
    | none => return .date d
    | some (time, ahead) => return .moment d time ahead)
  <|> return .time (← timeOfDay)

end Toml.Reader
end Lockstep
