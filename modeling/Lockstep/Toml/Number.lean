import Lockstep.Toml.Reader
import Lockstep.Value

/-! Numbers and truth values of a document. -/
namespace Lockstep.Toml

def isDecimalDigit (c : Char) : Bool := '0' ≤ c && c ≤ '9'

def isHexDigit (c : Char) : Bool :=
  isDecimalDigit c || ('a' ≤ c && c ≤ 'f') || ('A' ≤ c && c ≤ 'F')

def digitValue (c : Char) : Nat :=
  if isDecimalDigit c then c.toNat - '0'.toNat
  else if 'a' ≤ c then c.toNat - 'a'.toNat + 10
  else c.toNat - 'A'.toNat + 10

def numeralValue (base : Nat) (digits : List Char) : Nat :=
  digits.foldl (fun n c => base * n + digitValue c) 0

namespace Reader

/-- Digits that follow a digit; a single underscore may stand in front of each. -/
def moreDigits (p : Char → Bool) : Reader (List Char)
  | '_' :: c :: rest =>
    if p c then ((moreDigits p rest).map (c :: ·)).within
      (Nat.le_trans (Nat.le_succ _) (Nat.le_succ _))
    else .ok ⟨[], '_' :: c :: rest, Nat.le_refl _⟩
  | c :: rest =>
    if p c then ((moreDigits p rest).map (c :: ·)).within (Nat.le_add_right _ 1)
    else .ok ⟨[], c :: rest, Nat.le_refl _⟩
  | [] => .ok ⟨[], [], Nat.le_refl _⟩

def digits (p : Char → Bool) : Reader (List Char) := do
  let first ← satisfying p
  return first :: (← moreDigits p)

def sign : Reader Bool := do
  let mark ← optional (satisfying fun c => c = '+' || c = '-')
  return mark = some '-'

def basedInteger (mark : String) (base : Nat) (p : Char → Bool) : Reader Value := do
  literal mark.toList
  return .integer (numeralValue base (← digits p))

/-- Digits before a decimal point: a zero stands alone. -/
def wholeDigits : Reader (List Char) :=
  (do let zero ← satisfying (· = '0'); return [zero])
    <|> digits isDecimalDigit

def fraction : Reader (List Char) := do
  literal ['.']
  digits isDecimalDigit

def exponent : Reader Int := do
  let _ ← satisfying fun c => c = 'e' || c = 'E'
  let negative ← sign
  let magnitude : Int := numeralValue 10 (← digits isDecimalDigit)
  return if negative then -magnitude else magnitude

def decimalInteger (negative : Bool) (whole : List Char) : Reader Value :=
  if maxShownDigits < whole.length then fail .integerTooLong
  else
    let magnitude : Int := numeralValue 10 whole
    pure (.integer (if negative then -magnitude else magnitude))

/-- A decimal numeral. With a fraction or an exponent it is a floating point number. -/
def decimalNumber : Reader Value := do
  let negative ← sign
  let whole ← wholeDigits
  let places ← optional fraction
  let power ← optional exponent
  if places = none ∧ power = none then decimalInteger negative whole
  else
    let after := places.getD []
    return .float (.ofDecimal negative (numeralValue 10 (whole ++ after))
      (power.getD 0 - after.length))

def number : Reader Value :=
  basedInteger "0x" 16 isHexDigit
    <|> basedInteger "0b" 2 (fun c => c = '0' || c = '1')
    <|> basedInteger "0o" 8 (fun c => '0' ≤ c && c ≤ '7')
    <|> decimalNumber

def specialNumber : Reader Value := do
  let negative ← sign
  (do literal "inf".toList; return .float (.infinite negative))
    <|> (do literal "nan".toList; return .float .nan)

def truthValue : Reader Value :=
  (do literal "true".toList; return .bool true)
    <|> (do literal "false".toList; return .bool false)

end Reader
end Lockstep.Toml
