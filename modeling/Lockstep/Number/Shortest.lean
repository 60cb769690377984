import Lockstep.Number.Binary64
import Lockstep.Text.Glyph

/-! The shortest decimal numeral of a floating point number: the fewest digits that are read back
as the same number, and of those the nearest to it. -/
namespace Lockstep.Binary64

/-- A positive fraction, with the bounds between which numerals are read back as it. All three are
numerators over one denominator. -/
structure Neighbourhood where
  value : Nat
  low : Nat
  high : Nat
  denominator : Nat
  /-- Whether the bounds themselves are read back as the number. -/
  closed : Bool

/-- The numbers next to a number lie one unit of its last place away, but below a power of two only
half a unit. The bounds lie halfway to them, and belong to the even of the two. -/
def neighbourhood (significand : Nat) (exponent : Int) : Neighbourhood :=
  let below := if significand = Nat.pow 2 52 && minExponent < exponent then 1 else 2
  let scale := if 2 ≤ exponent then Nat.pow 2 (exponent - 2).natAbs else 1
  { value := 4 * significand * scale
    low := (4 * significand - below) * scale
    high := (4 * significand + 2) * scale
    denominator := if 2 ≤ exponent then 1 else Nat.pow 2 (2 - exponent).natAbs
    closed := significand % 2 = 0 }

structure Numeral where
  digits : Nat
  power : Int
deriving DecidableEq

def shifted (numerator denominator : Nat) (power : Int) : Nat × Nat :=
  if power < 0 then (numerator * Nat.pow 10 power.natAbs, denominator)
  else (numerator, denominator * Nat.pow 10 power.natAbs)

def Neighbourhood.holds (n : Neighbourhood) (m : Numeral) : Bool :=
  let (scaled, unit) : Nat × Nat :=
    if m.power < 0 then (m.digits * n.denominator, Nat.pow 10 m.power.natAbs)
    else (m.digits * Nat.pow 10 m.power.natAbs * n.denominator, 1)
  if n.closed then n.low * unit ≤ scaled && scaled ≤ n.high * unit
  else n.low * unit < scaled && scaled < n.high * unit

def Neighbourhood.places (n : Neighbourhood) : Int :=
  let guess : Int :=
    ((Nat.toDigits 10 n.value).length : Int) - (Nat.toDigits 10 n.denominator).length
  let (numerator, denominator) := shifted n.value n.denominator guess
  if numerator < denominator then guess else guess + 1

def Neighbourhood.candidates (n : Neighbourhood) (count : Nat) : List Numeral :=
  let power := n.places - count
  let (numerator, denominator) := shifted n.value n.denominator power
  let below := numerator / denominator
  let nearer := roundedQuotient numerator denominator
  [⟨nearer, power⟩, ⟨if nearer = below then below + 1 else below, power⟩]

/-- Seventeen digits always suffice. -/
def Neighbourhood.shortest (n : Neighbourhood) : Numeral :=
  let all := (List.range 17).flatMap fun count => n.candidates (count + 1)
  (all.find? n.holds).getD ⟨0, 0⟩

def Numeral.reduced (m : Numeral) : Nat → Numeral
  | 0 => m
  | count + 1 =>
    if m.digits ≠ 0 && m.digits % 10 = 0 then reduced ⟨m.digits / 10, m.power + 1⟩ count else m

/-- Writes digits with the decimal point behind `places` of them. A point always stands in the
numeral, and a digit on both sides of it. Numerals that would need more than sixteen places before
it, or four zeros behind it, are written with an exponent of at least two digits. -/
def writeNumeral (digits : List Char) (places : Int) : List Char :=
  if -4 < places ∧ places ≤ 16 then
    if places ≤ 0 then "0.".toList ++ List.replicate places.natAbs '0' ++ digits
    else
      let whole := digits.take places.natAbs
      let fraction := digits.drop places.natAbs
      whole ++ List.replicate (places.natAbs - digits.length) '0' ++ ['.']
        ++ if fraction = [] then ['0'] else fraction
  else
    let exponent := places - 1
    let magnitude := Nat.toDigits 10 exponent.natAbs
    digits.take 1 ++ (if digits.length ≤ 1 then [] else '.' :: digits.drop 1)
      ++ ['e', if exponent < 0 then '-' else '+']
      ++ (if magnitude.length < 2 then '0' :: magnitude else magnitude)

def text (x : Binary64) : Text :=
  let sign (negative : Bool) : Text := if negative then "-" else []
  match x with
  | .nan => "nan"
  | .infinite negative => sign negative ++ "inf"
  | .finite negative 0 _ => sign negative ++ "0.0"
  | .finite negative significand exponent =>
    let numeral := (neighbourhood significand exponent).shortest.reduced 20
    let digits := Nat.toDigits 10 numeral.digits
    sign negative ++ Text.ofChars (writeNumeral digits (digits.length + numeral.power))

end Lockstep.Binary64
