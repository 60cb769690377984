/-! Numbers in binary floating point with 53 significant bits. Settings files may hold such a number
where none belongs, and the complaint has to show it. A finite one is an exact integer times a
power of two, and a decimal numeral is read as the nearest one. -/
namespace Lockstep

inductive Binary64 where
  /-- The number `significand * 2 ^ exponent`, or its negative. -/
  | finite (negative : Bool) (significand : Nat) (exponent : Int)
  | infinite (negative : Bool)
  | nan
deriving DecidableEq, Inhabited

namespace Binary64

def roundedQuotient (numerator denominator : Nat) : Nat :=
  let quotient := numerator / denominator
  let rest := numerator % denominator
  if 2 * rest < denominator then quotient
  else if denominator < 2 * rest then quotient + 1
  else quotient + quotient % 2

def minExponent : Int := -1074

def maxExponent : Int := 971

def bitLength (n : Nat) : Nat := if n = 0 then 0 else n.log2 + 1

/-- The nearest number to a positive fraction with significand below `2 ^ 53` and the exponent as
small as that allows. The lengths of the two parts give the exponent, or one less. -/
def nearest (negative : Bool) (numerator denominator : Nat) : Binary64 :=
  let atExponent (e : Int) : Nat :=
    if e < 0 then roundedQuotient (numerator * Nat.pow 2 e.natAbs) denominator
    else roundedQuotient numerator (denominator * Nat.pow 2 e.natAbs)
  let low : Int := max minExponent ((bitLength numerator : Int) - bitLength denominator - 53)
  let e := if atExponent low < Nat.pow 2 53 then low else low + 1
  let significand := atExponent e
  if significand < Nat.pow 2 53 then
    if e ≤ maxExponent then .finite negative significand e else .infinite negative
  else if e + 1 ≤ maxExponent then .finite negative (significand / 2) (e + 1)
  else .infinite negative

/-- The nearest number to `digits * 10 ^ power`. Numerals beyond every number on either side are
settled by their length alone. -/
def ofDecimal (negative : Bool) (digits : Nat) (power : Int) : Binary64 :=
  let length : Int := (Nat.toDigits 10 digits).length
  if digits = 0 || length + power < -330 then .finite negative 0 minExponent
  else if 310 < length + power then .infinite negative
  else if power < 0 then nearest negative digits (Nat.pow 10 power.natAbs)
  else nearest negative (digits * Nat.pow 10 power.natAbs) 1

end Binary64
end Lockstep
