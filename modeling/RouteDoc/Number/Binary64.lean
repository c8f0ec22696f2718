import RouteDoc.Number.Power

/-! Floating-point numbers of 64 bits as exact values: a finite one is a sign and a whole multiple
of a power of two, so that equality, reading and printing are arithmetic on natural numbers. -/

namespace RouteDoc

/-- A number of the binary64 format. The finite number with mantissa `m` and exponent `e` is
`m · 2^(e - 1074)`; `Binary64.Canonical` says which pairs stand for one. -/
inductive Binary64 where
  | finite (negative : Bool) (mantissa exponent : Nat)
  | infinite (negative : Bool)
  | nan
  deriving DecidableEq, Repr, Inhabited

namespace Binary64

/-- The mantissa has at most 53 bits and uses all of them unless the exponent is the least one, and
the exponent is at most that of the largest finite number. -/
def Canonical : Binary64 → Prop
  | .finite _ m e => m < pow2 53 ∧ (pow2 52 ≤ m ∨ e = 0) ∧ e ≤ 2045
  | _ => True

/-- How often the least positive number goes into one. -/
def unitsPerOne : Nat := pow2 1074

def zero (negative : Bool) : Binary64 := .finite negative 0 0

def isFinite : Binary64 → Bool
  | .finite .. => true
  | _ => false

/-- The quotient rounded to the nearest whole number, a half to the even one. -/
def roundDiv (num den : Nat) : Nat :=
  let q := num / den
  let r := 2 * (num % den)
  if r < den then q
  else if r = den then q + q % 2
  else q + 1

/-- The number of binary digits; none for zero. -/
def bitLength (n : Nat) : Nat := if n = 0 then 0 else n.log2 + 1

/-- The number nearest to `num / den`, a tie going to the even mantissa; past the largest finite
number, infinity. -/
def ofRatio (negative : Bool) (num den : Nat) : Binary64 :=
  let scaled := unitsPerOne * num
  let e := bitLength (scaled / den) - 53
  let m := roundDiv scaled (den * pow2 e)
  -- Rounding up may give the mantissa one bit too many.
  let (m, e) := if m = pow2 53 then (pow2 52, e + 1) else (m, e)
  if e ≤ 2045 then .finite negative m e else .infinite negative

/-- The number nearest to `digits · 10^exponent`. Exponents far outside the range of the format are
settled by the number of digits, so the powers that are formed stay small. -/
def ofDecimal (negative : Bool) (digits : Nat) (exponent : Int) : Binary64 :=
  let magnitude := ((Nat.toDigits 10 digits).length : Int) + exponent
  if digits = 0 ∨ magnitude < -330 then zero negative
  else if 310 < magnitude then .infinite negative
  else if 0 ≤ exponent then ofRatio negative (digits * pow10 exponent.toNat) 1
  else ofRatio negative digits (pow10 (-exponent).toNat)

def ofInt (n : Int) : Binary64 := ofRatio (n < 0) n.natAbs 1

end Binary64

end RouteDoc
