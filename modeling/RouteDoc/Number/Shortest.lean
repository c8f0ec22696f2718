import RouteDoc.Number.Binary64
import RouteDoc.Text.Basic

/-! The shortest decimal text of a binary64 number: the fewest digits that read back as the same
number, and of those the nearest to it. -/

namespace RouteDoc.Binary64

/-- A decimal numeral: the number `0.d₁d₂… · 10^point`. -/
structure Decimal where
  digits : List Char
  point : Int
  deriving DecidableEq, Repr

/-- The reals that round to a number, in units of a quarter of its last place: from `low` to `high`,
the ends among them if `closed`, around `value`, all over `den`. -/
structure Interval where
  low : Nat
  value : Nat
  high : Nat
  den : Nat
  closed : Bool

/-- The interval of the finite number with this mantissa and exponent. Below a power of two the
numbers lie twice as dense, unless the power is the least of the format. -/
def interval (m e : Nat) : Interval :=
  let low := if m = pow2 52 ∧ e ≠ 0 then 4 * m - 1 else 4 * m - 2
  let scale := pow2 e
  ⟨low * scale, 4 * m * scale, (4 * m + 2) * scale, 4 * unitsPerOne, m % 2 = 0⟩

/-- Whether `n / d` rounds to the number. -/
def Interval.holds (i : Interval) (n d : Nat) : Bool :=
  let x := i.den * n
  if i.closed then i.low * d ≤ x && x ≤ i.high * d else i.low * d < x && x < i.high * d

/-- The least power of ten above `num / den`, at or above the guess `k`. -/
def decimalPoint (num den : Nat) : (fuel : Nat) → Int → Int
  | 0, k => k
  | fuel + 1, k =>
    let above := if 0 ≤ k then num < den * pow10 k.toNat else num * pow10 (-k).toNat < den
    if above then k else decimalPoint num den fuel (k + 1)

/-- The point of the nearest neighbours on the grid of `count` digits that lies in the interval: the
number of grid steps, if there is one. -/
def Interval.gridPoint? (i : Interval) (point : Int) (count : Nat) : Option Nat :=
  let shift : Int := count - point
  let up := if 0 ≤ shift then pow10 shift.toNat else 1
  let down := if 0 ≤ shift then 1 else pow10 (-shift).toNat
  let below := i.value * up / (i.den * down)
  let above := below + 1
  let rest := i.value * up - below * (i.den * down)
  let lowHit := i.holds (below * down) up
  let highHit := i.holds (above * down) up
  -- Of two points that both read back, the nearer one counts, and in a tie the even one.
  let lowNearer := 2 * rest < i.den * down ∨ (2 * rest = i.den * down ∧ below % 2 = 0)
  if lowHit ∧ (¬ highHit ∨ lowNearer) then some below
  else if highHit then some above
  else none

/-- The first grid of at least `count` digits with a point in the interval. -/
def Interval.shortest (i : Interval) (point : Int) : (fuel count : Nat) → Nat × Nat
  | 0, count => (i.value, count)
  | fuel + 1, count =>
    match i.gridPoint? point count with
    | some n => (n, count)
    | none => i.shortest point fuel (count + 1)

/-- The shortest decimal of the finite number with this mantissa and exponent. Its digits end in no
zero. -/
def shortest (m e : Nat) : Decimal :=
  if m = 0 then ⟨['0'], 1⟩
  else
    let i := interval m e
    -- A guess from below: the binary exponent times the decimal logarithm of two.
    let guess : Int := (((bitLength m + e : Nat) : Int) - 1075) * 30103 / 100000 - 1
    let point := decimalPoint i.value i.den 4 guess
    let (n, count) := i.shortest point 17 1
    let digits := Nat.toDigits 10 n
    ⟨(digits.reverse.dropWhile (· == '0')).reverse, point + digits.length - count⟩

/-- How a decimal is laid out: which exponents are written with a plain point, and the words for the
numbers that are not finite. -/
structure Layout where
  leastPlain : Int
  greatestPlain : Int
  exponentMark : Text
  wholeExponentPoint : Bool
  infinity : Text
  nan : Text

/-- The exponent of the first digit in scientific notation, with its sign and two digits at least.
-/
def exponentText (x : Int) : Text :=
  let digits := Text.ofNat x.natAbs
  (if x < 0 then '-' else '+') :: Text.fill '0' (2 - digits.length) ++ digits

/-- A decimal in a layout. A plain whole number keeps `.0`. -/
def Decimal.render (layout : Layout) (d : Decimal) : Text :=
  let x := d.point - 1
  if layout.leastPlain ≤ x ∧ x ≤ layout.greatestPlain then
    if d.point ≤ 0 then ['0', '.'] ++ Text.fill '0' (-d.point).toNat ++ d.digits
    else
      let whole := d.point.toNat
      if d.digits.length ≤ whole then
        d.digits ++ Text.fill '0' (whole - d.digits.length) ++ ['.', '0']
      else d.digits.take whole ++ ['.'] ++ d.digits.drop whole
  else
    let tail := d.digits.drop 1
    let fraction :=
      if tail.isEmpty then (if layout.wholeExponentPoint then ['.', '0'] else []) else '.' :: tail
    d.digits.take 1 ++ fraction ++ layout.exponentMark ++ exponentText x

def render (layout : Layout) : Binary64 → Text
  | .finite negative m e => (if negative then ['-'] else []) ++ (shortest m e).render layout
  | .infinite negative => (if negative then ['-'] else []) ++ layout.infinity
  | .nan => layout.nan

end RouteDoc.Binary64
