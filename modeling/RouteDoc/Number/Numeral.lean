import RouteDoc.Number.Binary64
import RouteDoc.Text.Blank
import RouteDoc.Text.Digit

/-! Numbers as they are written in options and data files: signs, decimal digits of any script,
points, exponents, and low lines between digits. -/

namespace RouteDoc.Numeral

def ofDigits (digits : List Nat) : Nat := digits.foldl (fun n d => 10 * n + d) 0

def ofText (t : Text) : Nat := ofDigits (t.map fun c => c.toNat - 48)

/-- Split off a sign; a minus gives `true`. -/
def cutSign : Text → Bool × Text
  | '+' :: rest => (false, rest)
  | '-' :: rest => (true, rest)
  | t => (false, t)

/-- A whole number written with an optional sign and one or more digits: its sign and digits. -/
def integer? (t : Text) : Option (Bool × List Nat) :=
  let (negative, digits) := cutSign t
  if digits.isEmpty then none else (digits.mapM Text.digitValue?).map fun ds => (negative, ds)

def toInt (negative : Bool) (digits : List Nat) : Int :=
  if negative then -(ofDigits digits : Int) else ofDigits digits

/-- An exponent part: nothing, or a mark, an optional sign and one or more ASCII digits. -/
def exponent? : Text → Option Int
  | [] => some 0
  | mark :: rest =>
    let (negative, digits) := cutSign rest
    if (mark = 'e' ∨ mark = 'E') ∧ ¬ digits.isEmpty ∧ digits.all Char.isDigit then
      some (if negative then -(ofText digits : Int) else ofText digits)
    else none

/-- An unsigned decimal with ASCII digits, `digits · 10^exponent`: a whole part or a fraction or
both, and an optional exponent. -/
def decimal? (t : Text) : Option (Nat × Int) :=
  let whole := t.takeWhile Char.isDigit
  let rest := t.dropWhile Char.isDigit
  let (fraction, rest) :=
    match rest with
    | '.' :: rest => (rest.takeWhile Char.isDigit, rest.dropWhile Char.isDigit)
    | _ => ([], rest)
  if (whole ++ fraction).isEmpty then none
  else (exponent? rest).map fun e => (ofText (whole ++ fraction), e - fraction.length)

/-- Remove the low lines of a numeral; each must stand between two ASCII digits. -/
def dropLowLines? : (afterDigit : Bool) → Text → Option Text
  | _, [] => some []
  | afterDigit, '_' :: rest =>
    if afterDigit && (rest.head?.elim false Char.isDigit) then dropLowLines? false rest else none
  | _, c :: rest => (dropLowLines? c.isDigit rest).map (c :: ·)

/-- The ASCII form of a numeral: digits of every script as ASCII digits, the blanks beyond ASCII as
spaces, and anything else beyond ASCII as a mark that no numeral has. -/
def toAscii (t : Text) : Text :=
  t.map fun c =>
    if c.toNat < 127 then c
    else if Text.isBlank c then ' '
    else match Text.digitValue? c with
      | some d => Char.ofNat (48 + d)
      | none => '?'

/-- The blanks that may stand around a numeral in ASCII form. -/
def isPadding (c : Char) : Bool := (9 ≤ c.toNat && c.toNat ≤ 13) || c == ' '

/-- The number that a text names, without its sign. -/
def magnitude? (negative : Bool) (t : Text) : Option Binary64 :=
  let word := Text.toLowerAscii t
  if word = "inf".toList ∨ word = "infinity".toList then some (.infinite negative)
  else if word = "nan".toList then some .nan
  else (decimal? t).map fun (digits, exponent) => .ofDecimal negative digits exponent

/-- A floating-point number in a lenient form: blanks around it, low lines between digits, digits of
any script, and the words for infinity and for no number. -/
def float? (t : Text) : Option Binary64 := do
  let body ← dropLowLines? false (Text.trim isPadding (toAscii t))
  let (negative, rest) := cutSign body
  magnitude? negative rest

end RouteDoc.Numeral
