import RouteDoc.Data.Basic
import RouteDoc.Text.Hex
import RouteDoc.Yaml.Fault
import RouteDoc.Yaml.Scalar

/-! The values of scalars: what their texts denote to the safe constructor of PyYAML, and when two
of them are the same key. -/

namespace RouteDoc.Yaml

inductive Atom where
  | null
  | bool (value : Bool)
  | int (value : Int)
  | float (value : Binary64)
  | text (value : Text)
  | bytes (value : List UInt8)
  /-- A date, by the number of its day. -/
  | date (day : Nat)
  /-- A moment in microseconds; of the standard time if it is zoned. -/
  | moment (zoned : Bool) (microseconds : Int)
  deriving DecidableEq, Repr, Inhabited

namespace Atom

/-! ### Numbers -/

def ofDigits? (base : Nat) (digits : Text) : Option Nat :=
  digits.foldlM (fun n c => do
    let d ← Text.hexDigit? c
    if d < base then some (base * n + d) else none) 0

/-- The letter that may stand behind a zero in front of the digits of a base. -/
def baseLetter? : Nat → Option Char
  | 2 => some 'b'
  | 8 => some 'o'
  | 16 => some 'x'
  | _ => none

/-- A text without the zero and the letter that name its base. -/
def dropBase (base : Nat) (t : Text) : Text :=
  match t with
  | '0' :: c :: rest => if some c.toLower = baseLetter? base then rest else t
  | _ => t

/-- A whole number in a base, with blanks around it and a sign before it. In base ten the number of
its digits is limited. -/
def integer (base : Nat) (t : Text) : Except Fault Int :=
  let (negative, body) := Numeral.cutSign (Text.trim Numeral.isPadding (Numeral.toAscii t))
  let digits := dropBase base body
  if base = 10 ∧ Failure.digitLimit < digits.length ∧ digits.all Char.isDigit then
    .error (.oversized digits.length)
  else if digits.isEmpty then .error (.notInteger base t)
  else
    match ofDigits? base digits with
    | some n => .ok (if negative then -n else n)
    | none => .error (.notInteger base t)

def dropLines (t : Text) : Text := t.filter (· != '_')

/-- The whole number that a scalar writes: in base 2, 8 or 16 behind a mark of the base, in base 60
with colons between its parts, and in base ten otherwise. -/
def ofInt (t : Text) : Except Fault Int := do
  let (negative, body) := Numeral.cutSign (dropLines t)
  let value ← match body with
    | [] => .error .emptyNumber
    | ['0'] => .ok 0
    | '0' :: 'b' :: rest => integer 2 rest
    | '0' :: 'x' :: rest => integer 16 rest
    | '0' :: _ => integer 8 body
    | _ =>
      if body.contains ':' then do
        let parts ← (Text.splitOn ':' body).mapM (integer 10)
        pure (parts.foldl (fun n part => 60 * n + part) 0)
      else integer 10 body
  return if negative then -value else value

def opposite : Binary64 → Binary64
  | .finite negative m e => .finite (!negative) m e
  | .infinite negative => .infinite (!negative)
  | .nan => .nan

/-- The number that the parts of a number of base sixty make; a part that is not finite makes the
whole such. -/
def ofSixtieths (parts : List Binary64) : Binary64 :=
  let units : Int := parts.foldl (fun n part =>
    match part with
    | .finite negative m e => 60 * n + (if negative then -1 else 1) * (m * pow2 e : Nat)
    | _ => 60 * n) 0
  match parts.find? (!·.isFinite) with
  | some part => part
  | none => .ofRatio (units < 0) units.natAbs Binary64.unitsPerOne

/-- A floating-point number in the lenient form of numerals. -/
def number (t : Text) : Except Fault Binary64 :=
  match Numeral.float? t with
  | some x => .ok x
  | none => .error (.notFloat t)

def ofFloat (t : Text) : Except Fault Binary64 := do
  let lower := Text.toLowerAscii (dropLines t)
  if lower.isEmpty then .error .emptyNumber
  else
    let (negative, body) := Numeral.cutSign lower
    let value ←
      if body = ".inf".toList then pure (Binary64.infinite false)
      else if body = ".nan".toList then pure .nan
      else if body.contains ':' then
        (ofSixtieths ·) <$> (Text.splitOn ':' body).mapM number
      else number body
    return if negative then opposite value else value

/-! ### Dates -/

/-- Refuse a date that the calendar does not have. -/
def checkDate (year month day : Nat) : Except Fault Unit :=
  if year = 0 then .error (.year year)
  else
    match if month = 0 then none else (Timestamp.monthLengths year)[month - 1]? with
    | none => .error .month
    | some length => if day = 0 ∨ length < day then .error .day else .ok ()

/-- Refuse a time that no day has. -/
def checkTime (time : TimeOfDay) : Except Fault Unit :=
  if 23 < time.hour then .error .hour
  else if 59 < time.minute then .error .minute
  else if 59 < time.second then .error .second
  else .ok ()

/-- Refuse a zone that is a day or more from the standard time. -/
def checkZone : Option Int → Except Fault Unit
  | some zone => if 1440 ≤ zone.natAbs then .error (.zone zone) else .ok ()
  | none => .ok ()

def ofTimestamp (t : Text) : Except Fault Atom :=
  match Timestamp.ofText? t with
  | none => .error .notTimestamp
  | some ⟨year, month, day, _, none⟩ => do
    checkDate year month day
    return .date (Timestamp.dayNumber year month day)
  | some ⟨year, month, day, _, some time⟩ => do
    checkZone time.zone
    checkDate year month day
    checkTime time
    let minutes : Int := 60 * (24 * Timestamp.dayNumber year month day + time.hour) + time.minute
    let seconds := 60 * (minutes - time.zone.getD 0) + time.second
    return .moment time.zone.isSome (1000000 * seconds + time.microsecond)

/-! ### Bytes -/

def base64Digit? (c : Char) : Option Nat :=
  if c.isUpper then some (c.toNat - 65)
  else if c.isLower then some (c.toNat - 71)
  else if c.isDigit then some (c.toNat + 4)
  else if c = '+' then some 62
  else if c = '/' then some 63
  else none

/-- The bytes of digits of base sixty-four: `count` digits of a group of four have been read, whose
bits that make no byte yet are `bits`, and `pads` signs of padding behind them. Other characters
count nothing, and nothing behind the padding does. -/
def ofBase64? (count bits pads : Nat) : Text → Option (List UInt8)
  | [] => if count = 0 then some [] else none
  | c :: rest =>
    if c = '=' then
      if 2 ≤ count ∧ 4 ≤ count + pads + 1 then some []
      else ofBase64? count bits (if 2 ≤ count then pads + 1 else pads) rest
    else
      match base64Digit? c with
      | none => ofBase64? count bits pads rest
      | some d =>
        if count = 0 then ofBase64? 1 d 0 rest
        else if count = 1 then
          (ofBase64? 2 (d % 16) 0 rest).map (UInt8.ofNat (4 * bits + d / 16) :: ·)
        else if count = 2 then
          (ofBase64? 3 (d % 4) 0 rest).map (UInt8.ofNat (16 * bits + d / 4) :: ·)
        else (ofBase64? 0 0 0 rest).map (UInt8.ofNat (64 * bits + d) :: ·)

def ofBinary (t : Text) : Except Fault Atom :=
  match if t.all fun c => c.toNat < 128 then ofBase64? 0 0 0 t else none with
  | some found => .ok (.bytes found)
  | none => .error .malformed

/-! ### All kinds -/

/-- The truth value that a word stands for, in any case. -/
def ofTruth (t : Text) : Except Fault Bool :=
  let lower := Text.toLowerAscii t
  if ScalarKind.trueWords.contains lower then .ok true
  else if ScalarKind.falseWords.contains lower then .ok false
  else .error (.notTruth lower)

/-- The value of a scalar of a kind. The signs of a merge and of a value are none. -/
def ofScalar (kind : ScalarKind) (t : Text) : Except Fault Atom :=
  match kind with
  | .text => .ok (.text t)
  | .null => .ok .null
  | .bool => (ofTruth t).map .bool
  | .int => (ofInt t).map .int
  | .float => (ofFloat t).map .float
  | .timestamp => ofTimestamp t
  | .merge | .value => .error .malformed

/-- The number that a value counts as among keys, in units of the least positive one. -/
def units? : Atom → Option Int
  | .bool value => some (if value then (Binary64.unitsPerOne : Int) else 0)
  | .int value => some (value * (Binary64.unitsPerOne : Int))
  | .float (.finite negative m e) => some ((if negative then -1 else 1) * (m * pow2 e : Nat))
  | _ => none

/-- Whether two values are the same key: numbers of all types are compared by what they are. -/
def isSame (a b : Atom) : Bool :=
  match units? a, units? b with
  | some m, some n => m == n
  | _, _ => a == b

def toData : Atom → Data
  | .null => .null
  | .bool value => .bool value
  | .int value => .int value
  | .float value => .float value
  | .text value => .text value
  | .bytes value => .bytes value
  | .date _ => .date
  | .moment .. => .datetime

end Atom

end RouteDoc.Yaml
